import StateMovementFabric.Endpoint.Staging

namespace StateMovementFabric

open StateObjectDescriptor

/-!
# Where a file stands

Offsets are 64 bits wide, but `FileHandle::seek` hands them to `std::fseek` as a `long`.  On
the platforms where a `long` has 32 bits the upper half of the offset is lost.  A remainder
that is negative as a `long` is refused; any other is a position of the file, though not the
one that was asked for.
-/

namespace FileHandle

end FileHandle

variable {offset : UInt64} {fails : Bool} {handle placed : FileHandle}

section Chunks

variable {object : StateObjectDescriptor} {index : UInt32}

end Chunks

end StateMovementFabric
