import StateMovementFabric.Foundation.LittleEndian

namespace StateMovementFabric
namespace Foundation

/-!
# Self-delimiting encodings

A concatenation of fields can be taken apart again when each field shows where it ends.
An encoding is self-delimiting when two encoded values that begin the same string are the
same value, whatever follows either of them.  Fields of one width are, and so is a field
that is preceded by a self-delimiting count of its symbols.
-/

section SelfDelimiting

variable {Value Symbol : Type}

/-- Encoded values of the domain that begin the same string are equal, and so is what
follows them. -/
def SelfDelimiting (domain : Value -> Prop) (encode : Value -> List Symbol) : Prop :=
  forall first second, domain first -> domain second -> forall rest other,
    encode first ++ rest = encode second ++ other -> first = second ∧ rest = other

variable {domain : Value -> Prop} {encode : Value -> List Symbol}

/-- Fields of one width. -/
theorem SelfDelimiting.of_width {width : Nat}
    (wide : forall value, domain value -> (encode value).length = width)
    (injective : forall first second, domain first -> domain second ->
      encode first = encode second -> first = second) : SelfDelimiting domain encode := by
  intro first second firstIn secondIn rest other same
  have lengths : (encode first).length = (encode second).length := by
    rw [wide first firstIn, wide second secondIn]
  rcases List.append_inj same lengths with ⟨fields, rests⟩
  exact ⟨injective first second firstIn secondIn fields, rests⟩

/-- Strings behind a self-delimiting count of their symbols. -/
theorem SelfDelimiting.counted {countable : Nat -> Prop} {count : Nat -> List Symbol}
    (counts : SelfDelimiting countable count) :
    SelfDelimiting (fun value : List Symbol => countable value.length)
      (fun value => count value.length ++ value) := by
  intro first second firstIn secondIn rest other same
  simp only [List.append_assoc] at same
  rcases counts _ _ firstIn secondIn _ _ same with ⟨lengths, bodies⟩
  exact List.append_inj bodies lengths

/-- A value that is determined by what is encoded of it. -/
theorem SelfDelimiting.comap {Whole : Type} (codes : SelfDelimiting domain encode)
    (part : Whole -> Value) {whole : Whole -> Prop}
    (inside : forall value, whole value -> domain (part value))
    (determined : forall first second, whole first -> whole second ->
      part first = part second -> first = second) :
    SelfDelimiting whole (fun value => encode (part value)) := by
  intro first second firstIn secondIn rest other same
  rcases codes _ _ (inside first firstIn) (inside second secondIn) _ _ same with ⟨parts, rests⟩
  exact ⟨determined first second firstIn secondIn parts, rests⟩

/-- Little-endian numbers that fit their field. -/
theorem selfDelimiting_storeLe (width : Nat) :
    SelfDelimiting (fun value => value < 256 ^ width) (fun value => storeLe value width) := by
  refine .of_width (fun value _ => storeLe_length value width) ?_
  intro first second firstFits secondFits same
  rw [← loadLe_storeLe_of_lt firstFits, same, loadLe_storeLe_of_lt secondFits]

end SelfDelimiting

end Foundation
end StateMovementFabric
