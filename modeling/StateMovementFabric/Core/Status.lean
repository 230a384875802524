import StateMovementFabric.Core.Bytes

namespace StateMovementFabric

/-!
# Outcome vocabulary

Every decision of the runtime is a reason code and an explanation.  The codes
are numbered in the order of the source's list, and the numbers are part of the
durable format.  The C++ enumeration is a `std::uint16_t`: a stored record may
carry a number that no enumerator names, and the store reads it back unchanged,
so those values are kept apart under `unnamed`.
-/

inductive ReasonCode where
  | OK | INTERNAL_ERROR | NOT_IMPLEMENTED | UNSUPPORTED | INVALID_ARGUMENT | INVALID_ID
  | INVALID_GENERATION | INVALID_DIGEST | INVALID_UTF8 | INVALID_STATE_KIND | INVALID_SIZE
  | INVALID_POLICY | INVALID_ADDRESS | INVALID_STATE_TRANSITION | NOT_FOUND | OBJECT_NOT_FOUND
  | OBJECT_VERSION_NOT_FOUND | MOVEMENT_NOT_FOUND | ENDPOINT_NOT_FOUND | ATTEMPT_NOT_FOUND
  | NOT_AUTHORIZED | AUTHORITY_EXPIRED | AUTHORITY_CONSUMED | AUTHORITY_MISMATCH
  | AUTHORITY_REVOKED | AUTHORITY_STALE | STALE_GENERATION | STALE_STATE_GENERATION
  | STALE_MOVEMENT_GENERATION | STALE_POLICY_GENERATION | STALE_TOPOLOGY_GENERATION
  | STALE_COMPATIBILITY_GENERATION | STALE_INCARNATION | STALE_EPOCH | STALE_ATTEMPT
  | STALE_SESSION | STALE_REPLAY | ENDPOINT_NOT_LIVE | ENDPOINT_LIVENESS_UNKNOWN
  | ENDPOINT_CONTRACT_MISMATCH | COORDINATOR_INCARNATION_MISMATCH | REVALIDATION_REQUIRED
  | COMPATIBILITY_EVIDENCE_MISSING | COMPATIBILITY_UNKNOWN | COMPATIBILITY_UNSUPPORTED
  | COMPATIBILITY_MISMATCH | COMPATIBILITY_STALE_EVIDENCE | ILLEGAL_TRANSITION
  | ALREADY_TERMINAL | MOVEMENT_NOT_CANCELLABLE | MOVEMENT_NOT_RECONCILABLE
  | MOVEMENT_SUPERSEDED | MOVEMENT_CANCELLED | MOVEMENT_FAILED | OUTCOME_UNKNOWN
  | COMMIT_ALREADY_EXISTS | COMMIT_MARKER_INVALID | COMMIT_REFUSED | VERIFY_FAILED
  | INTEGRITY_CHECK_FAILED | CHUNK_OUT_OF_ORDER | CHUNK_CONFLICT | CHUNK_INDEX_OUT_OF_RANGE
  | CHUNK_TOO_LARGE | CHUNK_DIGEST_MISMATCH | CONTENT_DIGEST_MISMATCH | TRANSFER_INCOMPLETE
  | BYTE_COUNT_MISMATCH | RESUME_INCOMPATIBLE | RESUME_NOT_ALLOWED | DUPLICATE_ATTEMPT
  | ATTEMPT_EXHAUSTED | RETRY_NOT_REPEATABLE | SOURCE_REJECTED | DESTINATION_REJECTED
  | PROTOCOL_VERSION_MISMATCH | PROTOCOL_MAGIC_MISMATCH | PROTOCOL_RESERVED_NONZERO
  | PROTOCOL_FLAGS_INVALID | PROTOCOL_UNKNOWN_MESSAGE | PROTOCOL_PAYLOAD_TOO_LARGE
  | PROTOCOL_TRUNCATED | PROTOCOL_TRAILING_GARBAGE | PROTOCOL_AUTH_FAILED
  | PROTOCOL_SEQUENCE_REPLAY | PROTOCOL_SEQUENCE_REGRESSION | PROTOCOL_STATE_VIOLATION
  | PROTOCOL_CANONICAL_VIOLATION | PROTOCOL_MALFORMED | PROTOCOL_HANDSHAKE_REQUIRED
  | PROTOCOL_HANDSHAKE_FAILED | PROTOCOL_BOUNDS_EXCEEDED | STORE_IO_ERROR | STORE_CORRUPT
  | STORE_VERSION_UNSUPPORTED | STORE_TRUNCATED | STORE_OVERSIZED | STORE_RECORD_INVALID
  | STORE_CHECKSUM_MISMATCH | STORE_PARTIAL_TAIL | STORE_LOCKED | STORE_RECOVERY_REQUIRED
  | IO_ERROR | IO_TIMEOUT | CONNECTION_CLOSED | CONNECTION_REFUSED | CONNECTION_RESET
  | ADDRESS_INVALID | BIND_FAILED | LISTEN_FAILED | CONNECT_FAILED | NETWORK_UNAVAILABLE
  | SHUTTING_DOWN | RESOURCE_EXHAUSTED | QUEUE_FULL | TOO_MANY_SESSIONS | TOO_MANY_MOVEMENTS
  | HISTORY_LIMIT_REACHED | ALLOCATION_LIMIT_EXCEEDED | BUSY | DEADLINE_EXCEEDED
  | CANCELLED_BY_OPERATOR | CLEANUP_FAILED | CLEANUP_SKIPPED | QUARANTINED | POLICY_VIOLATION
  | SIZE_OVERFLOW | DUPLICATE_IDENTITY | SELF_MOVEMENT | NO_EVIDENCE
  | unnamed (offset : Fin 65406)
  deriving DecidableEq, Repr

namespace ReasonCode

/-- The enumerators that have a name, in the order of their numbers. -/
def named : List ReasonCode := [
  .OK, .INTERNAL_ERROR, .NOT_IMPLEMENTED, .UNSUPPORTED, .INVALID_ARGUMENT, .INVALID_ID,
  .INVALID_GENERATION, .INVALID_DIGEST, .INVALID_UTF8, .INVALID_STATE_KIND, .INVALID_SIZE,
  .INVALID_POLICY, .INVALID_ADDRESS, .INVALID_STATE_TRANSITION, .NOT_FOUND, .OBJECT_NOT_FOUND,
  .OBJECT_VERSION_NOT_FOUND, .MOVEMENT_NOT_FOUND, .ENDPOINT_NOT_FOUND, .ATTEMPT_NOT_FOUND,
  .NOT_AUTHORIZED, .AUTHORITY_EXPIRED, .AUTHORITY_CONSUMED, .AUTHORITY_MISMATCH,
  .AUTHORITY_REVOKED, .AUTHORITY_STALE, .STALE_GENERATION, .STALE_STATE_GENERATION,
  .STALE_MOVEMENT_GENERATION, .STALE_POLICY_GENERATION, .STALE_TOPOLOGY_GENERATION,
  .STALE_COMPATIBILITY_GENERATION, .STALE_INCARNATION, .STALE_EPOCH, .STALE_ATTEMPT,
  .STALE_SESSION, .STALE_REPLAY, .ENDPOINT_NOT_LIVE, .ENDPOINT_LIVENESS_UNKNOWN,
  .ENDPOINT_CONTRACT_MISMATCH, .COORDINATOR_INCARNATION_MISMATCH, .REVALIDATION_REQUIRED,
  .COMPATIBILITY_EVIDENCE_MISSING, .COMPATIBILITY_UNKNOWN, .COMPATIBILITY_UNSUPPORTED,
  .COMPATIBILITY_MISMATCH, .COMPATIBILITY_STALE_EVIDENCE, .ILLEGAL_TRANSITION,
  .ALREADY_TERMINAL, .MOVEMENT_NOT_CANCELLABLE, .MOVEMENT_NOT_RECONCILABLE,
  .MOVEMENT_SUPERSEDED, .MOVEMENT_CANCELLED, .MOVEMENT_FAILED, .OUTCOME_UNKNOWN,
  .COMMIT_ALREADY_EXISTS, .COMMIT_MARKER_INVALID, .COMMIT_REFUSED, .VERIFY_FAILED,
  .INTEGRITY_CHECK_FAILED, .CHUNK_OUT_OF_ORDER, .CHUNK_CONFLICT, .CHUNK_INDEX_OUT_OF_RANGE,
  .CHUNK_TOO_LARGE, .CHUNK_DIGEST_MISMATCH, .CONTENT_DIGEST_MISMATCH, .TRANSFER_INCOMPLETE,
  .BYTE_COUNT_MISMATCH, .RESUME_INCOMPATIBLE, .RESUME_NOT_ALLOWED, .DUPLICATE_ATTEMPT,
  .ATTEMPT_EXHAUSTED, .RETRY_NOT_REPEATABLE, .SOURCE_REJECTED, .DESTINATION_REJECTED,
  .PROTOCOL_VERSION_MISMATCH, .PROTOCOL_MAGIC_MISMATCH, .PROTOCOL_RESERVED_NONZERO,
  .PROTOCOL_FLAGS_INVALID, .PROTOCOL_UNKNOWN_MESSAGE, .PROTOCOL_PAYLOAD_TOO_LARGE,
  .PROTOCOL_TRUNCATED, .PROTOCOL_TRAILING_GARBAGE, .PROTOCOL_AUTH_FAILED,
  .PROTOCOL_SEQUENCE_REPLAY, .PROTOCOL_SEQUENCE_REGRESSION, .PROTOCOL_STATE_VIOLATION,
  .PROTOCOL_CANONICAL_VIOLATION, .PROTOCOL_MALFORMED, .PROTOCOL_HANDSHAKE_REQUIRED,
  .PROTOCOL_HANDSHAKE_FAILED, .PROTOCOL_BOUNDS_EXCEEDED, .STORE_IO_ERROR, .STORE_CORRUPT,
  .STORE_VERSION_UNSUPPORTED, .STORE_TRUNCATED, .STORE_OVERSIZED, .STORE_RECORD_INVALID,
  .STORE_CHECKSUM_MISMATCH, .STORE_PARTIAL_TAIL, .STORE_LOCKED, .STORE_RECOVERY_REQUIRED,
  .IO_ERROR, .IO_TIMEOUT, .CONNECTION_CLOSED, .CONNECTION_REFUSED, .CONNECTION_RESET,
  .ADDRESS_INVALID, .BIND_FAILED, .LISTEN_FAILED, .CONNECT_FAILED, .NETWORK_UNAVAILABLE,
  .SHUTTING_DOWN, .RESOURCE_EXHAUSTED, .QUEUE_FULL, .TOO_MANY_SESSIONS, .TOO_MANY_MOVEMENTS,
  .HISTORY_LIMIT_REACHED, .ALLOCATION_LIMIT_EXCEEDED, .BUSY, .DEADLINE_EXCEEDED,
  .CANCELLED_BY_OPERATOR, .CLEANUP_FAILED, .CLEANUP_SKIPPED, .QUARANTINED, .POLICY_VIOLATION,
  .SIZE_OVERFLOW, .DUPLICATE_IDENTITY, .SELF_MOVEMENT, .NO_EVIDENCE]

/-- The number of a code in the durable format. -/
def toNat : ReasonCode -> Nat
  | unnamed offset => 130 + offset.val
  | code => code.ctorIdx

/-- The code with a given number, for every number of the underlying type. -/
def ofUInt16 (value : UInt16) : ReasonCode :=
  if above : 130 ≤ value.toNat then
    unnamed ⟨value.toNat - 130, by have := value.toNat_lt; omega⟩
  else
    named.getD value.toNat .OK

/-- The texts of the named codes, in the order of their numbers. -/
def names : List String := [
  "OK", "INTERNAL_ERROR", "NOT_IMPLEMENTED", "UNSUPPORTED", "INVALID_ARGUMENT", "INVALID_ID",
  "INVALID_GENERATION", "INVALID_DIGEST", "INVALID_UTF8", "INVALID_STATE_KIND", "INVALID_SIZE",
  "INVALID_POLICY", "INVALID_ADDRESS", "INVALID_STATE_TRANSITION", "NOT_FOUND", "OBJECT_NOT_FOUND",
  "OBJECT_VERSION_NOT_FOUND", "MOVEMENT_NOT_FOUND", "ENDPOINT_NOT_FOUND", "ATTEMPT_NOT_FOUND",
  "NOT_AUTHORIZED", "AUTHORITY_EXPIRED", "AUTHORITY_CONSUMED", "AUTHORITY_MISMATCH",
  "AUTHORITY_REVOKED", "AUTHORITY_STALE", "STALE_GENERATION", "STALE_STATE_GENERATION",
  "STALE_MOVEMENT_GENERATION", "STALE_POLICY_GENERATION", "STALE_TOPOLOGY_GENERATION",
  "STALE_COMPATIBILITY_GENERATION", "STALE_INCARNATION", "STALE_EPOCH", "STALE_ATTEMPT",
  "STALE_SESSION", "STALE_REPLAY", "ENDPOINT_NOT_LIVE", "ENDPOINT_LIVENESS_UNKNOWN",
  "ENDPOINT_CONTRACT_MISMATCH", "COORDINATOR_INCARNATION_MISMATCH", "REVALIDATION_REQUIRED",
  "COMPATIBILITY_EVIDENCE_MISSING", "COMPATIBILITY_UNKNOWN", "COMPATIBILITY_UNSUPPORTED",
  "COMPATIBILITY_MISMATCH", "COMPATIBILITY_STALE_EVIDENCE", "ILLEGAL_TRANSITION",
  "ALREADY_TERMINAL", "MOVEMENT_NOT_CANCELLABLE", "MOVEMENT_NOT_RECONCILABLE",
  "MOVEMENT_SUPERSEDED", "MOVEMENT_CANCELLED", "MOVEMENT_FAILED", "OUTCOME_UNKNOWN",
  "COMMIT_ALREADY_EXISTS", "COMMIT_MARKER_INVALID", "COMMIT_REFUSED", "VERIFY_FAILED",
  "INTEGRITY_CHECK_FAILED", "CHUNK_OUT_OF_ORDER", "CHUNK_CONFLICT", "CHUNK_INDEX_OUT_OF_RANGE",
  "CHUNK_TOO_LARGE", "CHUNK_DIGEST_MISMATCH", "CONTENT_DIGEST_MISMATCH", "TRANSFER_INCOMPLETE",
  "BYTE_COUNT_MISMATCH", "RESUME_INCOMPATIBLE", "RESUME_NOT_ALLOWED", "DUPLICATE_ATTEMPT",
  "ATTEMPT_EXHAUSTED", "RETRY_NOT_REPEATABLE", "SOURCE_REJECTED", "DESTINATION_REJECTED",
  "PROTOCOL_VERSION_MISMATCH", "PROTOCOL_MAGIC_MISMATCH", "PROTOCOL_RESERVED_NONZERO",
  "PROTOCOL_FLAGS_INVALID", "PROTOCOL_UNKNOWN_MESSAGE", "PROTOCOL_PAYLOAD_TOO_LARGE",
  "PROTOCOL_TRUNCATED", "PROTOCOL_TRAILING_GARBAGE", "PROTOCOL_AUTH_FAILED",
  "PROTOCOL_SEQUENCE_REPLAY", "PROTOCOL_SEQUENCE_REGRESSION", "PROTOCOL_STATE_VIOLATION",
  "PROTOCOL_CANONICAL_VIOLATION", "PROTOCOL_MALFORMED", "PROTOCOL_HANDSHAKE_REQUIRED",
  "PROTOCOL_HANDSHAKE_FAILED", "PROTOCOL_BOUNDS_EXCEEDED", "STORE_IO_ERROR", "STORE_CORRUPT",
  "STORE_VERSION_UNSUPPORTED", "STORE_TRUNCATED", "STORE_OVERSIZED", "STORE_RECORD_INVALID",
  "STORE_CHECKSUM_MISMATCH", "STORE_PARTIAL_TAIL", "STORE_LOCKED", "STORE_RECOVERY_REQUIRED",
  "IO_ERROR", "IO_TIMEOUT", "CONNECTION_CLOSED", "CONNECTION_REFUSED", "CONNECTION_RESET",
  "ADDRESS_INVALID", "BIND_FAILED", "LISTEN_FAILED", "CONNECT_FAILED", "NETWORK_UNAVAILABLE",
  "SHUTTING_DOWN", "RESOURCE_EXHAUSTED", "QUEUE_FULL", "TOO_MANY_SESSIONS", "TOO_MANY_MOVEMENTS",
  "HISTORY_LIMIT_REACHED", "ALLOCATION_LIMIT_EXCEEDED", "BUSY", "DEADLINE_EXCEEDED",
  "CANCELLED_BY_OPERATOR", "CLEANUP_FAILED", "CLEANUP_SKIPPED", "QUARANTINED", "POLICY_VIOLATION",
  "SIZE_OVERFLOW", "DUPLICATE_IDENTITY", "SELF_MOVEMENT", "NO_EVIDENCE"]

/-- `to_string`. -/
def name (code : ReasonCode) : String := names.getD code.toNat "UNRECOGNIZED_REASON_CODE"

end ReasonCode

/-- A failed `Status`.  A successful one is the `ok` side of `Result`. -/
structure Status where
  code : ReasonCode
  message : Text
  deriving DecidableEq, Repr

/-- `Result<T>`, and for `T = Unit` a `Status` that may be a success. -/
abbrev Result (α : Type) := Except Status α

/-- `Status(code, "...")`. -/
def Status.of (code : ReasonCode) (message : String) : Status := ⟨code, ascii message⟩

/-- `Status::to_string`. -/
def Status.toText (status : Status) : Text :=
  if status.message.isEmpty then ascii status.code.name
  else ascii status.code.name ++ ascii ": " ++ status.message

/-- Refuse with a code and a literal message. -/
def refuse {α : Type} (code : ReasonCode) (message : String) : Result α :=
  .error (.of code message)

/-- The C++ idiom `if (bad) return Status(code, "...");`. -/
def refuseWhen (bad : Bool) (code : ReasonCode) (message : String) : Result Unit :=
  if bad then refuse code message else .ok ()

@[simp] theorem refuseWhen_eq_ok (bad : Bool) (code : ReasonCode) (message : String) :
    refuseWhen bad code message = .ok () ↔ bad = false := by
  cases bad <;> simp [refuseWhen, refuse]

@[simp] theorem refuseWhen_false (code : ReasonCode) (message : String) :
    refuseWhen false code message = .ok () := rfl

/-- A check that passed leaves the rest of the function. -/
@[simp] theorem ok_bind {α β : Type} (value : α) (next : α -> Result β) :
    ((Except.ok value : Result α) >>= next) = next value := rfl

/-- What a function returns after a check is returned only if the check passed. -/
theorem bind_eq_ok {α β : Type} {first : Result α} {next : α -> Result β} {result : β} :
    (first >>= next) = .ok result ↔ exists value, first = .ok value ∧ next value = .ok result := by
  cases first with
  | error status =>
      constructor
      · intro impossible
        cases impossible
      · rintro ⟨value, impossible, _⟩
        cases impossible
  | ok value => simp

/-- A check that is followed by more. -/
theorem check_bind_eq_ok {α : Type} {check : Result Unit} {next : Unit -> Result α} {result : α} :
    (check >>= next) = .ok result ↔ check = .ok () ∧ next () = .ok result := by
  rw [bind_eq_ok]
  constructor
  · rintro ⟨⟨⟩, checked, rest⟩
    exact ⟨checked, rest⟩
  · rintro ⟨checked, rest⟩
    exact ⟨(), checked, rest⟩

theorem refuseWhen_bind_eq_ok {α : Type} {bad : Bool} {code : ReasonCode} {message : String}
    {next : Unit -> Result α} {result : α} :
    (refuseWhen bad code message >>= next) = .ok result ↔ bad = false ∧ next () = .ok result := by
  rw [check_bind_eq_ok, refuseWhen_eq_ok]

theorem map_eq_ok {α β : Type} {result : Result α} {change : α -> β} {value : β} :
    result.map change = .ok value ↔ exists found, result = .ok found ∧ change found = value := by
  cases result with
  | error status => simp [Except.map]
  | ok found => simp [Except.map]

theorem toOption_eq_some {α : Type} {result : Result α} {value : α} :
    result.toOption = some value ↔ result = .ok value := by
  cases result with
  | error status => simp [Except.toOption]
  | ok other => simp [Except.toOption]

/-- `result.ok()`. -/
def succeeded {α : Type} : Result α -> Bool
  | .ok _ => true
  | .error _ => false

/-- The value of a result, or a default when it failed. -/
def valueOr {α : Type} (default : α) : Result α -> α
  | .ok value => value
  | .error _ => default

theorem eq_ok_valueOr {α : Type} {result : Result α} (default : α)
    (success : succeeded result = true) : result = .ok (valueOr default result) := by
  cases result with
  | error status => cases success
  | ok value => rfl

end StateMovementFabric
