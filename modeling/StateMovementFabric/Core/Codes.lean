import StateMovementFabric.Core.Codec

namespace StateMovementFabric

open Foundation

/-!
# Decoders with one encoding per value

A decoder that reads back what was written may still accept other byte strings for the
same value.  `Codes` says that it does not: what it accepts is the encoding of the value
it returns.  The rules follow the sequence of fields, so a message is settled field by
field, in both directions at once.
-/

/-- Among the values that `on` selects, `decode` reads exactly the encodings of those that
fit: it reads each of them back, and whatever it accepts is one of them. -/
structure Codes {α : Type} (limits : DecodeLimits) (on : α -> Prop) (decode : Decode α)
    (encode : α -> Bytes) (fit : α -> Prop) : Prop where
  reads : forall value, on value -> fit value -> Reads limits decode (encode value) value
  takes : forall input value after, decode.run ⟨input, limits, false⟩ = .ok (value, after) ->
    on value ∧ fit value ∧ exists rest, input = encode value ++ rest ∧ after = ⟨rest, limits, false⟩

/-- Limits under which the bounds of the single fields are what decides. -/
structure Roomy (limits : DecodeLimits) : Prop where
  texts : kMaxObjectNameBytes ≤ limits.maxTextBytes
  blobs : kMaxChunkBytes ≤ limits.maxBlobBytes

/-- Every value. -/
abbrev Any {α : Type} : α -> Prop := fun _ => True

variable {after before : CanonicalDecoder}

theorem run_bind_eq_ok {α β : Type} {first : Decode α} {next : α -> Decode β} {result : β} :
    (first >>= next).run before = .ok (result, after) ↔ exists value between,
      first.run before = .ok (value, between) ∧ (next value).run between = .ok (result, after) := by
  rw [StateT.run_bind, bind_eq_ok]
  constructor
  · rintro ⟨⟨value, between⟩, ran, rest⟩
    exact ⟨value, between, ran, rest⟩
  · rintro ⟨value, between, ran, rest⟩
    exact ⟨(value, between), ran, rest⟩

theorem run_check_eq_ok {α : Type} {result : Result α} {value : α} :
    (CanonicalDecoder.check result).run before = .ok (value, after) ↔
      result = .ok value ∧ before = after := by
  change (result.map fun value => (value, before)) = _ ↔ _
  cases result with
  | error status => simp [Except.map]
  | ok found => simp [Except.map]

namespace Codes

variable {α β : Type} {limits : DecodeLimits} {on : β -> Prop} {encode : β -> Bytes}
  {fit : β -> Prop}

/-- The same bytes and the same condition, written differently. -/
theorem cast {decode : Decode β} {encode' : β -> Bytes} {fit' : β -> Prop}
    (codes : Codes limits on decode encode fit)
    (encodes : forall value, on value -> encode value = encode' value)
    (fits : forall value, on value -> (fit value ↔ fit' value)) :
    Codes limits on decode encode' fit' := by
  constructor
  · intro value selected fitting
    rw [← encodes value selected]
    exact codes.reads value selected ((fits value selected).mpr fitting)
  · intro input value after ran
    rcases codes.takes input value after ran with ⟨selected, fitting, rest, same, left⟩
    exact ⟨selected, (fits value selected).mp fitting, rest, encodes value selected ▸ same, left⟩

/-- The same condition, written differently. -/
theorem fits_iff {decode : Decode β} {fit' : β -> Prop} (codes : Codes limits on decode encode fit)
    (fits : forall value, on value -> (fit value ↔ fit' value)) :
    Codes limits on decode encode fit' :=
  codes.cast (fun _ _ => rfl) fits

/-- The selection becomes a part of the condition. -/
theorem unselected {decode : Decode β} (codes : Codes limits on decode encode fit) :
    Codes limits Any decode encode (fun value => on value ∧ fit value) := by
  constructor
  · exact fun value _ fitting => codes.reads value fitting.1 fitting.2
  · intro input value after ran
    rcases codes.takes input value after ran with ⟨selected, fitting, rest⟩
    exact ⟨trivial, ⟨selected, fitting⟩, rest⟩

/-- A refusal, where no value is selected. -/
theorem fail {code : ReasonCode} {message : String} (none : forall value, ¬on value) :
    Codes limits on (CanonicalDecoder.fail code message) encode fit := by
  constructor
  · exact fun value selected => absurd selected (none value)
  · intro input value after ran
    cases ran

theorem pure {value : β} (only : forall other, on other ↔ other = value) (fits : fit value) :
    Codes limits on (Pure.pure value) (fun _ => []) fit := by
  constructor
  · intro other selected _
    rw [(only other).mp selected]
    exact Reads.pure value
  · intro input other after ran
    cases ran
    exact ⟨(only value).mpr rfl, fits, input, rfl, rfl⟩

/-- One field after which the rest follows.  The value that was read is the field of the
whole. -/
theorem bind {first : Decode α} {next : α -> Decode β} {firstOn firstFit : α -> Prop}
    {firstEncode : α -> Bytes} (part : β -> α)
    (codesFirst : Codes limits firstOn first firstEncode firstFit)
    (covers : forall value, on value -> firstOn (part value))
    (needs : forall value, on value -> fit value -> firstFit (part value))
    (codesNext : forall found, firstOn found -> firstFit found ->
      Codes limits (fun value => on value ∧ part value = found) (next found) encode fit) :
    Codes limits on (first >>= next) (fun value => firstEncode (part value) ++ encode value)
      fit := by
  constructor
  · intro value selected fitting
    have known := covers value selected
    have fits := needs value selected fitting
    exact Reads.bind (codesFirst.reads (part value) known fits)
      ((codesNext (part value) known fits).reads value ⟨selected, rfl⟩ fitting)
  · intro input value after ran
    rcases run_bind_eq_ok.mp ran with ⟨found, between, ranFirst, ranNext⟩
    rcases codesFirst.takes input found between ranFirst with ⟨known, fits, rest, rfl, rfl⟩
    rcases (codesNext found known fits).takes rest value after ranNext with
      ⟨⟨selected, rfl⟩, fitting, last, rfl, left⟩
    exact ⟨selected, fitting, last, (List.append_assoc ..).symm, left⟩

/-- A field of which every value can be read. -/
theorem field {first : Decode α} {next : α -> Decode β} {firstEncode : α -> Bytes} (part : β -> α)
    (codesFirst : Codes limits Any first firstEncode Any)
    (codesNext : forall found,
      Codes limits (fun value => on value ∧ part value = found) (next found) encode fit) :
    Codes limits on (first >>= next) (fun value => firstEncode (part value) ++ encode value) fit :=
  bind part codesFirst (fun _ _ => trivial) (fun _ _ _ => trivial) fun found _ _ => codesNext found

/-- A field whose values have to fit. -/
theorem bounded {first : Decode α} {next : α -> Decode β} {firstEncode : α -> Bytes}
    {firstFit : α -> Prop} (part : β -> α)
    (codesFirst : Codes limits Any first firstEncode firstFit)
    (needs : forall value, fit value -> firstFit (part value))
    (codesNext : forall found, firstFit found ->
      Codes limits (fun value => on value ∧ part value = found) (next found) encode fit) :
    Codes limits on (first >>= next) (fun value => firstEncode (part value) ++ encode value) fit :=
  bind part codesFirst (fun _ _ => trivial) (fun value _ => needs value)
    fun found _ fits => codesNext found fits

/-- A check between two fields. -/
theorem check {result : Result α} {next : α -> Decode β} {left : β -> Prop} (part : β -> α)
    (same : forall value, on value ↔ left value ∧ result = .ok (part value))
    (codesNext : forall found, result = .ok found ->
      Codes limits (fun value => left value ∧ part value = found) (next found) encode fit) :
    Codes limits on (CanonicalDecoder.check result >>= next) encode fit := by
  constructor
  · intro value selected fitting
    rcases (same value).mp selected with ⟨remains, passed⟩
    exact Reads.checked passed ((codesNext _ passed).reads value ⟨remains, rfl⟩ fitting)
  · intro input value after ran
    rcases run_bind_eq_ok.mp ran with ⟨found, between, checked, ranNext⟩
    rcases run_check_eq_ok.mp checked with ⟨passed, rfl⟩
    rcases (codesNext found passed).takes input value after ranNext with
      ⟨⟨remains, rfl⟩, fitting, rest⟩
    exact ⟨(same value).mpr ⟨remains, passed⟩, fitting, rest⟩

/-- The check of a whole value at the end. -/
theorem checked {validate : β -> Result Unit} {value : β}
    (only : forall other, on other ↔ other = value)
    (decides : fit value ↔ validate value = .ok ()) :
    Codes limits on (do
      CanonicalDecoder.check (validate value)
      Pure.pure value) (fun _ => []) fit := by
  constructor
  · intro other selected fitting
    rw [(only other).mp selected] at fitting ⊢
    exact Reads.checked (decides.mp fitting) (Reads.pure value)
  · intro input other after ran
    rcases run_bind_eq_ok.mp ran with ⟨⟨⟩, between, verdict, returned⟩
    rcases run_check_eq_ok.mp verdict with ⟨passed, rfl⟩
    cases returned
    exact ⟨(only value).mpr rfl, decides.mpr passed, input, rfl, rfl⟩

/-- A field behind which nothing more is read: it is converted, or refused. -/
theorem settled {first : Decode α} {next : α -> Decode β} {firstOn firstFit : α -> Prop}
    {firstEncode : α -> Bytes} (part : β -> α)
    (codesFirst : Codes limits firstOn first firstEncode firstFit)
    (covers : forall value, on value -> firstOn (part value))
    (settles : forall found, firstOn found -> firstFit found -> forall before value after,
      (next found).run before = .ok (value, after) ↔
        before = after ∧ on value ∧ part value = found) :
    Codes limits on (first >>= next) (fun value => firstEncode (part value))
      (fun value => firstFit (part value)) := by
  constructor
  · intro value selected fitting rest
    have known := covers value selected
    rw [StateT.run_bind, codesFirst.reads (part value) known fitting rest]
    exact (settles (part value) known fitting _ _ _).mpr ⟨rfl, selected, rfl⟩
  · intro input value after ran
    rcases run_bind_eq_ok.mp ran with ⟨found, between, ranFirst, ranNext⟩
    rcases codesFirst.takes input found between ranFirst with ⟨known, fits, rest, same, left⟩
    rcases (settles found known fits between value after).mp ranNext with ⟨rfl, selected, rfl⟩
    exact ⟨selected, fits, rest, same, left⟩

/-- A field that is only converted. -/
theorem through {first : Decode α} {make : α -> β} {firstOn firstFit : α -> Prop}
    {firstEncode : α -> Bytes} (part : β -> α)
    (codesFirst : Codes limits firstOn first firstEncode firstFit)
    (covers : forall value, on value -> firstOn (part value))
    (made : forall found, firstOn found -> firstFit found ->
      forall value, on value ∧ part value = found ↔ value = make found) :
    Codes limits on (do
      let found ← first
      Pure.pure (make found)) (fun value => firstEncode (part value))
      (fun value => firstFit (part value)) := by
  refine settled part codesFirst covers fun found known fits before value after => ?_
  rw [made found known fits value]
  constructor
  · intro returned
    cases returned
    exact ⟨rfl, rfl⟩
  · rintro ⟨rfl, rfl⟩
    rfl

/-! ## Fields -/

theorem fixed (width : Nat) (what : String) :
    Codes limits (fun raw => raw.length = width) (CanonicalDecoder.fixed width what) id Any := by
  constructor
  · intro raw wide _
    exact Reads.fixed wide what
  · intro input raw after ran
    change (if false || decide (input.length < width) then _ else _) = _ at ran
    rw [Bool.false_or] at ran
    split at ran
    · cases ran
    · rename_i enough
      rw [decide_eq_true_eq, Nat.not_lt] at enough
      cases ran
      exact ⟨List.length_take_of_le enough, trivial, input.drop width,
        (List.take_append_drop width input).symm, rfl⟩

theorem u8 : Codes limits Any CanonicalDecoder.u8 CanonicalEncoder.u8 Any := by
  refine through CanonicalEncoder.u8 (fixed 1 _) (fun _ _ => rfl) ?_
  intro raw wide _ value
  rcases List.length_eq_one_iff.mp wide with ⟨byte, rfl⟩
  simp [CanonicalEncoder.u8]

/-- An integer field of `width` bytes. -/
theorem integer {width : Nat} {what : String} {ofNat : Nat -> α} {toNat : α -> Nat}
    (back : forall value, ofNat (toNat value) = value)
    (forth : forall number, number < 256 ^ width -> toNat (ofNat number) = number)
    (bounded : forall value, toNat value < 256 ^ width) :
    Codes limits Any (do
      let raw ← CanonicalDecoder.fixed width what
      Pure.pure (ofNat (loadLe raw))) (fun value => storeLe (toNat value) width) Any := by
  refine through (fun value => storeLe (toNat value) width) (fixed width what)
    (fun _ _ => storeLe_length _ _) ?_
  intro raw wide _ value
  constructor
  · rintro ⟨_, rfl⟩
    rw [loadLe_storeLe_of_lt (bounded value), back]
  · rintro rfl
    have small : loadLe raw < 256 ^ width := wide ▸ loadLe_lt raw
    refine ⟨trivial, ?_⟩
    rw [forth _ small, ← wide, storeLe_loadLe]

theorem u16 : Codes limits Any CanonicalDecoder.u16 CanonicalEncoder.u16 Any :=
  integer (fun _ => UInt16.ofNat_toNat) (fun _ small => UInt16.toNat_ofNat_of_lt' small)
    UInt16.toNat_lt

theorem u32 : Codes limits Any CanonicalDecoder.u32 CanonicalEncoder.u32 Any :=
  integer (fun _ => UInt32.ofNat_toNat) (fun _ small => UInt32.toNat_ofNat_of_lt' small)
    UInt32.toNat_lt

theorem u64 : Codes limits Any CanonicalDecoder.u64 CanonicalEncoder.u64 Any :=
  integer (fun _ => UInt64.ofNat_toNat) (fun _ small => UInt64.toNat_ofNat_of_lt' small)
    UInt64.toNat_lt

theorem i64 : Codes limits Any CanonicalDecoder.i64 CanonicalEncoder.i64 Any := by
  refine through Int64.toUInt64 u64 (fun _ _ => trivial) ?_
  intro raw _ _ value
  constructor
  · rintro ⟨_, rfl⟩
    exact (Int64.toInt64_toUInt64 value).symm
  · rintro rfl
    exact ⟨trivial, rfl⟩

/-- A conversion that may refuse, as the last thing a field does. -/
theorem run_check_part {result : Result α} {value : α} {condition : Prop}
    (same : result = .ok value ↔ condition) :
    (CanonicalDecoder.check result).run before = .ok (value, after) ↔
      before = after ∧ condition := by
  rw [run_check_eq_ok, same, and_comm]

theorem boolean : Codes limits Any CanonicalDecoder.boolean CanonicalEncoder.boolean Any := by
  refine settled (fun value : Bool => if value then (1 : UInt8) else 0) u8 (fun _ _ => trivial) ?_
  intro raw _ _ before value after
  by_cases large : raw > 1
  · simp only [if_pos large]
    constructor
    · intro refused
      cases refused
    · rintro ⟨_, _, rfl⟩
      cases value <;> exact absurd large (by decide)
  · simp only [if_neg large]
    change Except.ok (raw == 1, before) = Except.ok (value, after) ↔ _
    rw [Except.ok.injEq, Prod.mk.injEq, and_comm, true_and]
    refine and_congr_right fun _ => ?_
    have small : raw = 0 ∨ raw = 1 := by
      rw [gt_iff_lt, UInt8.not_lt, UInt8.le_iff_toNat_le] at large
      have bound : raw.toNat ≤ 1 := large
      rcases Nat.le_one_iff_eq_zero_or_eq_one.mp bound with zero | one
      · exact .inl (UInt8.toNat_inj.mp zero)
      · exact .inr (UInt8.toNat_inj.mp one)
    rcases small with rfl | rfl <;> cases value <;> decide

theorem digest : Codes limits Any CanonicalDecoder.digest CanonicalEncoder.digest Any := by
  refine settled Digest.bytes (fixed 32 _) (fun value _ => value.width) ?_
  intro raw wide _ before value after
  apply run_check_part
  rw [Digest.fromBytes, dif_pos wide, Except.ok.injEq, true_and]
  constructor
  · rintro rfl
    rfl
  · rintro rfl
    rfl

variable {maxBytes : Nat}

/-- A byte string within the bounds. -/
theorem blob (admitted : maxBytes ≤ limits.maxBlobBytes) (short : maxBytes < 18446744073709551616) :
    Codes limits Any (CanonicalDecoder.blob maxBytes) CanonicalEncoder.blob
      (fun value => value.length ≤ maxBytes) := by
  constructor
  · intro value _ fitting
    exact Reads.blob (by omega) (by omega)
  · intro input value after ran
    rcases run_bind_eq_ok.mp ran with ⟨length, between, ranLength, ran⟩
    rcases u64.takes input length between ranLength with ⟨_, _, rest, rfl, rfl⟩
    rcases run_bind_eq_ok.mp ran with ⟨decoder, same, got, ran⟩
    cases got
    split at ran
    · cases ran
    rename_i within
    split at ran
    · cases ran
    rename_i present
    rcases run_bind_eq_ok.mp ran with ⟨⟨⟩, moved, set, returned⟩
    cases set
    cases returned
    dsimp only at within present ⊢
    have enough : length.toNat ≤ rest.length := Nat.not_lt.mp present
    have taken : (rest.take length.toNat).length = length.toNat := List.length_take_of_le enough
    refine ⟨trivial, by omega, rest.drop length.toNat, ?_, rfl⟩
    rw [CanonicalEncoder.blob, taken, CanonicalEncoder.u64, List.append_assoc,
      List.take_append_drop]

/-- A text within the bounds. -/
theorem text (texts : maxBytes ≤ limits.maxTextBytes) (blobs : maxBytes ≤ limits.maxBlobBytes)
    (short : maxBytes < 18446744073709551616) :
    Codes limits Any (CanonicalDecoder.text maxBytes) CanonicalEncoder.text
      (fun value => value.length ≤ maxBytes ∧ isValidUtf8 value = true) := by
  constructor
  · intro value _ fitting
    exact Reads.text fitting.2 (by omega) (by omega)
  · intro input value after ran
    rcases run_bind_eq_ok.mp ran with ⟨decoder, same, got, ran⟩
    cases got
    rcases run_bind_eq_ok.mp ran with ⟨raw, between, ranBlob, ran⟩
    have bound : min maxBytes limits.maxTextBytes = maxBytes := Nat.min_eq_left texts
    rw [bound] at ranBlob
    rcases (blob blobs short).takes input raw between ranBlob with ⟨_, fits, rest, rfl, rfl⟩
    split at ran
    · rename_i valid
      cases ran
      exact ⟨trivial, ⟨fits, valid⟩, rest, rfl, rfl⟩
    · cases ran

/-- A text whose bound is below the general one. -/
theorem boundedText (roomy : Roomy limits) (short : maxBytes ≤ kMaxObjectNameBytes) :
    Codes limits Any (CanonicalDecoder.text maxBytes) CanonicalEncoder.text
      (fun value => value.length ≤ maxBytes ∧ isValidUtf8 value = true) := by
  have texts := roomy.texts
  have blobs := roomy.blobs
  simp only [kMaxObjectNameBytes, kMaxChunkBytes] at *
  exact text (by omega) (by omega) (by omega)

/-! ## Collections -/

theorem count {maxCount : Nat} (small : maxCount < 4294967296) :
    Codes limits Any (CanonicalDecoder.count maxCount)
      (fun number => CanonicalEncoder.u32 (UInt32.ofNat number)) (fun number => number ≤ maxCount) := by
  constructor
  · intro number _ fitting rest
    have back : (UInt32.ofNat number).toNat = number := UInt32.toNat_ofNat_of_lt' (Nat.lt_of_le_of_lt fitting small)
    rw [CanonicalDecoder.count, StateT.run_bind, u32.reads _ trivial trivial rest]
    change (if (UInt32.ofNat number).toNat > maxCount then _ else _ : Decode Nat).run
      ⟨rest, limits, false⟩ = _
    rw [back, if_neg (Nat.not_lt.mpr fitting)]
    rfl
  · intro input number after ran
    rcases run_bind_eq_ok.mp ran with ⟨raw, between, ranRaw, ran⟩
    rcases u32.takes input raw between ranRaw with ⟨_, _, rest, rfl, rfl⟩
    split at ran
    · cases ran
    · rename_i within
      cases ran
      refine ⟨trivial, Nat.not_lt.mp within, rest, ?_, rfl⟩
      rw [UInt32.ofNat_toNat]

end Codes

/-- The same field, a given number of times. -/
def CanonicalDecoder.repeated {α : Type} (decode : Decode α) : Nat -> Decode (List α)
  | 0 => pure []
  | left + 1 => do
      let first ← decode
      let rest ← repeated decode left
      return first :: rest

/-- A list is written as its members one after the other. -/
theorem Codes.repeated {α : Type} {limits : DecodeLimits} {decode : Decode α}
    {encode : α -> Bytes} {fit : α -> Prop} (codes : Codes limits Any decode encode fit)
    (number : Nat) :
    Codes limits (fun values => values.length = number)
      (CanonicalDecoder.repeated decode number) (fun values => values.flatMap encode)
      (fun values => forall value, value ∈ values -> fit value) := by
  constructor
  · intro values counted fitting
    induction values generalizing number with
    | nil =>
        cases counted
        exact Reads.pure []
    | cons first rest ih =>
        cases counted
        have readRest := ih rest.length rfl fun value inside =>
          fitting value (List.mem_cons_of_mem first inside)
        rw [List.flatMap_cons, ← List.append_nil (rest.flatMap encode)]
        exact .bind (codes.reads first trivial (fitting first List.mem_cons_self))
          (.bind readRest (.pure _))
  · intro input values after ran
    induction number generalizing input values with
    | zero =>
        cases ran
        exact ⟨rfl, fun _ inside => absurd inside List.not_mem_nil, input, rfl, rfl⟩
    | succ left ih =>
        rcases run_bind_eq_ok.mp ran with ⟨first, between, ranFirst, ran⟩
        rcases run_bind_eq_ok.mp ran with ⟨rest, last, ranRest, returned⟩
        cases returned
        rcases codes.takes input first between ranFirst with ⟨_, fits, left, rfl, rfl⟩
        rcases ih left rest ranRest with ⟨counted, fitting, final, rfl, rfl⟩
        refine ⟨by rw [List.length_cons, counted], ?_, final, ?_, rfl⟩
        · intro value inside
          rcases List.mem_cons.mp inside with rfl | later
          · exact fits
          · exact fitting value later
        · rw [List.flatMap_cons, List.append_assoc]

end StateMovementFabric
