import StateMovementFabric.Core.Bytes

namespace StateMovementFabric

/-!
# What strict UTF-8 validation accepts

A `Char` is a Unicode scalar value, and `String.utf8EncodeChar` is its encoding.  The
validator accepts exactly the concatenations of such encodings.  It is compared here with
two other descriptions: the encodings, and the loop of the source, which walks over the input
by position and must never look behind its end.
-/

/-! ## Bits of a byte as ranges and remainders -/

theorem and_eq_decide_of_lt {value : Nat} (small : value < 256) :
    (value &&& 0xC0 == 0x80) = decide (128 ≤ value ∧ value < 192) ∧
      (value &&& 0xE0 == 0xC0) = decide (192 ≤ value ∧ value < 224) ∧
      (value &&& 0xF0 == 0xE0) = decide (224 ≤ value ∧ value < 240) ∧
      (value &&& 0xF8 == 0xF0) = decide (240 ≤ value ∧ value < 248) := by
  revert value
  decide +kernel

theorem isContinuation_iff {byte : Byte} :
    isContinuation byte = true ↔ 128 ≤ byte.toNat ∧ byte.toNat < 192 := by
  rw [isContinuation, (and_eq_decide_of_lt byte.toNat_lt).1, decide_eq_true_iff]

theorem and_low (value : Nat) : value &&& 0x3F = value % 64 := Nat.and_two_pow_sub_one_eq_mod value 6

/-- Six more bits behind the ones that are there. -/
theorem shift_or (point value : Nat) : (point <<< 6) ||| (value &&& 0x3F) = point * 64 + value % 64 := by
  rw [and_low, ← Nat.shiftLeft_add_eq_or_of_lt (Nat.mod_lt value (by decide)), Nat.shiftLeft_eq]

theorem codePoint_cons (lead : Nat) (byte : Byte) (rest : List Byte) :
    codePoint lead (byte :: rest) = codePoint (lead * 64 + byte.toNat % 64) rest := by
  rw [codePoint, List.foldl_cons, shift_or]
  rfl

theorem codePoint_nil (lead : Nat) : codePoint lead [] = lead := rfl

/-- A sequence is in order: continuation bytes behind the lead, and a scalar value that
needs so many of them. -/
theorem validSequence_iff {lead least : Nat} {continuation : List Byte} :
    validSequence lead least continuation = true ↔
      (forall byte, byte ∈ continuation -> 128 ≤ byte.toNat ∧ byte.toNat < 192) ∧
        least ≤ codePoint lead continuation ∧ (codePoint lead continuation).isValidChar := by
  simp only [validSequence, Bool.and_eq_true, List.all_eq_true, decide_eq_true_eq,
    Bool.not_eq_true', Bool.and_eq_false_iff, decide_eq_false_iff_not, isContinuation_iff,
    and_assoc]
  refine and_congr_right fun _ => and_congr_right fun _ => ?_
  unfold Nat.isValidChar
  omega

/-! ## One character at the front -/

/-- The scalar value of a number. -/
def scalar (point : Nat) (valid : point.isValidChar) : Char := Char.ofNatAux point valid

theorem toNat_scalar {point : Nat} (valid : point.isValidChar) :
    (scalar point valid).val.toNat = point := rfl

/-- How long the sequence is that a lead byte announces: the number of continuation bytes,
the bits that the lead byte gives and the least value that needs so many bytes. -/
inductive Announces (lead : Byte) : Nat -> Nat -> Nat -> Prop where
  | one (range : 192 ≤ lead.toNat ∧ lead.toNat < 224) : Announces lead 1 (lead.toNat % 32) 0x80
  | two (range : 224 ≤ lead.toNat ∧ lead.toNat < 240) : Announces lead 2 (lead.toNat % 16) 0x800
  | three (range : 240 ≤ lead.toNat ∧ lead.toNat < 248) : Announces lead 3 (lead.toNat % 8) 0x10000

section Front

variable {lead : Byte} {rest : Bytes} {count bits least : Nat}

theorem isValidUtf8_plain (plain : lead.toNat < 128) :
    isValidUtf8 (lead :: rest) = isValidUtf8 rest := by
  rw [isValidUtf8.eq_def (lead :: rest)]
  exact if_pos plain

/-- A lead byte that announces nothing. -/
theorem isValidUtf8_stray (high : 128 ≤ lead.toNat)
    (stray : lead.toNat < 192 ∨ 248 ≤ lead.toNat) : isValidUtf8 (lead :: rest) = false := by
  rcases and_eq_decide_of_lt lead.toNat_lt with ⟨_, one, two, three⟩
  rw [decide_eq_false (by omega)] at one two three
  rw [isValidUtf8.eq_def]
  simp only [one, two, three, if_neg (Nat.not_lt.mpr high), Bool.false_eq_true, if_false]

/-- The sequence that a lead byte announces is checked as a whole. -/
theorem isValidUtf8_announced (announces : Announces lead count bits least) :
    isValidUtf8 (lead :: rest) =
      (decide (count ≤ rest.length) && validSequence bits least (rest.take count) &&
        isValidUtf8 (rest.drop count)) := by
  rcases and_eq_decide_of_lt lead.toNat_lt with ⟨_, one, two, three⟩
  have bits1 : lead.toNat &&& 0x1F = lead.toNat % 32 := Nat.and_two_pow_sub_one_eq_mod _ 5
  have bits2 : lead.toNat &&& 0x0F = lead.toNat % 16 := Nat.and_two_pow_sub_one_eq_mod _ 4
  have bits3 : lead.toNat &&& 0x07 = lead.toNat % 8 := Nat.and_two_pow_sub_one_eq_mod _ 3
  rw [isValidUtf8.eq_def (lead :: rest)]
  cases announces with
  | one range =>
      rw [decide_eq_true range] at one
      simp only [if_neg (show ¬lead.toNat < 128 by omega), one, if_true, bits1]
      cases rest with
      | nil => rfl
      | cons first tail => simp
  | two range =>
      rw [decide_eq_false (by omega)] at one
      rw [decide_eq_true range] at two
      simp only [if_neg (show ¬lead.toNat < 128 by omega), one, two, if_true, Bool.false_eq_true,
        if_false, bits2]
      rcases rest with _ | ⟨first, _ | ⟨second, tail⟩⟩
      · rfl
      · rfl
      · simp
  | three range =>
      rw [decide_eq_false (by omega)] at one two
      rw [decide_eq_true range] at three
      simp only [if_neg (show ¬lead.toNat < 128 by omega), one, two, three, if_true,
        Bool.false_eq_true, if_false, bits3]
      rcases rest with _ | ⟨first, _ | ⟨second, _ | ⟨third, tail⟩⟩⟩
      · rfl
      · rfl
      · rfl
      · simp

/-- A byte is plain, announces a sequence, or stands where no lead byte can. -/
theorem lead_cases (lead : Byte) :
    lead.toNat < 128 ∨ (128 ≤ lead.toNat ∧ (lead.toNat < 192 ∨ 248 ≤ lead.toNat)) ∨
      exists count bits least, Announces lead count bits least := by
  by_cases plain : lead.toNat < 128
  · exact .inl plain
  by_cases stray : lead.toNat < 192 ∨ 248 ≤ lead.toNat
  · exact .inr (.inl ⟨Nat.not_lt.mp plain, stray⟩)
  by_cases short : lead.toNat < 224
  · exact .inr (.inr ⟨1, _, _, .one (by omega)⟩)
  by_cases middle : lead.toNat < 240
  · exact .inr (.inr ⟨2, _, _, .two (by omega)⟩)
  · exact .inr (.inr ⟨3, _, _, .three (by omega)⟩)

end Front

/-! ## The encoding of a scalar value -/

theorem toNat_ofNat_of_lt {value : Nat} (small : value < 256) :
    (UInt8.ofNat value : Byte).toNat = value := UInt8.toNat_ofNat_of_lt' small

/-- The first byte of an encoding announces the others, which are continuation bytes of the
scalar value; or it is the only one. -/
theorem utf8EncodeChar_cases (character : Char) :
    (exists lead : Byte, String.utf8EncodeChar character = [lead] ∧ lead.toNat < 128) ∨
      exists lead count bits least continuation, Announces lead count bits least ∧
        String.utf8EncodeChar character = lead :: continuation ∧ continuation.length = count ∧
        validSequence bits least continuation = true := by
  have valid : character.val.toNat.isValidChar := character.valid
  have most : character.val.toNat < 0x110000 := by
    unfold Nat.isValidChar at valid
    omega
  rw [String.utf8EncodeChar]
  generalize character.val.toNat = point at valid most ⊢
  split
  · rename_i small
    exact .inl ⟨_, rfl, by rw [toNat_ofNat_of_lt (by omega)]; omega⟩
  · right
    split
    · rename_i large small
      have lead := @toNat_ofNat_of_lt (point / 64 % 32 + 192) (by omega)
      have last := @toNat_ofNat_of_lt (point % 64 + 128) (by omega)
      refine ⟨_, _, _, _, _, .one (by rw [lead]; omega), rfl, rfl, ?_⟩
      rw [validSequence_iff, codePoint_cons, codePoint_nil, lead, last]
      have same : (point / 64 % 32 + 192) % 32 * 64 + (point % 64 + 128) % 64 = point := by omega
      rw [same]
      refine ⟨?_, by omega, valid⟩
      intro byte inside
      rw [List.mem_singleton.mp inside, last]
      omega
    · split
      · rename_i large small
        have lead := @toNat_ofNat_of_lt (point / 4096 % 16 + 224) (by omega)
        have middle := @toNat_ofNat_of_lt (point / 64 % 64 + 128) (by omega)
        have last := @toNat_ofNat_of_lt (point % 64 + 128) (by omega)
        refine ⟨_, _, _, _, _, .two (by rw [lead]; omega), rfl, rfl, ?_⟩
        rw [validSequence_iff, codePoint_cons, codePoint_cons, codePoint_nil, lead, middle, last]
        have same : ((point / 4096 % 16 + 224) % 16 * 64 + (point / 64 % 64 + 128) % 64) * 64 +
            (point % 64 + 128) % 64 = point := by omega
        rw [same]
        refine ⟨?_, by omega, valid⟩
        simp only [List.forall_mem_cons, middle, last]
        exact ⟨by omega, by omega, List.forall_mem_nil _⟩
      · rename_i large
        have lead := @toNat_ofNat_of_lt (point / 262144 % 8 + 240) (by omega)
        have second := @toNat_ofNat_of_lt (point / 4096 % 64 + 128) (by omega)
        have third := @toNat_ofNat_of_lt (point / 64 % 64 + 128) (by omega)
        have last := @toNat_ofNat_of_lt (point % 64 + 128) (by omega)
        refine ⟨_, _, _, _, _, .three (by rw [lead]; omega), rfl, rfl, ?_⟩
        rw [validSequence_iff, codePoint_cons, codePoint_cons, codePoint_cons, codePoint_nil, lead,
          second, third, last]
        have same : (((point / 262144 % 8 + 240) % 8 * 64 + (point / 4096 % 64 + 128) % 64) * 64 +
            (point / 64 % 64 + 128) % 64) * 64 + (point % 64 + 128) % 64 = point := by omega
        rw [same]
        refine ⟨?_, by omega, valid⟩
        simp only [List.forall_mem_cons, second, third, last]
        exact ⟨by omega, by omega, by omega, List.forall_mem_nil _⟩

theorem eq_ofNat {byte : Byte} {value : Nat} (same : byte.toNat = value) :
    UInt8.ofNat value = byte := by
  rw [← same]
  exact UInt8.ofNat_toNat

/-- A sequence that passes its check is the encoding of a scalar value. -/
theorem exists_utf8EncodeChar {lead : Byte} {count bits least : Nat} {continuation : List Byte}
    (announces : Announces lead count bits least) (whole : continuation.length = count)
    (valid : validSequence bits least continuation = true) :
    exists character, String.utf8EncodeChar character = lead :: continuation := by
  rcases validSequence_iff.mp valid with ⟨behind, needed, isScalar⟩
  refine ⟨scalar _ isScalar, ?_⟩
  rw [String.utf8EncodeChar]
  have decoded := toNat_scalar isScalar
  generalize (scalar _ isScalar).val.toNat = point at decoded ⊢
  rw [← decoded] at needed
  cases announces with
  | one range =>
      rcases List.length_eq_one_iff.mp whole with ⟨last, rfl⟩
      have lastRange := behind last List.mem_cons_self
      rw [codePoint_cons, codePoint_nil] at decoded
      rw [if_neg (by omega), if_pos (by omega),
        eq_ofNat (show lead.toNat = point / 64 % 32 + 192 by omega),
        eq_ofNat (show last.toNat = point % 64 + 128 by omega)]
  | two range =>
      rcases List.length_eq_two.mp whole with ⟨middle, last, rfl⟩
      have middleRange := behind middle (by simp)
      have lastRange := behind last (by simp)
      rw [codePoint_cons, codePoint_cons, codePoint_nil] at decoded
      rw [if_neg (by omega), if_neg (by omega), if_pos (by omega),
        eq_ofNat (show lead.toNat = point / 4096 % 16 + 224 by omega),
        eq_ofNat (show middle.toNat = point / 64 % 64 + 128 by omega),
        eq_ofNat (show last.toNat = point % 64 + 128 by omega)]
  | three range =>
      rcases List.length_eq_three.mp whole with ⟨second, third, last, rfl⟩
      have secondRange := behind second (by simp)
      have thirdRange := behind third (by simp)
      have lastRange := behind last (by simp)
      rw [codePoint_cons, codePoint_cons, codePoint_cons, codePoint_nil] at decoded
      rw [if_neg (by omega), if_neg (by omega), if_neg (by omega),
        eq_ofNat (show lead.toNat = point / 262144 % 8 + 240 by omega),
        eq_ofNat (show second.toNat = point / 4096 % 64 + 128 by omega),
        eq_ofNat (show third.toNat = point / 64 % 64 + 128 by omega),
        eq_ofNat (show last.toNat = point % 64 + 128 by omega)]

/-! ## The encodings of sequences of scalar values -/

/-- A scalar value in front changes nothing. -/
theorem isValidUtf8_utf8EncodeChar_append (character : Char) (rest : Bytes) :
    isValidUtf8 (String.utf8EncodeChar character ++ rest) = isValidUtf8 rest := by
  rcases utf8EncodeChar_cases character with ⟨lead, encoded, plain⟩ |
    ⟨lead, count, bits, least, continuation, announces, encoded, whole, valid⟩
  · rw [encoded]
    exact isValidUtf8_plain plain
  · rw [encoded, List.cons_append, isValidUtf8_announced announces, ← whole, List.take_left,
      List.drop_left, valid, List.length_append, decide_eq_true (Nat.le_add_right _ _)]
    rfl

/-- A valid input is empty or starts with the encoding of a scalar value. -/
theorem exists_append_of_isValidUtf8 {lead : Byte} {rest : Bytes}
    (valid : isValidUtf8 (lead :: rest) = true) :
    exists (character : Char) (tail : Bytes),
      lead :: rest = String.utf8EncodeChar character ++ tail ∧ tail.length ≤ rest.length ∧
        isValidUtf8 tail = true := by
  rcases lead_cases lead with plain | ⟨high, stray⟩ | ⟨count, bits, least, announces⟩
  · have isScalar : lead.toNat.isValidChar := .inl (by omega)
    refine ⟨scalar lead.toNat isScalar, rest, ?_, Nat.le_refl _, ?_⟩
    · have single : String.utf8EncodeChar (scalar lead.toNat isScalar) = [lead] := by
        rw [String.utf8EncodeChar]
        have decoded := toNat_scalar isScalar
        generalize (scalar lead.toNat isScalar).val.toNat = point at decoded ⊢
        rw [if_pos (by omega), eq_ofNat decoded.symm]
      rw [single]
      rfl
    · rw [← isValidUtf8_plain plain]
      exact valid
  · rw [isValidUtf8_stray high stray] at valid
    exact absurd valid (by decide)
  · rw [isValidUtf8_announced announces, Bool.and_eq_true, Bool.and_eq_true,
      decide_eq_true_eq] at valid
    rcases valid with ⟨⟨whole, sequence⟩, behind⟩
    rcases exists_utf8EncodeChar announces (List.length_take_of_le whole) sequence with
      ⟨character, encoded⟩
    refine ⟨character, rest.drop count, ?_, ?_, behind⟩
    · rw [encoded, List.cons_append, List.take_append_drop]
    · rw [List.length_drop]
      exact Nat.sub_le _ _

theorem isValidUtf8_flatMap (scalars : List Char) :
    isValidUtf8 (scalars.flatMap String.utf8EncodeChar) = true := by
  induction scalars with
  | nil => rfl
  | cons character scalars ih =>
      rw [List.flatMap_cons, isValidUtf8_utf8EncodeChar_append]
      exact ih

theorem exists_flatMap_of_isValidUtf8 {value : Bytes} (valid : isValidUtf8 value = true) :
    exists scalars : List Char, value = scalars.flatMap String.utf8EncodeChar := by
  -- The encodings have different lengths, so the induction is on the length that is left.
  induction bound : value.length using Nat.strongRecOn generalizing value with
  | ind length ih =>
      cases value with
      | nil => exact ⟨[], rfl⟩
      | cons lead rest =>
          rcases exists_append_of_isValidUtf8 valid with ⟨character, tail, split, short, validTail⟩
          have fewer : tail.length < length := by
            rw [← bound, List.length_cons]
            omega
          rcases ih tail.length fewer validTail rfl with ⟨scalars, encoded⟩
          refine ⟨character :: scalars, ?_⟩
          rw [split, encoded, List.flatMap_cons]

/-! ## The loop over positions -/

/-- What the lead byte of a longer sequence says: how many continuation bytes follow, and
the bits it holds itself. -/
def announced (lead : Nat) : Option (Nat × Nat) :=
  if lead &&& 0xE0 == 0xC0 then some (1, lead &&& 0x1F)
  else if lead &&& 0xF0 == 0xE0 then some (2, lead &&& 0x0F)
  else if lead &&& 0xF8 == 0xF0 then some (3, lead &&& 0x07)
  else none

/-- The inner loop, from `k` on.  The outer `none` is a read outside the input, the inner
one a byte that is no continuation byte. -/
def readContinuation (value : Bytes) (i : Nat) : Nat -> Nat -> Nat -> Option (Option Nat)
  | 0, _, point => some (some point)
  | remaining + 1, k, point =>
      value[i + k]?.bind fun next =>
        if isContinuation next then
          readContinuation value i remaining (k + 1) ((point <<< 6) ||| (next.toNat &&& 0x3F))
        else some none

/-- The checks on the code point of a finished sequence. -/
def refusedPoint (continuation point : Nat) : Bool :=
  continuation == 1 && point < 0x80 || continuation == 2 && point < 0x800 ||
    continuation == 3 && point < 0x10000 || 0x10FFFF < point ||
    0xD800 ≤ point && point ≤ 0xDFFF

/-- The loop of `is_valid_utf8` from position `i`; `none` is a read outside the input. -/
def walkUtf8 (value : Bytes) (i : Nat) : Option Bool :=
  if i < value.length then
    value[i]?.bind fun lead =>
      if lead.toNat < 0x80 then walkUtf8 value (i + 1)
      else
        match announced lead.toNat with
        | none => some false
        | some (continuation, bits) =>
            if value.length ≤ i + continuation then some false
            else
              (readContinuation value i continuation 1 bits).bind fun read =>
                match read with
                | none => some false
                | some point =>
                    if refusedPoint continuation point then some false
                    else walkUtf8 value (i + continuation + 1)
  else some true
termination_by value.length - i

theorem announced_of_announces {lead : Byte} {count bits least : Nat}
    (announces : Announces lead count bits least) : announced lead.toNat = some (count, bits) := by
  rcases and_eq_decide_of_lt lead.toNat_lt with ⟨_, one, two, three⟩
  unfold announced
  cases announces with
  | one range =>
      rw [one, if_pos (decide_eq_true range)]
      exact congrArg (fun bits => some (1, bits)) (Nat.and_two_pow_sub_one_eq_mod _ 5)
  | two range =>
      rw [one, two, if_neg (by simp; omega), if_pos (decide_eq_true range)]
      exact congrArg (fun bits => some (2, bits)) (Nat.and_two_pow_sub_one_eq_mod _ 4)
  | three range =>
      rw [one, two, three, if_neg (by simp; omega), if_neg (by simp; omega),
        if_pos (decide_eq_true range)]
      exact congrArg (fun bits => some (3, bits)) (Nat.and_two_pow_sub_one_eq_mod _ 3)

theorem announced_of_stray {lead : Byte} (stray : lead.toNat < 192 ∨ 248 ≤ lead.toNat) :
    announced lead.toNat = none := by
  rcases and_eq_decide_of_lt lead.toNat_lt with ⟨_, one, two, three⟩
  unfold announced
  rw [one, two, three, decide_eq_false (by omega), decide_eq_false (by omega),
    decide_eq_false (by omega)]
  rfl

/-- Where the bytes are there, the inner loop reads exactly them. -/
theorem readContinuation_eq {value : Bytes} {i remaining k point : Nat}
    (inside : i + k + remaining ≤ value.length) :
    readContinuation value i remaining k point =
      some (if ((value.drop (i + k)).take remaining).all isContinuation then
        some (codePoint point ((value.drop (i + k)).take remaining)) else none) := by
  induction remaining generalizing k point with
  | zero => rfl
  | succ remaining ih =>
      have here : i + k < value.length := by omega
      rw [readContinuation, List.getElem?_eq_getElem here, List.drop_eq_getElem_cons here,
        List.take_succ_cons, List.all_cons, Option.bind_some]
      cases isContinuation value[i + k] with
      | false => rfl
      | true =>
          rw [if_pos rfl, ih (by omega), Bool.true_and]
          rfl

theorem refusedPoint_eq {lead : Byte} {count bits least : Nat}
    (announces : Announces lead count bits least) (point : Nat) :
    refusedPoint count point =
      !(decide (least ≤ point) && decide (point ≤ 0x10FFFF) &&
        !(decide (0xD800 ≤ point) && decide (point ≤ 0xDFFF))) := by
  rw [Bool.eq_iff_iff]
  cases announces with
  | one range => simp [refusedPoint]
  | two range => simp [refusedPoint]
  | three range => simp [refusedPoint]

/-- The loop stays inside the input and decides what the recursive description decides. -/
theorem walkUtf8_eq (value : Bytes) (i : Nat) :
    walkUtf8 value i = some (isValidUtf8 (value.drop i)) := by
  induction left : value.length - i using Nat.strongRecOn generalizing i with
  | ind remaining ih =>
      by_cases inside : i < value.length
      · have next : forall position, i < position ->
            walkUtf8 value position = some (isValidUtf8 (value.drop position)) := by
          intro position further
          exact ih (value.length - position) (by omega) position rfl
        have rest : (value.drop (i + 1)).length = value.length - (i + 1) := List.length_drop
        rw [walkUtf8, if_pos inside, List.getElem?_eq_getElem inside,
          List.drop_eq_getElem_cons inside, Option.bind_some]
        generalize value[i] = lead
        rcases lead_cases lead with plain | ⟨high, stray⟩ | ⟨count, bits, least, announces⟩
        · rw [if_pos plain, isValidUtf8_plain plain]
          exact next (i + 1) (Nat.lt_succ_self i)
        · rw [if_neg (Nat.not_lt.mpr high), announced_of_stray stray, isValidUtf8_stray high stray]
        · have high : ¬lead.toNat < 0x80 := by
            cases announces <;> omega
          rw [if_neg high, announced_of_announces announces, isValidUtf8_announced announces, rest]
          dsimp only
          by_cases short : value.length ≤ i + count
          · rw [if_pos short, decide_eq_false (by omega)]
            rfl
          · rw [if_neg short, readContinuation_eq (by omega), decide_eq_true (by omega),
              Bool.true_and, Option.bind_some, List.drop_drop, validSequence]
            cases ((value.drop (i + 1)).take count).all isContinuation with
            | false => rfl
            | true =>
                rw [if_pos rfl]
                dsimp only
                rw [refusedPoint_eq announces, next (i + count + 1) (by omega), Bool.true_and,
                  show i + 1 + count = i + count + 1 by omega]
                cases (decide (least ≤ codePoint bits ((value.drop (i + 1)).take count)) &&
                  decide (codePoint bits ((value.drop (i + 1)).take count) ≤ 0x10FFFF) &&
                  !(decide (0xD800 ≤ codePoint bits ((value.drop (i + 1)).take count)) &&
                    decide (codePoint bits ((value.drop (i + 1)).take count) ≤ 0xDFFF))) with
                | false => rfl
                | true => rfl
      · rw [walkUtf8, if_neg inside, List.drop_eq_nil_of_le (Nat.not_lt.mp inside)]
        rfl

/-- Validation of any input ends without a read outside it, and accepts exactly the encodings
of sequences of scalar values. -/
theorem walkUtf8_accepts_iff (value : Bytes) :
    walkUtf8 value 0 = some (isValidUtf8 value) ∧
      (isValidUtf8 value = true ↔
        exists scalars : List Char, value = scalars.flatMap String.utf8EncodeChar) := by
  refine ⟨walkUtf8_eq value 0, exists_flatMap_of_isValidUtf8, ?_⟩
  rintro ⟨scalars, rfl⟩
  exact isValidUtf8_flatMap scalars

end StateMovementFabric
