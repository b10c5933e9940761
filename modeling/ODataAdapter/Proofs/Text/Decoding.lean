import ODataAdapter.Text.Utf8
import Mathlib

/-!
Bytes that encode characters are read as these characters, also where bytes stand before them that
encode none. Whatever the bytes are, no byte is read as more than one character.
-/

namespace ODataAdapter.Text

theorem decodeFrom_none_cons (byte : UInt8) (rest : List UInt8) :
    decodeFrom none (byte :: rest) = (leadByte byte).1 ++ decodeFrom (leadByte byte).2 rest := by
  rfl

theorem decodeFrom_some_cons (opened : PartialChar) (byte : UInt8) (rest : List UInt8) :
    decodeFrom (some opened) (byte :: rest) =
      (opened.next byte).1 ++ decodeFrom (opened.next byte).2 rest := by
  rfl

theorem toNat_ofNat_byte {code : Nat} (small : code < 256) : (UInt8.ofNat code).toNat = code := by
  rw [UInt8.toNat_ofNat']
  exact Nat.mod_eq_of_lt small

section Continuation

variable {code missing part : Nat} {low high : UInt8}

theorem continuation_inRange (above : low.toNat ≤ part + 128)
    (below : part + 128 ≤ high.toNat) :
    (low ≤ UInt8.ofNat (part + 128) && UInt8.ofNat (part + 128) ≤ high) = true ∧
      (UInt8.ofNat (part + 128)).toNat - 0x80 = part := by
  have bound := high.toNat_lt
  have value : (UInt8.ofNat (part + 128)).toNat = part + 128 := toNat_ofNat_byte (by omega)
  constructor
  · simp only [UInt8.le_iff_toNat_le, value, above, below, decide_true, Bool.and_self]
  · omega

theorem decodeFrom_continued (above : low.toNat ≤ part + 128) (below : part + 128 ≤ high.toNat)
    (rest : List UInt8) :
    decodeFrom (some ⟨code, missing + 1, low, high⟩) (UInt8.ofNat (part + 128) :: rest) =
      decodeFrom (some ⟨code * 64 + part, missing, 0x80, 0xbf⟩) rest := by
  obtain ⟨inRange, value⟩ := continuation_inRange above below
  rw [decodeFrom_some_cons, PartialChar.next, if_pos inRange, value]
  rfl

theorem decodeFrom_completed (above : low.toNat ≤ part + 128) (below : part + 128 ≤ high.toNat)
    (rest : List UInt8) :
    decodeFrom (some ⟨code, 0, low, high⟩) (UInt8.ofNat (part + 128) :: rest) =
      Char.ofNat (code * 64 + part) :: decodeFrom none rest := by
  obtain ⟨inRange, value⟩ := continuation_inRange above below
  rw [decodeFrom_some_cons, PartialChar.next, if_pos inRange, value]
  rfl

end Continuation

theorem leadByte_of_one {code : Nat} (small : code < 128) :
    leadByte (UInt8.ofNat code) = ([Char.ofNat code], none) := by
  have value : (UInt8.ofNat code).toNat = code := toNat_ofNat_byte (by omega)
  simp [leadByte, UInt8.lt_iff_toNat_lt, value, small]

theorem leadByte_of_two {head : Nat} (notOverlong : 2 ≤ head) (small : head < 32) :
    leadByte (UInt8.ofNat (head + 192)) = ([], some ⟨head, 0, 0x80, 0xbf⟩) := by
  have value : (UInt8.ofNat (head + 192)).toNat = head + 192 := toNat_ofNat_byte (by omega)
  simp only [leadByte, UInt8.lt_iff_toNat_lt, value, UInt8.reduceToNat]
  rw [if_neg (by omega), if_neg (by omega), if_pos (by omega), Nat.add_sub_cancel]

theorem leadByte_of_three {head part : Nat} (small : head < 16) (fits : part < 64)
    (notOverlong : head = 0 → 32 ≤ part) (notSurrogate : head = 13 → part < 32) :
    ∃ low high, leadByte (UInt8.ofNat (head + 224)) = ([], some ⟨head, 1, low, high⟩) ∧
      low.toNat ≤ part + 128 ∧ part + 128 ≤ high.toNat := by
  -- The bounds leave room for the second byte, as no shorter code and no surrogate is written.
  by_cases zero : head = 0
  · subst zero
    have room := notOverlong rfl
    exact ⟨0xa0, 0xbf, by rfl, by simp; omega, by simp; omega⟩
  · by_cases thirteen : head = 13
    · subst thirteen
      have room := notSurrogate rfl
      exact ⟨0x80, 0x9f, by rfl, by simp, by simp; omega⟩
    · have value : (UInt8.ofNat (head + 224)).toNat = head + 224 := toNat_ofNat_byte (by omega)
      refine ⟨0x80, 0xbf, ?_, by simp, by simp; omega⟩
      simp only [leadByte, UInt8.lt_iff_toNat_lt, ← UInt8.toNat_inj, value, UInt8.reduceToNat]
      rw [if_neg (by omega), if_neg (by omega), if_neg (by omega), if_neg (by omega),
        if_neg (by omega), if_pos (by omega), Nat.add_sub_cancel]

theorem leadByte_of_four {head part : Nat} (small : head ≤ 4) (fits : part < 64)
    (notOverlong : head = 0 → 16 ≤ part) (notLarge : head = 4 → part < 16) :
    ∃ low high, leadByte (UInt8.ofNat (head + 240)) = ([], some ⟨head, 2, low, high⟩) ∧
      low.toNat ≤ part + 128 ∧ part + 128 ≤ high.toNat := by
  by_cases zero : head = 0
  · subst zero
    have room := notOverlong rfl
    exact ⟨0x90, 0xbf, by rfl, by simp; omega, by simp; omega⟩
  · by_cases four : head = 4
    · subst four
      have room := notLarge rfl
      exact ⟨0x80, 0x8f, by rfl, by simp, by simp; omega⟩
    · have value : (UInt8.ofNat (head + 240)).toNat = head + 240 := toNat_ofNat_byte (by omega)
      refine ⟨0x80, 0xbf, ?_, by simp, by simp; omega⟩
      simp only [leadByte, UInt8.lt_iff_toNat_lt, ← UInt8.toNat_inj, value, UInt8.reduceToNat]
      rw [if_neg (by omega), if_neg (by omega), if_neg (by omega), if_neg (by omega),
        if_neg (by omega), if_neg (by omega), if_neg (by omega), if_pos (by omega),
        Nat.add_sub_cancel]

theorem decodeFrom_utf8EncodeChar (char : Char) (rest : List UInt8) :
    decodeFrom none (String.utf8EncodeChar char ++ rest) = char :: decodeFrom none rest := by
  have same := Char.ofNat_toNat char
  have valid : char.toNat.isValidChar := char.valid
  simp only [Nat.isValidChar] at valid
  simp only [String.utf8EncodeChar, Char.toNat_val]
  generalize char.toNat = code at same valid
  subst same
  split_ifs with one two three
  · rw [List.singleton_append, decodeFrom_none_cons, leadByte_of_one (by omega)]
    rfl
  · have parts : code / 64 % 32 * 64 + code % 64 = code := by omega
    simp only [List.cons_append, List.nil_append, decodeFrom_none_cons]
    rw [leadByte_of_two (by omega) (by omega), List.nil_append,
      decodeFrom_completed (by simp) (by simp; omega), parts]
  · have parts : (code / 4096 % 16 * 64 + code / 64 % 64) * 64 + code % 64 = code := by omega
    obtain ⟨low, high, first, above, below⟩ := @leadByte_of_three (code / 4096 % 16)
      (code / 64 % 64) (by omega) (by omega) (by omega) (by omega)
    simp only [List.cons_append, List.nil_append, decodeFrom_none_cons]
    rw [first, List.nil_append, decodeFrom_continued above below,
      decodeFrom_completed (by simp) (by simp; omega), parts]
  · have parts : ((code / 262144 % 8 * 64 + code / 4096 % 64) * 64 + code / 64 % 64) * 64 +
        code % 64 = code := by omega
    obtain ⟨low, high, first, above, below⟩ := @leadByte_of_four (code / 262144 % 8)
      (code / 4096 % 64) (by omega) (by omega) (by omega) (by omega)
    simp only [List.cons_append, List.nil_append, decodeFrom_none_cons]
    rw [first, List.nil_append, decodeFrom_continued above below,
      decodeFrom_continued (by simp) (by simp; omega),
      decodeFrom_completed (by simp) (by simp; omega), parts]

theorem decodeUtf8_utf8Bytes (text : List Char) : decodeUtf8 (utf8Bytes text) = text := by
  induction text with
  | nil => rfl
  | cons char text ih =>
      simp only [decodeUtf8, utf8Bytes, List.flatMap_cons, decodeFrom_utf8EncodeChar] at ih ⊢
      rw [ih]

/-! Characters after bytes that encode none, and how many characters there are. -/

/-- Only a continuation byte continues an open character. -/
def TakesContinuation (state : Option PartialChar) : Prop :=
  ∀ opened ∈ state, 128 ≤ opened.low.toNat ∧ opened.high.toNat < 192

def pending (state : Option PartialChar) : Nat :=
  if state.isSome then 1 else 0

theorem takesContinuation_none : TakesContinuation none := by
  simp [TakesContinuation]

theorem leadByte_takesContinuation (byte : UInt8) : TakesContinuation (leadByte byte).2 := by
  unfold leadByte
  split_ifs <;> simp [TakesContinuation]

theorem next_takesContinuation (opened : PartialChar) (byte : UInt8) :
    TakesContinuation (opened.next byte).2 := by
  unfold PartialChar.next
  split
  · split <;> simp [TakesContinuation]
  · exact leadByte_takesContinuation byte

theorem length_leadByte (byte : UInt8) :
    (leadByte byte).1.length + pending (leadByte byte).2 = 1 := by
  unfold leadByte
  split_ifs <;> rfl

theorem length_next_le (opened : PartialChar) (byte : UInt8) :
    (opened.next byte).1.length + pending (opened.next byte).2 ≤ 2 := by
  unfold PartialChar.next
  split
  · split <;> simp [pending]
  · have lead := length_leadByte byte
    simp only [List.length_cons]
    omega

theorem length_decodeFrom_nil (state : Option PartialChar) :
    (decodeFrom state []).length = pending state := by
  cases state <;> rfl

theorem length_decodeFrom_cons_le (state : Option PartialChar) (byte : UInt8)
    (rest : List UInt8) :
    ∃ next, TakesContinuation next ∧
      (decodeFrom state (byte :: rest)).length + pending next ≤
        (decodeFrom next rest).length + 1 + pending state := by
  cases state with
  | none =>
      refine ⟨(leadByte byte).2, leadByte_takesContinuation byte, ?_⟩
      have lead := length_leadByte byte
      rw [decodeFrom_none_cons, List.length_append]
      omega
  | some opened =>
      refine ⟨(opened.next byte).2, next_takesContinuation opened byte, ?_⟩
      have next := length_next_le opened byte
      have owed : pending (some opened) = 1 := rfl
      rw [decodeFrom_some_cons, List.length_append]
      omega

theorem utf8EncodeChar_lead (char : Char) :
    ∃ lead more, String.utf8EncodeChar char = lead :: more ∧
      (lead.toNat < 128 ∨ 192 ≤ lead.toNat) := by
  simp only [String.utf8EncodeChar]
  split_ifs with one two three
  · exact ⟨_, _, rfl, Or.inl (by rw [toNat_ofNat_byte (by omega)]; omega)⟩
  all_goals exact ⟨_, _, rfl, Or.inr (by rw [toNat_ofNat_byte (by omega)]; omega)⟩

/-- A character is read for itself, whatever bytes stand before it. -/
theorem decodeFrom_char {state : Option PartialChar} (takes : TakesContinuation state)
    (char : Char) (rest : List UInt8) :
    decodeFrom state (String.utf8EncodeChar char ++ rest) =
      decodeFrom state [] ++ char :: decodeFrom none rest := by
  cases state with
  | none =>
      rw [decodeFrom_utf8EncodeChar]
      rfl
  | some opened =>
      obtain ⟨lead, more, bytes, outside⟩ := utf8EncodeChar_lead char
      obtain ⟨above, below⟩ := takes opened rfl
      have refused : (opened.low ≤ lead && lead ≤ opened.high) = false := by
        simp only [UInt8.le_iff_toNat_le, Bool.and_eq_false_iff, decide_eq_false_iff_not]
        omega
      have interrupted : decodeFrom (some opened) (String.utf8EncodeChar char ++ rest) =
          replacementChar :: decodeFrom none (String.utf8EncodeChar char ++ rest) := by
        simp [bytes, decodeFrom_some_cons, decodeFrom_none_cons, PartialChar.next, refused]
      rw [interrupted, decodeFrom_utf8EncodeChar]
      rfl

theorem length_decodeFrom_char {state : Option PartialChar} (takes : TakesContinuation state)
    (char : Char) (rest : List UInt8) :
    (decodeFrom state (String.utf8EncodeChar char ++ rest)).length =
      (decodeFrom none rest).length + 1 + pending state := by
  rw [decodeFrom_char takes, List.length_append, length_decodeFrom_nil, List.length_cons]
  omega

theorem decodeFrom_append_char {state : Option PartialChar} (takes : TakesContinuation state)
    (bytes : List UInt8) (char : Char) (rest : List UInt8) :
    decodeFrom state (bytes ++ (String.utf8EncodeChar char ++ rest)) =
      decodeFrom state bytes ++ char :: decodeFrom none rest := by
  induction bytes generalizing state with
  | nil => exact decodeFrom_char takes char rest
  | cons byte bytes ih =>
      cases state with
      | none =>
          rw [List.cons_append, decodeFrom_none_cons, ih (leadByte_takesContinuation byte),
            decodeFrom_none_cons, List.append_assoc]
      | some opened =>
          rw [List.cons_append, decodeFrom_some_cons, ih (next_takesContinuation opened byte),
            decodeFrom_some_cons, List.append_assoc]

theorem decodeUtf8_append_utf8Bytes (bytes : List UInt8) (text : List Char) :
    decodeUtf8 (bytes ++ utf8Bytes text) = decodeUtf8 bytes ++ text := by
  cases text with
  | nil => simp [utf8Bytes]
  | cons char text =>
      have others : decodeFrom none (utf8Bytes text) = text := decodeUtf8_utf8Bytes text
      rw [utf8Bytes, List.flatMap_cons, ← utf8Bytes, decodeUtf8,
        decodeFrom_append_char takesContinuation_none, others, decodeUtf8]

theorem decodeUtf8_utf8Bytes_append (text : List Char) (bytes : List UInt8) :
    decodeUtf8 (utf8Bytes text ++ bytes) = text ++ decodeUtf8 bytes := by
  induction text with
  | nil => rfl
  | cons char text ih =>
      rw [utf8Bytes, List.flatMap_cons, ← utf8Bytes, List.append_assoc, decodeUtf8,
        decodeFrom_utf8EncodeChar, ← decodeUtf8, ih, List.cons_append]

end ODataAdapter.Text
