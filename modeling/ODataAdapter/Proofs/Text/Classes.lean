import ODataAdapter.Text.Blank
import ODataAdapter.Text.Letter
import ODataAdapter.Text.Numeral
import Mathlib

/-!
Blank characters are neither letters nor numerals, and trimming leaves a text alone that begins and
ends with other characters.
-/

namespace ODataAdapter.Text

def blankCodes : List Nat :=
  [0x9, 0xa, 0xb, 0xc, 0xd, 0x20, 0x85, 0xa0, 0x1680, 0x2000, 0x2001, 0x2002, 0x2003, 0x2004,
   0x2005, 0x2006, 0x2007, 0x2008, 0x2009, 0x200a, 0x2028, 0x2029, 0x202f, 0x205f, 0x3000]

theorem mem_blankCodes {char : Char} (blank : isBlank char = true) : char.toNat ∈ blankCodes := by
  simp only [isBlank, Bool.or_eq_true, Bool.and_eq_true, decide_eq_true_eq] at blank
  simp only [blankCodes, List.mem_cons, List.not_mem_nil, or_false]
  omega

theorem blankCodes_not_in_ranges : ∀ code ∈ blankCodes,
    (code < 48 ∨ 128 ≤ code) ∧ inRanges letterRanges code = false ∧
      inRanges numeralRanges code = false := by
  decide +kernel

theorem isLetter_of_isBlank {char : Char} (blank : isBlank char = true) :
    isLetter char = false := by
  obtain ⟨small, outside, _⟩ := blankCodes_not_in_ranges char.toNat (mem_blankCodes blank)
  have codes : 'A'.toNat = 65 ∧ 'Z'.toNat = 90 ∧ 'a'.toNat = 97 ∧ 'z'.toNat = 122 :=
    ⟨rfl, rfl, rfl, rfl⟩
  simp only [isLetter, outside, Char.isAlpha, Char.isUpper, Char.isLower, ge_iff_le,
    UInt32.le_iff_toNat_le, Char.toNat_val, Bool.or_eq_false_iff, Bool.and_false, and_true,
    Bool.and_eq_false_iff, decide_eq_false_iff_not]
  constructor <;> omega

theorem isNumeral_of_isBlank {char : Char} (blank : isBlank char = true) :
    isNumeral char = false := by
  obtain ⟨small, _, outside⟩ := blankCodes_not_in_ranges char.toNat (mem_blankCodes blank)
  have codes : '0'.toNat = 48 ∧ '9'.toNat = 57 := ⟨rfl, rfl⟩
  simp only [isNumeral, outside, Char.isDigit, ge_iff_le, UInt32.le_iff_toNat_le, Char.toNat_val,
    Bool.or_eq_false_iff, Bool.and_false, and_true, Bool.and_eq_false_iff, decide_eq_false_iff_not]
  omega

theorem trimStart_eq_self {text : List Char} (starts : ∀ char ∈ text.head?, isBlank char = false) :
    trimStart text = text := by
  cases text with
  | nil => rfl
  | cons char text => simp [trimStart, starts char rfl]

theorem trimEnd_eq_self {text : List Char} (ends : ∀ char ∈ text.getLast?, isBlank char = false) :
    trimEnd text = text := by
  have reversed : ∀ char ∈ text.reverse.head?, isBlank char = false := by
    simpa [List.head?_reverse] using ends
  have same : text.reverse.dropWhile isBlank = text.reverse := trimStart_eq_self reversed
  rw [trimEnd, same, List.reverse_reverse]

theorem trim_eq_self {text : List Char} (starts : ∀ char ∈ text.head?, isBlank char = false)
    (ends : ∀ char ∈ text.getLast?, isBlank char = false) : trim text = text := by
  rw [trim, trimStart_eq_self starts, trimEnd_eq_self ends]

theorem isBlank_getLast_trimEnd (text : List Char) :
    ∀ char ∈ (trimEnd text).getLast?, isBlank char = false := by
  intro char isLast
  rw [trimEnd, List.getLast?_reverse] at isLast
  have fails := List.head?_dropWhile_not isBlank text.reverse
  rw [Option.mem_def.1 isLast] at fails
  simpa using fails

theorem isEmpty_trimStart (text : List Char) : (trimStart text).isEmpty = allBlank text := by
  rw [Bool.eq_iff_iff, List.isEmpty_iff, trimStart, List.dropWhile_eq_nil_iff, allBlank,
    List.all_eq_true]

/-- Once blanks are trimmed, none is left at the end. -/
theorem eq_nil_of_blank_end {text word rest : List Char} (whole : trim text = word ++ rest)
    (blank : allBlank rest = true) : rest = [] := by
  by_contra nonempty
  have isLast : rest.getLast nonempty ∈ (trim text).getLast? := by
    rw [whole, List.getLast?_append_of_ne_nil word nonempty]
    exact List.getLast?_eq_some_getLast nonempty
  have notBlank := isBlank_getLast_trimEnd (trimStart text) _ isLast
  rw [List.all_eq_true.1 blank _ (List.getLast_mem nonempty)] at notBlank
  contradiction

end ODataAdapter.Text
