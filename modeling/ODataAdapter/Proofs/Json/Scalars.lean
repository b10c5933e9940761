import ODataAdapter.Json.Printer
import ODataAdapter.Json.Reader
import ODataAdapter.Proofs.Filter.Spelling
import Mathlib

/-!
Strings and whole numbers that are printed as JSON are taken apart again as they were written, and
mean what they meant.
-/

namespace ODataAdapter

namespace Text

theorem hexDigit?_digitChar : ∀ digit < 16, hexDigit? (Nat.digitChar digit) = some digit := by
  decide

theorem hexDigit?_of_isDigit {char : Char} (isDigit : char.isDigit = true) :
    hexDigit? char = some (char.toNat - '0'.toNat) := by
  have decimal : ('0' ≤ char && char ≤ '9') = true := isDigit
  rw [hexDigit?, if_pos decimal]

theorem isDigit_toDigits (value : Nat) : ∀ char ∈ Nat.toDigits 10 value, char.isDigit = true := by
  intro char member
  exact Nat.isDigit_of_mem_toDigits (by decide) (by decide) member

theorem numberOf_toDigits (value : Nat) : numberOf 10 (Nat.toDigits 10 value) = value := by
  have decimals (digits : List Char) (start : Nat)
      (isDigits : ∀ char ∈ digits, char.isDigit = true) :
      digits.foldl (fun value digit => value * 10 + (hexDigit? digit).getD 0) start =
        Nat.ofDigitChars 10 digits start := by
    induction digits generalizing start with
    | nil => simp
    | cons digit digits ih =>
        have first := hexDigit?_of_isDigit (isDigits digit List.mem_cons_self)
        have others := fun start => ih start fun char member =>
          isDigits char (List.mem_cons_of_mem _ member)
        rw [List.foldl_cons, others, first, Option.getD_some, Nat.ofDigitChars_cons,
          Nat.mul_comm 10]
  calc
    numberOf 10 (Nat.toDigits 10 value) = Nat.ofDigitChars 10 (Nat.toDigits 10 value) 0 :=
      decimals _ 0 (isDigit_toDigits value)
    _ = value := Nat.ofDigitChars_toDigits (by decide) (by decide)

theorem head?_toDigits_ne_zero (value : Nat) :
    0 < value → (Nat.toDigits 10 value).head? ≠ some '0' := by
  induction value using Nat.strong_induction_on with
  | _ value ih =>
      intro positive
      by_cases single : value < 10
      · have heads : ∀ digit < 10, 0 < digit → some (Nat.digitChar digit) ≠ some '0' := by decide
        rw [Nat.toDigits_of_lt_base single]
        exact heads value single positive
      · have leading := ih (value / 10) (by omega) (by omega)
        rw [Nat.toDigits_of_base_le (by decide) (by omega),
          List.head?_append_of_ne_nil _ Nat.toDigits_ne_nil]
        exact leading

end Text

def StringPiece.ofChar (char : Char) : StringPiece :=
  if char.toNat < 0x20 ∧ char ∉ ['\x08', '\x0c', '\n', '\r', '\t'] then .unit char.toNat
  else .char char

def WrittenString.ofString (text : String) : WrittenString :=
  text.toList.map StringPiece.ofChar

namespace StringPiece

theorem resolve?_unit {code : Nat} (small : code < 0xd800) (pieces : WrittenString) :
    resolve? (.unit code :: pieces) = (resolve? pieces).map (Char.ofNat code :: ·) := by
  have notLeading : ¬0xd800 ≤ code := by omega
  have notTrailing : ¬0xdc00 ≤ code := by omega
  cases pieces with
  | nil => simp [resolve?, notLeading]
  | cons next pieces =>
      cases next with
      | char next => simp [resolve?, notLeading]
      | unit next => simp [resolve?, notLeading, notTrailing]

theorem resolve?_ofChar (char : Char) (pieces : WrittenString) :
    resolve? (ofChar char :: pieces) = (resolve? pieces).map (char :: ·) := by
  unfold ofChar
  split
  next control =>
    have back : Char.ofNat char.toNat = char := Char.ofNat_toNat char
    rw [resolve?_unit (by omega), back]
  next => rw [resolve?]

end StringPiece

theorem WrittenString.toString?_ofString (text : String) :
    WrittenString.toString? (ofString text) = some text := by
  have characters (chars : List Char) :
      StringPiece.resolve? (chars.map StringPiece.ofChar) = some chars := by
    induction chars with
    | nil => rfl
    | cons char chars ih => rw [List.map_cons, StringPiece.resolve?_ofChar, ih, Option.map_some]
  rw [toString?, ofString, characters, Option.map_some, String.ofList_toList]

def WrittenNumber.ofInt (value : Int) : WrittenNumber :=
  ⟨value < 0, Nat.toDigits 10 value.natAbs, none, none⟩

theorem JsonNumber.text_integer (value : Int) :
    (integer value).text =
      (if value < 0 then ['-'] else []) ++ Nat.toDigits 10 value.natAbs := by
  cases value with
  | ofNat value => simp [text, toString, Int.repr]
  | negSucc value => simp [text, toString, Int.repr]

def JsonNumber.Begins (char : Char) : Prop :=
  char = '-' ∨ char.isDigit = true

theorem JsonNumber.text_integer_begins (value : Int) :
    ∃ char rest, (integer value).text = char :: rest ∧ Begins char := by
  rw [text_integer]
  by_cases negative : value < 0
  · exact ⟨'-', _, by rw [if_pos negative, List.singleton_append], Or.inl rfl⟩
  · have isDigits := Text.isDigit_toDigits value.natAbs
    obtain ⟨char, rest, written⟩ := List.exists_cons_of_ne_nil
      (Nat.toDigits_ne_nil : Nat.toDigits 10 value.natAbs ≠ [])
    rw [written] at isDigits
    exact ⟨char, rest, by rw [if_neg negative, written, List.nil_append],
      Or.inr (isDigits char List.mem_cons_self)⟩

namespace Written

open ODataAdapter.Filter (EndsRun takeWhile_run dropWhile_run)

theorem hexQuad?_digits {code : Nat} (small : code < 0x10000) :
    hexQuad? (Nat.digitChar (code / 4096 % 16)) (Nat.digitChar (code / 256 % 16))
      (Nat.digitChar (code / 16 % 16)) (Nat.digitChar (code % 16)) = some code := by
  have digit (part : Nat) := Text.hexDigit?_digitChar (part % 16) (Nat.mod_lt _ (by decide))
  simp only [hexQuad?, digit, bind, Option.bind, pure]
  congr 1
  omega

def precededBy (piece : StringPiece) (text : WrittenString × List Char) :
    WrittenString × List Char :=
  (piece :: text.1, text.2)

theorem stringRest_escape {letter char : Char} (escape : escape? letter = some char)
    (rest : List Char) :
    stringRest ('\\' :: letter :: rest) = (stringRest rest).map (precededBy (.char char)) := by
  have notNumber : letter ≠ 'u' := by
    rintro rfl
    contradiction
  rw [stringRest, escape]
  · cases stringRest rest <;> rfl
  · intro _ _ _ _ _ same
    exact absurd same notNumber

theorem stringRest_plain {char : Char} (printable : ¬char.toNat < 0x20) (notQuote : char ≠ '"')
    (notBackslash : char ≠ '\\') (rest : List Char) :
    stringRest (char :: rest) = (stringRest rest).map (precededBy (.char char)) := by
  have accepted : ¬(char.toNat < 0x20 || char = '\\') = true := by simp [printable, notBackslash]
  rw [stringRest, if_neg accepted]
  · cases stringRest rest <;> rfl
  · exact notQuote
  · intro _ _ _ _ _ same
    exact absurd same notBackslash
  · intro _ _ same
    exact absurd same notBackslash

theorem stringRest_hexQuad {code : Nat} (small : code < 0x10000) (rest : List Char) :
    stringRest ('\\' :: 'u' :: Json.hexQuad code ++ rest) =
      (stringRest rest).map (precededBy (.unit code)) := by
  simp only [Json.hexQuad, List.map_cons, List.map_nil, List.cons_append, List.nil_append,
    stringRest, hexQuad?_digits small]
  cases stringRest rest <;> rfl

theorem stringRest_escapedChar (char : Char) (rest : List Char) :
    stringRest (Json.escapedChar char ++ rest) =
      (stringRest rest).map (precededBy (.ofChar char)) := by
  unfold Json.escapedChar
  split
  -- The seven characters that are escaped by a letter or by themselves.
  iterate 7 exact stringRest_escape rfl rest
  next notQuote notBackslash notBackspace notFeed notNewline notReturn notTab =>
    split
    next control =>
      have piece : StringPiece.ofChar char = .unit char.toNat := by
        simp_all [StringPiece.ofChar]
      rw [piece]
      exact stringRest_hexQuad (by omega) rest
    next printable =>
      have piece : StringPiece.ofChar char = .char char := if_neg fun both => printable both.1
      rw [piece]
      exact stringRest_plain printable notQuote notBackslash rest

theorem stringRest_quoted (text : String) (rest : List Char) :
    stringRest (text.toList.flatMap Json.escapedChar ++ '"' :: rest) =
      some (WrittenString.ofString text, rest) := by
  have characters (chars : List Char) :
      stringRest (chars.flatMap Json.escapedChar ++ '"' :: rest) =
        some (chars.map StringPiece.ofChar, rest) := by
    induction chars with
    | nil => simp [stringRest]
    | cons char chars ih =>
        rw [List.flatMap_cons, List.append_assoc, stringRest_escapedChar, ih]
        rfl
  exact characters text.toList

/-- What may stand behind a value inside of an array or object, or behind the whole text. -/
def FollowsValue (rest : List Char) : Prop :=
  ∀ char ∈ rest.head?, char ∈ [',', ']', '\x7d']

theorem followsValue_nil : FollowsValue [] := by
  intro char isHead
  contradiction

theorem followsValue_cons {char : Char} (ends : char ∈ [',', ']', '\x7d']) (rest : List Char) :
    FollowsValue (char :: rest) := by
  intro first isHead
  obtain rfl : char = first := Option.some.inj isHead
  exact ends

theorem FollowsValue.endsDigits {rest : List Char} (follows : FollowsValue rest) :
    EndsRun Char.isDigit rest := by
  have others : ∀ char ∈ [',', ']', '\x7d'], char.isDigit = false :=
    List.all_iff_forall_prop.1 (by decide)
  intro char starts
  exact others char (follows char starts)

theorem whole?_toDigits (value : Nat) {rest : List Char} (ends : EndsRun Char.isDigit rest) :
    whole? (Nat.toDigits 10 value ++ rest) = some (Nat.toDigits 10 value, rest) := by
  have isDigits := Text.isDigit_toDigits value
  have leading := Text.head?_toDigits_ne_zero value
  have digits := takeWhile_run isDigits ends
  have behind := dropWhile_run isDigits ends
  by_cases zero : value = 0
  · subst zero
    rfl
  · cases written : Nat.toDigits 10 value with
    | nil => exact absurd written Nat.toDigits_ne_nil
    | cons first others =>
        rw [written] at leading digits behind
        have notZero : first ≠ '0' := by
          rintro rfl
          exact leading (Nat.pos_of_ne_zero zero) rfl
        have notLeading : ∀ text, first :: others ++ rest = '0' :: text → False := by
          intro text same
          exact notZero (List.cons.inj same).1
        rw [whole?.eq_2 _ notLeading, digits?, digits, behind]

theorem number?_integer (value : Int) {rest : List Char} (follows : FollowsValue rest) :
    number? ((JsonNumber.integer value).text ++ rest) = some (.ofInt value, rest) := by
  have whole := whole?_toDigits value.natAbs follows.endsDigits
  -- Nothing that follows a value continues a number.
  have noFraction : fraction? rest = some (none, rest) := by
    rw [fraction?]
    rintro behind rfl
    exact absurd (follows '.' rfl) (by decide)
  have noExponent : exponent? rest = some (none, rest) := by
    rw [exponent?]
    · rintro behind rfl
      exact absurd (follows 'e' rfl) (by decide)
    · rintro behind rfl
      exact absurd (follows 'E' rfl) (by decide)
  rw [JsonNumber.text_integer]
  by_cases negative : value < 0
  · simp only [negative, if_true, List.cons_append, List.nil_append]
    simp [number?, whole, noFraction, noExponent, WrittenNumber.ofInt, negative]
  · have noMinus : ∀ text, Nat.toDigits 10 value.natAbs ++ rest = '-' :: text → False := by
      intro text same
      have noDigit : '-'.isDigit = false := by decide
      rw [same] at whole
      simp [whole?, digits?, noDigit] at whole
    simp only [negative, if_false, List.nil_append]
    rw [number?.eq_2 _ noMinus]
    simp [whole, noFraction, noExponent, WrittenNumber.ofInt, negative]

end Written

/-- A number as it is taken apart when its text is read. -/
def WrittenNumber.ofNumber (value : JsonNumber) : WrittenNumber :=
  ((Written.number? value.text).map Prod.fst).getD default

theorem WrittenNumber.ofNumber_integer (value : Int) :
    ofNumber (.integer value) = .ofInt value := by
  have read := Written.number?_integer value Written.followsValue_nil
  rw [List.append_nil] at read
  rw [ofNumber, read, Option.map_some, Option.getD_some]

end ODataAdapter
