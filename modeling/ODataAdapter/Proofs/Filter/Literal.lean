import ODataAdapter.Proofs.Filter.Spelling

/-!
Literals: numbers by their parts, strings, and words. What the scanner takes is a literal, and a
literal is taken whole where nothing after it runs on.
-/

namespace ODataAdapter.Filter

def IsDigits (text : List Char) : Prop :=
  text ≠ [] ∧ ∀ char ∈ text, char.isDigit = true

def Optionally (part : List Char → Prop) (text : List Char) : Prop :=
  text = [] ∨ part text

def OneOf (chars text : List Char) : Prop :=
  ∃ char ∈ chars, text = [char]

def IsFraction (text : List Char) : Prop :=
  ∃ digits, IsDigits digits ∧ text = '.' :: digits

def IsExponent (text : List Char) : Prop :=
  ∃ mark sign digits, OneOf ['e', 'E'] mark ∧ Optionally (OneOf ['+', '-']) sign ∧
    IsDigits digits ∧ text = mark ++ sign ++ digits

def typeLetters : List Char :=
  ['m', 'M', 'd', 'D', 'f', 'F', 'l', 'L']

theorem typeLetters_continue : ∀ char ∈ typeLetters, continuesName char = true :=
  List.all_iff_forall_prop.1 (by decide)

theorem typeLetters_other : ∀ char ∈ typeLetters,
    char.isDigit = false ∧ char ≠ '.' ∧ char ∉ ['e', 'E'] :=
  List.all_iff_forall_prop.1 (by decide)

theorem not_inNumber_of_stop {char : Char} (stop : continuesName char = false) :
    char.isDigit = false ∧ char ∉ ['e', 'E'] ∧ char ∉ typeLetters := by
  have marksContinue : ∀ char ∈ ['e', 'E'], continuesName char = true :=
    List.all_iff_forall_prop.1 (by decide)
  refine ⟨?_, fun member => ?_, fun member => ?_⟩
  · exact Bool.eq_false_iff.2 fun digit => by simp [continuesName_of_isDigit digit] at stop
  · simp [marksContinue char member] at stop
  · simp [typeLetters_continue char member] at stop

def IsNumber (text : List Char) : Prop :=
  ∃ sign digits fraction exponent letter,
    Optionally (OneOf ['-']) sign ∧ IsDigits digits ∧ Optionally IsFraction fraction ∧
      Optionally IsExponent exponent ∧ Optionally (OneOf typeLetters) letter ∧
      text = sign ++ digits ++ fraction ++ exponent ++ letter

theorem digits?_eq_some_iff {text digits rest : List Char} :
    digits? text = some (digits, rest) ↔
      text = digits ++ rest ∧ IsDigits digits ∧ EndsRun Char.isDigit rest := by
  constructor
  · intro found
    unfold digits? at found
    split at found
    · simp at found
    · rename_i notNone
      simp only [Option.some.injEq, Prod.mk.injEq] at found
      obtain ⟨rfl, rfl⟩ := found
      refine ⟨List.takeWhile_append_dropWhile.symm, ⟨notNone, ?_⟩, endsRun_dropWhile _ text⟩
      exact List.all_eq_true.1 List.all_takeWhile
  · rintro ⟨rfl, ⟨nonempty, digit⟩, ends⟩
    unfold digits?
    rw [takeWhile_run digit ends, dropWhile_run digit ends]
    split
    · exact absurd rfl nonempty
    · rfl

theorem oneOf?_eq_some_iff {chars text read rest : List Char} :
    oneOf? chars text = some (read, rest) ↔ text = read ++ rest ∧ OneOf chars read := by
  cases text with
  | nil =>
      simp only [oneOf?, reduceCtorEq, false_iff, not_and]
      rintro same ⟨char, _, rfl⟩
      simp at same
  | cons char text =>
      simp only [oneOf?]
      constructor
      · intro found
        split at found
        · rename_i member
          simp only [Option.some.injEq, Prod.mk.injEq] at found
          obtain ⟨rfl, rfl⟩ := found
          exact ⟨rfl, char, member, rfl⟩
        · simp at found
      · rintro ⟨same, given, member, rfl⟩
        simp only [List.cons_append, List.nil_append, List.cons.injEq] at same
        obtain ⟨rfl, rfl⟩ := same
        simp [member]

theorem oneOf?_eq_none {chars rest : List Char} (other : ∀ char ∈ rest.head?, char ∉ chars) :
    oneOf? chars rest = none := by
  refine Option.eq_none_iff_forall_ne_some.2 fun ⟨read, left⟩ found => ?_
  obtain ⟨rfl, char, member, rfl⟩ := oneOf?_eq_some_iff.1 found
  exact other char rfl member

def Takes (scan : List Char → Option (List Char × List Char)) (part : List Char → Prop) : Prop :=
  ∀ text read rest, scan text = some (read, rest) → text = read ++ rest ∧ part read

section Optional

variable {scan : List Char → Option (List Char × List Char)} {part : List Char → Prop}

theorem optional_append {read rest : List Char} (given : Optionally part read)
    (present : part read → scan (read ++ rest) = some (read, rest)) (absent : scan rest = none) :
    optional scan (read ++ rest) = (read, rest) := by
  rcases given with rfl | given
  · simp [optional, absent]
  · simp [optional, present given]

theorem optional_spec (takes : Takes scan part) (text : List Char) :
    text = (optional scan text).1 ++ (optional scan text).2 ∧
      Optionally part (optional scan text).1 := by
  unfold optional
  cases scanned : scan text with
  | none => exact ⟨rfl, Or.inl rfl⟩
  | some result =>
      have ⟨whole, given⟩ := takes _ _ _ scanned
      exact ⟨whole, Or.inr given⟩

end Optional

theorem takes_oneOf (chars : List Char) : Takes (oneOf? chars) (OneOf chars) :=
  fun _ _ _ found => oneOf?_eq_some_iff.1 found

theorem takes_fraction : Takes fraction? IsFraction := by
  intro text read rest found
  simp only [fraction?, Option.bind_eq_bind, Option.bind_eq_some_iff, Prod.exists,
    Option.pure_def, Option.some.injEq, Prod.mk.injEq] at found
  obtain ⟨point, middle, foundPoint, digits, left, foundDigits, rfl, rfl⟩ := found
  obtain ⟨rfl, char, member, rfl⟩ := takes_oneOf _ _ _ _ foundPoint
  obtain ⟨rfl, spelled, _⟩ := digits?_eq_some_iff.1 foundDigits
  have isPoint : char = '.' := by simpa using member
  exact ⟨by simp, digits, spelled, by simp [isPoint]⟩

theorem takes_exponent : Takes exponent? IsExponent := by
  intro text read rest found
  simp only [exponent?, Option.bind_eq_bind, Option.bind_eq_some_iff, Prod.exists,
    Option.pure_def, Option.some.injEq, Prod.mk.injEq] at found
  obtain ⟨mark, middle, foundMark, digits, left, foundDigits, rfl, rfl⟩ := found
  obtain ⟨rfl, isMark⟩ := takes_oneOf _ _ _ _ foundMark
  obtain ⟨wholeSign, isSign⟩ := optional_spec (takes_oneOf ['+', '-']) middle
  obtain ⟨wholeDigits, isDigits, _⟩ := digits?_eq_some_iff.1 foundDigits
  refine ⟨?_, mark, _, digits, isMark, isSign, isDigits, rfl⟩
  rw [wholeDigits] at wholeSign
  calc mark ++ middle = mark ++ (_ ++ (digits ++ left)) := congrArg (mark ++ ·) wholeSign
    _ = _ := by simp only [List.append_assoc]

theorem number?_eq_some {text read rest : List Char} (found : number? text = some (read, rest)) :
    text = read ++ rest ∧ IsNumber read ∧ atNameEnd rest = true := by
  simp only [number?, Option.bind_eq_bind, Option.bind_eq_some_iff, Prod.exists, Option.pure_def,
    Option.some.injEq, Prod.mk.injEq] at found
  obtain ⟨digits, behindDigits, foundDigits, _, ends, rfl, rfl⟩ := found
  obtain ⟨wholeSign, isSign⟩ := optional_spec (takes_oneOf ['-']) text
  obtain ⟨wholeDigits, isDigits, _⟩ := digits?_eq_some_iff.1 foundDigits
  obtain ⟨wholeFraction, isFraction⟩ := optional_spec takes_fraction behindDigits
  obtain ⟨wholeExponent, isExponent⟩ :=
    optional_spec takes_exponent (optional fraction? behindDigits).2
  obtain ⟨wholeLetter, isLetter⟩ := optional_spec (takes_oneOf typeLetters)
    (optional exponent? (optional fraction? behindDigits).2).2
  refine ⟨?_, ⟨_, digits, _, _, _, isSign, isDigits, isFraction, isExponent, isLetter, rfl⟩, ?_⟩
  · rw [wholeDigits] at wholeSign
    rw [wholeLetter] at wholeExponent
    rw [wholeExponent] at wholeFraction
    calc text = _ ++ (digits ++ behindDigits) := wholeSign
      _ = _ ++ (digits ++ (_ ++ (_ ++ (_ ++ _)))) := by
          exact congrArg (fun left => _ ++ (digits ++ left)) wholeFraction
      _ = _ := by simp only [List.append_assoc]; rfl
  · simpa [guard] using ends

theorem head_append {holds : Char → Prop} {first second : List Char}
    (ofFirst : ∀ char ∈ first.head?, holds char) (ofSecond : ∀ char ∈ second.head?, holds char) :
    ∀ char ∈ (first ++ second).head?, holds char := by
  cases first with
  | nil => exact ofSecond
  | cons char first => exact ofFirst

theorem IsDigits.head {digits rest : List Char} (spelled : IsDigits digits) :
    ∀ char ∈ (digits ++ rest).head?, char.isDigit = true := by
  cases digits with
  | nil => exact absurd rfl spelled.1
  | cons digit digits =>
      rintro char starts
      obtain rfl : digit = char := by simpa using starts
      exact spelled.2 digit (by simp)

theorem IsDigits.oneOf?_eq_none {chars digits rest : List Char} (spelled : IsDigits digits)
    (others : ∀ char ∈ chars, char.isDigit = false) : oneOf? chars (digits ++ rest) = none := by
  refine Filter.oneOf?_eq_none fun char starts member => ?_
  have digit := spelled.head char starts
  rw [others char member] at digit
  contradiction

theorem exponent?_append {exponent rest : List Char} (spelled : IsExponent exponent)
    (ends : EndsRun Char.isDigit rest) : exponent? (exponent ++ rest) = some (exponent, rest) := by
  obtain ⟨mark, sign, digits, isMark, isSign, isDigits, rfl⟩ := spelled
  have foundMark : oneOf? ['e', 'E'] (mark ++ (sign ++ (digits ++ rest))) =
      some (mark, sign ++ (digits ++ rest)) := oneOf?_eq_some_iff.2 ⟨rfl, isMark⟩
  have foundSign : optional (oneOf? ['+', '-']) (sign ++ (digits ++ rest)) =
      (sign, digits ++ rest) :=
    optional_append isSign (fun given => oneOf?_eq_some_iff.2 ⟨rfl, given⟩)
      (isDigits.oneOf?_eq_none (List.all_iff_forall_prop.1 (by decide)))
  have foundDigits : digits? (digits ++ rest) = some (digits, rest) :=
    digits?_eq_some_iff.2 ⟨rfl, isDigits, ends⟩
  simp [exponent?, foundMark, foundSign, foundDigits]

theorem fraction?_append {fraction rest : List Char} (spelled : IsFraction fraction)
    (ends : EndsRun Char.isDigit rest) : fraction? (fraction ++ rest) = some (fraction, rest) := by
  obtain ⟨digits, isDigits, rfl⟩ := spelled
  have foundDigits : digits? (digits ++ rest) = some (digits, rest) :=
    digits?_eq_some_iff.2 ⟨rfl, isDigits, ends⟩
  simp [fraction?, oneOf?, foundDigits]

theorem exponent?_eq_none {rest : List Char} (other : ∀ char ∈ rest.head?, char ∉ ['e', 'E']) :
    exponent? rest = none := by
  simp [exponent?, oneOf?_eq_none other]

theorem fraction?_eq_none {rest : List Char} (other : ∀ char ∈ rest.head?, char ≠ '.') :
    fraction? rest = none := by
  have noPoint : oneOf? ['.'] rest = none := oneOf?_eq_none (by simpa using other)
  simp [fraction?, noPoint]

theorem number?_append {text rest : List Char} (spelled : IsNumber text)
    (ends : atNameEnd rest = true) (noPoint : rest.head? ≠ some '.') :
    number? (text ++ rest) = some (text, rest) := by
  obtain ⟨sign, digits, fraction, exponent, letter, isSign, isDigits, isFraction, isExponent,
    isLetter, rfl⟩ := spelled
  have restHead := fun char starts => not_inNumber_of_stop ((atNameEnd_iff rest).1 ends char starts)
  -- From the last part to the first: no part begins with what an earlier one could go on with.
  have letterHead : ∀ char ∈ (letter ++ rest).head?,
      char.isDigit = false ∧ char ≠ '.' ∧ char ∉ ['e', 'E'] := by
    refine head_append ?_ fun char starts => ?_
    · rcases isLetter with rfl | ⟨char, member, rfl⟩
      · simp
      · simpa using typeLetters_other char member
    · obtain ⟨noDigit, noMark, _⟩ := restHead char starts
      exact ⟨noDigit, fun point => noPoint (point ▸ starts), noMark⟩
  have exponentHead : ∀ char ∈ (exponent ++ (letter ++ rest)).head?,
      char.isDigit = false ∧ char ≠ '.' := by
    refine head_append ?_ fun char starts => (letterHead char starts).imp_right And.left
    rcases isExponent with rfl | ⟨mark, _, _, ⟨char, member, rfl⟩, _, _, rfl⟩
    · simp
    · revert char
      simp
  have fractionHead : EndsRun Char.isDigit (fraction ++ (exponent ++ (letter ++ rest))) := by
    refine head_append ?_ fun char starts => (exponentHead char starts).1
    rcases isFraction with rfl | ⟨_, _, rfl⟩
    · simp
    · simp
  have noSign : oneOf? ['-'] (digits ++ (fraction ++ (exponent ++ (letter ++ rest)))) = none :=
    isDigits.oneOf?_eq_none (List.all_iff_forall_prop.1 (by decide))
  have foundSign := optional_append isSign (fun given => oneOf?_eq_some_iff.2 ⟨rfl, given⟩) noSign
  have foundDigits := digits?_eq_some_iff.2 ⟨rfl, isDigits, fractionHead⟩
  have foundFraction := optional_append isFraction
    (fun given => fraction?_append given fun char starts => (exponentHead char starts).1)
    (fraction?_eq_none fun char starts => (exponentHead char starts).2)
  have foundExponent := optional_append isExponent
    (fun given => exponent?_append given fun char starts => (letterHead char starts).1)
    (exponent?_eq_none fun char starts => (letterHead char starts).2.2)
  have noLetter : oneOf? typeLetters rest = none :=
    oneOf?_eq_none fun char starts => (restHead char starts).2.2
  have foundLetter :=
    optional_append isLetter (fun given => oneOf?_eq_some_iff.2 ⟨rfl, given⟩) noLetter
  rw [typeLetters] at foundLetter
  simp [number?, foundSign, foundDigits, foundFraction, foundExponent, foundLetter, ends,
    guard]

def EndsInName (text : List Char) : Prop :=
  ∃ last ∈ text.getLast?, continuesName last = true

/-- Two texts do not run together into one name. -/
def Apart (left right : List Char) : Prop :=
  EndsInName left → atNameEnd right = true

theorem EndsInName.append {left right : List Char} (ends : EndsInName right) :
    EndsInName (left ++ right) := by
  obtain ⟨last, isLast, continues⟩ := ends
  rw [Option.mem_def] at isLast
  exact ⟨last, by simp [List.getLast?_append, isLast], continues⟩

theorem endsInName_of_forall {text : List Char} (nonempty : text ≠ [])
    (continues : ∀ char ∈ text, continuesName char = true) : EndsInName text :=
  ⟨text.getLast nonempty, List.getLast?_eq_some_getLast nonempty,
    continues _ (List.getLast_mem nonempty)⟩

theorem IsName.nonempty {name : List Char} (named : IsName name) : name ≠ [] := by
  rintro rfl
  exact named

theorem IsName.endsInName {name : List Char} (named : IsName name) : EndsInName name :=
  endsInName_of_forall named.nonempty named.continues

theorem IsPath.endsInName {path : List Char} (spelled : IsPath path) : EndsInName path := by
  induction spelled with
  | name named => exact named.endsInName
  | @step name rest _ _ ih =>
      have behind : EndsInName (['/'] ++ rest) := ih.append
      exact behind.append

theorem IsDigits.endsInName {digits : List Char} (spelled : IsDigits digits) :
    EndsInName digits :=
  endsInName_of_forall spelled.1 fun char member =>
    continuesName_of_isDigit (spelled.2 char member)

theorem IsNumber.endsInName {text : List Char} (spelled : IsNumber text) : EndsInName text := by
  obtain ⟨sign, digits, fraction, exponent, letter, _, isDigits, isFraction, isExponent, isLetter,
    rfl⟩ := spelled
  have withDigits : EndsInName (sign ++ digits) := isDigits.endsInName.append
  have withFraction : EndsInName (sign ++ digits ++ fraction) := by
    rcases isFraction with rfl | ⟨behind, isBehind, rfl⟩
    · simpa using withDigits
    · have point : EndsInName (['.'] ++ behind) := isBehind.endsInName.append
      exact point.append
  have withExponent : EndsInName (sign ++ digits ++ fraction ++ exponent) := by
    rcases isExponent with rfl | ⟨mark, _, power, _, _, isPower, rfl⟩
    · simpa using withFraction
    · exact isPower.endsInName.append.append
  rcases isLetter with rfl | ⟨char, member, rfl⟩
  · simpa using withExponent
  · have alone : EndsInName [char] := ⟨char, rfl, typeLetters_continue char member⟩
    exact alone.append

theorem IsQuoted.not_endsInName {text : List Char} (spelled : IsQuoted text) (left : List Char) :
    ¬EndsInName (left ++ text) := by
  obtain ⟨body, _, rfl⟩ := spelled
  have regrouped : left ++ '\'' :: (body ++ ['\'']) = (left ++ '\'' :: body) ++ ['\''] := by simp
  rintro ⟨last, isLast, continues⟩
  rw [regrouped, List.getLast?_concat] at isLast
  obtain rfl : '\'' = last := Option.some.inj isLast
  exact absurd continues (by decide)

/-! Literals. -/

def literalWords : List String :=
  ["true", "false", "null"]

def IsLiteral (text : List Char) : Prop :=
  IsQuoted text ∨ IsTypedLiteral text ∨ IsNumber text ∨ ∃ word ∈ literalWords, text = word.toList

theorem startsName_of_isDigit {char : Char} (digit : char.isDigit = true) :
    startsName char = false := by
  have notUnderscore : char ≠ '_' := by
    rintro rfl
    exact absurd digit (by decide)
  have codes : '0'.toNat = 48 ∧ '9'.toNat = 57 ∧ 'A'.toNat = 65 ∧ 'Z'.toNat = 90 ∧
      'a'.toNat = 97 ∧ 'z'.toNat = 122 := ⟨rfl, rfl, rfl, rfl, rfl, rfl⟩
  simp only [Char.isDigit, ge_iff_le, UInt32.le_iff_toNat_le, Char.toNat_val, Bool.and_eq_true,
    decide_eq_true_eq] at digit
  simp only [startsName, Text.isLetter, Char.isAlpha, Char.isUpper, Char.isLower, ge_iff_le,
    UInt32.le_iff_toNat_le, Char.toNat_val, Bool.or_eq_false_iff, Bool.and_eq_false_iff,
    decide_eq_false_iff_not]
  refine ⟨⟨⟨?_, ?_⟩, Or.inl ?_⟩, notUnderscore⟩ <;> omega

theorem IsNumber.head {text : List Char} (spelled : IsNumber text) :
    ∃ first rest, text = first :: rest ∧
      (first.isDigit = true ∨ first = '-' ∧ ∃ digit ∈ rest.head?, digit.isDigit = true) := by
  obtain ⟨sign, digits, fraction, exponent, letter, isSign, isDigits, _, _, _, rfl⟩ := spelled
  obtain ⟨digit, digits, rfl⟩ := List.exists_cons_of_ne_nil isDigits.1
  have isDigit : digit.isDigit = true := isDigits.2 digit (by simp)
  rcases isSign with rfl | ⟨char, member, rfl⟩
  · exact ⟨digit, _, rfl, Or.inl isDigit⟩
  · obtain rfl : char = '-' := by simpa using member
    exact ⟨'-', _, rfl, Or.inr ⟨rfl, digit, rfl, isDigit⟩⟩

theorem number?_name {name rest : List Char} (named : IsName name) :
    number? (name ++ rest) = none := by
  refine Option.eq_none_iff_forall_ne_some.2 fun ⟨read, left⟩ found => ?_
  obtain ⟨whole, spelled, _⟩ := number?_eq_some found
  obtain ⟨first, more, rfl, starts⟩ := spelled.head
  have other : startsName first = false := by
    rcases starts with digit | ⟨rfl, _⟩
    · exact startsName_of_isDigit digit
    · decide
  exact named.head?_ne other (by rw [whole]; rfl)

theorem typedLiteral?_name {name rest : List Char} (named : IsName name)
    (ends : atNameEnd rest = true) (noQuote : rest.head? ≠ some '\'') :
    typedLiteral? (name ++ rest) = none := by
  have found : name? (name ++ rest) = some (name, rest) :=
    name?_eq_some_iff.2 ⟨rfl, named, ends⟩
  simp [typedLiteral?, found, quoted?_eq_none noQuote]

theorem literalWords_named : ∀ word ∈ literalWords, IsName word.toList := by
  simp only [literalWords, List.forall_mem_cons, List.not_mem_nil, false_implies, implies_true,
    and_true]
  exact ⟨isName_of_forall (List.all_iff_forall_prop.1 (by decide)),
    isName_of_forall (List.all_iff_forall_prop.1 (by decide)),
    isName_of_forall (List.all_iff_forall_prop.1 (by decide))⟩

theorem literal?_eq_or (text : List Char) :
    literal? text = (quoted? text).or ((typedLiteral? text).or ((number? text).or
      ((word? "true" text).or ((word? "false" text).or (word? "null" text))))) := by
  simp only [literal?, Option.orElse_eq_orElse, Option.orElse_eq_or]

theorem literal?_name {name rest : List Char} (named : IsName name)
    (free : ∀ word ∈ literalWords, name ≠ word.toList) (ends : atNameEnd rest = true)
    (noQuote : rest.head? ≠ some '\'') : literal? (name ++ rest) = none := by
  have noWord : ∀ word ∈ literalWords, word? word (name ++ rest) = none := fun word member => by
    simp [word?, keyword?_eq_none named.continues (literalWords_named word member).continues
      (free word member) ends]
  simp only [literalWords, List.forall_mem_cons] at noWord
  simp only [literal?_eq_or, quoted?_eq_none (named.head?_ne (by decide)),
    typedLiteral?_name named ends noQuote, number?_name named, noWord, Option.none_or]

theorem literal?_word {word : String} {rest : List Char} (member : word ∈ literalWords)
    (ends : atNameEnd rest = true) (noQuote : rest.head? ≠ some '\'') :
    literal? (word.toList ++ rest) = some (word.toList, rest) := by
  have named := literalWords_named word member
  have found : word? word (word.toList ++ rest) = some (word.toList, rest) := by
    simp [word?, keyword?_eq_some_iff.2 ⟨rfl, ends⟩]
  have others : ∀ other ∈ literalWords, word ≠ other → word? other (word.toList ++ rest) = none :=
    fun other otherMember different => by
      simp [word?, keyword?_eq_none named.continues (literalWords_named other otherMember).continues
        (fun same => different (String.toList_inj.1 same)) ends]
  rw [literal?_eq_or, quoted?_eq_none (named.head?_ne (by decide)),
    typedLiteral?_name named ends noQuote, number?_name named, Option.none_or, Option.none_or,
    Option.none_or]
  simp only [literalWords, List.mem_cons, List.not_mem_nil, or_false] at member
  rcases member with rfl | rfl | rfl
  · rw [found, Option.some_or]
  · rw [others "true" (by decide) (by decide), found, Option.none_or, Option.some_or]
  · rw [others "true" (by decide) (by decide), others "false" (by decide) (by decide), found,
      Option.none_or, Option.none_or]

theorem literal?_append {text rest : List Char} (spelled : IsLiteral text)
    (apart : Apart text rest) (noQuote : rest.head? ≠ some '\'') (noPoint : rest.head? ≠ some '.') :
    literal? (text ++ rest) = some (text, rest) := by
  rcases spelled with quoted | ⟨name, value, named, _, quoted, rfl⟩ | number | ⟨word, member, rfl⟩
  · rw [literal?_eq_or, quoted?_append quoted noQuote, Option.some_or]
  · have notQuoted : quoted? (name ++ value ++ rest) = none := by
      rw [List.append_assoc]
      exact quoted?_eq_none (named.head?_ne (by decide))
    have typed := typedLiteral?_append named quoted noQuote
    rw [literal?_eq_or, notQuoted, typed, Option.none_or, Option.some_or]
  · have found := number?_append number (apart number.endsInName) noPoint
    obtain ⟨first, more, rfl, starts⟩ := number.head
    have notQuote : first ≠ '\'' := by
      rintro rfl
      rcases starts with digit | ⟨same, _⟩
      · exact absurd digit (by decide)
      · exact absurd same (by decide)
    have notName : startsName first = false := by
      rcases starts with digit | ⟨rfl, _⟩
      · exact startsName_of_isDigit digit
      · decide
    have notQuoted : quoted? (first :: more ++ rest) = none :=
      quoted?_eq_none (by simpa using notQuote)
    have notTyped : typedLiteral? (first :: more ++ rest) = none := by
      simp [typedLiteral?, name?_eq_none notName]
    rw [literal?_eq_or, notQuoted, notTyped, found, Option.none_or, Option.none_or, Option.some_or]
  · exact literal?_word member (apart (literalWords_named word member).endsInName) noQuote

theorem word?_eq_some {word : String} {text read rest : List Char}
    (found : word? word text = some (read, rest)) :
    text = read ++ rest ∧ read = word.toList ∧ atNameEnd rest = true := by
  obtain ⟨left, foundLeft, same⟩ := Option.map_eq_some_iff.1 found
  simp only [Prod.mk.injEq] at same
  obtain ⟨rfl, rfl⟩ := same
  obtain ⟨whole, ends⟩ := keyword?_eq_some_iff.1 foundLeft
  exact ⟨whole, rfl, ends⟩

theorem literal?_spelling {text read rest : List Char}
    (found : literal? text = some (read, rest)) :
    text = read ++ rest ∧
      (IsQuoted read ∨ (∃ name value, IsName name ∧ IsQuoted value ∧ read = name ++ value) ∨
        atNameEnd rest = true ∧ (IsNumber read ∨ ∃ word ∈ literalWords, read = word.toList)) := by
  simp only [literal?_eq_or, Option.or_eq_some_iff] at found
  rcases found with quoted | ⟨_, typed | ⟨_, number | ⟨_, isWord⟩⟩⟩
  · obtain ⟨whole, spelled, _⟩ := quoted?_eq_some quoted
    exact ⟨whole, .inl spelled⟩
  · obtain ⟨whole, _, spelled⟩ := typedLiteral?_eq_some typed
    exact ⟨whole, .inr (.inl spelled)⟩
  · obtain ⟨whole, spelled, ends⟩ := number?_eq_some number
    exact ⟨whole, .inr (.inr ⟨ends, .inl spelled⟩)⟩
  · have named : ∃ word ∈ literalWords, word? word text = some (read, rest) := by
      rcases isWord with word | ⟨_, word | ⟨_, word⟩⟩
      · exact ⟨"true", by decide, word⟩
      · exact ⟨"false", by decide, word⟩
      · exact ⟨"null", by decide, word⟩
    obtain ⟨word, member, foundWord⟩ := named
    obtain ⟨whole, spelled, ends⟩ := word?_eq_some foundWord
    exact ⟨whole, .inr (.inr ⟨ends, .inr ⟨word, member, spelled⟩⟩)⟩

/-- What is read as a literal is one, unless the word `not` leads it. -/
theorem literal?_eq_some {text read rest : List Char}
    (found : literal? text = some (read, rest)) :
    text = read ++ rest ∧ Apart read rest ∧ (keyword? "not" text = none → IsLiteral read) := by
  obtain ⟨whole, quoted | ⟨name, value, named, spelled, rfl⟩ | ⟨ends, isNumber | isWord⟩⟩ :=
    literal?_spelling found
  · exact ⟨whole, fun ends => absurd ends (quoted.not_endsInName []), fun _ => .inl quoted⟩
  · refine ⟨whole, fun ends => absurd ends (spelled.not_endsInName name), fun noMark => ?_⟩
    refine .inr (.inl ⟨name, value, named, ?_, spelled, rfl⟩)
    rintro rfl
    rw [whole, List.append_assoc, keyword?_eq_some_iff.2 ⟨rfl, spelled.atNameEnd_append⟩] at noMark
    contradiction
  · exact ⟨whole, fun _ => ends, fun _ => .inr (.inr (.inl isNumber))⟩
  · exact ⟨whole, fun _ => ends, fun _ => .inr (.inr (.inr isWord))⟩

end ODataAdapter.Filter
