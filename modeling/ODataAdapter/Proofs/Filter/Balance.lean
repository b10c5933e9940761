import ODataAdapter.Filter.Nesting
import ODataAdapter.Proofs.Filter.Boundary

/-!
The nesting of balanced texts. Such a text leaves the level and the quotes as it found them, so the
nesting of a text put together from balanced ones comes from theirs.
-/

namespace ODataAdapter.Filter

theorem le_deepestFrom (quoted : Bool) (level : Nat) (text : List Char) :
    level ≤ deepestFrom quoted level text := by
  fun_induction deepestFrom quoted level text with
  | case1 => exact Nat.le_refl _
  | case2 _ _ _ ih => exact ih
  | case3 _ _ ih => exact ih
  | case4 => exact Nat.le_max_left _ _
  | case5 _ _ ih => exact ih
  | case6 => exact Nat.le_max_left _ _
  | case7 _ _ _ _ _ _ _ ih => exact ih

/-- The text is balanced and nests as deep: what follows it is measured from the level at which the
text began, outside of quotes. -/
def Nests (depth : Nat) (text : List Char) : Prop :=
  ∀ level rest, deepestFrom false level (text ++ rest) =
    max (level + depth) (deepestFrom false level rest)

theorem Nests.deepestNesting_eq {depth : Nat} {text : List Char} (nests : Nests depth text) :
    deepestNesting text = depth := by
  have whole := nests 0 []
  simp only [List.append_nil, deepestFrom] at whole
  rw [deepestNesting, whole]
  omega

theorem Nests.append {depth depth' : Nat} {left right : List Char} (ofLeft : Nests depth left)
    (ofRight : Nests depth' right) : Nests (max depth depth') (left ++ right) := by
  intro level rest
  rw [List.append_assoc, ofLeft, ofRight]
  omega

theorem Nests.parens {depth : Nat} {text : List Char} (inner : Nests depth text) :
    Nests (depth + 1) ('(' :: text ++ [')']) := by
  intro level rest
  have opened := inner (level + 1) (')' :: rest)
  simp only [deepestFrom, Bool.false_eq_true, if_false, Nat.add_sub_cancel] at opened
  simp only [List.cons_append, List.append_assoc, List.nil_append, deepestFrom,
    Bool.false_eq_true, if_false, opened]
  omega

def IsPlain (char : Char) : Prop :=
  char ≠ '\'' ∧ char ≠ '(' ∧ char ≠ ')'

instance : DecidablePred IsPlain := fun _ => inferInstanceAs (Decidable (_ ∧ _ ∧ _))

theorem deepestFrom_plain {char : Char} (plain : IsPlain char) (quoted : Bool) (level : Nat)
    (rest : List Char) :
    deepestFrom quoted level (char :: rest) = deepestFrom quoted level rest := by
  simp [deepestFrom, plain.1, plain.2.1, plain.2.2]

theorem nests_of_plain {text : List Char} (plain : ∀ char ∈ text, IsPlain char) :
    Nests 0 text := by
  intro level rest
  induction text with
  | nil =>
      have reached := le_deepestFrom false level rest
      rw [List.nil_append]
      omega
  | cons char text ih =>
      have ⟨here, later⟩ := List.forall_mem_cons.1 plain
      rw [List.cons_append, deepestFrom_plain here, ih later]

theorem isPlain_of_continuesName {char : Char} (continues : continuesName char = true) :
    IsPlain char := by
  refine ⟨?_, ?_, ?_⟩ <;> (rintro rfl; exact absurd continues (by decide))

theorem isPlain_of_isGap {char : Char} (gap : isGap char = true) : IsPlain char := by
  refine ⟨?_, ?_, ?_⟩ <;> (rintro rfl; exact absurd gap (by decide))

theorem IsGapRun.nests {gap : List Char} (run : IsGapRun gap) : Nests 0 gap :=
  nests_of_plain fun char member => isPlain_of_isGap (run char member)

theorem IsName.nests {name : List Char} (named : IsName name) : Nests 0 name :=
  nests_of_plain fun char member => isPlain_of_continuesName (named.continues char member)

theorem IsPath.nests {path : List Char} (spelled : IsPath path) : Nests 0 path := by
  induction spelled with
  | name named => exact named.nests
  | @step name rest named _ ih =>
      have slash : Nests 0 ['/'] := nests_of_plain (List.all_iff_forall_prop.1 (by decide))
      exact named.nests.append (slash.append ih)

theorem Operator.nests_token (op : Operator) : Nests 0 op.token.toList :=
  nests_of_plain fun char member => isPlain_of_continuesName (op.token_continues char member)

theorem deepestFrom_quotedBody {body : List Char} (spelled : QuotedBody body) (level : Nat)
    (rest : List Char) :
    deepestFrom true level (body ++ '\'' :: rest) = deepestFrom false level rest := by
  induction spelled with
  | nil => simp [deepestFrom]
  | @char char body other _ ih =>
      by_cases opening : char = '('
      · subst opening
        simpa [deepestFrom] using ih
      · by_cases closing : char = ')'
        · subst closing
          simpa [deepestFrom] using ih
        · rw [List.cons_append, deepestFrom_plain ⟨other, opening, closing⟩, ih]
  | quote _ ih => simpa [deepestFrom] using ih

theorem IsQuoted.nests {text : List Char} (spelled : IsQuoted text) : Nests 0 text := by
  obtain ⟨body, bodySpelled, rfl⟩ := spelled
  intro level rest
  have inside := deepestFrom_quotedBody bodySpelled level rest
  have reached := le_deepestFrom false level rest
  simp only [List.cons_append, List.append_assoc, List.nil_append, deepestFrom, Bool.not_false,
    inside]
  omega

theorem Optionally.nests {part : List Char → Prop} {text : List Char}
    (given : Optionally part text) (present : part text → Nests 0 text) : Nests 0 text := by
  rcases given with rfl | given
  · exact nests_of_plain (by simp)
  · exact present given

theorem IsDigits.nests {digits : List Char} (spelled : IsDigits digits) : Nests 0 digits :=
  nests_of_plain fun char member =>
    isPlain_of_continuesName (continuesName_of_isDigit (spelled.2 char member))

theorem OneOf.nests {chars text : List Char} (given : OneOf chars text)
    (plain : chars.all fun char => decide (IsPlain char)) : Nests 0 text := by
  obtain ⟨char, member, rfl⟩ := given
  have here : IsPlain char := by simpa using List.all_eq_true.1 plain char member
  exact nests_of_plain (by simpa using here)

theorem IsNumber.nests {text : List Char} (spelled : IsNumber text) : Nests 0 text := by
  obtain ⟨sign, digits, fraction, exponent, letter, isSign, isDigits, isFraction, isExponent,
    isLetter, rfl⟩ := spelled
  have signNests : Nests 0 sign := isSign.nests fun given => given.nests (by decide)
  have fractionNests : Nests 0 fraction := isFraction.nests fun ⟨_, behind, same⟩ => by
    have point : Nests 0 ['.'] := nests_of_plain (List.all_iff_forall_prop.1 (by decide))
    exact same ▸ point.append behind.nests
  have exponentNests : Nests 0 exponent :=
    isExponent.nests fun ⟨_, _, _, isMark, isPowerSign, isPower, same⟩ => by
      have markNests := isMark.nests (by decide)
      have powerSignNests := isPowerSign.nests fun given => given.nests (by decide)
      exact same ▸ (markNests.append powerSignNests).append isPower.nests
  have letterNests : Nests 0 letter := isLetter.nests fun given => given.nests (by decide)
  exact (((signNests.append isDigits.nests).append fractionNests).append exponentNests).append
    letterNests

theorem IsLiteral.nests {text : List Char} (spelled : IsLiteral text) : Nests 0 text := by
  rcases spelled with quoted | ⟨name, value, named, _, quoted, rfl⟩ | number | ⟨word, member, rfl⟩
  · exact quoted.nests
  · exact named.nests.append quoted.nests
  · exact number.nests
  · exact (literalWords_named word member).nests

end ODataAdapter.Filter
