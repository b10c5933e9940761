import ODataAdapter.Proofs.Filter.Grammar

/-!
Where operands begin and end: the characters they start with, what may follow them, and the
operators between them.
-/

namespace ODataAdapter.Filter

theorem endsGap_of_ne {text : List Char}
    (other : ∀ char ∈ text.head?, char ∉ [' ', '\t', '\r', '\n']) : EndsRun isGap text := by
  intro char starts
  have different := other char starts
  simp only [List.mem_cons, List.not_mem_nil, or_false, not_or] at different
  simp [isGap, different]

theorem endsGap_cons {char : Char} {rest : List Char} (other : isGap char = false) :
    EndsRun isGap (char :: rest) := by
  intro first starts
  obtain rfl : char = first := by simpa using starts
  exact other

theorem continuesName_of_isGap {char : Char} (gap : isGap char = true) :
    continuesName char = false := by
  simp only [isGap, Bool.or_eq_true, decide_eq_true_eq] at gap
  rcases gap with ((rfl | rfl) | rfl) | rfl <;> decide

theorem skipGap_gap {gap : List Char} (run : IsGapRun gap) (text : List Char) :
    skipGap (gap ++ text) = skipGap text :=
  List.dropWhile_append_of_pos run

theorem skipGap_append {gap text : List Char} (run : IsGapRun gap) (ends : EndsRun isGap text) :
    skipGap (gap ++ text) = text :=
  dropWhile_run run ends

theorem skipGap_eq_self {text : List Char} (ends : EndsRun isGap text) : skipGap text = text := by
  have empty : IsGapRun [] := by simp [IsGapRun]
  exact skipGap_append empty ends

theorem atNameEnd_of_skipGap {rest : List Char}
    (stops : ∀ char ∈ (skipGap rest).head?, continuesName char = false) :
    atNameEnd rest = true := by
  cases rest with
  | nil => rfl
  | cons first rest =>
      by_cases gap : isGap first = true
      · simp [atNameEnd, continuesName_of_isGap gap]
      · rw [skipGap_eq_self (endsGap_cons (by simpa using gap))] at stops
        simp [atNameEnd, stops first rfl]

def StartsOperand (text : List Char) : Prop :=
  ∃ char ∈ text.head?, startsName char = true ∨ char.isDigit = true ∨ char ∈ ['-', '\'', '(']

theorem StartsOperand.append {text : List Char} (starts : StartsOperand text) (rest : List Char) :
    StartsOperand (text ++ rest) := by
  obtain ⟨char, isHead, kind⟩ := starts
  rw [Option.mem_def] at isHead
  exact ⟨char, by simp [List.head?_append, isHead], kind⟩

theorem StartsOperand.nonempty {text : List Char} (starts : StartsOperand text) : text ≠ [] := by
  obtain ⟨char, isHead, _⟩ := starts
  rintro rfl
  simp at isHead

theorem StartsOperand.endsGap {text : List Char} (starts : StartsOperand text) :
    EndsRun isGap text := by
  obtain ⟨first, isHead, kind⟩ := starts
  refine endsGap_of_ne fun char isHead' gap => ?_
  obtain rfl : first = char := Option.mem_unique isHead isHead'
  have neither : ∀ char ∈ [' ', '\t', '\r', '\n'], startsName char = false ∧
      char.isDigit = false ∧ char ∉ ['-', '\'', '('] :=
    List.all_iff_forall_prop.1 (by decide)
  obtain ⟨noName, noDigit, noMark⟩ := neither first gap
  rcases kind with name | digit | mark
  · simp [noName] at name
  · simp [noDigit] at digit
  · exact noMark mark

theorem IsName.startsOperand {name : List Char} (named : IsName name) : StartsOperand name := by
  cases name with
  | nil => exact named.elim
  | cons first rest => exact ⟨first, rfl, Or.inl named.1⟩

theorem IsPath.startsOperand {path : List Char} (spelled : IsPath path) : StartsOperand path := by
  obtain ⟨first, rest, rfl, starts⟩ := spelled.head
  exact ⟨first, rfl, Or.inl starts⟩

theorem IsQuoted.startsOperand {text : List Char} (spelled : IsQuoted text) :
    StartsOperand text := by
  obtain ⟨body, _, rfl⟩ := spelled
  exact ⟨'\'', rfl, Or.inr (Or.inr (by decide))⟩

theorem IsLiteral.startsOperand {text : List Char} (spelled : IsLiteral text) :
    StartsOperand text := by
  rcases spelled with quoted | ⟨name, value, named, _, quoted, rfl⟩ | number | ⟨word, member, rfl⟩
  · exact quoted.startsOperand
  · exact named.startsOperand.append value
  · obtain ⟨first, rest, rfl, digit | ⟨rfl, _⟩⟩ := number.head
    · exact ⟨first, rfl, Or.inr (Or.inl digit)⟩
    · exact ⟨'-', rfl, Or.inr (Or.inr (by decide))⟩
  · exact (literalWords_named word member).startsOperand

theorem Writes.startsOperand {level : Nat} {expr : Expr} {text : List Char}
    (written : Writes level expr text) : StartsOperand text := by
  induction written with
  | binary _ _ _ _ _ _ ihLeft _ =>
      simp only [List.append_assoc]
      exact ihLeft.append _
  | tighter _ ih => exact ih
  | group _ _ _ _ => exact ⟨'(', rfl, Or.inr (Or.inr (by decide))⟩
  | literal spelled => exact spelled.startsOperand
  | property spelled => exact spelled.1.startsOperand
  | call named _ _ _ _ _ _ =>
      simp only [List.append_assoc]
      exact named.1.startsOperand.append _

theorem Writes.nonempty {level : Nat} {expr : Expr} {text : List Char}
    (written : Writes level expr text) : text ≠ [] :=
  written.startsOperand.nonempty

def EndsOperand (text : List Char) : Prop :=
  EndsInName text ∨ ∃ char ∈ text.getLast?, char ∈ ['\'', ')']

theorem EndsOperand.append {text : List Char} (ends : EndsOperand text) (left : List Char) :
    EndsOperand (left ++ text) := by
  rcases ends with name | ⟨char, isLast, mark⟩
  · exact Or.inl name.append
  · rw [Option.mem_def] at isLast
    exact Or.inr ⟨char, by simp [List.getLast?_append, isLast], mark⟩

theorem IsQuoted.endsOperand {text : List Char} (spelled : IsQuoted text) : EndsOperand text := by
  obtain ⟨body, _, rfl⟩ := spelled
  have quote : EndsOperand ['\''] := Or.inr ⟨'\'', rfl, by decide⟩
  exact quote.append ('\'' :: body)

theorem IsLiteral.endsOperand {text : List Char} (spelled : IsLiteral text) :
    EndsOperand text := by
  rcases spelled with quoted | ⟨name, value, _, _, quoted, rfl⟩ | number | ⟨word, member, rfl⟩
  · exact quoted.endsOperand
  · exact quoted.endsOperand.append name
  · exact Or.inl number.endsInName
  · exact Or.inl (literalWords_named word member).endsInName

theorem Writes.endsOperand {level : Nat} {expr : Expr} {text : List Char}
    (written : Writes level expr text) : EndsOperand text := by
  have closing (text : List Char) : EndsOperand (text ++ [')']) :=
    Or.inr ⟨')', by simp, by decide⟩
  induction written with
  | binary _ _ _ _ _ _ _ ihRight => exact ihRight.append _
  | tighter _ ih => exact ih
  | group _ _ _ _ => exact closing _
  | literal spelled => exact spelled.endsOperand
  | property spelled => exact Or.inl spelled.1.endsInName
  | call _ _ _ _ _ _ _ => exact closing _

theorem isBlank_of_continuesName {char : Char} (continues : continuesName char = true) :
    Text.isBlank char = false := by
  rw [Bool.eq_false_iff]
  intro blank
  have noUnderscore : char ≠ '_' := by
    rintro rfl
    exact absurd blank (by decide)
  simp [continuesName, Text.isLetter_of_isBlank blank, Text.isNumeral_of_isBlank blank,
    noUnderscore] at continues

theorem StartsOperand.isBlank_head {text : List Char} (starts : StartsOperand text) :
    ∀ char ∈ text.head?, Text.isBlank char = false := by
  intro char isHead
  obtain ⟨first, isFirst, kind⟩ := starts
  obtain rfl : first = char := Option.mem_unique isFirst isHead
  have marks : ∀ char ∈ ['-', '\'', '('], Text.isBlank char = false :=
    List.all_iff_forall_prop.1 (by decide)
  rcases kind with starts | digit | mark
  · exact isBlank_of_continuesName (continuesName_of_startsName starts)
  · exact isBlank_of_continuesName (continuesName_of_isDigit digit)
  · exact marks first mark

theorem EndsInName.isBlank_getLast {text : List Char} (ends : EndsInName text) :
    ∀ char ∈ text.getLast?, Text.isBlank char = false := by
  intro char isLast
  obtain ⟨last, isLast', continues⟩ := ends
  obtain rfl : last = char := Option.mem_unique isLast' isLast
  exact isBlank_of_continuesName continues

theorem Writes.trim_eq {level : Nat} {expr : Expr} {text : List Char}
    (written : Writes level expr text) : Text.trim text = text := by
  refine Text.trim_eq_self written.startsOperand.isBlank_head fun char isLast => ?_
  have marks : ∀ char ∈ ['\'', ')'], Text.isBlank char = false :=
    List.all_iff_forall_prop.1 (by decide)
  rcases written.endsOperand with name | ⟨last, isLast', mark⟩
  · exact name.isBlank_getLast char isLast
  · obtain rfl : last = char := Option.mem_unique isLast' isLast
    exact marks last mark

/-- After gaps there is nothing, or a name, a comma or a closing parenthesis. -/
def FollowsOperand (rest : List Char) : Prop :=
  ∀ char ∈ (skipGap rest).head?, char = ')' ∨ char = ',' ∨ continuesName char = true

def ContinuesOperand (char : Char) : Prop :=
  isGap char = false ∧ char ≠ ')' ∧ char ≠ ',' ∧ continuesName char = false

instance : DecidablePred ContinuesOperand := fun _ => inferInstanceAs (Decidable (_ ∧ _ ∧ _ ∧ _))

theorem FollowsOperand.skipGap_head?_ne {rest : List Char} (follows : FollowsOperand rest)
    {char : Char} (continues : ContinuesOperand char) : (skipGap rest).head? ≠ some char := by
  intro starts
  rcases follows char starts with closing | comma | name
  · exact continues.2.1 closing
  · exact continues.2.2.1 comma
  · simp [continues.2.2.2] at name

theorem head?_ne_of_skipGap {text : List Char} {char : Char} (noGap : isGap char = false)
    (other : (skipGap text).head? ≠ some char) : text.head? ≠ some char := by
  intro starts
  have ends : EndsRun isGap text := fun first isHead => by
    obtain rfl : char = first := Option.mem_unique starts isHead
    exact noGap
  rw [skipGap_eq_self ends] at other
  exact other starts

theorem FollowsOperand.head?_ne {rest : List Char} (follows : FollowsOperand rest) {char : Char}
    (continues : ContinuesOperand char) : rest.head? ≠ some char :=
  head?_ne_of_skipGap continues.1 (follows.skipGap_head?_ne continues)

theorem FollowsOperand.endsPath {rest : List Char} (follows : FollowsOperand rest)
    (ends : atNameEnd rest = true) : EndsPath rest := by
  have noSlash : rest.head? ≠ some '/' := follows.head?_ne (by decide)
  refine ⟨ends, fun char behind step => ?_⟩
  simp [step] at noSlash

theorem FollowsOperand.of_skipGap {rest behind : List Char} {char : Char}
    (found : skipGap rest = char :: behind)
    (kind : char = ')' ∨ char = ',' ∨ continuesName char = true) : FollowsOperand rest := by
  intro first starts
  rw [found] at starts
  obtain rfl : char = first := by simpa using starts
  exact kind

theorem followsOperand_nil : FollowsOperand [] := by
  simp [FollowsOperand, skipGap]

theorem IsPath.firstName {path : List Char} (spelled : IsPath path) :
    ∃ name rest, path = name ++ rest ∧ IsName name ∧ path.takeWhile (· ≠ '/') = name ∧
      ∀ char ∈ rest.head?, char = '/' := by
  have noSlash {name : List Char} (named : IsName name) :
      ∀ char ∈ name, decide (char ≠ '/') = true := by
    intro char member
    have continues := named.continues char member
    simp only [decide_eq_true_eq]
    rintro rfl
    exact absurd continues (by decide)
  cases spelled with
  | name named =>
      have atEnd : EndsRun (fun char => decide (char ≠ '/')) [] := by simp [EndsRun]
      have alone := takeWhile_run (noSlash named) atEnd
      rw [List.append_nil] at alone
      exact ⟨path, [], by simp, named, alone, by simp⟩
  | @step name rest named _ =>
      refine ⟨name, '/' :: rest, rfl, named, takeWhile_run (noSlash named) ?_, by simp⟩
      simp [EndsRun]

theorem atNameEnd_of_slash {rest : List Char} (slash : ∀ char ∈ rest.head?, char = '/')
    {behind : List Char} (ends : rest = [] → atNameEnd behind = true) :
    atNameEnd (rest ++ behind) = true := by
  cases rest with
  | nil => exact ends rfl
  | cons char rest =>
      obtain rfl : char = '/' := slash char rfl
      rfl

theorem FollowsOperand.behind_slash {more rest : List Char} (follows : FollowsOperand rest)
    (slash : ∀ char ∈ more.head?, char = '/') {char : Char} (continues : ContinuesOperand char)
    (noSlash : char ≠ '/') : (skipGap (more ++ rest)).head? ≠ some char := by
  cases more with
  | nil => exact follows.skipGap_head?_ne continues
  | cons first more =>
      obtain rfl : first = '/' := slash first rfl
      rw [List.cons_append, skipGap_eq_self (endsGap_cons (by decide))]
      simpa using Ne.symm noSlash

theorem IsFieldPath.split {path : List Char} (spelled : IsFieldPath path) :
    ∃ name rest, path = name ++ rest ∧ IsFunctionName name ∧ ∀ char ∈ rest.head?, char = '/' := by
  obtain ⟨isPath, free⟩ := spelled
  obtain ⟨name, rest, whole, named, alone, slash⟩ := isPath.firstName
  rw [alone] at free
  exact ⟨name, rest, whole, ⟨named, free⟩, slash⟩

/-! Operators. -/

theorem Operator.token_ne {op other : Operator} (different : op ≠ other) :
    op.token.toList ≠ other.token.toList := by
  intro same
  have tokens : op.token = other.token := String.toList_inj.1 same
  have found := Operator.ofToken?_token op
  rw [tokens, Operator.ofToken?_token] at found
  exact different (Option.some.inj found).symm

theorem Operator.token_continues (op : Operator) :
    ∀ char ∈ op.token.toList, continuesName char = true := by
  refine List.all_iff_forall_prop.1 ?_
  cases op <;> decide

theorem Operator.token_head (op : Operator) :
    ∃ char rest, op.token.toList = char :: rest ∧ continuesName char = true ∧
      isGap char = false := by
  cases op <;> exact ⟨_, _, rfl, by decide⟩

theorem Operator.token_endsInName (op : Operator) : EndsInName op.token.toList := by
  obtain ⟨char, rest, whole, _⟩ := op.token_head
  exact endsInName_of_forall (by simp [whole]) op.token_continues

theorem keyword?_other {op other : Operator} (different : op ≠ other) {rest : List Char}
    (ends : atNameEnd rest = true) : keyword? other.token (op.token.toList ++ rest) = none :=
  keyword?_eq_none op.token_continues other.token_continues (Operator.token_ne different) ends

theorem operator?_eq_none_iff {operators : List Operator} {text : List Char} :
    operator? operators text = none ↔ ∀ op ∈ operators, keyword? op.token text = none := by
  simp [operator?, List.findSome?_eq_none_iff]

theorem operator?_append {operators : List Operator} {op : Operator} {rest : List Char}
    (member : op ∈ operators) (ends : atNameEnd rest = true) :
    operator? operators (op.token.toList ++ rest) = some (op, rest) := by
  induction operators with
  | nil => simp at member
  | cons first others ih =>
      by_cases same : op = first
      · subst same
        simp [operator?, keyword?_eq_some_iff.2 ⟨rfl, ends⟩]
      · have later : op ∈ others := (List.mem_cons.1 member).resolve_left same
        have skipped : operator? (first :: others) (op.token.toList ++ rest) =
            operator? others (op.token.toList ++ rest) := by
          simp [operator?, keyword?_other same ends]
        rw [skipped, ih later]

def NoOperatorFrom (level : Nat) (rest : List Char) : Prop :=
  ∀ op : Operator, level ≤ op.precedence → keyword? op.token (skipGap rest) = none

theorem NoOperatorFrom.mono {level higher : Nat} {rest : List Char}
    (free : NoOperatorFrom level rest) (below : level ≤ higher) : NoOperatorFrom higher rest :=
  fun op tight => free op (Nat.le_trans below tight)

theorem noOperatorFrom_of_head {level : Nat} {rest : List Char}
    (other : ∀ char ∈ (skipGap rest).head?, continuesName char = false) :
    NoOperatorFrom level rest := by
  intro op _
  obtain ⟨char, more, token, continues, _⟩ := op.token_head
  refine keyword?_of_head token fun starts => ?_
  have stops := other char starts
  rw [continues] at stops
  contradiction

end ODataAdapter.Filter
