import ODataAdapter.Proofs.Filter.Boundary
import ODataAdapter.Proofs.Filter.Progress

/-!
The primaries of the grammar are read as they are written: literals, paths, calls and expressions in
parentheses, where the reader of expressions inside parentheses is any that reads the parts.
-/

namespace ODataAdapter.Filter

/-- Once the text has been read, the loop of the level goes on behind it with the tree. Operators of
the level may follow, tighter ones may not. -/
def ReadsAs (inner : Reader Expr) (level : Nat) (expr : Expr) (text : List Char) : Prop :=
  ∀ rest, FollowsOperand rest → Apart text rest → NoOperatorFrom (level + 1) rest →
    levelReader inner level (text ++ rest) =
      chainFrom (levelReader inner (level + 1)) (levelOperators level) rest.length expr rest

section Levels

variable {inner : Reader Expr} {level : Nat} {expr : Expr} {text : List Char}

theorem ReadsAs.read (reads : ReadsAs inner level expr text) {rest : List Char}
    (follows : FollowsOperand rest) (apart : Apart text rest) (free : NoOperatorFrom level rest) :
    levelReader inner level (text ++ rest) = .read expr rest := by
  rw [reads rest follows apart (free.mono (Nat.le_succ level))]
  refine chainFrom_none (operator?_eq_none_iff.2 fun op member => free op ?_) _ _
  exact Nat.le_of_eq (mem_levelOperators.1 member).symm

theorem readsAs_primary (noMark : ∀ rest, FollowsOperand rest → Apart text rest →
      unaryMark? (text ++ rest) = none)
    (reads : ∀ rest, FollowsOperand rest → Apart text rest →
      primary inner (text ++ rest) = .read expr rest) :
    ReadsAs inner primaryLevel expr text := by
  intro rest follows apart _
  have unmarked := noMark rest follows apart
  have noOperator : operator? (levelOperators primaryLevel) (skipGap rest) = none := rfl
  rw [chainFrom_none noOperator]
  simp only [levelReader, primaryLevel, unary, skipMarks_of_none unmarked,
    reads rest follows apart, unmarked, Reading.bind, Option.isNone_none, if_true]

end Levels

theorem unaryMark?_of_head {text : List Char}
    (other : ∀ char ∈ text.head?, continuesName char = false ∧ char ≠ '-') :
    unaryMark? text = none := by
  have noWord : text.head? ≠ some 'n' := fun starts => absurd (other 'n' starts).1 (by decide)
  have noMinus : text.head? ≠ some '-' := fun starts => (other '-' starts).2 rfl
  refine unaryMark?_eq_none_iff.2 ⟨keyword?_of_head rfl noWord, fun rest minus => ?_⟩
  simp [minus] at noMinus

theorem unaryMark?_name {name rest : List Char} (named : IsName name) (free : name ≠ "not".toList)
    (ends : atNameEnd rest = true) : unaryMark? (name ++ rest) = none := by
  have noWord : keyword? "not" (name ++ rest) = none :=
    keyword?_eq_none named.continues (List.all_iff_forall_prop.1 (by decide)) free ends
  have noMinus : (name ++ rest).head? ≠ some '-' := named.head?_ne (by decide)
  refine unaryMark?_eq_none_iff.2 ⟨noWord, fun behind minus => ?_⟩
  simp [minus] at noMinus

theorem unaryMark?_number {text rest : List Char} (spelled : IsNumber text) :
    unaryMark? (text ++ rest) = none := by
  obtain ⟨first, more, rfl, starts⟩ := spelled.head
  refine unaryMark?_eq_none_iff.2 ⟨keyword?_of_head rfl ?_, fun behind minus => ?_⟩
  · rintro ⟨⟩
    rcases starts with digit | ⟨same, _⟩
    · exact absurd digit (by decide)
    · exact absurd same (by decide)
  · obtain ⟨rfl, rfl⟩ := List.cons.inj minus
    rcases starts with digit | ⟨_, digit, isHead, isDigit⟩
    · exact absurd digit (by decide)
    · cases more with
      | nil => simp at isHead
      | cons char more =>
          obtain rfl : char = digit := by simpa using isHead
          simp [digits?, isDigit]

theorem IsLiteral.unaryMark?_eq_none {text rest : List Char} (spelled : IsLiteral text)
    (apart : Apart text rest) : unaryMark? (text ++ rest) = none := by
  rcases spelled with ⟨body, _, rfl⟩ | ⟨name, value, named, free, quoted, rfl⟩ | number |
    ⟨word, member, rfl⟩
  · refine unaryMark?_of_head fun char starts => ?_
    obtain rfl : '\'' = char := by simpa using starts
    decide
  · rw [List.append_assoc]
    exact unaryMark?_name named free quoted.atNameEnd_append
  · exact unaryMark?_number number
  · have named := literalWords_named word member
    have free : ∀ word ∈ literalWords, word.toList ≠ "not".toList := by decide
    exact unaryMark?_name named (free word member) (apart named.endsInName)

theorem IsLiteral.head?_ne {text rest : List Char} (spelled : IsLiteral text) :
    (text ++ rest).head? ≠ some '(' := by
  rcases spelled with ⟨body, _, rfl⟩ | ⟨name, value, named, _, _, rfl⟩ | number |
    ⟨word, member, rfl⟩
  · simp
  · rw [List.append_assoc]
    exact named.head?_ne (by decide)
  · obtain ⟨first, more, rfl, digit | ⟨rfl, _⟩⟩ := number.head
    · intro starts
      obtain rfl : first = '(' := by simpa using starts
      exact absurd digit (by decide)
    · simp
  · exact (literalWords_named word member).head?_ne (by decide)

section Stuck

variable {inner : Reader Expr}

theorem group_stuck {text : List Char} (other : text.head? ≠ some '(') :
    group inner text = .stuck text := by
  unfold group
  split
  · simp at other
  · rfl

theorem IsFunctionName.free {name : List Char} (named : IsFunctionName name) :
    name ≠ "not".toList ∧ ∀ word ∈ literalWords, name ≠ word.toList :=
  List.forall_mem_cons.1 named.2

theorem literal_stuck {name rest : List Char} (named : IsFunctionName name)
    (ends : atNameEnd rest = true) (noQuote : rest.head? ≠ some '\'') :
    literal (name ++ rest) = .stuck (name ++ rest) := by
  simp only [literal, literal?_name named.1 named.free.2 ends noQuote]

theorem call_stuck {name rest : List Char} (named : IsName name) (ends : atNameEnd rest = true)
    (noParen : (skipGap rest).head? ≠ some '(') :
    call inner (name ++ rest) = .stuck (name ++ rest) := by
  have found : name? (name ++ rest) = some (name, rest) :=
    name?_eq_some_iff.2 ⟨rfl, named, ends⟩
  simp only [call, found]
  split
  · rename_i opened
    simp [opened] at noParen
  · rfl

end Stuck

theorem readsAs_literal {inner : Reader Expr} {text : String} (spelled : IsLiteral text.toList) :
    ReadsAs inner primaryLevel (.literal text) text.toList := by
  refine readsAs_primary (fun rest _ apart => spelled.unaryMark?_eq_none apart)
    fun rest follows apart => ?_
  have found := literal?_append spelled apart (follows.head?_ne (by decide))
    (follows.head?_ne (by decide))
  simp only [primary, group_stuck spelled.head?_ne, Reading.orElse, literal, found,
    String.ofList_toList]

theorem readsAs_property {inner : Reader Expr} {name : String}
    (spelled : IsFieldPath name.toList) :
    ReadsAs inner primaryLevel (.property name) name.toList := by
  obtain ⟨first, more, whole, named, slash⟩ := spelled.split
  have regroup (rest : List Char) : name.toList ++ rest = first ++ (more ++ rest) := by
    rw [whole, List.append_assoc]
  have ends {rest : List Char} (apart : Apart name.toList rest) :
      atNameEnd (more ++ rest) = true :=
    atNameEnd_of_slash slash fun _ => apart spelled.1.endsInName
  refine readsAs_primary (fun rest _ apart => ?_) fun rest follows apart => ?_
  · rw [regroup]
    exact unaryMark?_name named.1 named.free.1 (ends apart)
  · have noQuote : (more ++ rest).head? ≠ some '\'' :=
      head?_ne_of_skipGap (by decide) (follows.behind_slash slash (by decide) (by decide))
    have noGroup : group inner (first ++ (more ++ rest)) = .stuck (first ++ (more ++ rest)) :=
      group_stuck (named.1.head?_ne (by decide))
    have noLiteral := literal_stuck named (ends apart) noQuote
    have noCall : call inner (first ++ (more ++ rest)) = .stuck (first ++ (more ++ rest)) :=
      call_stuck named.1 (ends apart) (follows.behind_slash slash (by decide) (by decide))
    rw [← regroup] at noGroup noLiteral noCall
    have endsPath := follows.endsPath (apart spelled.1.endsInName)
    simp only [primary, noGroup, noLiteral, noCall, Reading.orElse, path,
      path?_append spelled.1 endsPath, String.ofList_toList]

/-! Parts in parentheses. -/

def Delimits (rest : List Char) : Prop :=
  ∃ char behind, skipGap rest = char :: behind ∧ (char = ')' ∨ char = ',')

theorem Delimits.followsOperand {rest : List Char} (delimits : Delimits rest) :
    FollowsOperand rest := by
  obtain ⟨char, behind, found, kind⟩ := delimits
  exact .of_skipGap found (kind.imp_right Or.inl)

theorem Delimits.stops {rest : List Char} (delimits : Delimits rest) :
    ∀ char ∈ (skipGap rest).head?, continuesName char = false := by
  obtain ⟨char, behind, found, kind⟩ := delimits
  intro first starts
  rw [found] at starts
  obtain rfl : char = first := by simpa using starts
  rcases kind with rfl | rfl <;> decide

theorem Delimits.noOperatorFrom {rest : List Char} (delimits : Delimits rest) (level : Nat) :
    NoOperatorFrom level rest :=
  noOperatorFrom_of_head delimits.stops

theorem Delimits.atNameEnd {rest : List Char} (delimits : Delimits rest) :
    atNameEnd rest = true :=
  atNameEnd_of_skipGap delimits.stops

theorem delimits_append {gap behind : List Char} {char : Char} (run : IsGapRun gap)
    (kind : char = ')' ∨ char = ',') : Delimits (gap ++ char :: behind) := by
  refine ⟨char, behind, skipGap_append run (endsGap_cons ?_), kind⟩
  rcases kind with rfl | rfl <;> decide

def ReadsWhole (inner : Reader Expr) (expr : Expr) (text : List Char) : Prop :=
  ∀ rest, Delimits rest → inner (text ++ rest) = .read expr rest

theorem ReadsAs.readsWhole {budget : Nat} {expr : Expr} {text : List Char}
    (reads : ReadsAs (expression budget) 0 expr text) :
    ReadsWhole (expression (budget + 1)) expr text := by
  intro rest delimits
  exact reads.read delimits.followsOperand (fun _ => delimits.atNameEnd)
    (delimits.noOperatorFrom 0)

theorem closing_append {α : Type} (value : α) {gap rest : List Char} (run : IsGapRun gap) :
    closing value (gap ++ ')' :: rest) = .read value rest := by
  have found : skipGap (gap ++ ')' :: rest) = ')' :: rest :=
    skipGap_append run (endsGap_cons (by decide))
  simp only [closing, found]

theorem readsAs_group {inner : Reader Expr} {expr : Expr} {text gap gap' : List Char}
    (starts : StartsOperand text) (reads : ReadsWhole inner expr text) (run : IsGapRun gap)
    (run' : IsGapRun gap') :
    ReadsAs inner primaryLevel expr ('(' :: gap ++ text ++ gap' ++ [')']) := by
  refine readsAs_primary (fun rest _ _ => ?_) fun rest _ _ => ?_
  · refine unaryMark?_of_head fun char isHead => ?_
    obtain rfl : '(' = char := by simpa using isHead
    decide
  · have opened : skipGap (gap ++ (text ++ (gap' ++ ')' :: rest))) =
        text ++ (gap' ++ ')' :: rest) := skipGap_append run (starts.append _).endsGap
    have read := reads (gap' ++ ')' :: rest) (delimits_append run' (Or.inl rfl))
    simp only [List.cons_append, List.append_assoc, List.nil_append, primary, group, opened, read,
      Reading.bind, closing_append expr run', Reading.orElse]

theorem Listed.startsOperand {first text : List Char} {texts : List (List Char)}
    (listed : Listed (first :: texts) text) (starts : StartsOperand first) :
    StartsOperand text := by
  cases listed with
  | last => exact starts
  | more _ _ _ =>
      simp only [List.append_assoc]
      exact starts.append _

theorem argumentsFrom_listed {inner : Reader Expr} (suffix : LeavesSuffix inner)
    {texts : List (List Char)} {text rest behind : List Char} (listed : Listed texts text)
    (closes : skipGap rest = ')' :: behind) {first : Expr × List Char}
    {others : List (Expr × List Char)} (same : texts = (first :: others).map Prod.snd)
    (each : ∀ arg ∈ first :: others, StartsOperand arg.2 ∧ ReadsWhole inner arg.1 arg.2)
    (read : List Expr) :
    ∃ left, inner (text ++ rest) = .read first.1 left ∧
      argumentsFrom inner left.length (read ++ [first.1]) left =
        .read (read ++ (first :: others).map Prod.fst) rest := by
  have delimits : Delimits rest := ⟨')', behind, closes, Or.inl rfl⟩
  induction listed generalizing first others read with
  | none => simp at same
  | last text =>
      simp only [List.map_cons, List.cons.injEq, List.nil_eq, List.map_eq_nil_iff] at same
      obtain ⟨rfl, rfl⟩ := same
      refine ⟨rest, (each first (by simp)).2 rest delimits, ?_⟩
      exact argumentsFrom_stop (by simp [closes]) _ _
  | @more text next rest' gap gap' texts run run' listed ih =>
      cases others with
      | nil => simp at same
      | cons second others =>
          simp only [List.map_cons, List.cons.injEq] at same
          obtain ⟨rfl, rfl, rfl⟩ := same
          have later : ∀ arg ∈ second :: others, StartsOperand arg.2 ∧
              ReadsWhole inner arg.1 arg.2 := fun arg member => each arg (by simp [member])
          have nextStarts := listed.startsOperand (later second (by simp)).1
          obtain ⟨left, found, remaining⟩ := ih rfl later (read ++ [first.1])
          have comma : skipGap (gap ++ (',' :: (gap' ++ (rest' ++ rest)))) =
              ',' :: (gap' ++ (rest' ++ rest)) := skipGap_append run (endsGap_cons (by decide))
          have behindComma : skipGap (gap' ++ (rest' ++ rest)) = rest' ++ rest :=
            skipGap_append run' (nextStarts.append rest).endsGap
          have readFirst := (each first (by simp)).2 (gap ++ (',' :: (gap' ++ (rest' ++ rest))))
            (delimits_append run (Or.inr rfl))
          refine ⟨gap ++ (',' :: (gap' ++ (rest' ++ rest))), by simpa using readFirst, ?_⟩
          rw [← behindComma] at found
          rw [argumentsFrom_comma suffix comma found, remaining]
          simp

theorem primary_closing (inner : Reader Expr) (rest : List Char) :
    primary inner (')' :: rest) = .stuck (')' :: rest) := by
  have noLetter : startsName ')' = false := by decide
  have noName : name? (')' :: rest) = none := name?_eq_none noLetter
  have noLiteral : literal? (')' :: rest) = none := by
    refine Option.eq_none_iff_forall_ne_some.2 fun ⟨read, left⟩ found => ?_
    have noWord : keyword? "not" (')' :: rest) = none := by simp [keyword?, List.isPrefixOf?]
    obtain ⟨whole, _, spelled⟩ := literal?_eq_some found
    obtain ⟨char, isHead, kind⟩ := (spelled noWord).startsOperand.append left
    rw [← whole] at isHead
    obtain rfl : ')' = char := by simpa using isHead
    exact absurd kind (by decide)
  simp [primary, group, literal, noLiteral, call, noName, path, path?, noLetter, Reading.orElse]

theorem levelReader_closing (inner : Reader Expr) (rest : List Char) (level : Nat) :
    levelReader inner level (')' :: rest) = .stuck (')' :: rest) := by
  by_cases below : level < primaryLevel
  · rw [levelReader_eq_chain inner below, chain, levelReader_closing inner rest (level + 1)]
    rfl
  · have noMark : unaryMark? (')' :: rest) = none := unaryMark?_of_head fun char isHead => by
      obtain rfl : ')' = char := by simpa using isHead
      decide
    match level with
    | 0 | 1 | 2 | 3 | 4 => exact absurd (by decide) below
    | level + 5 =>
        simp only [levelReader, unary, List.length_cons, skipMarks, noMark, primary_closing,
          Reading.bind]
termination_by primaryLevel - level

theorem arguments_listed {inner : Reader Expr} (suffix : LeavesSuffix inner)
    (closing : ∀ rest, inner (')' :: rest) = .stuck (')' :: rest))
    {args : List (Expr × List Char)} {text gap rest : List Char}
    (each : ∀ arg ∈ args, StartsOperand arg.2 ∧ ReadsWhole inner arg.1 arg.2)
    (listed : Listed (args.map Prod.snd) text) (run : IsGapRun gap) :
    ∃ left, arguments inner (skipGap (text ++ (gap ++ ')' :: rest))) =
        .read (args.map Prod.fst) left ∧ skipGap left = ')' :: rest := by
  have closes : skipGap (gap ++ ')' :: rest) = ')' :: rest :=
    skipGap_append run (endsGap_cons (by decide))
  cases args with
  | nil =>
      cases listed
      refine ⟨')' :: rest, ?_, skipGap_eq_self (endsGap_cons (by decide))⟩
      simp only [List.nil_append, closes, arguments, closing, List.map_nil]
  | cons first others =>
      obtain ⟨left, found, remaining⟩ := argumentsFrom_listed suffix listed closes rfl each []
      have starts := listed.startsOperand (each first (by simp)).1
      refine ⟨gap ++ ')' :: rest, ?_, closes⟩
      rw [skipGap_eq_self (starts.append _).endsGap]
      simpa only [arguments, found, List.nil_append] using remaining

theorem readsAs_call {inner : Reader Expr} (suffix : LeavesSuffix inner)
    (closing : ∀ rest, inner (')' :: rest) = .stuck (')' :: rest)) {name : String}
    {args : List (Expr × List Char)} {text gap gap' gap'' : List Char}
    (named : IsFunctionName name.toList)
    (each : ∀ arg ∈ args, StartsOperand arg.2 ∧ ReadsWhole inner arg.1 arg.2)
    (listed : Listed (args.map Prod.snd) text) (run : IsGapRun gap) (run' : IsGapRun gap')
    (run'' : IsGapRun gap'') :
    ReadsAs inner primaryLevel (.call name (args.map Prod.fst))
      (name.toList ++ gap ++ '(' :: gap' ++ text ++ gap'' ++ [')']) := by
  have opens (rest : List Char) : skipGap (gap ++ '(' :: rest) = '(' :: rest :=
    skipGap_append run (endsGap_cons (by decide))
  have head (rest : List Char) : ∀ char ∈ (gap ++ '(' :: rest).head?,
      continuesName char = false ∧ char ≠ '\'' := by
    refine head_append (fun char starts => ?_) (by simpa using by decide)
    have isGapChar := run char (List.mem_of_mem_head? starts)
    refine ⟨continuesName_of_isGap isGapChar, ?_⟩
    rintro rfl
    exact absurd isGapChar (by decide)
  have ends (rest : List Char) : atNameEnd (gap ++ '(' :: rest) = true :=
    (atNameEnd_iff _).2 fun char starts => (head rest char starts).1
  have noLiteral (rest : List Char) : literal (name.toList ++ (gap ++ '(' :: rest)) =
      .stuck (name.toList ++ (gap ++ '(' :: rest)) :=
    literal_stuck named (ends rest) fun starts => (head rest _ starts).2 rfl
  have foundName (rest : List Char) : name? (name.toList ++ (gap ++ '(' :: rest)) =
      some (name.toList, gap ++ '(' :: rest) := name?_eq_some_iff.2 ⟨rfl, named.1, ends rest⟩
  refine readsAs_primary (fun rest _ _ => ?_) fun rest _ _ => ?_
  · simp only [List.append_assoc, List.cons_append]
    exact unaryMark?_name named.1 named.free.1 (ends _)
  · obtain ⟨left, foundArgs, closes⟩ : ∃ left,
        arguments inner (skipGap (text ++ (gap'' ++ ')' :: rest))) =
          .read (args.map Prod.fst) left ∧ skipGap left = ')' :: rest :=
      arguments_listed suffix closing each listed run''
    simp only [List.append_assoc, List.cons_append, List.nil_append]
    simp only [primary, group_stuck (named.1.head?_ne (by decide)), noLiteral, Reading.orElse, call,
      foundName, opens, skipGap_gap run', foundArgs, Reading.bind, Filter.closing, closes,
      String.ofList_toList]

end ODataAdapter.Filter
