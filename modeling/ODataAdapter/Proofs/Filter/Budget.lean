import ODataAdapter.Proofs.Filter.Balance
import ODataAdapter.Proofs.Filter.Derivation

/-!
The nesting of a text bounds how deep reading it nests. Where an expression is read inside others,
as many parentheses are open in front of it, outside of quotes: what has been read up to there is
balanced, even where the whole text is not. So one level of budget more than the text nests always
suffices, and the loops come to an end because every round takes something off the text.
-/

namespace ODataAdapter.Filter

variable {α β : Type}

section Words

variable {level : Nat} {text word rest : List Char}

theorem Nests.deepestFrom_le {depth : Nat} (nests : Nests depth word) :
    deepestFrom false level rest ≤ deepestFrom false level (word ++ rest) := by
  rw [nests level rest]
  exact Nat.le_max_right _ _

theorem deepestFrom_skipGap_le (level : Nat) (text : List Char) :
    deepestFrom false level (skipGap text) ≤ deepestFrom false level text := by
  obtain ⟨gap, run, whole⟩ := skipGap_split text
  calc deepestFrom false level (skipGap text)
    _ ≤ deepestFrom false level (gap ++ skipGap text) := run.nests.deepestFrom_le
    _ = deepestFrom false level text := by rw [← whole]

theorem deepestFrom_operator?_le {operators : List Operator} {op : Operator}
    (found : operator? operators text = some (op, rest)) :
    deepestFrom false level rest ≤ deepestFrom false level text := by
  obtain ⟨rfl, _⟩ := keyword?_eq_some_iff.1 (operator?_eq_some found).2
  exact op.nests_token.deepestFrom_le

theorem unaryMark?_eq_some (found : unaryMark? text = some rest) :
    ∃ mark ∈ ["not", "-"], text = mark.toList ++ rest := by
  simp only [unaryMark?, Option.orElse_eq_orElse, Option.orElse_eq_or, Option.or_eq_some_iff]
    at found
  rcases found with word | ⟨_, minus⟩
  · exact ⟨"not", by simp, (keyword?_eq_some_iff.1 word).1⟩
  · split at minus
    · split at minus
      · simp at minus
      · obtain rfl := Option.some.inj minus
        exact ⟨"-", by simp, rfl⟩
    · simp at minus

theorem deepestFrom_unaryMark?_le (found : unaryMark? text = some rest) :
    deepestFrom false level rest ≤ deepestFrom false level text := by
  obtain ⟨mark, member, rfl⟩ := unaryMark?_eq_some found
  have nests : Nests 0 mark.toList := by
    simp only [List.mem_cons, List.not_mem_nil, or_false] at member
    rcases member with rfl | rfl <;>
      exact nests_of_plain (List.all_iff_forall_prop.1 (by decide))
  exact nests.deepestFrom_le

theorem deepestFrom_skipMarks_le (fuel : Nat) (text : List Char) :
    deepestFrom false level (skipMarks fuel text) ≤ deepestFrom false level text := by
  induction fuel generalizing text with
  | zero => exact Nat.le_refl _
  | succ fuel ih =>
      simp only [skipMarks]
      split
      · rename_i rest found
        calc deepestFrom false level (skipMarks fuel (skipGap rest))
          _ ≤ deepestFrom false level (skipGap rest) := ih _
          _ ≤ deepestFrom false level rest := deepestFrom_skipGap_le level rest
          _ ≤ deepestFrom false level text := deepestFrom_unaryMark?_le found
      · exact Nat.le_refl _

theorem nests_literal? (found : literal? text = some (word, rest)) :
    text = word ++ rest ∧ Nests 0 word := by
  obtain ⟨whole, quoted | ⟨name, value, named, spelled, rfl⟩ | ⟨_, number | ⟨_, member, rfl⟩⟩⟩ :=
    literal?_spelling found
  · exact ⟨whole, quoted.nests⟩
  · exact ⟨whole, named.nests.append spelled.nests⟩
  · exact ⟨whole, number.nests⟩
  · exact ⟨whole, (literalWords_named _ member).nests⟩

end Words

def Reading.Ends (level : Nat) (text : List Char) : Reading α → Prop
  | read _ rest => deepestFrom false level rest ≤ deepestFrom false level text
  | stuck _ => True
  | exhausted => False

structure Reading.Settled (level : Nat) (text : List Char) (reading other : Reading α) : Prop where
  same : reading = other
  ends : reading.Ends level text

/-- Two readers that come to the same end on every text whose nesting, measured from the level,
stays below the bound. -/
def Settles (level bound : Nat) (reader other : Reader α) : Prop :=
  ∀ text, deepestFrom false level text < bound →
    Reading.Settled level text (reader text) (other text)

namespace Reading.Settled

variable {level : Nat} {text whole : List Char} {reading other : Reading α}

theorem read (value : α) {rest : List Char}
    (left : deepestFrom false level rest ≤ deepestFrom false level text) :
    Settled level text (.read value rest) (.read value rest) :=
  ⟨rfl, left⟩

theorem stuck (rest : List Char) :
    Settled level text (.stuck rest : Reading α) (.stuck rest) :=
  ⟨rfl, trivial⟩

theorem mono (settled : Settled level text reading other)
    (part : deepestFrom false level text ≤ deepestFrom false level whole) :
    Settled level whole reading other := by
  obtain ⟨rfl, ends⟩ := settled
  cases reading with
  | read value rest => exact .read value (Nat.le_trans ends part)
  | stuck rest => exact .stuck rest
  | exhausted => exact ends.elim

theorem bind {next next' : α → List Char → Reading β}
    (settled : Settled level text reading other)
    (nextSettled : ∀ value rest, deepestFrom false level rest ≤ deepestFrom false level text →
      Settled level text (next value rest) (next' value rest)) :
    Settled level text (reading.bind next) (other.bind next') := by
  obtain ⟨rfl, ends⟩ := settled
  cases reading with
  | read value rest => exact nextSettled value rest ends
  | stuck rest => exact .stuck rest
  | exhausted => exact ends.elim

theorem orElse {alternative alternative' : Unit → Reading α}
    (settled : Settled level text reading other)
    (alternativeSettled : Settled level text (alternative ()) (alternative' ())) :
    Settled level text (reading.orElse alternative) (other.orElse alternative') := by
  obtain ⟨rfl, ends⟩ := settled
  cases reading with
  | read value rest => exact .read value ends
  | stuck rest => exact alternativeSettled
  | exhausted => exact ends.elim

theorem enclosed {rest : List Char} (settled : Settled (level + 1) (skipGap rest) reading other)
    (make : α → β) :
    Settled level ('(' :: rest) (reading.bind fun value => closing (make value))
      (other.bind fun value => closing (make value)) := by
  obtain ⟨rfl, ends⟩ := settled
  cases reading with
  | stuck rest => exact .stuck rest
  | exhausted => exact ends.elim
  | read value behind =>
      simp only [Reading.bind, closing]
      split
      · rename_i left closes
        -- The parenthesis opens one level, and the one that closes it ends the level.
        refine .read _ ?_
        have inside := deepestFrom_skipGap_le (level + 1) rest
        have toClosing := deepestFrom_skipGap_le (level + 1) behind
        simp only [Reading.Ends] at ends
        rw [closes] at toClosing
        simp only [deepestFrom, Bool.false_eq_true, if_false, Nat.add_sub_cancel]
          at toClosing ⊢
        omega
      · exact .stuck behind

end Reading.Settled

section Readers

variable {level bound : Nat}

theorem settles_chainFrom {operand operand' : Reader Expr}
    (settles : Settles level bound operand operand') (operators : List Operator) (fuel : Nat)
    (left : Expr) {text : List Char} (shallow : deepestFrom false level text < bound) :
    Reading.Settled level text (chainFrom operand operators fuel left text)
      (chainFrom operand' operators fuel left text) := by
  induction fuel generalizing left text with
  | zero => exact .read left (Nat.le_refl _)
  | succ fuel ih =>
      simp only [chainFrom]
      split
      · exact .read left (Nat.le_refl _)
      · rename_i op rest found
        have toOperand : deepestFrom false level (skipGap rest) ≤ deepestFrom false level text :=
          calc deepestFrom false level (skipGap rest)
            _ ≤ deepestFrom false level rest := deepestFrom_skipGap_le level rest
            _ ≤ deepestFrom false level (skipGap text) := deepestFrom_operator?_le found
            _ ≤ deepestFrom false level text := deepestFrom_skipGap_le level text
        refine ((settles _ (Nat.lt_of_le_of_lt toOperand shallow)).mono toOperand).bind ?_
        intro right behind left'
        exact (ih (.binary op left right) (Nat.lt_of_le_of_lt left' shallow)).mono left'

theorem settles_chain {operand operand' : Reader Expr}
    (settles : Settles level bound operand operand') (operators : List Operator) :
    Settles level bound (chain operators operand) (chain operators operand') := by
  intro text shallow
  refine (settles text shallow).bind fun left rest within => ?_
  exact (settles_chainFrom settles operators rest.length left
    (Nat.lt_of_le_of_lt within shallow)).mono within

section Parts

variable {inner inner' : Reader Expr}

theorem settles_argumentsFrom (settles : Settles level bound inner inner') (fuel : Nat)
    (args : List Expr) {text : List Char} (shallow : deepestFrom false level text < bound) :
    Reading.Settled level text (argumentsFrom inner fuel args text)
      (argumentsFrom inner' fuel args text) := by
  induction fuel generalizing args text with
  | zero => exact .read args (Nat.le_refl _)
  | succ fuel ih =>
      simp only [argumentsFrom]
      split
      · rename_i rest comma
        have plain : IsPlain ',' := by decide
        have toArgument :
            deepestFrom false level (skipGap rest) ≤ deepestFrom false level text :=
          calc deepestFrom false level (skipGap rest)
            _ ≤ deepestFrom false level rest := deepestFrom_skipGap_le level rest
            _ = deepestFrom false level (skipGap text) := by rw [comma, deepestFrom_plain plain]
            _ ≤ deepestFrom false level text := deepestFrom_skipGap_le level text
        obtain ⟨same, ends⟩ := settles _ (Nat.lt_of_le_of_lt toArgument shallow)
        rw [← same]
        cases read : inner (skipGap rest) with
        | read arg behind =>
            rw [read] at ends
            have within := Nat.le_trans ends toArgument
            exact (ih (args ++ [arg]) (Nat.lt_of_le_of_lt within shallow)).mono within
        | stuck behind => exact .read args (Nat.le_refl _)
        | exhausted =>
            rw [read] at ends
            exact ends.elim
      · exact .read args (Nat.le_refl _)

theorem settles_arguments (settles : Settles level bound inner inner') :
    Settles level bound (arguments inner) (arguments inner') := by
  intro text shallow
  obtain ⟨same, ends⟩ := settles text shallow
  simp only [arguments]
  rw [← same]
  cases read : inner text with
  | read arg behind =>
      rw [read] at ends
      exact (settles_argumentsFrom settles behind.length [arg]
        (Nat.lt_of_le_of_lt ends shallow)).mono ends
  | stuck behind => exact .read [] (Nat.le_refl _)
  | exhausted =>
      rw [read] at ends
      exact ends.elim

theorem deepestFrom_opened_lt {rest : List Char}
    (shallow : deepestFrom false level ('(' :: rest) < bound) :
    deepestFrom false (level + 1) (skipGap rest) < bound := by
  have inside := deepestFrom_skipGap_le (level + 1) rest
  simp only [deepestFrom, Bool.false_eq_true, if_false] at shallow
  omega

theorem settles_group (settles : Settles (level + 1) bound inner inner') :
    Settles level bound (group inner) (group inner') := by
  intro text shallow
  unfold group
  split
  · exact (settles _ (deepestFrom_opened_lt shallow)).enclosed id
  · exact .stuck text

theorem settles_literal : Settles level bound literal literal := by
  intro text _
  unfold literal
  split
  · rename_i word rest found
    obtain ⟨rfl, nests⟩ := nests_literal? found
    exact .read _ nests.deepestFrom_le
  · exact .stuck text

theorem settles_call (settles : Settles (level + 1) bound inner inner') :
    Settles level bound (call inner) (call inner') := by
  intro text shallow
  unfold call
  split
  · exact .stuck text
  · rename_i name rest found
    obtain ⟨rfl, named, _⟩ := name?_eq_some_iff.1 found
    split
    · rename_i behind opened
      have within : deepestFrom false level ('(' :: behind) ≤
          deepestFrom false level (name ++ rest) :=
        calc deepestFrom false level ('(' :: behind)
          _ = deepestFrom false level (skipGap rest) := by rw [opened]
          _ ≤ deepestFrom false level rest := deepestFrom_skipGap_le level rest
          _ ≤ deepestFrom false level (name ++ rest) := named.nests.deepestFrom_le
      have inside := deepestFrom_opened_lt (Nat.lt_of_le_of_lt within shallow)
      exact ((settles_arguments settles _ inside).enclosed (Expr.call (String.ofList name))).mono
        within
    · exact .stuck _

theorem settles_path : Settles level bound path path := by
  intro text _
  unfold path
  split
  · rename_i word rest found
    obtain ⟨rfl, spelled, _⟩ := path?_eq_some found
    exact .read _ spelled.nests.deepestFrom_le
  · exact .stuck text

theorem settles_primary (settles : Settles (level + 1) bound inner inner') :
    Settles level bound (primary inner) (primary inner') := fun text shallow =>
  (settles_group settles text shallow).orElse
    ((settles_literal text shallow).orElse
      ((settles_call settles text shallow).orElse (settles_path text shallow)))

theorem settles_unary (settles : Settles (level + 1) bound inner inner') :
    Settles level bound (unary inner) (unary inner') := by
  intro text shallow
  have toOperand : deepestFrom false level (skipMarks text.length text) ≤
      deepestFrom false level text := deepestFrom_skipMarks_le text.length text
  have operand := (settles_primary settles _ (Nat.lt_of_le_of_lt toOperand shallow)).mono toOperand
  refine operand.bind fun value rest within => ?_
  split
  · exact .read _ within
  · exact .read _ within

theorem settles_levelReader (settles : Settles (level + 1) bound inner inner') (tightness : Nat) :
    Settles level bound (levelReader inner tightness) (levelReader inner' tightness) := by
  by_cases below : tightness < primaryLevel
  · rw [levelReader_eq_chain inner below, levelReader_eq_chain inner' below]
    exact settles_chain (settles_levelReader settles (tightness + 1)) _
  · match tightness with
    | 0 | 1 | 2 | 3 | 4 => exact absurd (by decide) below
    | tightness + 5 => exact settles_unary settles
termination_by primaryLevel - tightness

end Parts

theorem settles_expression {budget larger : Nat} (enough : budget ≤ larger) (level : Nat) :
    Settles level (level + budget) (expression budget) (expression larger) := by
  induction budget generalizing larger level with
  | zero =>
      intro text shallow
      have reached := le_deepestFrom false level text
      omega
  | succ budget ih =>
      obtain ⟨larger, rfl⟩ := Nat.exists_eq_add_one_of_ne_zero (by omega : larger ≠ 0)
      have inside := ih (Nat.le_of_succ_le_succ enough) (level + 1)
      rw [Nat.add_right_comm] at inside
      exact settles_levelReader inside 0

end Readers

/-! The loops of a level. -/

theorem unaryMark?_shorter {text rest : List Char} (found : unaryMark? text = some rest) :
    (skipGap rest).length < text.length := by
  obtain ⟨mark, member, rfl⟩ := unaryMark?_eq_some found
  have nonempty : ∀ mark ∈ ["not", "-"], 0 < mark.toList.length := by decide
  have written := nonempty mark member
  have skipped := (skipGap_suffix rest).length_le
  simp only [List.length_append]
  omega

theorem skipMarks_fuel {fuel : Nat} {text : List Char} (enough : text.length ≤ fuel) :
    skipMarks fuel text = skipMarks text.length text := by
  induction fuel using Nat.strongRecOn generalizing text with
  | ind fuel ih =>
      cases found : unaryMark? text with
      | none => rw [skipMarks_of_none found, skipMarks_of_none found]
      | some rest =>
          have shorter := unaryMark?_shorter found
          obtain ⟨less, rfl⟩ := Nat.exists_eq_add_one_of_ne_zero (by omega : fuel ≠ 0)
          obtain ⟨length, same⟩ := Nat.exists_eq_add_one_of_ne_zero (by omega : text.length ≠ 0)
          rw [same]
          simp only [skipMarks, found]
          rw [ih less (by omega) (by omega), ih length (by omega) (by omega)]

/-- Every round of the loops over operators, marks and arguments takes something off the text, so
the counters of the loops, which are the lengths of the texts, never end them. -/
structure LoopsProgress (inner : Reader Expr) : Prop where
  operators_shorter : ∀ level text op rest right behind,
    operator? (levelOperators level) (skipGap text) = some (op, rest) →
      levelReader inner (level + 1) (skipGap rest) = .read right behind →
        behind.length < text.length
  marks_shorter : ∀ text rest, unaryMark? text = some rest →
    (skipGap rest).length < text.length
  arguments_shorter : ∀ text rest arg behind, skipGap text = ',' :: rest →
    inner (skipGap rest) = .read arg behind → behind.length < text.length
  operators_uncounted : ∀ level left text counter, text.length ≤ counter →
    chainFrom (levelReader inner (level + 1)) (levelOperators level) counter left text =
      chainFrom (levelReader inner (level + 1)) (levelOperators level) text.length left text
  marks_uncounted : ∀ text counter, text.length ≤ counter →
    skipMarks counter text = skipMarks text.length text
  arguments_uncounted : ∀ args text counter, text.length ≤ counter →
    argumentsFrom inner counter args text = argumentsFrom inner text.length args text

theorem loopsProgress {inner : Reader Expr} (suffix : LeavesSuffix inner) :
    LoopsProgress inner where
  operators_shorter := by
    intro level text op rest right behind found read
    have within := levelReader_leavesSuffix suffix (level + 1) (skipGap rest)
    rw [read] at within
    have shorter := operator?_shorter found
    have skipped := (skipGap_suffix text).length_le
    have remains := (List.IsSuffix.trans within (skipGap_suffix rest)).length_le
    omega
  marks_shorter := fun _ _ found => unaryMark?_shorter found
  arguments_shorter := by
    intro text rest arg behind comma read
    have within := suffix (skipGap rest)
    rw [read] at within
    have skipped := (skipGap_suffix text).length_le
    have remains := (List.IsSuffix.trans within (skipGap_suffix rest)).length_le
    rw [comma, List.length_cons] at skipped
    omega
  operators_uncounted := fun level left _ _ enough =>
    chainFrom_fuel (levelReader_leavesSuffix suffix (level + 1)) enough (Nat.le_refl _) left
  marks_uncounted := fun _ _ enough => skipMarks_fuel enough
  arguments_uncounted := fun args _ _ enough =>
    argumentsFrom_fuel suffix enough (Nat.le_refl _) args

/-- A text that passes the check of its nesting is read with a budget of one level more than the
limit: it is not used up, whatever alternatives are tried on the way, and more of it changes
nothing. On every text each round of a loop takes something off it. -/
theorem expression_eq_of_shallow (depthLimit : Nat) (text : List Char) :
    (deepestNesting (Text.trim text) ≤ nestingLimit depthLimit →
      expression (nestingLimit depthLimit + 1) (Text.trim text) ≠ .exhausted ∧
      ∀ budget, nestingLimit depthLimit + 1 ≤ budget →
        expression budget (Text.trim text) =
          expression (nestingLimit depthLimit + 1) (Text.trim text)) ∧
    ∀ budget, LoopsProgress (expression budget) := by
  refine ⟨fun shallow => ⟨fun used => ?_, fun budget enough => ?_⟩, fun budget => ?_⟩
  · have settled := settles_expression (Nat.le_refl (nestingLimit depthLimit + 1)) 0
    have ends := (settled (Text.trim text) (by rw [deepestNesting] at shallow; omega)).ends
    rw [used] at ends
    exact ends
  · have settled := settles_expression enough 0
    exact (settled (Text.trim text) (by rw [deepestNesting] at shallow; omega)).same.symm
  · exact loopsProgress (expression_leavesSuffix budget)

theorem expression_eq_of_shallow_of_stray_parentheses :
    let text := "f((A), '(((') eq (B or g(1))) and C)".toList
    let tree : Expr := .binary .eq (.call "f" [.property "A", .literal "'((('"])
      (.binary .or (.property "B") (.call "g" [.literal "1"]))
    deepestNesting (Text.trim text) = nestingLimit 2 ∧
      expression (nestingLimit 2) (Text.trim text) = .exhausted ∧
        ∀ budget, nestingLimit 2 + 1 ≤ budget →
          expression budget (Text.trim text) = .read tree ") and C)".toList := by
  intro text tree
  have nests : deepestNesting (Text.trim text) = nestingLimit 2 := by decide
  have short : expression (nestingLimit 2) (Text.trim text) = .exhausted := by decide +kernel
  have read : expression (nestingLimit 2 + 1) (Text.trim text) = .read tree ") and C)".toList := by
    decide +kernel
  refine ⟨nests, short, fun budget enough => ?_⟩
  rw [((expression_eq_of_shallow 2 text).1 (Nat.le_of_eq nests)).2 budget enough, read]

end ODataAdapter.Filter
