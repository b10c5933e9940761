import ODataAdapter.Filter.Reader
import ODataAdapter.Proofs.Filter.Grammar

/-!
Readers leave a suffix of the text they are given, so the counters of the loops over operators and
arguments never run out.
-/

namespace ODataAdapter.Filter

variable {α β : Type}

/-- What is left, or the place of a failure, is a suffix of the text. -/
def Reading.Within (text : List Char) : Reading α → Prop
  | read _ rest => rest <:+ text
  | stuck rest => rest <:+ text
  | exhausted => True

def LeavesSuffix (reader : Reader α) : Prop :=
  ∀ text, (reader text).Within text

theorem Reading.Within.mono {reading : Reading α} {text whole : List Char}
    (within : reading.Within text) (part : text <:+ whole) : reading.Within whole := by
  cases reading with
  | read value rest => exact List.IsSuffix.trans within part
  | stuck rest => exact List.IsSuffix.trans within part
  | exhausted => trivial

theorem Reading.Within.bind {reading : Reading α} {next : α → List Char → Reading β}
    {text : List Char} (within : reading.Within text)
    (nextWithin : ∀ value, LeavesSuffix (next value)) : (reading.bind next).Within text := by
  cases reading with
  | read value rest => exact (nextWithin value rest).mono within
  | stuck rest => exact within
  | exhausted => trivial

theorem Reading.Within.orElse {reading : Reading α} {other : Unit → Reading α} {text : List Char}
    (within : reading.Within text) (otherWithin : (other ()).Within text) :
    (reading.orElse other).Within text := by
  cases reading with
  | read value rest => exact within
  | stuck rest => exact otherWithin
  | exhausted => trivial

theorem skipGap_suffix (text : List Char) : skipGap text <:+ text :=
  List.dropWhile_suffix isGap

theorem suffix_of_eq_append {text word rest : List Char} (whole : text = word ++ rest) :
    rest <:+ text :=
  ⟨word, whole.symm⟩

theorem keyword?_suffix {word : String} {text rest : List Char}
    (found : keyword? word text = some rest) : rest <:+ text :=
  suffix_of_eq_append (keyword?_eq_some_iff.1 found).1

theorem operator?_eq_some {operators : List Operator} {op : Operator} {text rest : List Char}
    (found : operator? operators text = some (op, rest)) :
    op ∈ operators ∧ keyword? op.token text = some rest := by
  obtain ⟨given, member, same⟩ := List.exists_of_findSome?_eq_some found
  obtain ⟨left, foundKeyword, same⟩ := Option.map_eq_some_iff.1 same
  simp only [Prod.mk.injEq] at same
  obtain ⟨rfl, rfl⟩ := same
  exact ⟨member, foundKeyword⟩

theorem operator?_shorter {operators : List Operator} {op : Operator} {text rest : List Char}
    (found : operator? operators text = some (op, rest)) : rest.length < text.length := by
  obtain ⟨rfl, _⟩ := keyword?_eq_some_iff.1 (operator?_eq_some found).2
  have token : 0 < op.token.toList.length := by cases op <;> decide
  simp only [List.length_append]
  omega

section Loops

variable {operand : Reader Expr} {operators : List Operator}

theorem chainFrom_within (suffix : LeavesSuffix operand) (fuel : Nat) (left : Expr)
    (text : List Char) : (chainFrom operand operators fuel left text).Within text := by
  induction fuel generalizing left text with
  | zero => exact List.suffix_rfl
  | succ fuel ih =>
      simp only [chainFrom]
      split
      · exact List.suffix_rfl
      · rename_i op rest found
        have restSuffix : rest <:+ text :=
          (keyword?_suffix (operator?_eq_some found).2).trans (skipGap_suffix text)
        have here : (operand (skipGap rest)).Within text :=
          (suffix _).mono ((skipGap_suffix rest).trans restSuffix)
        exact here.bind fun right rest => ih (.binary op left right) rest

theorem Reading.bind_congr {reading : Reading α} {next next' : α → List Char → Reading β}
    {text : List Char} (within : reading.Within text)
    (same : ∀ value rest, rest <:+ text → next value rest = next' value rest) :
    reading.bind next = reading.bind next' := by
  cases reading with
  | read value rest => exact same value rest within
  | stuck rest => rfl
  | exhausted => rfl

theorem chainFrom_nil (fuel : Nat) (left : Expr) :
    chainFrom operand operators fuel left [] = .read left [] := by
  cases fuel with
  | zero => rfl
  | succ fuel =>
      cases found : operator? operators (skipGap []) with
      | none => simp only [chainFrom, found]
      | some result =>
          obtain ⟨op, rest⟩ := result
          exact absurd (operator?_shorter found) (by simp [skipGap])

theorem chainFrom_fuel (suffix : LeavesSuffix operand) {fuel fuel' : Nat} {text : List Char}
    (enough : text.length ≤ fuel) (enough' : text.length ≤ fuel') (left : Expr) :
    chainFrom operand operators fuel left text = chainFrom operand operators fuel' left text := by
  induction fuel generalizing fuel' left text with
  | zero =>
      obtain rfl : text = [] := List.eq_nil_of_length_eq_zero (by omega)
      rw [chainFrom_nil, chainFrom_nil]
  | succ fuel ih =>
      cases fuel' with
      | zero =>
          obtain rfl : text = [] := List.eq_nil_of_length_eq_zero (by omega)
          rw [chainFrom_nil, chainFrom_nil]
      | succ fuel' =>
          cases found : operator? operators (skipGap text) with
          | none => simp only [chainFrom, found]
          | some result =>
              obtain ⟨op, rest⟩ := result
              simp only [chainFrom, found]
              refine Reading.bind_congr (suffix _) fun right behind within => ?_
              have shorter := operator?_shorter found
              have skipped := (skipGap_suffix text).length_le
              have remains := (within.trans (skipGap_suffix rest)).length_le
              exact ih (by omega) (by omega) _

theorem chainFrom_none {text : List Char} (none : operator? operators (skipGap text) = none)
    (fuel : Nat) (left : Expr) : chainFrom operand operators fuel left text = .read left text := by
  cases fuel with
  | zero => rfl
  | succ fuel => simp only [chainFrom, none]

theorem chainFrom_some (suffix : LeavesSuffix operand) {text rest : List Char} {op : Operator}
    (found : operator? operators (skipGap text) = some (op, rest)) (left : Expr) :
    chainFrom operand operators text.length left text =
      (operand (skipGap rest)).bind fun right behind =>
        chainFrom operand operators behind.length (.binary op left right) behind := by
  rw [chainFrom_fuel suffix (Nat.le_refl _) (Nat.le_succ _)]
  simp only [chainFrom, found]
  refine Reading.bind_congr (suffix _) fun right behind within => ?_
  have shorter := operator?_shorter found
  have skipped := (skipGap_suffix text).length_le
  have remains := (within.trans (skipGap_suffix rest)).length_le
  exact chainFrom_fuel suffix (by omega) (Nat.le_refl _) _

theorem chain_leavesSuffix (suffix : LeavesSuffix operand) :
    LeavesSuffix (chain operators operand) := fun text =>
  (suffix text).bind fun left rest => chainFrom_within suffix rest.length left rest

variable {expression : Reader Expr}

theorem argumentsFrom_within (suffix : LeavesSuffix expression) (fuel : Nat) (args : List Expr)
    (text : List Char) : (argumentsFrom expression fuel args text).Within text := by
  induction fuel generalizing args text with
  | zero => exact List.suffix_rfl
  | succ fuel ih =>
      simp only [argumentsFrom]
      split
      · rename_i rest comma
        have restSuffix : rest <:+ text :=
          (comma ▸ List.suffix_cons ',' rest).trans (skipGap_suffix text)
        have here := suffix (skipGap rest)
        split
        · rename_i arg behind read
          rw [read] at here
          exact (ih _ behind).mono (here.trans ((skipGap_suffix rest).trans restSuffix))
        · exact List.suffix_rfl
        · trivial
      · exact List.suffix_rfl

theorem argumentsFrom_nil (fuel : Nat) (args : List Expr) :
    argumentsFrom expression fuel args [] = .read args [] := by
  cases fuel with
  | zero => rfl
  | succ fuel => rfl

theorem argumentsFrom_fuel (suffix : LeavesSuffix expression) {fuel fuel' : Nat}
    {text : List Char} (enough : text.length ≤ fuel) (enough' : text.length ≤ fuel')
    (args : List Expr) :
    argumentsFrom expression fuel args text = argumentsFrom expression fuel' args text := by
  induction fuel generalizing fuel' args text with
  | zero =>
      obtain rfl : text = [] := List.eq_nil_of_length_eq_zero (by omega)
      rw [argumentsFrom_nil, argumentsFrom_nil]
  | succ fuel ih =>
      cases fuel' with
      | zero =>
          obtain rfl : text = [] := List.eq_nil_of_length_eq_zero (by omega)
          rw [argumentsFrom_nil, argumentsFrom_nil]
      | succ fuel' =>
          simp only [argumentsFrom]
          split
          · rename_i rest comma
            split
            · rename_i arg behind read
              have here := suffix (skipGap rest)
              rw [read] at here
              have skipped := (skipGap_suffix text).length_le
              have remains := (List.IsSuffix.trans here (skipGap_suffix rest)).length_le
              simp only [comma, List.length_cons] at skipped
              exact ih (by omega) (by omega) _
            · rfl
            · rfl
          · rfl

theorem argumentsFrom_stop {text : List Char} (noComma : (skipGap text).head? ≠ some ',')
    (fuel : Nat) (args : List Expr) :
    argumentsFrom expression fuel args text = .read args text := by
  cases fuel with
  | zero => rfl
  | succ fuel =>
      simp only [argumentsFrom]
      split
      · rename_i comma
        simp [comma] at noComma
      · rfl

theorem argumentsFrom_comma (suffix : LeavesSuffix expression) {text rest behind : List Char}
    {arg : Expr} (comma : skipGap text = ',' :: rest)
    (found : expression (skipGap rest) = .read arg behind) (args : List Expr) :
    argumentsFrom expression text.length args text =
      argumentsFrom expression behind.length (args ++ [arg]) behind := by
  rw [argumentsFrom_fuel suffix (Nat.le_refl _) (Nat.le_succ _)]
  simp only [argumentsFrom, comma, found]
  have here := suffix (skipGap rest)
  rw [found] at here
  have skipped := (skipGap_suffix text).length_le
  have remains := (List.IsSuffix.trans here (skipGap_suffix rest)).length_le
  simp only [comma, List.length_cons] at skipped
  exact argumentsFrom_fuel suffix (by omega) (Nat.le_refl _) _

theorem arguments_leavesSuffix (suffix : LeavesSuffix expression) :
    LeavesSuffix (arguments expression) := by
  intro text
  have here := suffix text
  unfold arguments
  split
  · rename_i arg rest read
    rw [read] at here
    exact (argumentsFrom_within suffix rest.length [arg] rest).mono here
  · exact List.suffix_rfl
  · trivial

theorem closing_leavesSuffix (value : α) : LeavesSuffix (closing value) := by
  intro text
  unfold closing
  split
  · rename_i rest found
    exact (found ▸ List.suffix_cons ')' rest).trans (skipGap_suffix text)
  · exact List.suffix_rfl

theorem group_leavesSuffix (suffix : LeavesSuffix expression) :
    LeavesSuffix (group expression) := by
  intro text
  unfold group
  split
  · rename_i rest
    have inner := (suffix (skipGap rest)).bind closing_leavesSuffix
    exact inner.mono ((skipGap_suffix rest).trans (List.suffix_cons '(' rest))
  · exact List.suffix_rfl

theorem literal_leavesSuffix : LeavesSuffix literal := by
  intro text
  unfold literal
  split
  · rename_i word rest found
    exact suffix_of_eq_append (literal?_eq_some found).1
  · exact List.suffix_rfl

theorem call_leavesSuffix (suffix : LeavesSuffix expression) : LeavesSuffix (call expression) := by
  intro text
  unfold call
  split
  · exact List.suffix_rfl
  · rename_i name rest found
    have restSuffix := suffix_of_eq_append (name?_eq_some_iff.1 found).1
    split
    · rename_i behind opened
      have inner := (arguments_leavesSuffix suffix (skipGap behind)).bind
        fun args => closing_leavesSuffix (Expr.call (String.ofList name) args)
      have behindSuffix := (opened ▸ List.suffix_cons '(' behind).trans (skipGap_suffix rest)
      exact inner.mono ((skipGap_suffix behind).trans (behindSuffix.trans restSuffix))
    · exact List.suffix_rfl

theorem path_leavesSuffix : LeavesSuffix path := by
  intro text
  unfold path
  split
  · rename_i word rest found
    exact suffix_of_eq_append (path?_eq_some found).1
  · exact List.suffix_rfl

theorem primary_leavesSuffix (suffix : LeavesSuffix expression) :
    LeavesSuffix (primary expression) := fun text =>
  (group_leavesSuffix suffix text).orElse
    ((literal_leavesSuffix text).orElse
      ((call_leavesSuffix suffix text).orElse (path_leavesSuffix text)))

theorem unaryMark?_eq_none_iff {text : List Char} :
    unaryMark? text = none ↔
      keyword? "not" text = none ∧ ∀ rest, text = '-' :: rest → (digits? rest).isSome = true := by
  simp only [unaryMark?, Option.orElse_eq_orElse, Option.orElse_eq_or, Option.or_eq_none_iff]
  refine and_congr_right fun _ => ?_
  split
  · simp [Option.isSome_iff_ne_none]
  · rename_i noMinus
    exact iff_of_true rfl fun rest minus => (noMinus rest minus).elim

theorem unaryMark?_suffix {text rest : List Char} (found : unaryMark? text = some rest) :
    rest <:+ text := by
  simp only [unaryMark?, Option.orElse_eq_orElse, Option.orElse_eq_or, Option.or_eq_some_iff]
    at found
  rcases found with word | ⟨_, minus⟩
  · exact keyword?_suffix word
  · split at minus
    · split at minus
      · simp at minus
      · exact Option.some.inj minus ▸ List.suffix_cons '-' _
    · simp at minus

theorem skipMarks_suffix (fuel : Nat) (text : List Char) : skipMarks fuel text <:+ text := by
  induction fuel generalizing text with
  | zero => exact List.suffix_rfl
  | succ fuel ih =>
      simp only [skipMarks]
      split
      · rename_i rest found
        exact (ih _).trans ((skipGap_suffix rest).trans (unaryMark?_suffix found))
      · exact List.suffix_rfl

theorem skipMarks_of_none {text : List Char} (noMark : unaryMark? text = none) (fuel : Nat) :
    skipMarks fuel text = text := by
  cases fuel with
  | zero => rfl
  | succ fuel => simp only [skipMarks, noMark]

theorem unary_leavesSuffix (suffix : LeavesSuffix expression) :
    LeavesSuffix (unary expression) := by
  intro text
  have here := (primary_leavesSuffix suffix _).mono (skipMarks_suffix text.length text)
  simp only [unary]
  split <;> exact here.bind fun value rest => List.suffix_rfl

end Loops

def levelOperators : Nat → List Operator
  | 0 => [.or]
  | 1 => [.and]
  | 2 => [.eq, .ne, .gt, .ge, .lt, .le]
  | 3 => [.add, .sub]
  | 4 => [.mul, .div, .mod]
  | _ => []

theorem mem_levelOperators {op : Operator} {level : Nat} :
    op ∈ levelOperators level ↔ op.precedence = level := by
  match level with
  | 0 | 1 | 2 | 3 | 4 => cases op <;> decide
  | level + 5 =>
      have tighter := op.precedence_lt_five
      simp only [levelOperators, List.not_mem_nil, false_iff]
      omega

/-- The reader of a level of the grammar, for parts in parentheses that are read as given. -/
def levelReader (inner : Reader Expr) : Nat → Reader Expr
  | 0 => disjunction inner
  | 1 => conjunction inner
  | 2 => comparison inner
  | 3 => additive inner
  | 4 => multiplicative inner
  | _ => unary inner

theorem levelReader_eq_chain (inner : Reader Expr) {level : Nat} (below : level < primaryLevel) :
    levelReader inner level = chain (levelOperators level) (levelReader inner (level + 1)) := by
  match level with
  | 0 | 1 | 2 | 3 | 4 => rfl
  | level + 5 => exact absurd below (by simp [primaryLevel])

theorem levelReader_leavesSuffix {inner : Reader Expr} (suffix : LeavesSuffix inner)
    (level : Nat) : LeavesSuffix (levelReader inner level) := by
  by_cases below : level < primaryLevel
  · rw [levelReader_eq_chain inner below]
    exact chain_leavesSuffix (levelReader_leavesSuffix suffix (level + 1))
  · match level with
    | 0 | 1 | 2 | 3 | 4 => exact absurd (by decide) below
    | level + 5 => exact unary_leavesSuffix suffix
termination_by primaryLevel - level

theorem expression_leavesSuffix (budget : Nat) : LeavesSuffix (expression budget) := by
  induction budget with
  | zero => exact fun _ => trivial
  | succ budget ih => exact levelReader_leavesSuffix ih 0

end ODataAdapter.Filter
