import ODataAdapter.Proofs.Filter.Derivation

/-!
What holds at every node of a tree because of the words it was read from, nodes without backend
text included.
-/

namespace ODataAdapter.Filter

/-- The readers make only nodes that have the property. -/
structure HoldsAsRead (holds : Expr → Prop) : Prop where
  binary : ∀ op left right, holds (.binary op left right)
  literal : ∀ text word rest, literal? text = some (word, rest) →
    holds (.literal (String.ofList word))
  call : ∀ text name rest args, name? text = some (name, rest) →
    holds (.call (String.ofList name) args)
  property : ∀ text word rest, path? text = some (word, rest) →
    holds (.property (String.ofList word))
  unsupported : ∀ description, holds (.unsupported description)

/-- Every tree that is read has the property at every node. -/
def Gives (holds : Expr → Prop) (reader : Reader Expr) : Prop :=
  ∀ text expr rest, reader text = .read expr rest → expr.Everywhere holds

section Readers

variable {holds : Expr → Prop} {operand inner : Reader Expr}

theorem chainFrom_gives (made : HoldsAsRead holds) (gives : Gives holds operand)
    {operators : List Operator} {fuel : Nat} {left expr : Expr} {text rest : List Char}
    (everywhere : left.Everywhere holds)
    (found : chainFrom operand operators fuel left text = .read expr rest) :
    expr.Everywhere holds := by
  induction fuel generalizing left text with
  | zero =>
      obtain ⟨rfl, _⟩ := Reading.read.inj found
      exact everywhere
  | succ fuel ih =>
      simp only [chainFrom] at found
      split at found
      · obtain ⟨rfl, _⟩ := Reading.read.inj found
        exact everywhere
      · rename_i op behindToken _
        obtain ⟨right, behind, foundRight, later⟩ := Reading.bind_eq_read found
        have extended : (Expr.binary op left right).Everywhere holds :=
          ⟨made.binary op left right, everywhere, gives _ _ _ foundRight⟩
        exact ih extended later

theorem chain_gives (made : HoldsAsRead holds) (gives : Gives holds operand)
    (operators : List Operator) : Gives holds (chain operators operand) := by
  intro text expr rest found
  obtain ⟨left, behind, foundLeft, later⟩ := Reading.bind_eq_read found
  exact chainFrom_gives made gives (gives _ _ _ foundLeft) later

theorem argumentsFrom_gives (gives : Gives holds inner) {fuel : Nat} {read args : List Expr}
    {text rest : List Char} (everywhere : ∀ arg ∈ read, arg.Everywhere holds)
    (found : argumentsFrom inner fuel read text = .read args rest) :
    ∀ arg ∈ args, arg.Everywhere holds := by
  induction fuel generalizing read text with
  | zero =>
      obtain ⟨rfl, _⟩ := Reading.read.inj found
      exact everywhere
  | succ fuel ih =>
      simp only [argumentsFrom] at found
      split at found
      · split at found
        · rename_i arg behind foundArg
          refine ih (fun one member => ?_) found
          rcases List.mem_append.1 member with before | last
          · exact everywhere one before
          · obtain rfl := List.mem_singleton.1 last
            exact gives _ _ _ foundArg
        · obtain ⟨rfl, _⟩ := Reading.read.inj found
          exact everywhere
        · simp at found
      · obtain ⟨rfl, _⟩ := Reading.read.inj found
        exact everywhere

theorem arguments_gives (gives : Gives holds inner) {args : List Expr} {text rest : List Char}
    (found : arguments inner text = .read args rest) : ∀ arg ∈ args, arg.Everywhere holds := by
  unfold arguments at found
  split at found
  · rename_i arg behind foundArg
    refine argumentsFrom_gives gives (fun one member => ?_) found
    obtain rfl := List.mem_singleton.1 member
    exact gives _ _ _ foundArg
  · obtain ⟨rfl, _⟩ := Reading.read.inj found
    simp
  · simp at found

theorem group_gives (gives : Gives holds inner) : Gives holds (group inner) := by
  intro text expr rest found
  unfold group at found
  split at found
  · obtain ⟨read, behind, foundInner, foundClosing⟩ := Reading.bind_eq_read found
    obtain ⟨rfl, _⟩ := closing_eq_read foundClosing
    exact gives _ _ _ foundInner
  · simp at found

theorem literal_gives (made : HoldsAsRead holds) : Gives holds literal := by
  intro text expr rest found
  unfold literal at found
  split at found
  · rename_i word behind foundWord
    obtain ⟨rfl, _⟩ := Reading.read.inj found
    exact made.literal _ _ _ foundWord
  · simp at found

theorem call_gives (made : HoldsAsRead holds) (gives : Gives holds inner) :
    Gives holds (call inner) := by
  intro text expr rest found
  unfold call at found
  split at found
  · simp at found
  · rename_i name afterName foundName
    split at found
    · obtain ⟨args, left, foundArgs, foundClosing⟩ := Reading.bind_eq_read found
      obtain ⟨rfl, _⟩ := closing_eq_read foundClosing
      exact ⟨made.call _ _ _ args foundName,
        (Expr.allEverywhere_iff _ _).2 (arguments_gives gives foundArgs)⟩
    · simp at found

theorem path_gives (made : HoldsAsRead holds) : Gives holds path := by
  intro text expr rest found
  unfold path at found
  split at found
  · rename_i word behind foundWord
    obtain ⟨rfl, _⟩ := Reading.read.inj found
    exact made.property _ _ _ foundWord
  · simp at found

theorem primary_gives (made : HoldsAsRead holds) (gives : Gives holds inner) :
    Gives holds (primary inner) := by
  intro text expr rest found
  rcases Reading.orElse_eq_read found with inGroup | ⟨_, found⟩
  · exact group_gives gives _ _ _ inGroup
  · rcases Reading.orElse_eq_read found with isLiteral | ⟨_, found⟩
    · exact literal_gives made _ _ _ isLiteral
    · rcases Reading.orElse_eq_read found with isCall | ⟨_, isPath⟩
      · exact call_gives made gives _ _ _ isCall
      · exact path_gives made _ _ _ isPath

theorem unary_gives (made : HoldsAsRead holds) (gives : Gives holds inner) :
    Gives holds (unary inner) := by
  intro text expr rest found
  obtain ⟨read, behind, foundPrimary, done⟩ := Reading.bind_eq_read found
  split at done
  · obtain ⟨rfl, _⟩ := Reading.read.inj done
    exact primary_gives made gives _ _ _ foundPrimary
  · obtain ⟨rfl, _⟩ := Reading.read.inj done
    exact made.unsupported _

theorem levelReader_gives (made : HoldsAsRead holds) (gives : Gives holds inner) (level : Nat) :
    Gives holds (levelReader inner level) := by
  by_cases below : level < primaryLevel
  · rw [levelReader_eq_chain inner below]
    exact chain_gives made (levelReader_gives made gives (level + 1)) _
  · match level with
    | 0 | 1 | 2 | 3 | 4 => exact absurd (by decide) below
    | level + 5 => exact unary_gives made gives
termination_by primaryLevel - level

theorem expression_gives (made : HoldsAsRead holds) (budget : Nat) :
    Gives holds (expression budget) := by
  induction budget with
  | zero =>
      intro text expr rest found
      simp [expression] at found
  | succ budget ih => exact levelReader_gives made ih 0

theorem everywhere_of_readExpr (made : HoldsAsRead holds) {depthLimit : Nat} {text : List Char}
    {expr : Expr} (found : readExpr depthLimit text = .ok expr) : expr.Everywhere holds := by
  simp only [readExpr] at found
  split at found
  · simp at found
  · split at found
    · rename_i read rest foundRead
      split at found
      · obtain rfl := Except.ok.inj found
        exact expression_gives made _ _ _ _ foundRead
      · simp at found
    · simp at found
    · simp at found

end Readers

theorem startsOperand_of_literal? {text word rest : List Char}
    (found : literal? text = some (word, rest)) : StartsOperand word := by
  obtain ⟨_, quoted | ⟨name, value, named, _, rfl⟩ | ⟨_, isNumber | isWord⟩⟩ :=
    literal?_spelling found
  · exact quoted.startsOperand
  · exact named.startsOperand.append value
  · exact IsLiteral.startsOperand (.inr (.inr (.inl isNumber)))
  · exact IsLiteral.startsOperand (.inr (.inr (.inr isWord)))

theorem startsOperand_of_path? {text word rest : List Char}
    (found : path? text = some (word, rest)) : StartsOperand word :=
  (path?_eq_some found).2.1.startsOperand

end ODataAdapter.Filter
