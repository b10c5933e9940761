import ODataAdapter.Backend.Assembly
import Mathlib

/-!
What is pruned does not show. Two filters that differ in one subtree, which is pruned in either, are
rendered alike, and so are two orderings that differ in keys on deleted fields.
-/

namespace ODataAdapter.Filter

/-- A tree with one hole. -/
inductive Context
  | hole
  | leftOperand (op : Operator) (inner : Context) (right : Expr)
  | rightOperand (op : Operator) (left : Expr) (inner : Context)
  | source (inner : Context)
  | argument (name : String) (before : List Expr) (inner : Context) (after : List Expr)

namespace Context

def fill (expr : Expr) : Context → Expr
  | hole => expr
  | leftOperand op inner right => .binary op (inner.fill expr) right
  | rightOperand op left inner => .binary op left (inner.fill expr)
  | source inner => .convert (inner.fill expr)
  | argument name before inner after => .call name (before ++ inner.fill expr :: after)

def depth : Context → Nat
  | hole => 0
  | leftOperand _ inner _ | rightOperand _ _ inner | source inner | argument _ _ inner _ =>
      inner.depth + 1

end Context

namespace Expr

variable {mapping : Mapping} {first second : Expr} {budget : Nat}

theorem renderAll_congr (same : first.render mapping budget = second.render mapping budget)
    (before after : List Expr) :
    renderAll mapping (before ++ first :: after) budget =
      renderAll mapping (before ++ second :: after) budget := by
  induction before with
  | nil => simp only [List.nil_append, renderAll, same]
  | cons arg before ih => simp only [List.cons_append, renderAll, ih]

theorem render_binary_congr {left right left' right' : Expr} (op : Operator)
    (sameLeft : left.render mapping budget = left'.render mapping budget)
    (sameRight : right.render mapping budget = right'.render mapping budget)
    (operandLeft : ∀ text obstacle, left.render mapping budget = some (.kept text obstacle) →
      left.asOperand text = left'.asOperand text)
    (operandRight : ∀ text obstacle, right.render mapping budget = some (.kept text obstacle) →
      right.asOperand text = right'.asOperand text) :
    (binary op left right).render mapping (budget + 1) =
      (binary op left' right').render mapping (budget + 1) := by
  rw [sameLeft] at operandLeft
  rw [sameRight] at operandRight
  simp only [render, sameLeft, sameRight]
  by_cases logical : op.isLogical = true
  · simp only [logical, if_true]
  · simp only [logical, Bool.false_eq_true, if_false]
    cases renderedLeft : left'.render mapping budget with
    | none => rfl
    | some outcome =>
        cases outcome with
        | pruned => rfl
        | kept text obstacle =>
            cases renderedRight : right'.render mapping budget with
            | none => rfl
            | some outcome' =>
                cases outcome' with
                | pruned => rfl
                | kept text' obstacle' =>
                    simp only [Option.map_some, operandLeft text obstacle renderedLeft,
                      operandRight text' obstacle' renderedRight]

theorem asOperand_fill {context : Context} (pruned : first.render mapping budget = some .pruned) :
    ∀ text obstacle, (context.fill first).render mapping (budget + context.depth) =
        some (.kept text obstacle) →
      (context.fill first).asOperand text = (context.fill second).asOperand text := by
  intro text obstacle kept
  -- A hole at the root would be pruned, and elsewhere the root does not depend on what is in it.
  cases context with
  | hole =>
      simp only [Context.fill, Context.depth, Nat.add_zero] at kept
      rw [pruned] at kept
      cases kept
  | leftOperand op inner right => rfl
  | rightOperand op left inner => rfl
  | source inner => rfl
  | argument name before inner after => rfl

theorem render_fill (context : Context) (prunedFirst : first.render mapping budget = some .pruned)
    (prunedSecond : second.render mapping budget = some .pruned) :
    (context.fill first).render mapping (budget + context.depth) =
      (context.fill second).render mapping (budget + context.depth) := by
  induction context with
  | hole =>
      simp only [Context.fill, Context.depth, Nat.add_zero]
      rw [prunedFirst, prunedSecond]
  | leftOperand op inner right ih =>
      simp only [Context.fill, Context.depth, ← Nat.add_assoc]
      apply render_binary_congr op ih rfl (asOperand_fill prunedFirst)
      intros
      rfl
  | rightOperand op left inner ih =>
      simp only [Context.fill, Context.depth, ← Nat.add_assoc]
      apply render_binary_congr op rfl ih _ (asOperand_fill prunedFirst)
      intros
      rfl
  | source inner ih =>
      simp only [Context.fill, Context.depth, ← Nat.add_assoc, render]
      rw [ih]
  | argument name before inner after ih =>
      simp only [Context.fill, Context.depth, ← Nat.add_assoc, render]
      rw [renderAll_congr ih]

end Expr

end ODataAdapter.Filter

namespace ODataAdapter

def Mapping.keptKeys (mapping : Mapping) (order : Option SortChain) : List SortKey :=
  ((order.map SortChain.keys).getD []).filter fun key => !mapping.removes key.property

namespace Target

open ODataAdapter.Filter (Context Expr)

variable {target : Target}

theorem keyText?_of_removes {key : SortKey}
    (removed : target.mapping.removes key.property = true) : target.keyText? key = none := by
  simp [keyText?, Mapping.target?, removed]

theorem orderText_eq_keptKeys (target : Target) (order : Option SortChain) :
    (order.map target.orderText).getD "" =
      String.intercalate "," ((target.mapping.keptKeys order).filterMap target.keyText?) := by
  have kept (keys : List SortKey) :
      (keys.filter fun key => !target.mapping.removes key.property).filterMap target.keyText? =
        keys.filterMap target.keyText? := by
    rw [List.filterMap_filter]
    apply List.filterMap_congr
    intro key _
    by_cases removed : target.mapping.removes key.property = true
    · simp [removed, keyText?_of_removes removed]
    · simp [removed]
  rw [Mapping.keptKeys, kept]
  cases order with
  | none => rfl
  | some chain => rfl

theorem query_congr {allow : Allowance} {options : QueryOptions} {first second : Expr}
    {order order' : Option SortChain}
    (sameFilter : target.renderFilter first = target.renderFilter second)
    (sameOrder : (order.map target.orderText).getD "" = (order'.map target.orderText).getD "") :
    target.query allow { options with filter := some first, order := order } =
      target.query allow { options with filter := some second, order := order' } := by
  simp only [query, clauses, filterText, sameFilter, sameOrder]

/-- A subtree that is pruned at its place can be any other one that is, and keys on deleted fields
can be put into an ordering or taken out of it: filter and ordering are rendered alike, or fail
alike, and so does the query. -/
theorem query_eq_of_pruned (target : Target) (context : Context) {first second : Expr}
    (prunedFirst :
      first.render target.mapping (target.depthLimit - context.depth) = some .pruned)
    (prunedSecond :
      second.render target.mapping (target.depthLimit - context.depth) = some .pruned) :
    target.renderFilter (context.fill first) = target.renderFilter (context.fill second) ∧
      ∀ order order' : Option SortChain,
        target.mapping.keptKeys order = target.mapping.keptKeys order' →
          (order.map target.orderText).getD "" = (order'.map target.orderText).getD "" ∧
            ∀ (allow : Allowance) (options : QueryOptions),
              target.query allow
                  { options with filter := some (context.fill first), order := order } =
                target.query allow
                  { options with filter := some (context.fill second), order := order' } := by
  have walked : target.depthLimit - context.depth ≠ 0 := by
    intro nothing
    rw [nothing] at prunedFirst
    simp [Expr.render] at prunedFirst
  have limit : target.depthLimit - context.depth + context.depth = target.depthLimit := by omega
  have filled := Expr.render_fill context prunedFirst prunedSecond
  rw [limit] at filled
  have sameFilter :
      target.renderFilter (context.fill first) = target.renderFilter (context.fill second) := by
    simp only [renderFilter, filled]
  refine ⟨sameFilter, ?_⟩
  intro order order' sameKeys
  have sameOrder :
      (order.map target.orderText).getD "" = (order'.map target.orderText).getD "" := by
    rw [orderText_eq_keptKeys, orderText_eq_keptKeys, sameKeys]
  refine ⟨sameOrder, ?_⟩
  intro allow options
  exact query_congr sameFilter sameOrder

theorem query_eq_of_pruned_argument :
    let target : Target := ⟨Mapping.empty.withDeleted "A", 5⟩
    let context : Context :=
      .leftOperand .or (.argument "f" [.literal "1"] (.source .hole) [.property "B"])
        (.property "C")
    let second : Expr := .binary .eq (.property "A") (.unsupported "unary: -B")
    let order : Option SortChain := some (.more ⟨"A", true⟩ (.last ⟨"A", false⟩))
    Expr.render target.mapping (.property "A") (target.depthLimit - context.depth) =
        some .pruned ∧
      second.render target.mapping (target.depthLimit - context.depth) = some .pruned ∧
      target.mapping.keptKeys order = target.mapping.keptKeys none ∧
      target.renderFilter (context.fill (.property "A")) =
        target.renderFilter (context.fill second) ∧
      target.query .all { filter := some (context.fill (.property "A")), order := order } =
        target.query .all { filter := some (context.fill second), order := none } := by
  intro target context second order
  have prunedFirst : Expr.render target.mapping (.property "A")
      (target.depthLimit - context.depth) = some .pruned := by rfl
  have prunedSecond : second.render target.mapping (target.depthLimit - context.depth) =
      some .pruned := by rfl
  have sameKeys : target.mapping.keptKeys order = target.mapping.keptKeys none := by decide
  obtain ⟨sameFilter, sameRest⟩ := query_eq_of_pruned target context prunedFirst prunedSecond
  exact ⟨prunedFirst, prunedSecond, sameKeys, sameFilter,
    (sameRest order none sameKeys).2 .all {}⟩

end Target

end ODataAdapter
