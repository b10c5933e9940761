import ODataAdapter.Proofs.Backend.Composition

/-!
The depth limit. A filter is refused as too deep exactly if the part of its tree that the
translation walks is higher than the limit. Under `and` and `or` both sides are walked; elsewhere
nothing is walked behind the first part that is pruned, so only a tree without deleted fields is
always measured as a whole.
-/

namespace ODataAdapter.Filter.Expr

mutual

/-- The height of the part of a tree that the translation walks. -/
def walkedHeight (mapping : Mapping) : Expr → Nat
  | binary op left right =>
      if op.isLogical || (left.prune mapping).isSome then
        max (left.walkedHeight mapping) (right.walkedHeight mapping) + 1
      else left.walkedHeight mapping + 1
  | convert source => source.walkedHeight mapping + 1
  | call _ args => walkedHeights mapping args + 1
  | literal _ | property _ | unsupported _ => 1

def walkedHeights (mapping : Mapping) : List Expr → Nat
  | [] => 0
  | arg :: args =>
      if (arg.prune mapping).isSome then
        max (arg.walkedHeight mapping) (walkedHeights mapping args)
      else arg.walkedHeight mapping

end

section Walking

variable {mapping : Mapping} {budget : Nat}

theorem isPruned_of_render {expr : Expr} {rendered : Rendered String}
    (found : expr.render mapping budget = some rendered) :
    rendered.isPruned = !(expr.prune mapping).isSome := by
  have same : expr.pruneGrouped mapping = none ↔ expr.prune mapping = none :=
    pruneGrouped_eq_none_iff
  rw [eq_of_render found]
  cases grouped : expr.pruneGrouped mapping with
  | none => simp [renderedAs, Rendered.isPruned, same.1 grouped]
  | some tree =>
      have kept : expr.prune mapping ≠ none := fun gone => by simp [same.2 gone] at grouped
      simp [renderedAs, Rendered.isPruned, Option.isSome_iff_ne_none.2 kept]

theorem renderAll_isSome_iff {args : List Expr}
    (each : ∀ arg ∈ args,
      (arg.render mapping budget).isSome = true ↔ arg.walkedHeight mapping ≤ budget) :
    (renderAll mapping args budget).isSome = true ↔ walkedHeights mapping args ≤ budget := by
  induction args with
  | nil => simp [renderAll, walkedHeights]
  | cons arg args ih =>
      have first := each arg List.mem_cons_self
      have others := ih fun arg member => each arg (List.mem_cons_of_mem _ member)
      simp only [renderAll, walkedHeights]
      cases found : arg.render mapping budget with
      | none =>
          have deep : budget < arg.walkedHeight mapping := by simpa [found] using first
          refine iff_of_false (by simp) ?_
          split <;> omega
      | some rendered =>
          have fits : arg.walkedHeight mapping ≤ budget := first.1 (by simp [found])
          have pruned := isPruned_of_render found
          cases rendered with
          | pruned =>
              have gone : (arg.prune mapping).isSome = false := by
                simpa [Rendered.isPruned] using pruned
              simp [gone, fits]
          | kept text obstacle =>
              have kept : (arg.prune mapping).isSome = true := by
                simpa [Rendered.isPruned] using pruned
              simp [kept, fits, ← others]

theorem render_isSome_iff {expr : Expr} :
    (expr.render mapping budget).isSome = true ↔ expr.walkedHeight mapping ≤ budget := by
  induction expr using structural generalizing budget with
  | binary op left right ihLeft ihRight =>
      cases budget with
      | zero =>
          simp only [render, walkedHeight]
          split <;> simp
      | succ budget =>
          have ofLeft := @ihLeft budget
          have ofRight := @ihRight budget
          cases foundLeft : left.render mapping budget with
          | none =>
              have deep : budget < left.walkedHeight mapping := by simpa [foundLeft] using ofLeft
              refine iff_of_false (by simp [render, foundLeft]) ?_
              rw [walkedHeight]
              split <;> omega
          | some rendered =>
              have fits : left.walkedHeight mapping ≤ budget := ofLeft.1 (by simp [foundLeft])
              have pruned := isPruned_of_render foundLeft
              cases logical : op.isLogical with
              | true =>
                  cases foundRight : right.render mapping budget <;>
                    simpa [render, walkedHeight, foundLeft, foundRight, logical, fits] using ofRight
              | false =>
                  cases rendered with
                  | pruned =>
                      have gone : (left.prune mapping).isSome = false := by
                        simpa [Rendered.isPruned] using pruned
                      simp [render, walkedHeight, foundLeft, logical, gone, fits]
                  | kept text obstacle =>
                      have kept : (left.prune mapping).isSome = true := by
                        simpa [Rendered.isPruned] using pruned
                      simp [render, walkedHeight, foundLeft, logical, kept, fits, ← ofRight]
  | convert source ih =>
      cases budget with
      | zero => simp [render, walkedHeight]
      | succ budget => simp [render, walkedHeight, ih]
  | call name args ih =>
      cases budget with
      | zero => simp [render, walkedHeight]
      | succ budget =>
          have ofArgs := renderAll_isSome_iff fun arg member => @ih arg member budget
          simp [render, walkedHeight, ofArgs]
  | literal text => cases budget <;> simp [render, walkedHeight]
  | property name => cases budget <;> simp [render, walkedHeight]
  | unsupported description => cases budget <;> simp [render, walkedHeight]

theorem walkedHeight_le_height (mapping : Mapping) (expr : Expr) :
    expr.walkedHeight mapping ≤ expr.height :=
  render_isSome_iff.1 (by simp [render_eq (Nat.le_refl expr.height)])

theorem prune_of_kept {expr : Expr} (kept : ∀ name ∈ expr.fields, mapping.removes name = false) :
    (expr.prune mapping).isSome = true := by
  have grouped := pruneGrouped_of_kept kept
  rw [Option.isSome_iff_ne_none]
  intro gone
  simp [pruneGrouped_eq_none_iff.2 gone] at grouped

theorem walkedHeight_of_kept {expr : Expr}
    (kept : ∀ name ∈ expr.fields, mapping.removes name = false) :
    expr.walkedHeight mapping = expr.height := by
  induction expr using structural with
  | binary op left right ihLeft ihRight =>
      have keptLeft : ∀ name ∈ left.fields, mapping.removes name = false :=
        fun name field => kept name (List.mem_append_left _ field)
      have keptRight : ∀ name ∈ right.fields, mapping.removes name = false :=
        fun name field => kept name (List.mem_append_right _ field)
      simp [walkedHeight, height, prune_of_kept keptLeft, ihLeft keptLeft, ihRight keptRight]
  | convert source ih => rw [walkedHeight, height, ih kept]
  | call name args ih =>
      have each := fun arg member name field =>
        kept name (fields_subset_fieldsAll arg member name field)
      have whole : walkedHeights mapping args = heights args := by
        clear kept
        induction args with
        | nil => rfl
        | cons arg args ihArgs =>
            have others := ihArgs (fun arg member => ih arg (List.mem_cons_of_mem _ member))
              fun arg member => each arg (List.mem_cons_of_mem _ member)
            have keptFirst := each arg List.mem_cons_self
            simp [walkedHeights, heights, prune_of_kept keptFirst,
              ih arg List.mem_cons_self keptFirst, others]
      rw [walkedHeight, height, whole]
  | literal text => rfl
  | property name => rfl
  | unsupported description => rfl

end Walking

def IsClause : Expr → Prop
  | binary op left right => op.isLogical = false ∧ left.height = 1 ∧ right.height = 1
  | _ => False

/-- As many clauses joined by `and` and `or` from the left. -/
inductive ClauseChain : Nat → Expr → Prop
  | one {clause : Expr} : clause.IsClause → ClauseChain 1 clause
  | more {count : Nat} {op : Operator} {left clause : Expr} :
      ClauseChain count left → op.isLogical = true → clause.IsClause →
        ClauseChain (count + 1) (binary op left clause)

theorem IsClause.height_eq {clause : Expr} (isClause : clause.IsClause) : clause.height = 2 := by
  cases clause with
  | binary op left right => simp [height, isClause.2.1, isClause.2.2]
  | _ => exact isClause.elim

theorem ClauseChain.height_eq {count : Nat} {expr : Expr} (chain : ClauseChain count expr) :
    expr.height = count + 1 := by
  induction chain with
  | one isClause => exact isClause.height_eq
  | @more count op left clause chain _ isClause ih =>
      have positive : 1 ≤ count := by cases chain <;> omega
      rw [height, ih, isClause.height_eq]
      omega

end ODataAdapter.Filter.Expr

namespace ODataAdapter.Target

open ODataAdapter.Filter (Expr)

theorem renderFilter_eq_ok_iff {target : Target} {expr : Expr} {rendered : Rendered String} :
    target.renderFilter expr = .ok rendered ↔
      expr.render target.mapping target.depthLimit = some rendered := by
  rw [renderFilter]
  cases expr.render target.mapping target.depthLimit with
  | none => simp
  | some found => simp

theorem renderFilter_eq_tooDeep_iff {target : Target} {expr : Expr} :
    target.renderFilter expr = .error (.tooDeep target.depthLimit) ↔
      target.depthLimit < expr.walkedHeight target.mapping := by
  rw [renderFilter, ← Nat.not_le, ← Expr.render_isSome_iff]
  cases expr.render target.mapping target.depthLimit with
  | none => simp
  | some rendered => simp

/-- Translating fails only for a tree that is too deep, with the limit in the error, and never for
one within the limit. Without deleted fields it fails for every higher tree, so a chain of clauses
takes one level more than it has clauses. What is translated within a limit is translated alike
within any larger one. -/
theorem renderFilter_limit_exact (target : Target) (expr : Expr) :
    (∀ error, target.renderFilter expr = .error error → error = .tooDeep target.depthLimit) ∧
    (expr.height ≤ target.depthLimit → ∃ rendered, target.renderFilter expr = .ok rendered) ∧
    ((∀ name ∈ expr.fields, target.mapping.removes name = false) →
      (target.renderFilter expr = .error (.tooDeep target.depthLimit) ↔
        target.depthLimit < expr.height) ∧
      ∀ count, expr.ClauseChain count →
        ((∃ rendered, target.renderFilter expr = .ok rendered) ↔
          count + 1 ≤ target.depthLimit)) ∧
    ∀ rendered, target.renderFilter expr = .ok rendered → ∀ larger, target.depthLimit ≤ larger →
      Target.renderFilter ⟨target.mapping, larger⟩ expr = .ok rendered := by
  have accepted : (∃ rendered, target.renderFilter expr = .ok rendered) ↔
      expr.walkedHeight target.mapping ≤ target.depthLimit := by
    simp only [renderFilter_eq_ok_iff]
    rw [← Option.isSome_iff_exists, Expr.render_isSome_iff]
  refine ⟨fun error failed => ?_, fun fits => ?_, fun kept => ⟨?_, fun count chain => ?_⟩, ?_⟩
  · rw [renderFilter] at failed
    split at failed
    · simp at failed
    · exact (Except.error.inj failed).symm
  · exact accepted.2 (Nat.le_trans (Expr.walkedHeight_le_height _ _) fits)
  · rw [renderFilter_eq_tooDeep_iff, Expr.walkedHeight_of_kept kept]
  · rw [accepted, Expr.walkedHeight_of_kept kept, chain.height_eq]
  · intro rendered translated larger enough
    have found := renderFilter_eq_ok_iff.1 translated
    exact renderFilter_eq_ok_iff.2 (Expr.render_mono found enough)

theorem renderFilter_limit_exact_of_two_clauses :
    let first : Expr := .binary .eq (.property "A") (.literal "1")
    let second : Expr := .binary .gt (.property "B") (.literal "2")
    let expr : Expr := .binary .and first second
    ((∃ rendered, Target.renderFilter ⟨.empty, 2⟩ expr = .ok rendered) ↔ 2 + 1 ≤ 2) ∧
      ∃ rendered, Target.renderFilter ⟨.empty, 3⟩ expr = .ok rendered := by
  intro first second expr
  have chain : expr.ClauseChain 2 := .more (.one ⟨rfl, rfl, rfl⟩) rfl ⟨rfl, rfl, rfl⟩
  have kept : ∀ name ∈ expr.fields, Mapping.empty.removes name = false := by decide
  obtain ⟨_, _, narrow, _⟩ := renderFilter_limit_exact ⟨.empty, 2⟩ expr
  obtain ⟨_, fits, _⟩ := renderFilter_limit_exact ⟨.empty, 3⟩ expr
  exact ⟨(narrow kept).2 2 chain, fits (by decide)⟩

end ODataAdapter.Target
