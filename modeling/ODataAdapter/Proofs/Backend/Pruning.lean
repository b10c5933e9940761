import ODataAdapter.Backend.Rendering
import ODataAdapter.Proofs.Filter.Tree

/-!
Rendering in one pass against pruning first and printing then. The pass decides about parentheses
from the operands as they were before pruning, so the tree to be printed keeps a conversion where a
logical operand has shrunk to one that is not logical.
-/

namespace ODataAdapter.Filter.Expr

mutual

def print : Expr → String
  | binary op left right =>
      if op.isLogical then inParens left.print ++ " " ++ op.token ++ " " ++ inParens right.print
      else left.asOperand left.print ++ " " ++ op.token ++ " " ++ right.asOperand right.print
  | convert source => inParens source.print
  | call name args => name ++ inParens (String.intercalate "," (printAll args))
  | literal text => text
  | property name => name
  | unsupported description => placeholder description

def printAll : List Expr → List String
  | [] => []
  | arg :: args => arg.print :: printAll args

end

mutual

def firstUnsupported : Expr → Option String
  | binary _ left right => left.firstUnsupported <|> right.firstUnsupported
  | convert source => source.firstUnsupported
  | call _ args => firstUnsupportedIn args
  | literal _ | property _ => none
  | unsupported description => some description

def firstUnsupportedIn : List Expr → Option String
  | [] => none
  | arg :: args => arg.firstUnsupported <|> firstUnsupportedIn args

end

mutual

/-- The tree that is left of a tree when deleted fields go and the others are renamed. Under `and`
and `or` one side may survive alone, any other node goes with the first of its parts that does. What
is left of an operand of another operator is put in its place. -/
def pruneWith (place : Expr → Expr → Expr) (mapping : Mapping) : Expr → Option Expr
  | binary op left right =>
      if op.isLogical then
        match left.pruneWith place mapping, right.pruneWith place mapping with
        | some left, some right => some (binary op left right)
        | some left, none => some left
        | none, survivor => survivor
      else
        match left.pruneWith place mapping, right.pruneWith place mapping with
        | some left', some right' => some (binary op (place left left') (place right right'))
        | _, _ => none
  | convert source => (source.pruneWith place mapping).map convert
  | call name args => (pruneAllWith place mapping args).map (call name)
  | literal text => some (literal text)
  | property name => (mapping.target? name).map property
  | unsupported description => some (unsupported description)

def pruneAllWith (place : Expr → Expr → Expr) (mapping : Mapping) : List Expr → Option (List Expr)
  | [] => some []
  | arg :: args =>
      match arg.pruneWith place mapping, pruneAllWith place mapping args with
      | some arg, some args => some (arg :: args)
      | _, _ => none

end

def prune (mapping : Mapping) (expr : Expr) : Option Expr :=
  expr.pruneWith (fun _ survivor => survivor) mapping

/-- A conversion around the survivor of a logical operand that is not logical any more. -/
def groupSurvivor (operand survivor : Expr) : Expr :=
  if operand.isLogical && !survivor.isLogical then convert survivor else survivor

def pruneGrouped (mapping : Mapping) (expr : Expr) : Option Expr :=
  expr.pruneWith groupSurvivor mapping

section Survivors

variable {place : Expr → Expr → Expr} {mapping : Mapping}

theorem pruneWith_binary_cases {op : Operator} {left right tree : Expr}
    (kept : (binary op left right).pruneWith place mapping = some tree) :
    (op.isLogical = true ∧
      (left.pruneWith place mapping = some tree ∨ right.pruneWith place mapping = some tree)) ∨
    ∃ left' right', left.pruneWith place mapping = some left' ∧
      right.pruneWith place mapping = some right' ∧
        (op.isLogical = true ∧ tree = binary op left' right' ∨
          op.isLogical = false ∧ tree = binary op (place left left') (place right right')) := by
  simp only [pruneWith] at kept
  split at kept
  · rename_i logical
    split at kept
    · rename_i left' right' foundLeft foundRight
      exact Or.inr ⟨left', right', foundLeft, foundRight,
        Or.inl ⟨logical, (Option.some.inj kept).symm⟩⟩
    · rename_i left' foundLeft _
      exact Or.inl ⟨logical, Or.inl (foundLeft.trans kept)⟩
    · exact Or.inl ⟨logical, Or.inr kept⟩
  · rename_i other
    split at kept
    · rename_i left' right' foundLeft foundRight
      exact Or.inr ⟨left', right', foundLeft, foundRight,
        Or.inr ⟨by simpa using other, (Option.some.inj kept).symm⟩⟩
    · simp at kept

theorem isLogical_of_pruneWith {expr tree : Expr} (other : expr.isLogical = false)
    (left : expr.pruneWith place mapping = some tree) : tree.isLogical = false := by
  cases expr with
  | binary op first second =>
      have notLogical : op.isLogical = false := other
      rcases pruneWith_binary_cases left with ⟨logical, _⟩ | ⟨_, _, _, _, ⟨logical, _⟩ | ⟨_, rfl⟩⟩
      · simp [notLogical] at logical
      · simp [notLogical] at logical
      · exact notLogical
  | convert source =>
      obtain ⟨survivor, _, rfl⟩ := Option.map_eq_some_iff.1 left
      rfl
  | call name args =>
      obtain ⟨survivors, _, rfl⟩ := Option.map_eq_some_iff.1 left
      rfl
  | literal text =>
      obtain rfl := Option.some.inj left
      rfl
  | property name =>
      obtain ⟨target, _, rfl⟩ := Option.map_eq_some_iff.1 left
      rfl
  | unsupported description =>
      obtain rfl := Option.some.inj left
      rfl

end Survivors

theorem asOperand_groupSurvivor {mapping : Mapping} {operand survivor : Expr}
    (left : operand.pruneGrouped mapping = some survivor) :
    (groupSurvivor operand survivor).asOperand (groupSurvivor operand survivor).print =
      operand.asOperand survivor.print := by
  cases logical : operand.isLogical with
  | false =>
      have stays := isLogical_of_pruneWith logical left
      simp [groupSurvivor, asOperand, logical, stays]
  | true =>
      cases stays : survivor.isLogical with
      | false =>
          have converted : groupSurvivor operand survivor = convert survivor := by
            simp [groupSurvivor, logical, stays]
          have plain : (convert survivor).isLogical = false := rfl
          rw [converted]
          simp [asOperand, logical, plain, print]
      | true => simp [groupSurvivor, asOperand, logical, stays]

theorem firstUnsupported_groupSurvivor (operand survivor : Expr) :
    (groupSurvivor operand survivor).firstUnsupported = survivor.firstUnsupported := by
  simp only [groupSurvivor]
  split
  · rfl
  · rfl

/-! Rendering. -/

def renderedAs : Option Expr → Rendered String
  | none => .pruned
  | some tree => .kept tree.print tree.firstUnsupported

def renderedAllAs : Option (List Expr) → Rendered (List String)
  | none => .pruned
  | some trees => .kept (printAll trees) (firstUnsupportedIn trees)

theorem renderAll_eq {mapping : Mapping} {args : List Expr} {budget : Nat}
    (each : ∀ arg ∈ args,
      arg.render mapping budget = some (renderedAs (arg.pruneGrouped mapping))) :
    renderAll mapping args budget =
      some (renderedAllAs (pruneAllWith groupSurvivor mapping args)) := by
  induction args with
  | nil => rfl
  | cons arg args ih =>
      have others := ih fun arg member => each arg (List.mem_cons_of_mem _ member)
      have first := each arg List.mem_cons_self
      rw [pruneGrouped] at first
      simp only [renderAll, first, pruneAllWith, others]
      cases arg.pruneWith groupSurvivor mapping with
      | none => rfl
      | some tree =>
          cases pruneAllWith groupSurvivor mapping args with
          | none => rfl
          | some trees => rfl

theorem heights_le_iff {args : List Expr} {bound : Nat} :
    heights args ≤ bound ↔ ∀ arg ∈ args, arg.height ≤ bound := by
  induction args with
  | nil => simp [heights]
  | cons arg args ih => simp [heights, ih]

theorem render_eq {mapping : Mapping} {expr : Expr} {budget : Nat} (fits : expr.height ≤ budget) :
    expr.render mapping budget = some (renderedAs (expr.pruneGrouped mapping)) := by
  induction expr using structural generalizing budget with
  | binary op left right ihLeft ihRight =>
      rw [height] at fits
      obtain ⟨budget, rfl⟩ := Nat.exists_eq_add_one_of_ne_zero (by omega : budget ≠ 0)
      have fitsLeft : left.height ≤ budget := by omega
      have fitsRight : right.height ≤ budget := by omega
      have leftEq := ihLeft fitsLeft
      have rightEq := ihRight fitsRight
      -- The pass puts operands in parentheses by what they were before pruning.
      have placedLeft := @asOperand_groupSurvivor mapping left
      have placedRight := @asOperand_groupSurvivor mapping right
      simp only [pruneGrouped] at leftEq rightEq placedLeft placedRight
      simp only [render, leftEq, rightEq, pruneGrouped, pruneWith]
      cases logical : op.isLogical with
      | true =>
          cases left.pruneWith groupSurvivor mapping with
          | none => rfl
          | some tree =>
              cases right.pruneWith groupSurvivor mapping with
              | none => rfl
              | some tree' => simp [renderedAs, renderLogical, print, logical, firstUnsupported]
      | false =>
          cases foundLeft : left.pruneWith groupSurvivor mapping with
          | none => rfl
          | some tree =>
              cases foundRight : right.pruneWith groupSurvivor mapping with
              | none => rfl
              | some tree' =>
                  simp [renderedAs, print, logical, firstUnsupported, placedLeft foundLeft,
                    placedRight foundRight, firstUnsupported_groupSurvivor]
  | convert source ih =>
      rw [height] at fits
      obtain ⟨budget, rfl⟩ := Nat.exists_eq_add_one_of_ne_zero (by omega : budget ≠ 0)
      have sourceEq := ih (Nat.le_of_succ_le_succ fits)
      simp only [pruneGrouped] at sourceEq
      simp only [render, sourceEq, pruneGrouped, pruneWith]
      cases source.pruneWith groupSurvivor mapping with
      | none => rfl
      | some tree => rfl
  | call name args ih =>
      rw [height] at fits
      obtain ⟨budget, rfl⟩ := Nat.exists_eq_add_one_of_ne_zero (by omega : budget ≠ 0)
      have fitsArgs := heights_le_iff.1 (Nat.le_of_succ_le_succ fits)
      have argsEq := renderAll_eq fun arg member => ih arg member (fitsArgs arg member)
      simp only [render, argsEq, pruneGrouped, pruneWith]
      cases pruneAllWith groupSurvivor mapping args with
      | none => rfl
      | some trees => rfl
  | literal text =>
      obtain ⟨budget, rfl⟩ := Nat.exists_eq_add_of_le' fits
      rfl
  | property name =>
      obtain ⟨budget, rfl⟩ := Nat.exists_eq_add_of_le' fits
      simp only [height, render, renderProperty, pruneGrouped, pruneWith]
      cases mapping.target? name with
      | none => rfl
      | some target => rfl
  | unsupported description =>
      obtain ⟨budget, rfl⟩ := Nat.exists_eq_add_of_le' fits
      rfl

theorem renderAll_mono {mapping : Mapping} {args : List Expr} {budget budget' : Nat}
    {rendered : Rendered (List String)}
    (each : ∀ arg ∈ args, ∀ rendered, arg.render mapping budget = some rendered →
      arg.render mapping budget' = some rendered)
    (found : renderAll mapping args budget = some rendered) :
    renderAll mapping args budget' = some rendered := by
  induction args generalizing rendered with
  | nil => exact found
  | cons arg args ih =>
      have others {rendered} :=
        @ih rendered fun arg member => each arg (List.mem_cons_of_mem _ member)
      have first := each arg List.mem_cons_self
      simp only [renderAll] at found ⊢
      split at found
      · simp at found
      · rename_i foundArg
        rw [first _ foundArg]
        exact found
      · rename_i foundArg
        obtain ⟨renderedArgs, foundArgs, same⟩ := Option.map_eq_some_iff.1 found
        rw [first _ foundArg, others foundArgs]
        exact congrArg some same

theorem budgets_succ {mapping : Mapping} {expr : Expr} {budget budget' : Nat}
    {rendered : Rendered String} (found : expr.render mapping budget = some rendered)
    (enough : budget ≤ budget') :
    ∃ less less', budget = less + 1 ∧ budget' = less' + 1 ∧ less ≤ less' := by
  cases budget with
  | zero => simp [render] at found
  | succ less =>
      obtain ⟨less', rfl⟩ := Nat.exists_eq_add_one_of_ne_zero (by omega : budget' ≠ 0)
      exact ⟨less, less', rfl, rfl, Nat.le_of_succ_le_succ enough⟩

theorem render_mono {mapping : Mapping} {expr : Expr} {budget budget' : Nat}
    {rendered : Rendered String} (found : expr.render mapping budget = some rendered)
    (enough : budget ≤ budget') : expr.render mapping budget' = some rendered := by
  induction expr using structural generalizing budget budget' rendered with
  | binary op left right ihLeft ihRight =>
      obtain ⟨budget, budget', rfl, rfl, stillEnough⟩ := budgets_succ found enough
      simp only [render] at found ⊢
      cases logical : op.isLogical with
      | true =>
          simp only [logical, if_true] at found ⊢
          split at found
          · rename_i foundLeft foundRight
            rw [ihLeft foundLeft stillEnough, ihRight foundRight stillEnough]
            exact found
          · simp at found
      | false =>
          simp only [logical, Bool.false_eq_true, if_false] at found ⊢
          split at found
          · simp at found
          · rename_i foundLeft
            rw [ihLeft foundLeft stillEnough]
            exact found
          · rename_i foundLeft
            obtain ⟨renderedRight, foundRight, same⟩ := Option.map_eq_some_iff.1 found
            rw [ihLeft foundLeft stillEnough, ihRight foundRight stillEnough]
            exact congrArg some same
  | convert source ih =>
      obtain ⟨budget, budget', rfl, rfl, stillEnough⟩ := budgets_succ found enough
      obtain ⟨renderedSource, foundSource, same⟩ := Option.map_eq_some_iff.1 found
      simp only [render]
      rw [ih foundSource stillEnough]
      exact congrArg some same
  | call name args ih =>
      obtain ⟨budget, budget', rfl, rfl, stillEnough⟩ := budgets_succ found enough
      obtain ⟨renderedArgs, foundArgs, same⟩ := Option.map_eq_some_iff.1 found
      simp only [render]
      rw [renderAll_mono (fun arg member _ foundArg => ih arg member foundArg stillEnough)
        foundArgs]
      exact congrArg some same
  | literal text =>
      obtain ⟨budget, budget', rfl, rfl, _⟩ := budgets_succ found enough
      exact found
  | property name =>
      obtain ⟨budget, budget', rfl, rfl, _⟩ := budgets_succ found enough
      exact found
  | unsupported description =>
      obtain ⟨budget, budget', rfl, rfl, _⟩ := budgets_succ found enough
      exact found

theorem eq_of_render {mapping : Mapping} {expr : Expr} {budget : Nat} {rendered : Rendered String}
    (found : expr.render mapping budget = some rendered) :
    rendered = renderedAs (expr.pruneGrouped mapping) := by
  have larger := render_mono found (Nat.le_max_left budget expr.height)
  rw [render_eq (Nat.le_max_right budget expr.height)] at larger
  exact (Option.some.inj larger).symm

theorem groupSurvivor_self (expr : Expr) : groupSurvivor expr expr = expr := by
  simp [groupSurvivor]

theorem pruneGrouped_empty (expr : Expr) : expr.pruneGrouped .empty = some expr := by
  induction expr using structural with
  | binary op left right ihLeft ihRight =>
      rw [pruneGrouped] at ihLeft ihRight
      simp [pruneGrouped, pruneWith, ihLeft, ihRight, groupSurvivor_self]
  | convert source ih =>
      rw [pruneGrouped] at ih
      simp [pruneGrouped, pruneWith, ih]
  | call name args ih =>
      have kept : pruneAllWith groupSurvivor .empty args = some args := by
        induction args with
        | nil => rfl
        | cons arg args ihArgs =>
            have first := ih arg List.mem_cons_self
            have others := ihArgs fun arg member => ih arg (List.mem_cons_of_mem _ member)
            rw [pruneGrouped] at first
            simp [pruneAllWith, first, others]
      simp [pruneGrouped, pruneWith, kept]
  | literal text => rfl
  | property name => rfl
  | unsupported description => rfl

theorem render_empty {expr : Expr} {budget : Nat} (fits : expr.height ≤ budget) :
    expr.render .empty budget = some (.kept expr.print expr.firstUnsupported) := by
  rw [render_eq fits, pruneGrouped_empty]
  rfl

theorem exists_arg_of_pruneAllWith {place : Expr → Expr → Expr} {mapping : Mapping}
    {args trees : List Expr} (left : pruneAllWith place mapping args = some trees) :
    ∀ tree ∈ trees, ∃ arg ∈ args, arg.pruneWith place mapping = some tree := by
  induction args generalizing trees with
  | nil =>
      obtain rfl := Option.some.inj left
      simp
  | cons arg args ih =>
      simp only [pruneAllWith] at left
      split at left
      · rename_i tree others foundTree foundOthers
        obtain rfl := Option.some.inj left
        refine List.forall_mem_cons.2 ⟨⟨arg, by simp, foundTree⟩, fun other member => ?_⟩
        obtain ⟨arg', member', found⟩ := ih foundOthers other member
        exact ⟨arg', List.mem_cons_of_mem _ member', found⟩
      · simp at left

theorem height_groupSurvivor_le (operand survivor : Expr) :
    (groupSurvivor operand survivor).height ≤ survivor.height + 1 := by
  simp only [groupSurvivor]
  split
  · exact Nat.le_refl _
  · exact Nat.le_succ _

theorem height_pruneGrouped_le {mapping : Mapping} {expr tree : Expr}
    (left : expr.pruneGrouped mapping = some tree) :
    tree.height ≤ expr.height ∧ (groupSurvivor expr tree).height ≤ expr.height := by
  have unplaced {expr tree : Expr} (other : expr.isLogical = false)
      (lower : tree.height ≤ expr.height) :
      tree.height ≤ expr.height ∧ (groupSurvivor expr tree).height ≤ expr.height := by
    simpa [groupSurvivor, other] using lower
  induction expr using structural generalizing tree with
  | binary op first second ihFirst ihSecond =>
      simp only [pruneGrouped] at ihFirst ihSecond
      have survivorFits {survivor : Expr}
          (lower : survivor.height ≤ max first.height second.height) :
          survivor.height ≤ (binary op first second).height ∧
            (groupSurvivor (binary op first second) survivor).height ≤
              (binary op first second).height := by
        have grouped := height_groupSurvivor_le (binary op first second) survivor
        rw [height]
        omega
      rcases pruneWith_binary_cases left with ⟨_, foundFirst | foundSecond⟩ |
        ⟨first', second', foundFirst, foundSecond, ⟨logical, rfl⟩ | ⟨other, rfl⟩⟩
      · exact survivorFits (Nat.le_trans (ihFirst foundFirst).1 (Nat.le_max_left _ _))
      · exact survivorFits (Nat.le_trans (ihSecond foundSecond).1 (Nat.le_max_right _ _))
      · have lower : (binary op first' second').height ≤ (binary op first second).height := by
          have lowerFirst := (ihFirst foundFirst).1
          have lowerSecond := (ihSecond foundSecond).1
          simp only [height]
          omega
        exact ⟨lower, by simpa [groupSurvivor, isLogical, logical] using lower⟩
      · refine unplaced other ?_
        have lowerFirst := (ihFirst foundFirst).2
        have lowerSecond := (ihSecond foundSecond).2
        simp only [height]
        omega
  | convert source ih =>
      obtain ⟨survivor, found, rfl⟩ := Option.map_eq_some_iff.1 left
      exact unplaced rfl (Nat.succ_le_succ (ih found).1)
  | call name args ih =>
      obtain ⟨survivors, found, rfl⟩ := Option.map_eq_some_iff.1 left
      refine unplaced rfl (Nat.succ_le_succ (heights_le_iff.2 fun survivor member => ?_))
      obtain ⟨arg, member', foundArg⟩ := exists_arg_of_pruneAllWith found survivor member
      exact Nat.le_trans (ih arg member' foundArg).1 (heights_le_iff.1 (Nat.le_refl _) arg member')
  | literal text =>
      obtain rfl := Option.some.inj left
      exact unplaced rfl (Nat.le_refl _)
  | property name =>
      obtain ⟨target, _, rfl⟩ := Option.map_eq_some_iff.1 left
      exact unplaced rfl (Nat.le_refl _)
  | unsupported description =>
      obtain rfl := Option.some.inj left
      exact unplaced rfl (Nat.le_refl _)

theorem eraseConverts_groupSurvivor (operand survivor : Expr) :
    (groupSurvivor operand survivor).eraseConverts = survivor.eraseConverts := by
  simp only [groupSurvivor]
  split
  · rfl
  · rfl

theorem both_or_neither {α β : Type} {f : α → β} {first second : Option α}
    (same : first.map f = second.map f) :
    (first = none ∧ second = none) ∨
      ∃ value value', first = some value ∧ second = some value' ∧ f value = f value' := by
  cases first with
  | none => exact Or.inl ⟨rfl, Option.map_eq_none_iff.1 same.symm⟩
  | some value =>
      obtain ⟨value', found, image⟩ := Option.map_eq_some_iff.1 same.symm
      exact Or.inr ⟨value, value', rfl, found, image.symm⟩

theorem eraseConverts_pruneAllGrouped {mapping : Mapping} {args : List Expr}
    (each : ∀ arg ∈ args,
      (arg.pruneGrouped mapping).map eraseConverts = (arg.prune mapping).map eraseConverts) :
    (pruneAllWith groupSurvivor mapping args).map eraseConvertsAll =
      (pruneAllWith (fun _ survivor => survivor) mapping args).map eraseConvertsAll := by
  induction args with
  | nil => rfl
  | cons arg args ih =>
      have others := ih fun arg member => each arg (List.mem_cons_of_mem _ member)
      have first := each arg List.mem_cons_self
      simp only [pruneGrouped, prune] at first
      simp only [pruneAllWith]
      rcases both_or_neither first with ⟨gone, gone'⟩ | ⟨tree, tree', found, found', same⟩
      · simp [gone, gone']
      · rcases both_or_neither others with ⟨gone, gone'⟩ | ⟨trees, trees', founds, founds', sames⟩
        · simp [gone, gone']
        · simp [found, found', founds, founds', eraseConvertsAll, same, sames]

theorem eraseConverts_pruneGrouped (mapping : Mapping) (expr : Expr) :
    (expr.pruneGrouped mapping).map eraseConverts = (expr.prune mapping).map eraseConverts := by
  induction expr using structural with
  | binary op left right ihLeft ihRight =>
      simp only [pruneGrouped, prune] at ihLeft ihRight
      simp only [pruneGrouped, prune, pruneWith]
      rcases both_or_neither ihLeft with ⟨gone, gone'⟩ | ⟨tree, tree', found, found', same⟩
      · simp only [gone, gone']
        split
        · exact ihRight
        · rfl
      · rcases both_or_neither ihRight with ⟨gone, gone'⟩ | ⟨other, other', found₂, found₂', same₂⟩
        · simp only [found, found', gone, gone']
          split
          · exact congrArg some same
          · rfl
        · simp only [found, found', found₂, found₂']
          split
          · simp [eraseConverts, same, same₂]
          · simp [eraseConverts, eraseConverts_groupSurvivor, same, same₂]
  | convert source ih =>
      simpa [pruneGrouped, prune, pruneWith, Function.comp_def, eraseConverts] using ih
  | call name args ih =>
      have wrapped := congrArg (Option.map (call name)) (eraseConverts_pruneAllGrouped ih)
      simpa [pruneGrouped, prune, pruneWith, Function.comp_def, eraseConverts] using wrapped
  | literal text => rfl
  | property name => rfl
  | unsupported description => rfl

theorem pruneGrouped_eq_none_iff {mapping : Mapping} {expr : Expr} :
    expr.pruneGrouped mapping = none ↔ expr.prune mapping = none := by
  have erased := eraseConverts_pruneGrouped mapping expr
  constructor
  · intro gone
    rw [gone] at erased
    exact Option.map_eq_none_iff.1 erased.symm
  · intro gone
    rw [gone] at erased
    exact Option.map_eq_none_iff.1 erased

end ODataAdapter.Filter.Expr

namespace ODataAdapter.Target

open ODataAdapter.Filter (Expr)

/-- Rendering in one pass is pruning and printing: within the limit it gives a result, which is
empty when the pruned tree is, and else the print of the tree that keeps the parentheses of its
operands, which is also what that tree gives when no field is renamed or deleted. -/
theorem renderFilter_eq_prune_then_render (target : Target) {expr : Expr}
    (fits : expr.height ≤ target.depthLimit) :
    ∃ rendered, target.renderFilter expr = .ok rendered ∧
      (rendered.isPruned = true ↔ expr.prune target.mapping = none) ∧
      (rendered.isPruned = false → ∃ tree, expr.pruneGrouped target.mapping = some tree ∧
        rendered = .kept tree.print tree.firstUnsupported ∧
        Target.renderFilter ⟨.empty, target.depthLimit⟩ tree = .ok rendered) := by
  refine ⟨Expr.renderedAs (expr.pruneGrouped target.mapping), ?_, ?_, fun kept => ?_⟩
  · rw [renderFilter, Expr.render_eq fits]
  · rw [← Expr.pruneGrouped_eq_none_iff]
    cases expr.pruneGrouped target.mapping with
    | none => simp [Expr.renderedAs, Rendered.isPruned]
    | some tree => simp [Expr.renderedAs, Rendered.isPruned]
  · cases left : expr.pruneGrouped target.mapping with
    | none => simp [left, Expr.renderedAs, Rendered.isPruned] at kept
    | some tree =>
        have lower := Nat.le_trans (Expr.height_pruneGrouped_le left).1 fits
        refine ⟨tree, rfl, rfl, ?_⟩
        rw [renderFilter, Expr.render_empty lower]
        rfl

theorem renderFilter_eq_of_shrunk_operand :
    let target : Target := ⟨Mapping.empty.withDeleted "B", 3⟩
    let expr : Expr := .binary .eq (.binary .and (.property "A") (.property "B")) (.literal "1")
    let shrunk : Expr := .binary .eq (.convert (.property "A")) (.literal "1")
    expr.height ≤ target.depthLimit ∧ expr.pruneGrouped target.mapping = some shrunk ∧
      target.renderFilter expr = .ok (.kept "(A) eq 1" none) ∧
        Target.renderFilter ⟨.empty, target.depthLimit⟩ shrunk = .ok (.kept "(A) eq 1" none) := by
  intro target expr shrunk
  have fits : expr.height ≤ target.depthLimit := by decide
  have survives : expr.pruneGrouped target.mapping = some shrunk := by decide
  have printed : shrunk.print = "(A) eq 1" := by decide
  obtain ⟨rendered, ran, pruned, kept⟩ := renderFilter_eq_prune_then_render target fits
  have remains : rendered.isPruned = false := by
    rw [← Expr.pruneGrouped_eq_none_iff, survives] at pruned
    simpa using pruned
  obtain ⟨tree, found, rfl, again⟩ := kept remains
  obtain rfl := Option.some.inj (survives.symm.trans found)
  rw [printed] at ran again
  exact ⟨fits, survives, ran, again⟩

end ODataAdapter.Target
