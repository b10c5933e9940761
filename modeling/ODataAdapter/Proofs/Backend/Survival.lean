import ODataAdapter.Proofs.Backend.Printing

/-!
The text of what is left of a tree when deleted fields go and the others are renamed, node by node.
It depends on the parts of a node only through their texts, and through which operands are logical.
-/

namespace ODataAdapter.Filter.Expr

def survivingText (mapping : Mapping) (expr : Expr) : Option String :=
  (expr.pruneGrouped mapping).map print

section Nodes

variable {mapping : Mapping} {op : Operator} {left right : Expr}

theorem survivingText_logical (logical : op.isLogical = true) :
    (binary op left right).survivingText mapping =
      match left.survivingText mapping, right.survivingText mapping with
      | some text, some text' =>
          some (inParens text ++ " " ++ op.token ++ " " ++ inParens text')
      | some text, none => some text
      | none, text => text := by
  simp only [survivingText, pruneGrouped, pruneWith, logical, if_true]
  cases left.pruneWith groupSurvivor mapping with
  | none => rfl
  | some tree =>
      cases right.pruneWith groupSurvivor mapping with
      | none => rfl
      | some tree' => simp [print, logical]

theorem survivingText_bare (other : op.isLogical = false) :
    (binary op left right).survivingText mapping =
      (left.survivingText mapping).bind fun text =>
        (right.survivingText mapping).map fun text' =>
          left.asOperand text ++ " " ++ op.token ++ " " ++ right.asOperand text' := by
  have placedLeft := @asOperand_groupSurvivor mapping left
  have placedRight := @asOperand_groupSurvivor mapping right
  simp only [pruneGrouped] at placedLeft placedRight
  simp only [survivingText, pruneGrouped, pruneWith, other, Bool.false_eq_true, if_false]
  cases foundLeft : left.pruneWith groupSurvivor mapping with
  | none => rfl
  | some tree =>
      cases foundRight : right.pruneWith groupSurvivor mapping with
      | none => rfl
      | some tree' => simp [print, other, placedLeft foundLeft, placedRight foundRight]

theorem survivingText_convert (source : Expr) :
    (convert source).survivingText mapping = (source.survivingText mapping).map inParens := by
  simp only [survivingText, pruneGrouped, pruneWith]
  cases source.pruneWith groupSurvivor mapping with
  | none => rfl
  | some tree => rfl

theorem survivingText_args (args : List Expr) :
    (pruneAllWith groupSurvivor mapping args).map printAll =
      (args.map (survivingText mapping)).mapM id := by
  induction args with
  | nil => rfl
  | cons arg args ih =>
      rw [List.map_cons, List.mapM_cons, ← ih, survivingText, pruneGrouped]
      simp only [pruneAllWith]
      cases arg.pruneWith groupSurvivor mapping with
      | none => rfl
      | some tree =>
          cases pruneAllWith groupSurvivor mapping args with
          | none => rfl
          | some trees => rfl

theorem survivingText_call (name : String) (args : List Expr) :
    (call name args).survivingText mapping =
      ((args.map (survivingText mapping)).mapM id).map fun texts =>
        name ++ inParens (String.intercalate "," texts) := by
  rw [← survivingText_args, survivingText, pruneGrouped]
  simp only [pruneWith]
  cases pruneAllWith groupSurvivor mapping args with
  | none => rfl
  | some trees => rfl

theorem survivingText_property (name : String) :
    (property name).survivingText mapping = mapping.target? name := by
  simp only [survivingText, pruneGrouped, pruneWith]
  cases mapping.target? name with
  | none => rfl
  | some target => rfl

theorem survivingText_empty (expr : Expr) : expr.survivingText .empty = some expr.print := by
  rw [survivingText, pruneGrouped_empty]
  rfl

end Nodes

theorem survivingText_binary_congr {mapping mapping' : Mapping} {left right left' right' : Expr}
    (op : Operator) (sameLeft : left.survivingText mapping = left'.survivingText mapping')
    (sameRight : right.survivingText mapping = right'.survivingText mapping')
    (alikeLeft : left.isLogical = left'.isLogical)
    (alikeRight : right.isLogical = right'.isLogical) :
    (binary op left right).survivingText mapping =
      (binary op left' right').survivingText mapping' := by
  by_cases logical : op.isLogical = true
  · rw [survivingText_logical logical, survivingText_logical logical, sameLeft, sameRight]
  · have other : op.isLogical = false := by simpa using logical
    rw [survivingText_bare other, survivingText_bare other, sameLeft, sameRight]
    simp only [asOperand, alikeLeft, alikeRight]

end ODataAdapter.Filter.Expr

namespace ODataAdapter.Target

open ODataAdapter.Filter

theorem supported_pruneGrouped {mapping : Mapping} {expr tree : Expr} (supported : expr.Supported)
    (left : expr.pruneGrouped mapping = some tree) : tree.Supported :=
  Expr.everywhere_pruneGrouped (fun _ _ _ _ => rfl) (fun _ _ _ _ _ _ _ _ => rfl) (fun _ => rfl)
    (fun _ _ _ _ => rfl) (fun _ _ _ _ => rfl) supported left

/-- As far as the translation walks the tree, it is no higher than the depth limit. -/
def WithinDepth (target : Target) (expr : Expr) : Prop :=
  (expr.render target.mapping target.depthLimit).isSome = true

theorem withinDepth_of_filterText {target : Target} {expr : Expr} {text : String}
    (translated : target.filterText expr = .ok text) : target.WithinDepth expr := by
  simp only [filterText, renderFilter] at translated
  rw [WithinDepth, Option.isSome_iff_ne_none]
  intro none
  simp [none] at translated

/-- A tree that has backend text throughout is translated to what is left of it. -/
theorem filterText_of_supported {target : Target} {expr : Expr} (supported : expr.Supported)
    (within : target.WithinDepth expr) :
    target.filterText expr = .ok ((expr.survivingText target.mapping).getD "") := by
  obtain ⟨rendered, found⟩ := Option.isSome_iff_exists.1 within
  have same := Expr.eq_of_render found
  simp only [filterText, renderFilter, found, Expr.survivingText]
  cases kept : expr.pruneGrouped target.mapping with
  | none => simp [same, kept, Expr.renderedAs]
  | some tree =>
      have none := Expr.firstUnsupported_eq_none_iff.2 (supported_pruneGrouped supported kept)
      simp [same, kept, Expr.renderedAs, none]

end ODataAdapter.Target
