import ODataAdapter.Error
import ODataAdapter.Filter.Expr
import ODataAdapter.Mapping.Basic

/-!
Filters as backend text. Fields are renamed, and what refers to a deleted field is pruned: under
`and` and `or` the pruned operand alone is left out, any other node goes as a whole. Operands of
`and` and `or` stand in parentheses, other operands only if they are `and` or `or` themselves.
-/

namespace ODataAdapter

/-- What becomes of a node: nothing, or a text with the first description of a node in it that no
backend text exists for. -/
inductive Rendered (α : Type)
  | pruned
  | kept (value : α) (obstacle : Option String)
  deriving DecidableEq, Repr

namespace Rendered

def isPruned {α : Type} : Rendered α → Bool
  | pruned => true
  | kept _ _ => false

def map {α β : Type} (f : α → β) : Rendered α → Rendered β
  | pruned => pruned
  | kept value obstacle => kept (f value) obstacle

end Rendered

namespace Filter.Expr

def inParens (text : String) : String :=
  "(" ++ text ++ ")"

def renderLogical (op : Operator) : Rendered String → Rendered String → Rendered String
  | .kept left obstacle, .kept right obstacle' =>
      .kept (inParens left ++ " " ++ op.token ++ " " ++ inParens right) (obstacle <|> obstacle')
  | .kept left obstacle, .pruned => .kept left obstacle
  | .pruned, right => right

def asOperand (operand : Expr) (text : String) : String :=
  if operand.isLogical then inParens text else text

def placeholder (description : String) : String :=
  "<unsupported: " ++ description ++ ">"

def renderProperty (mapping : Mapping) (name : String) : Rendered String :=
  match mapping.target? name with
  | some target => .kept target none
  | none => .pruned

mutual

/-- The rendering of a node, if the tree that has to be walked is no higher than the budget. Nothing
is walked after a part whose pruning settles the node. -/
def render (mapping : Mapping) : Expr → Nat → Option (Rendered String)
  | _, 0 => none
  | binary op left right, budget + 1 =>
      if op.isLogical then
        match left.render mapping budget, right.render mapping budget with
        | some left, some right => some (renderLogical op left right)
        | _, _ => none
      else
        match left.render mapping budget with
        | none => none
        | some .pruned => some .pruned
        | some (.kept text obstacle) =>
            (right.render mapping budget).map fun
              | .pruned => .pruned
              | .kept text' obstacle' =>
                  .kept (left.asOperand text ++ " " ++ op.token ++ " " ++ right.asOperand text')
                    (obstacle <|> obstacle')
  | convert source, budget + 1 =>
      (source.render mapping budget).map fun source => source.map inParens
  | call name args, budget + 1 =>
      (renderAll mapping args budget).map fun args =>
        args.map fun texts => name ++ inParens (String.intercalate "," texts)
  | literal text, _ + 1 => some (.kept text none)
  | property name, _ + 1 => some (renderProperty mapping name)
  | unsupported description, _ + 1 => some (.kept (placeholder description) (some description))

def renderAll (mapping : Mapping) : List Expr → Nat → Option (Rendered (List String))
  | [], _ => some (.kept [] none)
  | arg :: args, budget =>
      match arg.render mapping budget with
      | none => none
      | some .pruned => some .pruned
      | some (.kept text obstacle) =>
          (renderAll mapping args budget).map fun
            | .pruned => .pruned
            | .kept texts obstacle' => .kept (text :: texts) (obstacle <|> obstacle')

end

end Filter.Expr

structure Target where
  mapping : Mapping
  depthLimit : Nat

namespace Target

open ODataAdapter.Filter (Expr)

def renderFilter (target : Target) (expr : Expr) : Except AdaptError (Rendered String) :=
  match expr.render target.mapping target.depthLimit with
  | some rendered => .ok rendered
  | none => .error (.tooDeep target.depthLimit)

def filterText (target : Target) (expr : Expr) : Except AdaptError String :=
  match target.renderFilter expr with
  | .error error => .error error
  | .ok .pruned => .ok ""
  | .ok (.kept _ (some description)) => .error (.unsupported description)
  | .ok (.kept text none) => .ok text

end Target

end ODataAdapter
