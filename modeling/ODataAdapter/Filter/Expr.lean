import ODataAdapter.Filter.Operator

/-!
Filter expressions as trees. Literals keep the text they were written with, and a node that no
backend text exists for is kept as a description of itself.
-/

namespace ODataAdapter.Filter

inductive Expr
  | binary (op : Operator) (left right : Expr)
  | convert (source : Expr)
  | call (name : String) (args : List Expr)
  | literal (text : String)
  | property (name : String)
  | unsupported (description : String)
  deriving Repr, Inhabited

namespace Expr

def isLogical : Expr → Bool
  | binary op _ _ => op.isLogical
  | _ => false

mutual

def height : Expr → Nat
  | binary _ left right => max left.height right.height + 1
  | convert source => source.height + 1
  | call _ args => heights args + 1
  | literal _ | property _ | unsupported _ => 1

def heights : List Expr → Nat
  | [] => 0
  | arg :: args => max arg.height (heights args)

end

mutual

def same : Expr → Expr → Bool
  | binary op left right, binary op' left' right' =>
      op = op' && left.same left' && right.same right'
  | convert source, convert source' => source.same source'
  | call name args, call name' args' => name = name' && sameList args args'
  | literal text, literal text' => text = text'
  | property name, property name' => name = name'
  | unsupported description, unsupported description' => description = description'
  | _, _ => false

def sameList : List Expr → List Expr → Bool
  | [], [] => true
  | arg :: args, arg' :: args' => arg.same arg' && sameList args args'
  | _, _ => false

end

mutual

theorem same_iff (first second : Expr) : first.same second = true ↔ first = second := by
  cases first <;> cases second <;> simp [same, same_iff, sameList_iff, and_assoc]

theorem sameList_iff (first second : List Expr) :
    sameList first second = true ↔ first = second := by
  cases first <;> cases second <;> simp [sameList, same_iff, sameList_iff]

end

instance : DecidableEq Expr := fun first second =>
  decidable_of_iff _ (same_iff first second)

end Expr

end ODataAdapter.Filter
