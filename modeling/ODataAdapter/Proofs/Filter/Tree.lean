import ODataAdapter.Filter.Expr
import Mathlib

/-!
Properties of whole filter trees: what holds at every node, how tightly operators bind, and the tree
without its conversions.
-/

namespace ODataAdapter.Filter

def Operator.precedence : Operator → Nat
  | or => 0
  | and => 1
  | eq | ne | gt | ge | lt | le => 2
  | add | sub => 3
  | mul | div | mod => 4

theorem Operator.precedence_lt_five (op : Operator) : op.precedence < 5 := by
  cases op <;> decide

namespace Expr

@[elab_as_elim]
theorem structural {motive : Expr → Prop}
    (binary : ∀ op left right, motive left → motive right → motive (binary op left right))
    (convert : ∀ source, motive source → motive (convert source))
    (call : ∀ name args, (∀ arg ∈ args, motive arg) → motive (call name args))
    (literal : ∀ text, motive (literal text))
    (property : ∀ name, motive (property name))
    (unsupported : ∀ description, motive (unsupported description))
    (expr : Expr) : motive expr := by
  refine @Expr.rec motive (fun args => ∀ arg ∈ args, motive arg) binary convert call literal
    property unsupported ?_ ?_ expr
  · intro arg member
    simp at member
  · intro first others motiveFirst motiveOthers arg member
    rcases List.mem_cons.1 member with same | later
    · exact same ▸ motiveFirst
    · exact motiveOthers arg later

mutual

def Everywhere (holds : Expr → Prop) : Expr → Prop
  | binary op left right =>
      holds (binary op left right) ∧ left.Everywhere holds ∧ right.Everywhere holds
  | convert source => holds (convert source) ∧ source.Everywhere holds
  | call name args => holds (call name args) ∧ AllEverywhere holds args
  | literal text => holds (literal text)
  | property name => holds (property name)
  | unsupported description => holds (unsupported description)

def AllEverywhere (holds : Expr → Prop) : List Expr → Prop
  | [] => True
  | arg :: args => arg.Everywhere holds ∧ AllEverywhere holds args

end

theorem allEverywhere_iff (holds : Expr → Prop) (args : List Expr) :
    AllEverywhere holds args ↔ ∀ arg ∈ args, arg.Everywhere holds := by
  induction args with
  | nil => simp [AllEverywhere]
  | cons arg args ih => simp [AllEverywhere, ih]

def isUnsupported : Expr → Bool
  | unsupported _ => true
  | _ => false

def isConvert : Expr → Bool
  | convert _ => true
  | _ => false

/-- No node is without backend text. -/
def Supported (expr : Expr) : Prop :=
  expr.Everywhere fun node => node.isUnsupported = false

def ConvertFree (expr : Expr) : Prop :=
  expr.Everywhere fun node => node.isConvert = false

def StandsLeftOf (op : Operator) : Expr → Prop
  | binary inner _ _ => inner.isLogical = true ∨ op.precedence ≤ inner.precedence
  | _ => True

def StandsRightOf (op : Operator) : Expr → Prop
  | binary inner _ _ => inner.isLogical = true ∨ op.precedence < inner.precedence
  | _ => True

/-- The operands of a comparison or an arithmetic operator bind tightly enough to be written bare.
Logical operands need not, they are always in parentheses. -/
def BareOperandsBind : Expr → Prop
  | binary op left right =>
      op.isLogical = true ∨ left.StandsLeftOf op ∧ right.StandsRightOf op
  | _ => True

def BindsTightly (expr : Expr) : Prop :=
  expr.Everywhere BareOperandsBind

mutual

def eraseConverts : Expr → Expr
  | binary op left right => binary op left.eraseConverts right.eraseConverts
  | convert source => source.eraseConverts
  | call name args => call name (eraseConvertsAll args)
  | literal text => literal text
  | property name => property name
  | unsupported description => unsupported description

def eraseConvertsAll : List Expr → List Expr
  | [] => []
  | arg :: args => arg.eraseConverts :: eraseConvertsAll args

end

theorem eraseConvertsAll_eq_map (args : List Expr) :
    eraseConvertsAll args = args.map eraseConverts := by
  induction args with
  | nil => rfl
  | cons arg args ih => simp [eraseConvertsAll, ih]

theorem ConvertFree.eraseConverts_eq {expr : Expr} (free : expr.ConvertFree) :
    expr.eraseConverts = expr := by
  induction expr using structural with
  | binary op left right ihLeft ihRight =>
      rw [eraseConverts, ihLeft free.2.1, ihRight free.2.2]
  | convert source ih => simp [ConvertFree, Everywhere, isConvert] at free
  | call name args ih =>
      have argsFree := (allEverywhere_iff _ args).1 free.2
      have same : args.map eraseConverts = args.map id :=
        List.map_congr_left fun arg member => ih arg member (argsFree arg member)
      rw [eraseConverts, eraseConvertsAll_eq_map, same, List.map_id]
  | literal text => rfl
  | property name => rfl
  | unsupported description => rfl

end Expr

end ODataAdapter.Filter
