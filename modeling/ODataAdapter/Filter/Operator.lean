/-!
Binary operators of filter expressions and their words in query text.
-/

namespace ODataAdapter.Filter

inductive Operator
  | and | or
  | eq | ne | gt | ge | lt | le
  | add | sub
  | mul | div | mod
  deriving DecidableEq, Repr, Inhabited

namespace Operator

/-- The operators whose operands can be pruned independently of each other. -/
def isLogical : Operator → Bool
  | and | or => true
  | _ => false

def token : Operator → String
  | and => "and"
  | or => "or"
  | eq => "eq"
  | ne => "ne"
  | gt => "gt"
  | ge => "ge"
  | lt => "lt"
  | le => "le"
  | add => "add"
  | sub => "sub"
  | mul => "mul"
  | div => "div"
  | mod => "mod"

def label : Operator → String
  | and => "And"
  | or => "Or"
  | eq => "Eq"
  | ne => "Ne"
  | gt => "Gt"
  | ge => "Ge"
  | lt => "Lt"
  | le => "Le"
  | add => "Add"
  | sub => "Sub"
  | mul => "Mul"
  | div => "Div"
  | mod => "Mod"

def all : List Operator :=
  [and, or, eq, ne, gt, ge, lt, le, add, sub, mul, div, mod]

def ofToken? (token : String) : Option Operator :=
  all.find? (·.token = token)

theorem ofToken?_token (operator : Operator) : ofToken? operator.token = some operator := by
  cases operator <;> decide

end Operator

end ODataAdapter.Filter
