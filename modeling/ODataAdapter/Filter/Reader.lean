import ODataAdapter.Filter.Expr
import ODataAdapter.Filter.Lexeme

/-!
Reading filter expressions. From the loosest to the tightest the levels are `or`, `and`,
comparisons, `add` and `sub`, `mul` and `div` and `mod`, unary marks, and primaries; operators of
one level group to the left. Expressions in parentheses and arguments of calls are read with one
level of a nesting budget less.
-/

namespace ODataAdapter.Filter

inductive Reading (α : Type)
  | read (value : α) (rest : List Char)
  | stuck (rest : List Char)
  | exhausted
  deriving DecidableEq, Repr

namespace Reading

def bind {α β : Type} (reading : Reading α) (next : α → List Char → Reading β) : Reading β :=
  match reading with
  | read value rest => next value rest
  | stuck rest => stuck rest
  | exhausted => exhausted

def orElse {α : Type} (reading : Reading α) (other : Unit → Reading α) : Reading α :=
  match reading with
  | stuck _ => other ()
  | done => done

end Reading

abbrev Reader (α : Type) := List Char → Reading α

def chainFrom (operand : Reader Expr) (operators : List Operator) :
    Nat → Expr → List Char → Reading Expr
  | 0, left, text => .read left text
  | fuel + 1, left, text =>
      match operator? operators (skipGap text) with
      | none => .read left text
      | some (operator, rest) =>
          (operand (skipGap rest)).bind fun right rest =>
            chainFrom operand operators fuel (.binary operator left right) rest

def chain (operators : List Operator) (operand : Reader Expr) : Reader Expr := fun text =>
  (operand text).bind fun left rest => chainFrom operand operators rest.length left rest

/-- The arguments after the first one. A comma that no argument follows is left unread. -/
def argumentsFrom (expression : Reader Expr) : Nat → List Expr → List Char → Reading (List Expr)
  | 0, args, text => .read args text
  | fuel + 1, args, text =>
      match skipGap text with
      | ',' :: rest =>
          match expression (skipGap rest) with
          | .read arg rest => argumentsFrom expression fuel (args ++ [arg]) rest
          | .stuck _ => .read args text
          | .exhausted => .exhausted
      | _ => .read args text

def arguments (expression : Reader Expr) : Reader (List Expr) := fun text =>
  match expression text with
  | .read arg rest => argumentsFrom expression rest.length [arg] rest
  | .stuck _ => .read [] text
  | .exhausted => .exhausted

def closing {α : Type} (value : α) : Reader α := fun text =>
  match skipGap text with
  | ')' :: rest => .read value rest
  | _ => .stuck text

def group (expression : Reader Expr) : Reader Expr
  | '(' :: rest => (expression (skipGap rest)).bind closing
  | text => .stuck text

def literal : Reader Expr := fun text =>
  match literal? text with
  | some (word, rest) => .read (.literal (String.ofList word)) rest
  | none => .stuck text

def call (expression : Reader Expr) : Reader Expr := fun text =>
  match name? text with
  | none => .stuck text
  | some (name, rest) =>
      match skipGap rest with
      | '(' :: rest =>
          (arguments expression (skipGap rest)).bind fun args rest =>
            closing (.call (String.ofList name) args) rest
      | _ => .stuck text

def path : Reader Expr := fun text =>
  match path? text with
  | some (word, rest) => .read (.property (String.ofList word)) rest
  | none => .stuck text

def primary (expression : Reader Expr) : Reader Expr := fun text =>
  (group expression text).orElse fun _ =>
    (literal text).orElse fun _ =>
      (call expression text).orElse fun _ => path text

def skipMarks : Nat → List Char → List Char
  | 0, text => text
  | fuel + 1, text =>
      match unaryMark? text with
      | some rest => skipMarks fuel (skipGap rest)
      | none => text

/-- A primary under unary marks has no backend text; it is kept as the text it was written with. -/
def unary (expression : Reader Expr) : Reader Expr := fun text =>
  let operand := skipMarks text.length text
  (primary expression operand).bind fun value rest =>
    if (unaryMark? text).isNone then .read value rest
    else
      let written := text.take (text.length - rest.length)
      .read (.unsupported ("unary: " ++ String.ofList written)) rest

def multiplicative (expression : Reader Expr) : Reader Expr :=
  chain [.mul, .div, .mod] (unary expression)

def additive (expression : Reader Expr) : Reader Expr :=
  chain [.add, .sub] (multiplicative expression)

def comparison (expression : Reader Expr) : Reader Expr :=
  chain [.eq, .ne, .gt, .ge, .lt, .le] (additive expression)

def conjunction (expression : Reader Expr) : Reader Expr :=
  chain [.and] (comparison expression)

def disjunction (expression : Reader Expr) : Reader Expr :=
  chain [.or] (conjunction expression)

def expression : Nat → Reader Expr
  | 0 => fun _ => .exhausted
  | budget + 1 => disjunction (expression budget)

end ODataAdapter.Filter
