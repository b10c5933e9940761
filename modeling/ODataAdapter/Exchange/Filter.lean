import ODataAdapter.Exchange.Members
import ODataAdapter.Filter.Expr

/-!
Filter expressions in JSON: an object with one member, named for the kind of node, that holds the
parts of the node.
-/

namespace ODataAdapter.Exchange

open ODataAdapter.Filter (Expr Operator)

def operatorToJson (operator : Operator) : Json :=
  .string operator.token

/-- An operator is its word, alone or as the name of a null. -/
def operator : Decoder Operator
  | _, .string text => (WrittenString.toString? text).bind Operator.ofToken?
  | _ + 1, .object [(name, .null)] => (WrittenString.toString? name).bind Operator.ofToken?
  | _, _ => none

def nodeToJson (kind : String) (members : List (String × Json)) : Json :=
  .object [(kind, .object members)]

mutual

def exprToJson : Expr → Json
  | .binary op left right =>
      nodeToJson "Binary"
        [("op", operatorToJson op), ("left", exprToJson left), ("right", exprToJson right)]
  | .convert source => nodeToJson "Convert" [("source", exprToJson source)]
  | .call name args =>
      nodeToJson "FunctionCall" [("name", .string name), ("args", .array (exprsToJson args))]
  | .literal text => nodeToJson "Constant" [("literal", .string text)]
  | .property name => nodeToJson "Property" [("name", .string name)]
  | .unsupported description => nodeToJson "Unsupported" [("description", .string description)]

def exprsToJson : List Expr → List Json
  | [] => []
  | arg :: args => exprToJson arg :: exprsToJson args

end

def node (expr : Written → Option Expr) (exprs : Written → Option (List Expr)) (budget : Nat)
    (kind : String) (parts : Written) : Option Expr :=
  match kind with
  | "Binary" => do
      let [op, left, right] ← members? ["op", "left", "right"] parts | none
      let op ← op.bind (operator budget)
      let left ← left.bind expr
      let right ← right.bind expr
      return .binary op left right
  | "Convert" => do
      let [source] ← members? ["source"] parts | none
      (source.bind expr).map .convert
  | "FunctionCall" => do
      let [name, args] ← members? ["name", "args"] parts | none
      let name ← name.bind (string budget)
      let args ← args.bind exprs
      return .call name args
  | "Constant" => do
      let [text] ← members? ["literal"] parts | none
      (text.bind (string budget)).map .literal
  | "Property" => do
      let [name] ← members? ["name"] parts | none
      (name.bind (string budget)).map .property
  | "Unsupported" => do
      let [description] ← members? ["description"] parts | none
      (description.bind (string budget)).map .unsupported
  | _ => none

/-- An expression. The object that names a node and the one with its parts take one level of nesting
each. -/
def expr : Decoder Expr
  | budget + 2, .object [(kind, parts)] => do
      let kind ← WrittenString.toString? kind
      let exprs : Written → Option (List Expr) :=
        match budget with
        | 0 => fun _ => none
        | inner + 1 => items? (expr inner)
      node (expr budget) exprs budget kind parts
  | _, _ => none

end ODataAdapter.Exchange
