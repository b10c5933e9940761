import ODataAdapter.Filter.Expr
import ODataAdapter.Text.Quoted

/-!
Outlines of filter trees: each node on lines of its own, its parts indented below it.
-/

namespace ODataAdapter.Filter

def entry (name : String) : List String → List String
  | [] => []
  | [line] => ["    " ++ name ++ line ++ ","]
  | line :: lines =>
      ("    " ++ name ++ line) ::
        (lines.dropLast.map ("    " ++ ·) ++ ["    " ++ lines.getLastD "" ++ ","])

def bracketed (opening closing : String) (entries : List String) : List String :=
  opening :: entries ++ [closing]

def stringEntry (name text : String) : List String :=
  entry name [Text.display text]

namespace Expr

mutual

def outline : Expr → List String
  | binary op left right =>
      bracketed "Binary \x7b" "\x7d"
        (entry "op: " [op.label] ++ entry "left: " left.outline ++ entry "right: " right.outline)
  | convert source => bracketed "Convert \x7b" "\x7d" (entry "source: " source.outline)
  | call name args =>
      let lines := outlines args
      let argLines := if lines.isEmpty then ["[]"] else bracketed "[" "]" lines
      bracketed "FunctionCall \x7b" "\x7d" (stringEntry "name: " name ++ entry "args: " argLines)
  | literal text => bracketed "Constant \x7b" "\x7d" (stringEntry "literal: " text)
  | property name => bracketed "Property \x7b" "\x7d" (stringEntry "name: " name)
  | unsupported description =>
      bracketed "Unsupported \x7b" "\x7d" (stringEntry "description: " description)

def outlines : List Expr → List String
  | [] => []
  | arg :: args => entry "" arg.outline ++ outlines args

end

end Expr

end ODataAdapter.Filter
