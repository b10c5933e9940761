/-!
How deep parentheses nest in filter text. Those inside quoted strings do not count.
-/

namespace ODataAdapter.Filter

def deepestFrom (quoted : Bool) (level : Nat) : List Char → Nat
  | [] => level
  | '\'' :: rest => deepestFrom (!quoted) level rest
  | '(' :: rest =>
      if quoted then deepestFrom quoted level rest
      else max level (deepestFrom quoted (level + 1) rest)
  | ')' :: rest =>
      if quoted then deepestFrom quoted level rest
      else max level (deepestFrom quoted (level - 1) rest)
  | _ :: rest => deepestFrom quoted level rest

/-- The deepest level of parentheses outside quoted strings. A parenthesis that closes nothing is
passed over. -/
def deepestNesting (text : List Char) : Nat :=
  deepestFrom false 0 text

def maxNesting : Nat := 64

def nestingLimit (depthLimit : Nat) : Nat :=
  min depthLimit maxNesting

end ODataAdapter.Filter
