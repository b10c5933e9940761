import ODataAdapter.Error
import ODataAdapter.Filter.Nesting
import ODataAdapter.Filter.Reader
import ODataAdapter.Text.Blank
import ODataAdapter.Text.Utf8

/-!
The filter expression that a text holds.
-/

namespace ODataAdapter.Filter

def offsetOf (whole rest : List Char) : Nat :=
  Text.utf8Length whole - Text.utf8Length rest

/-- The expression written in a text, blanks around it aside. The nesting is measured first, so one
level of budget more than the limit always suffices. -/
def readExpr (depthLimit : Nat) (text : List Char) : Except AdaptError Expr :=
  let text := Text.trim text
  let limit := nestingLimit depthLimit
  if limit < deepestNesting text then .error (.tooDeep limit)
  else
    match expression (limit + 1) text with
    | .read value rest =>
        let rest := Text.trimStart rest
        if rest.isEmpty then .ok value
        else
          .error
            (.read (offsetOf text rest) (.trailingFilter (String.ofList (Text.trimEnd rest))))
    | .stuck rest => .error (.read (offsetOf text rest) (.invalidFilter (String.ofList rest)))
    | .exhausted => .error (.tooDeep limit)

end ODataAdapter.Filter
