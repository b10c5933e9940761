import ODataAdapter.Filter.Text
import ODataAdapter.Order.Reader
import ODataAdapter.Query.Encoding
import ODataAdapter.Query.Options

/-!
Reading query strings into options.
-/

namespace ODataAdapter

def defaultDepth : Nat := 256

namespace Query

inductive OptionKey
  | filter | orderby | skip | top | inlineCount
  deriving DecidableEq, Repr

namespace OptionKey

def name : OptionKey → String
  | filter => "$filter"
  | orderby => "$orderby"
  | skip => "$skip"
  | top => "$top"
  | inlineCount => "$inlinecount"

def ofName? (name : String) : Option OptionKey :=
  [filter, orderby, skip, top, inlineCount].find? (·.name = name)

end OptionKey

def count? (text : List Char) : Option UInt64 :=
  let digits := match text with
    | '+' :: rest => rest
    | _ => text
  if digits.isEmpty || !digits.all Char.isDigit then none
  else
    let value := Text.numberOf 10 digits
    if value < UInt64.size then some (UInt64.ofNat value) else none

def readCount (key : OptionKey) (value : List Char) : Except AdaptError UInt64 :=
  match count? (Text.trim value) with
  | some count => .ok count
  | none => .error (.read 0 (.badCount key.name (String.ofList value)))

def setOption (depthLimit : Nat) (options : QueryOptions) (key : OptionKey) (value : List Char) :
    Except AdaptError QueryOptions :=
  match key with
  | .filter =>
      (Filter.readExpr depthLimit value).map fun expr => { options with filter := some expr }
  | .orderby => (Order.readChain value).map fun chain => { options with order := some chain }
  | .skip => (readCount key value).map fun count => { options with skip := some count }
  | .top => (readCount key value).map fun count => { options with top := some count }
  | .inlineCount => .ok { options with inlineCount := some (String.ofList (Text.trim value)) }

/-- Read the clauses in order. Blank keys are skipped, and no other key may occur twice, whether its
option is read or not. -/
def readClauses (depthLimit : Nat) (seen : List String) (options : QueryOptions) :
    List (List Char × List Char) → Except AdaptError QueryOptions
  | [] => .ok options
  | (key, value) :: clauses =>
      let key := String.ofList (Text.trim key)
      if key.isEmpty then readClauses depthLimit seen options clauses
      else if seen.contains key then .error (.read 0 (.duplicateOption key))
      else
        match OptionKey.ofName? key with
        | none => readClauses depthLimit (seen ++ [key]) options clauses
        | some option =>
            match setOption depthLimit options option value with
            | .ok options => readClauses depthLimit (seen ++ [key]) options clauses
            | .error error => .error error

def clausesOf (text : String) : List (List Char × List Char) :=
  clauses ((Text.trim text.toList).dropWhile (· = '?'))

end Query

namespace QueryOptions

def ofText (depthLimit : Nat) (text : String) : Except AdaptError QueryOptions :=
  Query.readClauses depthLimit [] {} (Query.clausesOf text)

end QueryOptions

end ODataAdapter
