import ODataAdapter.Backend.Ordering
import ODataAdapter.Query.Options
import ODataAdapter.Text.Blank

/-!
Query strings for the backend: a question mark and clauses, each of which ends with `&`.
-/

namespace ODataAdapter

structure Allowance where
  skip : Bool
  top : Bool
  count : Bool
  deriving DecidableEq, Repr, Inhabited

namespace Allowance

def all : Allowance := ⟨true, true, true⟩
def none : Allowance := ⟨false, false, false⟩

end Allowance

def isBlankText (text : String) : Bool :=
  Text.allBlank text.toList

def textClause (key value : String) : List (String × String) :=
  if isBlankText value then [] else [(key, value)]

def optionClause (key : String) (allowed : Bool) (value : Option String) :
    List (String × String) :=
  if allowed then (value.map (key, ·)).toList else []

def clauseText (clause : String × String) : String :=
  clause.1 ++ "=" ++ clause.2 ++ "&"

def queryText (clauses : List (String × String)) : String :=
  "?" ++ String.join (clauses.map clauseText)

namespace Target

def clauses (target : Target) (allow : Allowance) (options : QueryOptions) :
    Except AdaptError (List (String × String)) := do
  let filter ← match options.filter with
    | some expr => target.filterText expr
    | none => .ok ""
  let order := (options.order.map target.orderText).getD ""
  return textClause "$filter" filter ++
    textClause "$orderby" order ++
    optionClause "$skip" allow.skip (options.skip.map fun count => toString count.toNat) ++
    optionClause "$top" allow.top (options.top.map fun count => toString count.toNat) ++
    optionClause "$inlinecount" allow.count options.inlineCount

def query (target : Target) (allow : Allowance) (options : QueryOptions) :
    Except AdaptError String :=
  (target.clauses allow options).map queryText

end Target

def sendable (query : String) : Except AdaptError String :=
  if ((Text.trim query.toList).dropWhile (· = '?')).isEmpty then .error .nothingLeft
  else .ok query

end ODataAdapter
