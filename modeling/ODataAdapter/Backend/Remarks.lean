import ODataAdapter.Backend.Assembly
import ODataAdapter.Mapping.Records
import ODataAdapter.Query.Reader
import ODataAdapter.Text.Quoted

/-!
Remarks on the way a query or a payload was adapted, in the order in which the steps are taken. They
end where a step fails.
-/

namespace ODataAdapter

inductive Remark
  | usingConfig (path : String)
  | repeatedSource (entity field : String)
  | ignoredOption (name : String)
  | input (query : String)
  | rightPruned (op : Filter.Operator)
  | leftPruned (op : Filter.Operator)
  | prunedClause (field : String)
  | skippedKey (field : String)
  | noRendering (description : String)
  | assembled (query : String)
  | sharedField (field backendName : String)
  deriving DecidableEq, Repr

namespace Remark

/-- The remark is a warning, which is always shown; others are shown on demand. -/
def isWarning : Remark → Bool
  | repeatedSource _ _ | noRendering _ | sharedField _ _ => true
  | _ => false

def text : Remark → String
  | usingConfig path => "DEBUG using config file path=" ++ path
  | repeatedSource entity field =>
      "WARN field mapped more than once; the first pair wins entity=" ++ entity ++ " field=" ++
        field
  | ignoredOption name => "DEBUG ignoring query option option=" ++ name
  | input query => "Input: " ++ query
  | rightPruned op => "DEBUG right operand pruned, keeping left op=" ++ op.token
  | leftPruned op => "DEBUG left operand pruned, keeping right op=" ++ op.token
  | prunedClause field => "DEBUG pruning clause on deleted field field=" ++ field
  | skippedKey field => "DEBUG skipping sort key on deleted field field=" ++ field
  | noRendering description => "WARN no rendering for expression node node=" ++ description
  | assembled query => "DEBUG assembled backend query query=" ++ query
  | sharedField field backendName =>
      "WARN two backend keys map onto one field field=" ++ Text.display field ++
        " backend_key=" ++ backendName

end Remark

namespace Query

def clauseRemarks (depthLimit : Nat) (seen : List String) :
    List (List Char × List Char) → List Remark
  | [] => []
  | (key, value) :: clauses =>
      let key := String.ofList (Text.trim key)
      if key.isEmpty then clauseRemarks depthLimit seen clauses
      else if seen.contains key then []
      else
        match OptionKey.ofName? key with
        | none => .ignoredOption key :: clauseRemarks depthLimit (seen ++ [key]) clauses
        | some option =>
            match setOption depthLimit {} option value with
            | .ok _ => clauseRemarks depthLimit (seen ++ [key]) clauses
            | .error _ => []

end Query

def QueryOptions.remarks (depthLimit : Nat) (text : String) : List Remark :=
  Query.clauseRemarks depthLimit [] (Query.clausesOf text)

namespace Filter.Expr

def operandRemarks (op : Operator) : Rendered String → Rendered String → List Remark
  | .kept _ _, .pruned => [.rightPruned op]
  | .pruned, .kept _ _ => [.leftPruned op]
  | _, _ => []

mutual

def remarks (mapping : Mapping) : Expr → Nat → List Remark
  | _, 0 => []
  | binary op left right, budget + 1 =>
      left.remarks mapping budget ++
        match left.render mapping budget with
        | none => []
        | some rendered =>
            if op.isLogical then
              right.remarks mapping budget ++
                ((right.render mapping budget).map (operandRemarks op rendered)).getD []
            else if rendered.isPruned then []
            else right.remarks mapping budget
  | convert source, budget + 1 => source.remarks mapping budget
  | call _ args, budget + 1 => remarksAll mapping args budget
  | literal _, _ + 1 => []
  | property name, _ + 1 => if mapping.removes name then [.prunedClause name] else []
  | unsupported description, _ + 1 => [.noRendering description]

def remarksAll (mapping : Mapping) : List Expr → Nat → List Remark
  | [], _ => []
  | arg :: args, budget =>
      arg.remarks mapping budget ++
        match arg.render mapping budget with
        | some (.kept _ _) => remarksAll mapping args budget
        | _ => []

end

end Filter.Expr

namespace Target

def filterRemarks (target : Target) (expr : Filter.Expr) : List Remark :=
  expr.remarks target.mapping target.depthLimit

def orderRemarks (target : Target) (chain : SortChain) : List Remark :=
  (chain.keys.filter fun key => target.mapping.removes key.property).map fun key =>
    .skippedKey key.property

def queryRemarks (target : Target) (allow : Allowance) (options : QueryOptions) : List Remark :=
  let filterRemarks := (options.filter.map target.filterRemarks).getD []
  match target.query allow options with
  | .error _ => filterRemarks
  | .ok query =>
      filterRemarks ++ (options.order.map target.orderRemarks).getD [] ++ [.assembled query]

end Target

namespace Mapping

/-- Members that get a client name which an earlier member has. -/
def recordRemarks (mapping : Mapping) (seen : List String) : Record → List Remark
  | [] => []
  | (key, _) :: members =>
      let name := mapping.clientName key
      if seen.contains name then .sharedField name key :: mapping.recordRemarks seen members
      else mapping.recordRemarks (name :: seen) members

def rowRemarks (mapping : Mapping) : List Json → List Remark
  | .object record :: rows => mapping.recordRemarks [] record ++ mapping.rowRemarks rows
  | _ => []

def payloadRemarks (mapping : Mapping) : Json → List Remark
  | .array rows => mapping.rowRemarks rows
  | .object record =>
      match Record.get? record "value" with
      | some (.array rows) => mapping.rowRemarks rows
      | _ => mapping.recordRemarks [] record
  | _ => []

end Mapping

end ODataAdapter
