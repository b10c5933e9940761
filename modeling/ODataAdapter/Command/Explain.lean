import ODataAdapter.Command.Setup
import ODataAdapter.Filter.Outline

/-!
The action that shows how a query is read and what becomes of its parts.
-/

namespace ODataAdapter.Command

structure Report where
  lines : List String
  failure : Option CommandError := none

namespace Report

def andThen (report next : Report) : Report :=
  match report.failure with
  | some _ => report
  | none => { next with lines := report.lines ++ next.lines }

def failed (error : CommandError) : Report :=
  ⟨[], some error⟩

end Report

def headerReport (query : String) : Report :=
  ⟨["OData Query Explanation", "", "Query: " ++ query, ""], none⟩

def renderedLines : Rendered String → List String
  | .pruned => ["  Translated: (pruned)"]
  | .kept text obstacle =>
      ("  Translated: " ++ text) :: (obstacle.map ("  Unsupported: " ++ ·)).toList

def filterReport (target : Target) (filter : Option Filter.Expr) : Report :=
  match filter with
  | none => ⟨[], none⟩
  | some expr =>
      let tree : Report := ⟨"Filter tree:" :: expr.outline ++ [""], none⟩
      tree.andThen
        (match target.renderFilter expr with
        | .ok rendered => ⟨renderedLines rendered, none⟩
        | .error error => .failed (.adapt error))

def keyLabel (key : SortKey) : String :=
  if key.descending then key.property ++ " desc" else key.property

def orderReport (target : Target) (order : Option SortChain) : Report :=
  match order with
  | none => ⟨[], none⟩
  | some chain =>
      ⟨["Order keys: " ++ String.intercalate ", " (chain.keys.map keyLabel),
        "  Translated: " ++ target.orderText chain], none⟩

def queryReport (target : Target) (allow : Allowance) (options : QueryOptions) : Report :=
  match target.query allow options with
  | .ok query => ⟨["", "Backend query:", "  " ++ query], none⟩
  | .error error => ⟨["", "Rejected: " ++ error.message], none⟩

def optionsReport (target : Target) (allow : Allowance) (options : QueryOptions) : Report :=
  ((filterReport target options.filter).andThen (orderReport target options.order)).andThen
    (queryReport target allow options)

def explain (config : Config) (invocation : Invocation) (query : String) : Report :=
  (headerReport query).andThen <|
    match QueryOptions.ofText config.depthLimit query with
    | .error error => .failed (.adapt error)
    | .ok options =>
        match layered config invocation with
        | .error error => .failed error
        | .ok (mapping, allow) => optionsReport (config.target mapping) allow options

def optionRemarks (target : Target) (allow : Allowance) (options : QueryOptions) : List Remark :=
  (options.filter.map target.filterRemarks).getD [] ++
    match options.filter.map target.renderFilter with
    | some (.error _) => []
    | _ => (options.order.map target.orderRemarks).getD [] ++ target.queryRemarks allow options

def explainRemarks (config : Config) (invocation : Invocation) (query : String) : List Remark :=
  QueryOptions.remarks config.depthLimit query ++
    match QueryOptions.ofText config.depthLimit query with
    | .error _ => []
    | .ok options =>
        match layered config invocation with
        | .error _ => []
        | .ok (mapping, allow) => optionRemarks (config.target mapping) allow options

end ODataAdapter.Command
