import ODataAdapter.Command.Setup
import ODataAdapter.Exchange.Options

/-!
The action of the bare command: print the backend query of a query, or its address.
-/

namespace ODataAdapter.Command

def banner : String :=
  "odata-remap — OData query rewriting\n\n" ++ "Usage: odata-remap <QUERY> [OPTIONS]\n\n" ++
    "Try: odata-remap --help\n"

def sourceOptions (config : Config) (files : Files) (source : Source) :
    Except CommandError (Option QueryOptions) :=
  match source with
  | .nowhere => .ok none
  | .query text => ((QueryOptions.ofText config.depthLimit text).map some).mapError .adapt
  | .file path =>
      match (files path).read with
      | .error reason => .error (.fileUnread path reason)
      | .ok text =>
          match Exchange.decodeText? Exchange.options text with
          | some options => .ok (some options)
          | none => .error (.optionsMalformed path)

def contentOf (config : Config) (mapping : Mapping) (allow : Allowance)
    (options : QueryOptions) : Except AdaptError String :=
  ((config.target mapping).query allow options).bind sendable

def located (config : Config) (invocation : Invocation) (query : String) :
    Except CommandError String :=
  if invocation.url then
    match invocation.entity with
    | none => .error .urlWithoutEntity
    | some entity => (config.url entity query).mapError .adapt
  else .ok query

def adaptOptions (config : Config) (invocation : Invocation) (options : QueryOptions) :
    Except CommandError String := do
  let (mapping, allow) ← layered config invocation
  let query ← (contentOf config mapping allow options).mapError .adapt
  located config invocation query

def adapt (config : Config) (files : Files) (invocation : Invocation) (source : Source) :
    Except CommandError String := do
  match ← sourceOptions config files source with
  | none => return banner
  | some options => return (← adaptOptions config invocation options) ++ "\n"

def sourceRemarks (config : Config) : Source → List Remark
  | .query text => QueryOptions.remarks config.depthLimit text
  | _ => []

def inputRemarks : Source → List Remark
  | .query text => [.input text]
  | _ => []

def adaptRemarks (config : Config) (files : Files) (invocation : Invocation) (source : Source) :
    List Remark :=
  sourceRemarks config source ++
    match sourceOptions config files source with
    | .error _ | .ok none => []
    | .ok (some options) =>
        inputRemarks source ++
          match layered config invocation with
          | .error _ => []
          | .ok (mapping, allow) => (config.target mapping).queryRemarks allow options

end ODataAdapter.Command
