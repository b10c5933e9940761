import ODataAdapter.Command.Setup
import ODataAdapter.Json.Reader

/-!
The action that gives the fields of a backend payload their client names.
-/

namespace ODataAdapter.Command

def payloadText (files : Files) (stdin : String) (file : Option String) :
    Except CommandError String :=
  match file with
  | none => .ok stdin
  | some path => (files path).read.mapError (.fileUnread path)

def payload (files : Files) (stdin : String) (file : Option String) : Except CommandError Json := do
  match Json.ofText? (← payloadText files stdin file) with
  | some payload => return payload
  | none => throw .payloadMalformed

def restore (config : Config) (files : Files) (stdin : String) (invocation : Invocation)
    (file : Option String) : Except CommandError String := do
  let payload ← payload files stdin file
  let (mapping, _) ← layered config invocation
  let restored ← (mapping.restorePayload payload).mapError .adapt
  return restored.indented ++ "\n"

def restoreRemarks (config : Config) (files : Files) (stdin : String) (invocation : Invocation)
    (file : Option String) : List Remark :=
  match payload files stdin file, layered config invocation with
  | .ok payload, .ok (mapping, _) => mapping.payloadRemarks payload
  | _, _ => []

end ODataAdapter.Command
