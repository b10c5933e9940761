import ODataAdapter.Backend.Remarks
import ODataAdapter.Command.Arguments
import ODataAdapter.Command.Error
import ODataAdapter.Command.Files
import ODataAdapter.Config.Reader

/-!
What every action starts from: the configuration, and the mapping with the renames and deletions of
the command line behind those of the profile.
-/

namespace ODataAdapter.Command

def configName : String := "remap.toml"

/-- Where a configuration is looked for when none is named: the working directory, then the user's
configuration directory. -/
def defaultConfigs (userConfigs : Option String) : List String :=
  configName :: (userConfigs.map (· ++ "/odata-remap/" ++ configName)).toList

def configPath? (named : Option String) (userConfigs : Option String) (files : Files) :
    Option (String × Bool) :=
  match named with
  | some path => some (path, false)
  | none => ((defaultConfigs userConfigs).find? fun path => (files path).exists?).map (·, true)

def loadConfig (files : Files) (path : String) : Except CommandError Config :=
  match (files path).read with
  | .error reason => .error (.configUnread reason)
  | .ok text =>
      match Config.ofText text with
      | .ok config => .ok config
      | .error fault => .error (.config path fault)

def setupConfig (userConfigs : Option String) (files : Files) (invocation : Invocation) :
    Except CommandError Config :=
  match configPath? invocation.config userConfigs files with
  | some (path, _) => loadConfig files path
  | none => .ok {}

def setupRemarks (userConfigs : Option String) (files : Files) (invocation : Invocation) :
    List Remark :=
  let found := match configPath? invocation.config userConfigs files with
    | some (path, true) => [Remark.usingConfig path]
    | _ => []
  match setupConfig userConfigs files invocation with
  | .error _ => found
  | .ok config =>
      found ++ config.repeatedSources.map fun (entity, field) => .repeatedSource entity field

def renameOf (argument : String) : Except CommandError Rename :=
  let text := argument.toList
  match text.dropWhile (· ≠ '=') with
  | [] => .error (.mapWithoutTarget argument)
  | _ :: target =>
      .ok ⟨String.ofList (Text.trim (text.takeWhile (· ≠ '='))), String.ofList (Text.trim target)⟩

def adHocMapping (invocation : Invocation) : Except CommandError Mapping := do
  let renames ← invocation.maps.mapM renameOf
  let deleted := invocation.deletes.map fun name => String.ofList (Text.trim name.toList)
  return { renames, deleted := NameSet.ofList deleted }

def profileOf (config : Config) (entity : Option String) : Except CommandError Profile :=
  match entity with
  | none => .ok {}
  | some name => (config.profile name).mapError .adapt

def narrow (invocation : Invocation) (allow : Allowance) : Allowance :=
  { skip := allow.skip && !invocation.noSkip
    top := allow.top && !invocation.noTop
    count := allow.count && !invocation.noCount }

def layered (config : Config) (invocation : Invocation) :
    Except CommandError (Mapping × Allowance) := do
  let profile ← profileOf config invocation.entity
  let adHoc ← adHocMapping invocation
  return (profile.mapping.append adHoc, narrow invocation profile.allow)

end ODataAdapter.Command
