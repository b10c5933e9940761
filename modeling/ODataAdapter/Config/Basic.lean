import ODataAdapter.Backend.Assembly
import ODataAdapter.Query.Reader

/-!
The configuration: a profile for each entity, the address of the backend, and the nesting limit.
-/

namespace ODataAdapter

structure Profile where
  remote : Option String := none
  allow : Allowance := .all
  mapping : Mapping := {}
  deriving DecidableEq, Repr, Inhabited

structure Config where
  baseUrl : Option String := none
  depthLimit : Nat := defaultDepth
  profiles : List (String × Profile) := []
  deriving DecidableEq, Repr, Inhabited

namespace Config

def profile (config : Config) (entity : String) : Except AdaptError Profile :=
  match config.profiles.lookup entity with
  | some profile => .ok profile
  | none => .error (.unknownEntity entity)

def target (config : Config) (mapping : Mapping) : Target :=
  ⟨mapping, config.depthLimit⟩

def url (config : Config) (entity query : String) : Except AdaptError String :=
  match config.baseUrl with
  | none => .error (.config .noBaseUrl)
  | some base =>
      let base := (base.toList.reverse.dropWhile (· = '/')).reverse
      let remote := ((config.profiles.lookup entity).bind Profile.remote).getD entity
      .ok (String.ofList base ++ "/" ++ remote ++ query)

def repeatedSources (config : Config) : List (String × String) :=
  config.profiles.flatMap fun (entity, profile) =>
    profile.mapping.repeatedSources.map (entity, ·)

end Config

end ODataAdapter
