import ODataAdapter.Config.Basic
import ODataAdapter.Toml.Document

/-!
Reading the configuration from TOML. Unknown members are passed over. A structure may be written as
an array of its members in order; profiles may not. A time stands for a structure with no member
that is known.
-/

namespace ODataAdapter.Config

open Toml (table tables array time)

def items? : Toml → Option (List Toml)
  | array items => some items
  | tables items => some (items.map (table .header))
  | _ => none

def string? : Toml → Option String
  | .string value => some value
  | _ => none

def boolean? : Toml → Option Bool
  | .boolean value => some value
  | _ => none

def natural? : Toml → Option Nat
  | .integer value => if value < 0 then none else some value.toNat
  | _ => none

def members? : Toml → Option TomlMembers
  | table _ members => some members
  | time => some []
  | _ => none

def withDefault {α : Type} (default : α) (read : Toml → Option α) (value : Option Toml) :
    Option α :=
  value.elim (some default) read

def optionalString? (value : Option Toml) : Option (Option String) :=
  withDefault none (fun value => (string? value).map some) value

def baseUrl? (backend : Toml) : Option (Option String) :=
  match members? backend with
  | some members => optionalString? (members.lookup "base_url")
  | none => do
      let first ← (← items? backend).head?
      (string? first).map some

def depthLimit? (limits : Toml) : Option Nat :=
  match members? limits with
  | some members => withDefault defaultDepth natural? (members.lookup "max_depth")
  | none => (items? limits).bind fun items => withDefault defaultDepth natural? items.head?

def rename? (value : Toml) : Option Rename :=
  match members? value with
  | some members => do
      let source ← (members.lookup "from").bind string?
      let target ← (members.lookup "to").bind string?
      return ⟨source, target⟩
  | none => do
      let [source, target] ← items? value | none
      let source ← string? source
      let target ← string? target
      return ⟨source, target⟩

def list? {α : Type} (read : Toml → Option α) (value : Toml) : Option (List α) :=
  (items? value).bind (·.mapM read)

def profile? (value : Toml) : Option Profile := do
  let members ← members? value
  let remote ← optionalString? (members.lookup "remote")
  let skip ← withDefault true boolean? (members.lookup "allow_skip")
  let top ← withDefault true boolean? (members.lookup "allow_top")
  let count ← withDefault true boolean? (members.lookup "allow_count")
  let renames ← withDefault [] (list? rename?) (members.lookup "fields")
  let deleted ← withDefault [] (list? string?) (members.lookup "delete")
  return {
    remote
    allow := ⟨skip, top, count⟩
    mapping := { renames, deleted := NameSet.ofList deleted }
  }

def profiles? (entities : Toml) : Option (List (String × Profile)) :=
  match entities with
  | table _ members => do
      let profiles ← members.mapM fun (name, value) => (profile? value).map (name, ·)
      return profiles.mergeSort fun first second => first.1 ≤ second.1
  | _ => none

def ofMembers? (members : TomlMembers) : Option Config := do
  let baseUrl ← withDefault none baseUrl? (members.lookup "backend")
  let depthLimit ← withDefault defaultDepth depthLimit? (members.lookup "limits")
  let profiles ← withDefault [] profiles? (members.lookup "entities")
  return { baseUrl, depthLimit, profiles }

def ofText (text : String) : Except ConfigFault Config :=
  match (Toml.ofText? text).bind ofMembers? with
  | none => .error .malformed
  | some config => if config.depthLimit = 0 then .error .zeroDepth else .ok config

end ODataAdapter.Config
