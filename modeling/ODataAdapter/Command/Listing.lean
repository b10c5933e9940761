import ODataAdapter.Command.Setup
import ODataAdapter.Text.Utf8

/-!
The action that lists the fields of an entity, or the entities.
-/

namespace ODataAdapter.Command

def padded (width : Nat) (text : String) : String :=
  text ++ String.ofList (List.replicate (width - text.length) ' ')

def entityLine (entity : String × Profile) : String :=
  let mapping := entity.2.mapping
  padded 20 entity.1 ++ " " ++ toString mapping.renames.length ++ " pairs, " ++
    toString mapping.deleted.names.length ++ " deleted"

def entityLines (config : Config) : List String :=
  match config.profiles with
  | [] => ["(no entities configured)"]
  | profiles => profiles.map entityLine

/-- The width of the column of client names: the bytes of the longest one, and at least four. -/
def columnWidth (mapping : Mapping) : Nat :=
  (mapping.renames.map (·.source.utf8ByteSize)).foldl max 4

def renameLine (width : Nat) (entry : Rename × Bool) : String :=
  let line := padded width entry.1.source ++ " → " ++ entry.1.target
  if entry.2 then line ++ " (shadowed by earlier pair)" else line

def deletedLines (mapping : Mapping) : List String :=
  match mapping.deleted.names with
  | [] => []
  | names => ["", "Deleted: " ++ String.intercalate ", " names]

def fieldLines (entity : String) (mapping : Mapping) (allow : Allowance) : List String :=
  let width := columnWidth mapping
  [entity, padded width "From" ++ "   To", String.ofList (List.replicate (width + 20) '─')] ++
    mapping.shadowing.map (renameLine width) ++ deletedLines mapping ++
    ["", "Passthrough: skip=" ++ toString allow.skip ++ " top=" ++ toString allow.top ++
      " count=" ++ toString allow.count]

def listing (config : Config) (invocation : Invocation) : Except CommandError (List String) :=
  match invocation.entity with
  | none => .ok (entityLines config)
  | some entity =>
      (layered config invocation).map fun (mapping, allow) => fieldLines entity mapping allow

end ODataAdapter.Command
