import ODataAdapter.Error
import ODataAdapter.Mapping.Basic

/-!
Backend records under their client names. A backend name goes back to the source of the first rename
with that target. Where two members get one name, a renamed member wins over one that keeps its
name, and the first renamed one wins over the others.
-/

namespace ODataAdapter.Mapping

def source? (mapping : Mapping) (name : String) : Option String :=
  (mapping.renames.find? (·.target = name)).map Rename.source

def clientName (mapping : Mapping) (name : String) : String :=
  (mapping.source? name).getD name

def placeMembers (mapping : Mapping) (placed : Record) (renamed : List String) : Record → Record
  | [] => placed
  | (key, value) :: members =>
      match mapping.source? key with
      | none =>
          if placed.contains key then mapping.placeMembers placed renamed members
          else mapping.placeMembers (placed.insert key value) renamed members
      | some name =>
          if placed.contains name && renamed.contains name then
            mapping.placeMembers placed renamed members
          else mapping.placeMembers (placed.insert name value) (name :: renamed) members

def restoreRecord (mapping : Mapping) (record : Record) : Record :=
  mapping.placeMembers [] [] record

def restoreRows (mapping : Mapping) : List Json → Except AdaptError (List Json)
  | [] => .ok []
  | .object record :: rows =>
      (mapping.restoreRows rows).map (.object (mapping.restoreRecord record) :: ·)
  | row :: _ => .error (.payload .record row)

/-- A record, a list of records, or an envelope with a list of records as its member `value`, under
client names. Other members of an envelope stay as they are. -/
def restorePayload (mapping : Mapping) : Json → Except AdaptError Json
  | .array rows => (mapping.restoreRows rows).map .array
  | .object record =>
      match Record.get? record "value" with
      | some (.array rows) =>
          (mapping.restoreRows rows).map fun rows =>
            .object (Record.insert record "value" (.array rows))
      | _ => .ok (.object (mapping.restoreRecord record))
  | found => .error (.payload .recordOrRecords found)

end ODataAdapter.Mapping
