import ODataAdapter.Exchange.Members
import ODataAdapter.Mapping.Basic

/-!
Mappings in JSON.
-/

namespace ODataAdapter.Exchange

def renameToJson (pair : Rename) : Json :=
  .object [("from", .string pair.source), ("to", .string pair.target)]

def mappingToJson (mapping : Mapping) : Json :=
  .object
    [("fields", .array (mapping.renames.map renameToJson)),
     ("delete", .array (mapping.deleted.names.map .string))]

def rename : Decoder Rename
  | 0, _ => none
  | budget + 1, value => do
      let [source, target] ← members? ["from", "to"] value | none
      let source ← source.bind (string budget)
      let target ← target.bind (string budget)
      return ⟨source, target⟩

def mapping : Decoder Mapping
  | 0, _ => none
  | budget + 1, value => do
      let [fields, deleted] ← members? ["fields", "delete"] value | none
      let renames ← withDefault [] (list rename budget) fields
      let deleted ← withDefault [] (list string budget) deleted
      return { renames, deleted := NameSet.ofList deleted }

end ODataAdapter.Exchange
