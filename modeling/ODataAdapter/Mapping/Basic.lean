import ODataAdapter.Mapping.NameSet

/-!
How the fields of one client schema map onto a backend schema: renames in order, of which the first
for a name counts, and the fields whose clauses are removed.
-/

namespace ODataAdapter

structure Rename where
  source : String
  target : String
  deriving DecidableEq, Repr, Inhabited

structure Mapping where
  renames : List Rename := []
  deleted : NameSet := ∅
  deriving DecidableEq, Repr, Inhabited

namespace Mapping

def empty : Mapping := {}

def withRename (mapping : Mapping) (source target : String) : Mapping :=
  { mapping with renames := mapping.renames ++ [⟨source, target⟩] }

def withDeleted (mapping : Mapping) (name : String) : Mapping :=
  { mapping with deleted := mapping.deleted.insert name }

def ofNames (names : List String) : Mapping :=
  { renames := names.map fun name => ⟨name, name⟩ }

def removes (mapping : Mapping) (name : String) : Bool :=
  mapping.deleted.contains name

def backendName (mapping : Mapping) (name : String) : String :=
  ((mapping.renames.find? (·.source = name)).map Rename.target).getD name

def target? (mapping : Mapping) (name : String) : Option String :=
  if mapping.removes name then none else some (mapping.backendName name)

/-- Another mapping behind this one, whose renames keep precedence. -/
def append (mapping other : Mapping) : Mapping :=
  { renames := mapping.renames ++ other.renames
    deleted := mapping.deleted.union other.deleted }

def shadowingFrom : List String → List Rename → List (Rename × Bool)
  | _, [] => []
  | seen, pair :: pairs =>
      if seen.contains pair.source then (pair, true) :: shadowingFrom seen pairs
      else (pair, false) :: shadowingFrom (seen ++ [pair.source]) pairs

def shadowing (mapping : Mapping) : List (Rename × Bool) :=
  shadowingFrom [] mapping.renames

def repeatsFrom (seen found : List String) : List Rename → List String
  | [] => found
  | pair :: pairs =>
      if seen.contains pair.source then
        if found.contains pair.source then repeatsFrom seen found pairs
        else repeatsFrom seen (found ++ [pair.source]) pairs
      else repeatsFrom (seen ++ [pair.source]) found pairs

def repeatedSources (mapping : Mapping) : List String :=
  repeatsFrom [] [] mapping.renames

end Mapping

end ODataAdapter
