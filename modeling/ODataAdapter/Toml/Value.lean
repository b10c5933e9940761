/-!
TOML values, as far as a configuration looks at them: floats and times carry no content.
-/

namespace ODataAdapter

inductive TableOrigin
  | header
  | headerPart
  | dotted
  | closed
  deriving DecidableEq, Repr, Inhabited

inductive Toml
  | string (value : String)
  | integer (value : Int)
  | boolean (value : Bool)
  | float
  | time
  | array (items : List Toml)
  | table (origin : TableOrigin) (members : List (String × Toml))
  | tables (items : List (List (String × Toml)))
  deriving Repr, Inhabited

abbrev TomlMembers := List (String × Toml)

namespace Toml

def put (members : TomlMembers) (key : String) (value : Toml) : TomlMembers :=
  match members with
  | [] => [(key, value)]
  | (name, kept) :: rest =>
      if name = key then (name, value) :: rest else (name, kept) :: put rest key value

/-- Change the members of the table at the end of a path. Tables that are missing on the way are
opened; a dotted key does not enter a table with a header. A path through tables of one name enters
the last of them. -/
def changeAt (dotted : Bool) (change : TableOrigin → TomlMembers → Option TomlMembers) :
    List String → TableOrigin → TomlMembers → Option TomlMembers
  | [], origin, members => change origin members
  | key :: path, _, members =>
      match members.lookup key with
      | none => do
          let origin := if dotted then TableOrigin.dotted else .headerPart
          let inner ← changeAt dotted change path origin []
          return put members key (table origin inner)
      | some (table origin inner) =>
          if origin = .closed || (dotted && origin = .header) then none
          else do
            let inner ← changeAt dotted change path origin inner
            return put members key (table origin inner)
      | some (tables items) => do
          let last ← items.getLast?
          let last ← changeAt dotted change path .header last
          return put members key (tables (items.dropLast ++ [last]))
      | some _ => none

/-- Give a value to a key of a table. A dotted key only reaches tables that dotted keys opened. -/
def assign (path : List String) (key : String) (value : Toml) (members : TomlMembers) :
    Option TomlMembers :=
  changeAt true
    (fun origin inner =>
      if decide (origin = .dotted) = path.isEmpty || (inner.lookup key).isSome then none
      else some (put inner key value))
    path .header members

def openTable (path : List String) (key : String) (fill : TomlMembers → Option TomlMembers)
    (root : TomlMembers) : Option TomlMembers :=
  changeAt false
    (fun _ inner =>
      match inner.lookup key with
      | none => (fill []).map fun filled => put inner key (table .header filled)
      | some (table .headerPart kept) =>
          (fill kept).map fun filled => put inner key (table .header filled)
      | some _ => none)
    path .header root

def appendTable (path : List String) (key : String) (fill : TomlMembers → Option TomlMembers)
    (root : TomlMembers) : Option TomlMembers :=
  changeAt false
    (fun _ inner =>
      match inner.lookup key with
      | none => (fill []).map fun filled => put inner key (tables [filled])
      | some (tables items) =>
          (fill []).map fun filled => put inner key (tables (items ++ [filled]))
      | some _ => none)
    path .header root

end Toml

end ODataAdapter
