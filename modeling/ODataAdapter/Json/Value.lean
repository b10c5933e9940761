/-!
JSON values. Members of an object stand in a list; an object read from text has them in the order of
their names, each name once.
-/

namespace ODataAdapter

inductive JsonNumber
  | integer (value : Int)
  | real (value : Float)
  deriving Repr, Inhabited

inductive Json
  | null
  | bool (value : Bool)
  | number (value : JsonNumber)
  | string (value : String)
  | array (items : List Json)
  | object (members : List (String × Json))
  deriving Repr, Inhabited

abbrev Record := List (String × Json)

namespace Record

def names (record : Record) : List String :=
  record.map Prod.fst

def get? (record : Record) (name : String) : Option Json :=
  record.lookup name

def contains (record : Record) (name : String) : Bool :=
  record.any (·.1 = name)

def insert (record : Record) (name : String) (value : Json) : Record :=
  match record with
  | [] => [(name, value)]
  | (first, kept) :: rest =>
      if name < first then (name, value) :: (first, kept) :: rest
      else if name = first then (name, value) :: rest
      else (first, kept) :: insert rest name value

/-- The members in the order of their names; of members with one name the last remains. -/
def ofMembers (members : List (String × Json)) : Record :=
  members.foldl (fun record (name, value) => record.insert name value) []

end Record

end ODataAdapter
