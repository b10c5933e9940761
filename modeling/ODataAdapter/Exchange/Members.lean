import ODataAdapter.Json.Reader

/-!
Taking typed values out of JSON text. A structure is an object of its members, where members that
are not its own are passed over unread, or an array of its members in order, from whose end members
may be missing. Each array and each object takes one level of a nesting budget.
-/

namespace ODataAdapter.Exchange

/-- Reads a value with a budget for the nesting of arrays and objects. -/
abbrev Decoder (α : Type) := Nat → Written → Option α

/-- The values of the members with the given names, in that order. No own member may occur twice. -/
def pick? (names : List String) (members : List (WrittenString × Written)) :
    Option (List (Option Written)) := do
  let named ← members.mapM fun (name, value) =>
    (WrittenString.toString? name).map (·, value)
  let own := named.filter fun (name, _) => names.contains name
  guard (names.all fun name => (own.filter (·.1 = name)).length ≤ 1)
  return names.map fun name => own.lookup name

def members? (names : List String) : Written → Option (List (Option Written))
  | .object members => pick? names members
  | .array items =>
      if items.length ≤ names.length then
        some (items.map some ++ List.replicate (names.length - items.length) none)
      else none
  | _ => none

def withDefault {α : Type} (default : α) (decode : Written → Option α) (value : Option Written) :
    Option α :=
  value.elim (some default) decode

def nullable {α : Type} (decode : Written → Option α) : Written → Option (Option α)
  | .null => some none
  | value => (decode value).map some

def string : Decoder String
  | _, .string text => WrittenString.toString? text
  | _, _ => none

def bool : Decoder Bool
  | _, .bool value => some value
  | _, _ => none

def count : Decoder UInt64
  | _, .number text =>
      if text.negative then none else text.whole?.map fun value => UInt64.ofNat value.toNat
  | _, _ => none

def items? {α : Type} (decode : Written → Option α) : Written → Option (List α)
  | .array items => items.mapM decode
  | _ => none

def list {α : Type} (decode : Decoder α) : Decoder (List α)
  | 0, _ => none
  | budget + 1, value => items? (decode budget) value

def decodeText? {α : Type} (decode : Decoder α) (text : String) : Option α := do
  let written ← Written.ofText? text.toList
  decode Written.maxNesting written

end ODataAdapter.Exchange
