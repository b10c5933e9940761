import ODataAdapter.Json.Value
import ODataAdapter.Json.Written

/-!
Reading JSON values from text. Numbers that are whole and fit in 64 bits stay whole, others become
doubles and must be finite; halves of surrogate pairs must be complete; arrays and objects nest at
most 127 deep.
-/

namespace ODataAdapter

namespace StringPiece

def resolve? : WrittenString → Option (List Char)
  | [] => some []
  | .char first :: rest => (resolve? rest).map (first :: ·)
  | .unit high :: .unit low :: rest =>
      if 0xd800 ≤ high && high < 0xdc00 then
        if 0xdc00 ≤ low && low < 0xe000 then
          (resolve? rest).map (Char.ofNat (0x10000 + (high - 0xd800) * 0x400 + (low - 0xdc00)) :: ·)
        else none
      else if 0xdc00 ≤ high && high < 0xe000 then none
      else (resolve? (.unit low :: rest)).map (Char.ofNat high :: ·)
  | .unit code :: rest =>
      if 0xd800 ≤ code && code < 0xe000 then none
      else (resolve? rest).map (Char.ofNat code :: ·)

end StringPiece

def WrittenString.toString? (text : WrittenString) : Option String :=
  (StringPiece.resolve? text).map String.ofList

namespace WrittenNumber

def accumulate : Nat → List Char → Nat × List Char
  | significand, [] => (significand, [])
  | significand, digit :: rest =>
      let next := significand * 10 + Text.numberOf 10 [digit]
      if next < UInt64.size then accumulate next rest else (significand, digit :: rest)

def divideByTen (value : Float) (exponent : Nat) : Float :=
  if exponent ≤ 308 then value / Float.ofScientific 1 false exponent
  else divideByTen (value / 1e308) (exponent - 308)
termination_by exponent

/-- The significand times 10^exponent as a double, if that is finite. One rounding makes the
significand a double, and each multiplication or division rounds once more. -/
def scale? (significand : Nat) (exponent : Int) : Option Float :=
  let value := (UInt64.ofNat significand).toFloat
  if significand = 0 then some value
  else if exponent < 0 then some (divideByTen value exponent.natAbs)
  else if 308 < exponent then none
  else
    let product := value * Float.ofScientific 1 false exponent.natAbs
    if product.isInf then none else some product

def exponentBound : Nat := Nat.pow 2 31 - 1

/-- The magnitude of a number with a fraction or an exponent, or too large to stay whole. Digits
that do not fit the significand only raise the exponent before the point and have no effect after
it. -/
def magnitude? (number : WrittenNumber) : Option Float :=
  let (significand, dropped) := accumulate 0 number.whole
  let fraction := number.fraction.getD []
  let (significand, ignored) := accumulate significand fraction
  let place : Int := dropped.length - (fraction.length - ignored.length : Nat)
  match number.exponent with
  | none => scale? significand place
  | some (negative, digits) =>
      let exponent := Text.numberOf 10 digits
      if exponentBound < exponent then
        if significand ≠ 0 && !negative then none else some 0
      else scale? significand (if negative then place - exponent else place + exponent)

def real? (number : WrittenNumber) : Option Float :=
  number.magnitude?.map fun value => if number.negative then -value else value

def whole? (number : WrittenNumber) : Option Int :=
  let value := Text.numberOf 10 number.whole
  if number.fraction.isSome || number.exponent.isSome then none
  else if number.negative then
    if value ≠ 0 && value ≤ Nat.pow 2 63 then some (-value) else none
  else if value < UInt64.size then some value else none

def toNumber? (number : WrittenNumber) : Option JsonNumber :=
  match number.whole? with
  | some value => some (.integer value)
  | none => number.real?.map .real

end WrittenNumber

namespace Written

def maxNesting : Nat := 127

mutual

def toJson? : Written → Nat → Option Json
  | null, _ => some .null
  | bool value, _ => some (.bool value)
  | number text, _ => text.toNumber?.map .number
  | string text, _ => (WrittenString.toString? text).map .string
  | array _, 0 | object _, 0 => none
  | array items, budget + 1 => (toItems? items budget).map .array
  | object members, budget + 1 =>
      (toMembers? members budget).map fun members => .object (Record.ofMembers members)

def toItems? : List Written → Nat → Option (List Json)
  | [], _ => some []
  | item :: items, budget => do
      let item ← item.toJson? budget
      let items ← toItems? items budget
      return item :: items

def toMembers? : List (WrittenString × Written) → Nat → Option (List (String × Json))
  | [], _ => some []
  | (name, value) :: members, budget => do
      let name ← WrittenString.toString? name
      let value ← value.toJson? budget
      let members ← toMembers? members budget
      return (name, value) :: members

end

end Written

def Json.ofText? (text : String) : Option Json := do
  let written ← Written.ofText? text.toList
  written.toJson? Written.maxNesting

end ODataAdapter
