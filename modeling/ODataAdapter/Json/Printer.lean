import ODataAdapter.Decimal.Shortest
import ODataAdapter.Json.Value

/-!
JSON text: the compact form without blanks, and the form with a line for each item.
-/

namespace ODataAdapter

namespace JsonNumber

def positional (digits : List Char) (place : Int) : List Char :=
  if place ≤ 0 then
    ['0', '.'] ++ List.replicate (-place).toNat '0' ++ digits
  else
    let count := place.toNat
    let whole := digits.take count ++ List.replicate (count - digits.length) '0'
    let fraction := digits.drop count
    whole ++ '.' :: if fraction.isEmpty then ['0'] else fraction

def scientific (digits : List Char) (exponent : Int) : List Char :=
  let fraction := digits.drop 1
  digits.take 1 ++ (if fraction.isEmpty then [] else '.' :: fraction) ++
    ['e', if exponent < 0 then '-' else '+'] ++ Nat.toDigits 10 exponent.natAbs

/-- Reals have the fewest digits that read back. They are written without an exponent from 1e-5 up
to below 1e16, and then always with a point. -/
def realText (value : Float) : List Char :=
  let bits := value.toBits
  let sign := if bits < 0x8000000000000000 then [] else ['-']
  let magnitude := bits &&& 0x7fffffffffffffff
  if magnitude = 0 then sign ++ ['0', '.', '0']
  else
    let decimal := (Double.ofBits magnitude).shortest
    let digits := Nat.toDigits 10 decimal.digits
    let exponent := decimal.exponent + digits.length - 1
    if -5 ≤ exponent && exponent < 16 then sign ++ positional digits (exponent + 1)
    else sign ++ scientific digits exponent

def text : JsonNumber → List Char
  | integer value => (toString value).toList
  | real value => realText value

end JsonNumber

namespace Json

def hexQuad (code : Nat) : List Char :=
  [code / 4096, code / 256, code / 16, code].map fun part => Nat.digitChar (part % 16)

def escapedChar (char : Char) : List Char :=
  match char with
  | '"' => ['\\', '"']
  | '\\' => ['\\', '\\']
  | '\x08' => ['\\', 'b']
  | '\x0c' => ['\\', 'f']
  | '\n' => ['\\', 'n']
  | '\r' => ['\\', 'r']
  | '\t' => ['\\', 't']
  | _ => if char.toNat < 0x20 then ['\\', 'u'] ++ hexQuad char.toNat else [char]

def quotedText (text : String) : List Char :=
  '"' :: text.toList.flatMap escapedChar ++ ['"']

mutual

def compactText : Json → List Char → List Char
  | null, rest => "null".toList ++ rest
  | bool true, rest => "true".toList ++ rest
  | bool false, rest => "false".toList ++ rest
  | number value, rest => value.text ++ rest
  | string value, rest => quotedText value ++ rest
  | array items, rest => '[' :: compactItems items (']' :: rest)
  | object members, rest => '\x7b' :: compactMembers members ('\x7d' :: rest)

def compactItems : List Json → List Char → List Char
  | [], rest => rest
  | [item], rest => item.compactText rest
  | item :: items, rest => item.compactText (',' :: compactItems items rest)

def compactMembers : List (String × Json) → List Char → List Char
  | [], rest => rest
  | [(name, value)], rest => quotedText name ++ ':' :: value.compactText rest
  | (name, value) :: members, rest =>
      quotedText name ++ ':' :: value.compactText (',' :: compactMembers members rest)

end

def compact (value : Json) : String :=
  String.ofList (value.compactText [])

def lineStart (level : Nat) : List Char :=
  '\n' :: List.replicate (2 * level) ' '

mutual

def indentedText (level : Nat) : Json → List Char → List Char
  | array (item :: items), rest =>
      '[' :: indentedItems (level + 1) (item :: items) (lineStart level ++ ']' :: rest)
  | object (member :: members), rest =>
      '\x7b' :: indentedMembers (level + 1) (member :: members) (lineStart level ++ '\x7d' :: rest)
  | value, rest => value.compactText rest

def indentedItems (level : Nat) : List Json → List Char → List Char
  | [], rest => rest
  | [item], rest => lineStart level ++ item.indentedText level rest
  | item :: items, rest =>
      lineStart level ++ item.indentedText level (',' :: indentedItems level items rest)

def indentedMembers (level : Nat) : List (String × Json) → List Char → List Char
  | [], rest => rest
  | [(name, value)], rest =>
      lineStart level ++ quotedText name ++ ':' :: ' ' :: value.indentedText level rest
  | (name, value) :: members, rest =>
      lineStart level ++ quotedText name ++ ':' :: ' ' ::
        value.indentedText level (',' :: indentedMembers level members rest)

end

def indented (value : Json) : String :=
  String.ofList (value.indentedText 0 [])

end Json

end ODataAdapter
