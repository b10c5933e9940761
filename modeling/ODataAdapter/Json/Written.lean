import ODataAdapter.Text.Digits

/-!
JSON text taken apart but not yet read: numbers and strings stand as they are written, and members
of objects in the order of the text. What a number or string means, and how deep values may nest, is
decided only where a value is wanted, so a member that nobody asks for is free of these limits.
-/

namespace ODataAdapter

structure WrittenNumber where
  negative : Bool
  whole : List Char
  fraction : Option (List Char)
  exponent : Option (Bool × List Char)
  deriving Repr, Inhabited, DecidableEq

inductive StringPiece
  | char (char : Char)
  | unit (code : Nat)
  deriving Repr, Inhabited, DecidableEq

abbrev WrittenString := List StringPiece

inductive Written
  | null
  | bool (value : Bool)
  | number (text : WrittenNumber)
  | string (text : WrittenString)
  | array (items : List Written)
  | object (members : List (WrittenString × Written))
  deriving Repr, Inhabited

namespace Written

def isSpace (char : Char) : Bool :=
  char = ' ' || char = '\t' || char = '\n' || char = '\r'

def skipSpace (text : List Char) : List Char :=
  text.dropWhile isSpace

def hexQuad? (first second third fourth : Char) : Option Nat := do
  let first ← Text.hexDigit? first
  let second ← Text.hexDigit? second
  let third ← Text.hexDigit? third
  let fourth ← Text.hexDigit? fourth
  return ((first * 16 + second) * 16 + third) * 16 + fourth

def escape? : Char → Option Char
  | '"' => some '"'
  | '\\' => some '\\'
  | '/' => some '/'
  | 'b' => some '\x08'
  | 'f' => some '\x0c'
  | 'n' => some '\n'
  | 'r' => some '\r'
  | 't' => some '\t'
  | _ => none

def stringRest : List Char → Option (WrittenString × List Char)
  | [] => none
  | '"' :: rest => some ([], rest)
  | '\\' :: 'u' :: first :: second :: third :: fourth :: rest => do
      let code ← hexQuad? first second third fourth
      let (pieces, rest) ← stringRest rest
      return (.unit code :: pieces, rest)
  | '\\' :: char :: rest => do
      let char ← escape? char
      let (pieces, rest) ← stringRest rest
      return (.char char :: pieces, rest)
  | char :: rest =>
      if char.toNat < 0x20 || char = '\\' then none
      else do
        let (pieces, rest) ← stringRest rest
        return (.char char :: pieces, rest)

def digits? (text : List Char) : Option (List Char × List Char) :=
  match text.takeWhile Char.isDigit with
  | [] => none
  | digits => some (digits, text.dropWhile Char.isDigit)

def whole? : List Char → Option (List Char × List Char)
  | '0' :: rest => some (['0'], rest)
  | text => digits? text

def fraction? : List Char → Option (Option (List Char) × List Char)
  | '.' :: rest => (digits? rest).map fun (digits, rest) => (some digits, rest)
  | text => some (none, text)

def sign : List Char → Bool × List Char
  | '-' :: rest => (true, rest)
  | '+' :: rest => (false, rest)
  | text => (false, text)

def exponent? : List Char → Option (Option (Bool × List Char) × List Char)
  | 'e' :: rest | 'E' :: rest =>
      let (negative, rest) := sign rest
      (digits? rest).map fun (digits, rest) => (some (negative, digits), rest)
  | text => some (none, text)

def number? (text : List Char) : Option (WrittenNumber × List Char) := do
  let (negative, rest) := match text with
    | '-' :: rest => (true, rest)
    | text => (false, text)
  let (whole, rest) ← whole? rest
  let (fraction, rest) ← fraction? rest
  let (exponent, rest) ← exponent? rest
  return (⟨negative, whole, fraction, exponent⟩, rest)

def elements {α : Type} (element : List Char → Option (α × List Char)) (bracket : Char) :
    Nat → List Char → Option (List α × List Char)
  | 0, _ => none
  | fuel + 1, text => do
      let (first, rest) ← element text
      match skipSpace rest with
      | ',' :: rest =>
          let (others, rest) ← elements element bracket fuel (skipSpace rest)
          return (first :: others, rest)
      | char :: rest => if char = bracket then return ([first], rest) else none
      | [] => none

def bracketed {α : Type} (element : List Char → Option (α × List Char)) (bracket : Char)
    (text : List Char) : Option (List α × List Char) :=
  match skipSpace text with
  | [] => none
  | char :: rest =>
      if char = bracket then some ([], rest)
      else elements element bracket (char :: rest).length (char :: rest)

def member (value : List Char → Option (Written × List Char)) :
    List Char → Option ((WrittenString × Written) × List Char)
  | '"' :: rest => do
      let (name, rest) ← stringRest rest
      match skipSpace rest with
      | ':' :: rest =>
          let (value, rest) ← value (skipSpace rest)
          return ((name, value), rest)
      | _ => none
  | _ => none

def word? (word : String) (value : Written) (text : List Char) : Option (Written × List Char) :=
  (word.toList.isPrefixOf? text).map (value, ·)

def value? : Nat → List Char → Option (Written × List Char)
  | 0, _ => none
  | fuel + 1, text =>
      match text with
      | '[' :: rest =>
          (bracketed (value? fuel) ']' rest).map fun (items, rest) => (array items, rest)
      | '\x7b' :: rest =>
          (bracketed (member (value? fuel)) '\x7d' rest).map fun (members, rest) =>
            (object members, rest)
      | '"' :: rest => (stringRest rest).map fun (pieces, rest) => (string pieces, rest)
      | _ =>
          word? "null" null text <|> word? "true" (bool true) text <|>
            word? "false" (bool false) text <|>
            (number? text).map fun (written, rest) => (number written, rest)

def ofText? (text : List Char) : Option Written := do
  let (value, rest) ← value? (text.length + 1) (skipSpace text)
  guard (rest.all isSpace)
  return value

end Written

end ODataAdapter
