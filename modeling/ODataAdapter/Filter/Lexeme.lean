import ODataAdapter.Filter.Operator
import ODataAdapter.Text.Letter
import ODataAdapter.Text.Numeral

/-!
The words of filter and ordering text. A scanner takes its word off the front of a text, as long as
it goes, and gives the word and what follows it.
-/

namespace ODataAdapter.Filter

def isGap (char : Char) : Bool :=
  char = ' ' || char = '\t' || char = '\r' || char = '\n'

def skipGap (text : List Char) : List Char :=
  text.dropWhile isGap

def startsName (char : Char) : Bool :=
  Text.isLetter char || char = '_'

def continuesName (char : Char) : Bool :=
  Text.isLetter char || Text.isNumeral char || char = '_'

def atNameEnd : List Char → Bool
  | [] => true
  | char :: _ => !continuesName char

def keyword? (word : String) (text : List Char) : Option (List Char) :=
  (word.toList.isPrefixOf? text).filter atNameEnd

def operator? (operators : List Operator) (text : List Char) : Option (Operator × List Char) :=
  operators.findSome? fun operator => (keyword? operator.token text).map (operator, ·)

def name? : List Char → Option (List Char × List Char)
  | [] => none
  | char :: rest =>
      if startsName char then
        some (char :: rest.takeWhile continuesName, rest.dropWhile continuesName)
      else none

def pathRest : List Char → List Char × List Char
  | [] => ([], [])
  | [char] => if continuesName char then ([char], []) else ([], [char])
  | '/' :: char :: rest =>
      if startsName char then
        let (read, left) := pathRest rest
        ('/' :: char :: read, left)
      else ([], '/' :: char :: rest)
  | char :: rest =>
      if continuesName char then
        let (read, left) := pathRest rest
        (char :: read, left)
      else ([], char :: rest)

def path? : List Char → Option (List Char × List Char)
  | [] => none
  | char :: rest =>
      if startsName char then
        let (read, left) := pathRest rest
        some (char :: read, left)
      else none

def quotedRest : List Char → Option (List Char × List Char)
  | [] => none
  | ['\''] => some (['\''], [])
  | '\'' :: '\'' :: rest => (quotedRest rest).map fun (read, left) => ('\'' :: '\'' :: read, left)
  | '\'' :: rest => some (['\''], rest)
  | char :: rest => (quotedRest rest).map fun (read, left) => (char :: read, left)

def quoted? : List Char → Option (List Char × List Char)
  | '\'' :: rest => (quotedRest rest).map fun (read, left) => ('\'' :: read, left)
  | _ => none

def typedLiteral? (text : List Char) : Option (List Char × List Char) := do
  let (name, rest) ← name? text
  let (value, rest) ← quoted? rest
  return (name ++ value, rest)

def digits? (text : List Char) : Option (List Char × List Char) :=
  match text.takeWhile Char.isDigit with
  | [] => none
  | digits => some (digits, text.dropWhile Char.isDigit)

def oneOf? (chars : List Char) : List Char → Option (List Char × List Char)
  | char :: rest => if char ∈ chars then some ([char], rest) else none
  | [] => none

def optional (scan : List Char → Option (List Char × List Char)) (text : List Char) :
    List Char × List Char :=
  (scan text).getD ([], text)

def fraction? (text : List Char) : Option (List Char × List Char) := do
  let (point, rest) ← oneOf? ['.'] text
  let (digits, rest) ← digits? rest
  return (point ++ digits, rest)

def exponent? (text : List Char) : Option (List Char × List Char) := do
  let (mark, rest) ← oneOf? ['e', 'E'] text
  let (sign, rest) := optional (oneOf? ['+', '-']) rest
  let (digits, rest) ← digits? rest
  return (mark ++ sign ++ digits, rest)

/-- A number with an optional fraction, exponent and type letter. Each part is taken when it can be,
and nothing that goes on like a name may follow. -/
def number? (text : List Char) : Option (List Char × List Char) := do
  let (sign, rest) := optional (oneOf? ['-']) text
  let (digits, rest) ← digits? rest
  let (fraction, rest) := optional fraction? rest
  let (exponent, rest) := optional exponent? rest
  let (letter, rest) := optional (oneOf? ['m', 'M', 'd', 'D', 'f', 'F', 'l', 'L']) rest
  guard (atNameEnd rest)
  return (sign ++ digits ++ fraction ++ exponent ++ letter, rest)

def word? (word : String) (text : List Char) : Option (List Char × List Char) :=
  (keyword? word text).map (word.toList, ·)

def literal? (text : List Char) : Option (List Char × List Char) :=
  quoted? text <|> typedLiteral? text <|> number? text <|>
    word? "true" text <|> word? "false" text <|> word? "null" text

/-- The mark of an operator with one operand: the word `not`, or a minus with no digit after it. -/
def unaryMark? (text : List Char) : Option (List Char) :=
  keyword? "not" text <|>
    match text with
    | '-' :: rest => if (digits? rest).isSome then none else some rest
    | _ => none

end ODataAdapter.Filter
