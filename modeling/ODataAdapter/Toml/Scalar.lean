import ODataAdapter.Text.Digits
import ODataAdapter.Toml.Value

/-!
Words of TOML text: blanks, comments, keys, strings, numbers and times. A scanner takes its word off
the front of a text and gives what it means and what follows.
-/

namespace ODataAdapter.Toml

abbrev Scan (α : Type) := List Char → Option (α × List Char)

def skipSpace (text : List Char) : List Char :=
  text.dropWhile fun char => char = ' ' || char = '\t'

def newline? : List Char → Option (List Char)
  | '\n' :: rest => some rest
  | '\r' :: '\n' :: rest => some rest
  | _ => none

def isPlain (char : Char) : Bool :=
  char = '\t' || (0x20 ≤ char.toNat && char.toNat ≠ 0x7f)

def skipComment : List Char → List Char
  | '#' :: rest => rest.dropWhile isPlain
  | text => text

def lineEnd? (text : List Char) : Option (List Char) :=
  match skipComment (skipSpace text) with
  | [] => some []
  | rest => newline? rest

def skipLines : Nat → List Char → Option (List Char)
  | 0, text => some text
  | fuel + 1, text =>
      match skipSpace text with
      | '#' :: rest => (newline? (skipComment ('#' :: rest))).bind (skipLines fuel)
      | '\n' :: rest => skipLines fuel rest
      | '\r' :: rest => (newline? ('\r' :: rest)).bind (skipLines fuel)
      | rest => some rest

def skipGaps (text : List Char) : Option (List Char) :=
  skipLines (text.length + 1) text

def codePoint? (count : Nat) (text : List Char) : Option (Char × List Char) := do
  let digits ← (text.take count).mapM Text.hexDigit?
  guard (digits.length = count)
  let code := digits.foldl (fun code digit => code * 16 + digit) 0
  guard (code < 0xd800 || (0xe000 ≤ code && code < 0x110000))
  return (Char.ofNat code, text.drop count)

def escape? : Scan Char
  | 'b' :: rest => some ('\x08', rest)
  | 't' :: rest => some ('\t', rest)
  | 'n' :: rest => some ('\n', rest)
  | 'f' :: rest => some ('\x0c', rest)
  | 'r' :: rest => some ('\r', rest)
  | '"' :: rest => some ('"', rest)
  | '\\' :: rest => some ('\\', rest)
  | 'u' :: rest => codePoint? 4 rest
  | 'U' :: rest => codePoint? 8 rest
  | _ => none

def basicRest : Nat → Scan (List Char)
  | 0, _ => none
  | _, [] => none
  | _, '"' :: rest => some ([], rest)
  | fuel + 1, '\\' :: rest => do
      let (char, rest) ← escape? rest
      let (chars, rest) ← basicRest fuel rest
      return (char :: chars, rest)
  | fuel + 1, char :: rest =>
      if isPlain char then (basicRest fuel rest).map fun (chars, rest) => (char :: chars, rest)
      else none

def literalRest : Scan (List Char)
  | [] => none
  | '\'' :: rest => some ([], rest)
  | char :: rest =>
      if isPlain char then (literalRest rest).map fun (chars, rest) => (char :: chars, rest)
      else none

/-- The end of a text of several lines: three quotes, with up to two that belong to the text in
front of them. -/
def closing? (quote : Char) (text : List Char) : Option (List Char × List Char) :=
  let count := (text.takeWhile (· = quote)).length
  if count < 3 then none
  else
    let kept := min (count - 3) 2
    some (List.replicate kept quote, text.drop (kept + 3))

def skipBlankLines : List Char → List Char
  | ' ' :: rest | '\t' :: rest | '\n' :: rest | '\r' :: '\n' :: rest => skipBlankLines rest
  | text => text

def joinLines? (text : List Char) : Option (List Char) :=
  (newline? (skipSpace text)).map skipBlankLines

def linesRest (quote : Char) (escapes : Bool) : Nat → Scan (List Char)
  | 0, _ => none
  | fuel + 1, text =>
      match closing? quote text with
      | some (chars, rest) => some (chars, rest)
      | none =>
          match newline? text with
          | some rest =>
              (linesRest quote escapes fuel rest).map fun (chars, rest) => ('\n' :: chars, rest)
          | none =>
              match text with
              | [] => none
              | char :: rest =>
                  if escapes && char = '\\' then
                    match escape? rest with
                    | some (char, rest) =>
                        (linesRest quote escapes fuel rest).map fun (chars, rest) =>
                          (char :: chars, rest)
                    | none => (joinLines? rest).bind (linesRest quote escapes fuel)
                  else if isPlain char then
                    (linesRest quote escapes fuel rest).map fun (chars, rest) =>
                      (char :: chars, rest)
                  else none

def lines? (quote : Char) (escapes : Bool) (text : List Char) : Option (List Char × List Char) :=
  let text := (newline? text).getD text
  linesRest quote escapes (text.length + 1) text

def string? : Scan (List Char)
  | '"' :: '"' :: '"' :: rest => lines? '"' true rest
  | '"' :: rest => basicRest (rest.length + 1) rest
  | '\'' :: '\'' :: '\'' :: rest => lines? '\'' false rest
  | '\'' :: rest => literalRest rest
  | _ => none

def isBareKeyChar (char : Char) : Bool :=
  char.isAlphanum || char = '-' || char = '_'

def simpleKey? : Scan String
  | '"' :: rest =>
      (basicRest (rest.length + 1) rest).map fun (key, rest) => (String.ofList key, rest)
  | '\'' :: rest => (literalRest rest).map fun (key, rest) => (String.ofList key, rest)
  | text =>
      match text.takeWhile isBareKeyChar with
      | [] => none
      | key => some (String.ofList key, text.dropWhile isBareKeyChar)

def keyRest : Nat → Scan (List String)
  | 0, _ => none
  | fuel + 1, text =>
      match skipSpace text with
      | '.' :: rest => do
          let (part, rest) ← simpleKey? (skipSpace rest)
          let (parts, rest) ← keyRest fuel rest
          return (part :: parts, rest)
      | rest => some ([], rest)

def maxNesting : Nat := 79

def key? (text : List Char) : Option ((List String × String) × List Char) := do
  let (part, rest) ← simpleKey? (skipSpace text)
  let (parts, rest) ← keyRest maxNesting rest
  let last := (part :: parts).getLast (by simp)
  return (((part :: parts).dropLast, last), rest)

def digitsRest (isDigit : Char → Bool) : Scan (List Char)
  | '_' :: char :: rest =>
      if isDigit char then
        (digitsRest isDigit rest).map fun (digits, rest) => (char :: digits, rest)
      else none
  | char :: rest =>
      if char = '_' then none
      else if isDigit char then
        (digitsRest isDigit rest).map fun (digits, rest) => (char :: digits, rest)
      else some ([], char :: rest)
  | [] => some ([], [])

def digits? (isDigit : Char → Bool) : Scan (List Char)
  | char :: rest =>
      if isDigit char then
        (digitsRest isDigit rest).map fun (digits, rest) => (char :: digits, rest)
      else none
  | [] => none

def sign : List Char → Bool × List Char
  | '-' :: rest => (true, rest)
  | '+' :: rest => (false, rest)
  | text => (false, text)

def decimal? : Scan (List Char)
  | '0' :: rest => some (['0'], rest)
  | text => digits? Char.isDigit text

def fits (value : Int) : Bool :=
  Int64.minValue.toInt ≤ value && value ≤ Int64.maxValue.toInt

def integer? (text : List Char) : Option (Toml × List Char) := do
  let inBase (base : Nat) (isDigit : Char → Bool) (rest : List Char) := do
    let (digits, rest) ← digits? isDigit rest
    let value : Int := Text.numberOf base digits
    guard (fits value)
    return (integer value, rest)
  match text with
  | '0' :: 'x' :: rest => inBase 16 (fun char => (Text.hexDigit? char).isSome) rest
  | '0' :: 'o' :: rest => inBase 8 (fun char => '0' ≤ char && char ≤ '7') rest
  | '0' :: 'b' :: rest => inBase 2 (fun char => char = '0' || char = '1') rest
  | _ =>
      let (negative, rest) := sign text
      let (digits, rest) ← decimal? rest
      let magnitude : Int := Text.numberOf 10 digits
      let value := if negative then -magnitude else magnitude
      guard (fits value)
      return (integer value, rest)

def fraction? : Scan (List Char)
  | '.' :: rest => digits? Char.isDigit rest
  | _ => none

def exponent? : Scan (Bool × List Char)
  | 'e' :: rest | 'E' :: rest =>
      let (negative, rest) := sign rest
      (digits? Char.isDigit rest).map fun (digits, rest) => ((negative, digits), rest)
  | _ => none

def isFinite (digits : Nat) (exponent : Int) : Bool :=
  let length : Int := (Nat.toDigits 10 digits).length
  if digits = 0 || length + exponent < 300 then true
  else if 320 < length + exponent then false
  else
    let bound := Nat.pow 2 1024 - Nat.pow 2 970
    digits * Nat.pow 10 exponent.toNat < bound * Nat.pow 10 (-exponent).toNat

def optional {α : Type} (scan : Scan α) (text : List Char) : Option α × List Char :=
  match scan text with
  | some (part, rest) => (some part, rest)
  | none => (none, text)

/-- A float with a fraction or an exponent. One that is too large is refused, but not one that is
too small. -/
def float? (text : List Char) : Option (Toml × List Char) := do
  let (negative, rest) := sign text
  let (whole, rest) ← decimal? rest
  let (fraction, rest) := optional fraction? rest
  let (exponent, rest) := optional exponent? rest
  guard (fraction.isSome || exponent.isSome)
  let fraction := fraction.getD []
  let power : Int := match exponent with
    | none => 0
    | some (down, digits) => if down then -(Text.numberOf 10 digits) else Text.numberOf 10 digits
  guard (negative || isFinite (Text.numberOf 10 (whole ++ fraction)) (power - fraction.length))
  return (float, rest)

def word? (word : String) (value : Toml) (text : List Char) : Option (Toml × List Char) :=
  (word.toList.isPrefixOf? text).map (value, ·)

def field? (width low high : Nat) (text : List Char) : Option (Nat × List Char) := do
  let digits := text.take width
  guard (digits.length = width && digits.all Char.isDigit)
  let value := Text.numberOf 10 digits
  guard (low ≤ value && value ≤ high)
  return (value, text.drop width)

def expect? (char : Char) : List Char → Option (List Char)
  | first :: rest => if first = char then some rest else none
  | [] => none

def daysIn (year month : Nat) : Nat :=
  if month = 2 then
    if year % 4 = 0 && (year % 100 ≠ 0 || year % 400 = 0) then 29 else 28
  else if month = 4 || month = 6 || month = 9 || month = 11 then 30
  else 31

def date? (text : List Char) : Option (List Char) := do
  let (year, rest) ← field? 4 0 9999 text
  let rest ← expect? '-' rest
  let (month, rest) ← field? 2 1 12 rest
  let rest ← expect? '-' rest
  let (_, rest) ← field? 2 1 (daysIn year month) rest
  return rest

/-- What follows a time of day; a minute may have a leap second. -/
def timeOfDay? (text : List Char) : Option (List Char) := do
  let (_, rest) ← field? 2 0 23 text
  let rest ← expect? ':' rest
  let (_, rest) ← field? 2 0 59 rest
  let rest ← expect? ':' rest
  let (_, rest) ← field? 2 0 60 rest
  match rest with
  | '.' :: char :: more => if char.isDigit then return more.dropWhile Char.isDigit else return rest
  | _ => return rest

def offset? : List Char → Option (List Char)
  | 'Z' :: rest | 'z' :: rest => some rest
  | '+' :: rest | '-' :: rest => do
      let (_, rest) ← field? 2 0 23 rest
      let rest ← expect? ':' rest
      let (_, rest) ← field? 2 0 59 rest
      return rest
  | _ => none

def time? (text : List Char) : Option (Toml × List Char) :=
  let dated := (date? text).map fun rest =>
    let timed := match rest with
      | 'T' :: more | 't' :: more | ' ' :: more =>
          (timeOfDay? more).map fun more => (offset? more).getD more
      | _ => none
    timed.getD rest
  (dated <|> timeOfDay? text).map (time, ·)

def scalar? (text : List Char) : Option (Toml × List Char) :=
  match text with
  | '"' :: _ | '\'' :: _ =>
      (string? text).map fun (chars, rest) => (string (String.ofList chars), rest)
  | _ =>
      word? "true" (boolean true) text <|> word? "false" (boolean false) text <|>
        word? "inf" float (sign text).2 <|> word? "nan" float (sign text).2 <|>
        time? text <|> float? text <|> integer? text

end ODataAdapter.Toml
