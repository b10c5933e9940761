import ODataAdapter.Toml.Scalar

/-!
TOML documents: lines that open a table or give a value to a key.
-/

namespace ODataAdapter.Toml

abbrev KeyPath := List String × String

def itemsFrom (value : Scan Toml) : Nat → Scan (List Toml)
  | 0, _ => none
  | fuel + 1, text => do
      let text ← skipGaps text
      match text with
      | ']' :: rest => return ([], rest)
      | _ =>
          let (item, rest) ← value text
          let rest ← skipGaps rest
          match rest with
          | ',' :: rest =>
              let (items, rest) ← itemsFrom value fuel rest
              return (item :: items, rest)
          | ']' :: rest => return ([item], rest)
          | _ => none

def pair? (value : Scan Toml) (text : List Char) : Option ((KeyPath × Toml) × List Char) := do
  let (key, rest) ← key? text
  let rest ← expect? '=' rest
  let (value, rest) ← value (skipSpace rest)
  return ((key, value), skipSpace rest)

/-- The pairs of a table between braces. No comma follows the last one. -/
def pairsFrom (value : Scan Toml) : Nat → Scan (List (KeyPath × Toml))
  | 0, _ => none
  | fuel + 1, text => do
      let (pair, rest) ← pair? value text
      match rest with
      | ',' :: rest =>
          let (pairs, rest) ← pairsFrom value fuel rest
          return (pair :: pairs, rest)
      | '\x7d' :: rest => return ([pair], rest)
      | _ => none

def fill (pairs : List (KeyPath × Toml)) (members : TomlMembers) : Option TomlMembers :=
  pairs.foldlM (fun members ((path, key), value) => assign path key value members) members

def braced? (value : Scan Toml) (text : List Char) : Option (Toml × List Char) := do
  match skipSpace text with
  | '\x7d' :: rest => return (table .closed [], rest)
  | text =>
      let (pairs, rest) ← pairsFrom value (text.length + 1) text
      let members ← fill pairs []
      return (table .closed members, rest)

def value? : Nat → Scan Toml
  | _, [] => none
  | 0, text => match text with
      | '[' :: _ | '\x7b' :: _ => none
      | _ => scalar? text
  | budget + 1, text => match text with
      | '[' :: rest =>
          (itemsFrom (value? budget) (rest.length + 1) rest).map fun (items, rest) =>
            (array items, rest)
      | '\x7b' :: rest => braced? (value? budget) rest
      | _ => scalar? text

inductive Line
  | header (key : KeyPath)
  | arrayHeader (key : KeyPath)
  | pair (key : KeyPath) (value : Toml)

def header? (text : List Char) : Option (KeyPath × List Char) := do
  let (key, rest) ← key? text
  let rest ← expect? ']' rest
  return (key, rest)

def line? (text : List Char) : Option (Line × List Char) :=
  match text with
  | '[' :: '[' :: rest => do
      let (key, rest) ← header? rest
      let rest ← expect? ']' rest
      let rest ← lineEnd? rest
      return (.arrayHeader key, rest)
  | '[' :: rest => do
      let (key, rest) ← header? rest
      let rest ← lineEnd? rest
      return (.header key, rest)
  | text => do
      let ((key, value), rest) ← pair? (value? maxNesting) text
      let rest ← lineEnd? rest
      return (.pair key value, rest)

def linesFrom : Nat → List Char → Option (List Line)
  | 0, _ => none
  | fuel + 1, text =>
      match skipSpace text with
      | [] => some []
      | '\n' :: rest => linesFrom fuel rest
      | '\r' :: rest => (newline? ('\r' :: rest)).bind (linesFrom fuel)
      | '#' :: rest => (lineEnd? ('#' :: rest)).bind (linesFrom fuel)
      | text => do
          let (line, rest) ← line? text
          let lines ← linesFrom fuel rest
          return line :: lines

def leadingPairs : List Line → List (KeyPath × Toml) × List Line
  | .pair key value :: lines =>
      let (pairs, lines) := leadingPairs lines
      ((key, value) :: pairs, lines)
  | lines => ([], lines)

def addTables : Nat → List Line → TomlMembers → Option TomlMembers
  | 0, _, _ => none
  | _, [], root => some root
  | fuel + 1, line :: lines, root => do
      let (pairs, lines) := leadingPairs lines
      let root ← match line with
        | .header (path, key) => openTable path key (fill pairs) root
        | .arrayHeader (path, key) => appendTable path key (fill pairs) root
        | .pair _ _ => none
      addTables fuel lines root

def ofText? (text : String) : Option TomlMembers := do
  let text := match text.toList with
    | '\uFEFF' :: rest => rest
    | text => text
  let lines ← linesFrom (text.length + 1) text
  let (pairs, sections) := leadingPairs lines
  let root ← fill pairs []
  addTables (sections.length + 1) sections root

end ODataAdapter.Toml
