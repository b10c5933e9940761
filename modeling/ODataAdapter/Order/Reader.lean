import ODataAdapter.Error
import ODataAdapter.Filter.Lexeme
import ODataAdapter.Order.Chain
import ODataAdapter.Text.Blank
import ODataAdapter.Text.Utf8

/-!
Reading orderings: paths with an optional direction, joined by commas.
-/

namespace ODataAdapter.Order

open ODataAdapter.Filter (keyword? path? skipGap)

def direction (text : List Char) : Bool × List Char :=
  let word := skipGap text
  match keyword? "asc" word with
  | some rest => (false, rest)
  | none =>
      match keyword? "desc" word with
      | some rest => (true, rest)
      | none => (false, text)

def key? (text : List Char) : Option (SortKey × List Char) :=
  (path? text).map fun (path, rest) =>
    let (descending, rest) := direction rest
    (⟨String.ofList path, descending⟩, rest)

/-- The keys after the first one. A comma that no key follows is left unread. -/
def keysFrom : Nat → List Char → List SortKey × List Char
  | 0, text => ([], text)
  | fuel + 1, text =>
      match skipGap text with
      | ',' :: rest =>
          match key? (skipGap rest) with
          | some (key, rest) =>
              let (keys, rest) := keysFrom fuel rest
              (key :: keys, rest)
          | none => ([], text)
      | _ => ([], text)

def keys (text : List Char) : List SortKey × List Char :=
  match key? text with
  | none => ([], text)
  | some (key, rest) =>
      let (keys, rest) := keysFrom rest.length rest
      (key :: keys, rest)

def readChain (text : List Char) : Except AdaptError SortChain :=
  let text := Text.trim text
  let (keys, rest) := keys text
  if Text.allBlank rest then
    match SortChain.ofKeys? keys with
    | some chain => .ok chain
    | none => .error (.read 0 .emptyOrder)
  else
    let position := Text.utf8Length text - Text.utf8Length rest
    .error (.read position (.trailingOrder (String.ofList (Text.trim rest))))

end ODataAdapter.Order
