import ODataAdapter.Json.Printer

/-!
What can go wrong, as causes, and the words for each cause.
-/

namespace ODataAdapter

inductive ReadFault
  | duplicateOption (key : String)
  | badCount (key value : String)
  | invalidFilter (rest : String)
  | trailingFilter (rest : String)
  | trailingOrder (rest : String)
  | emptyOrder
  deriving DecidableEq, Repr

namespace ReadFault

def message : ReadFault → String
  | duplicateOption key => "Duplicate query option '" ++ key ++ "'"
  | badCount key value => key ++ " expects a non-negative integer, got '" ++ value ++ "'"
  | invalidFilter rest => "Invalid filter expression near '" ++ rest ++ "'"
  | trailingFilter rest => "Unexpected trailing content: '" ++ rest ++ "'"
  | trailingOrder rest => "Unexpected trailing content in $orderby: '" ++ rest ++ "'"
  | emptyOrder => "Empty $orderby"

end ReadFault

inductive PayloadShape
  | record
  | recordOrRecords
  deriving DecidableEq, Repr

def PayloadShape.description : PayloadShape → String
  | record => "a record"
  | recordOrRecords => "an object or array"

inductive ConfigFault
  | malformed
  | zeroDepth
  | noBaseUrl
  deriving DecidableEq, Repr

def ConfigFault.message : ConfigFault → String
  | malformed => "TOML parse error"
  | zeroDepth => "limits.max_depth must be at least 1"
  | noBaseUrl => "backend.base_url is not set"

inductive AdaptError
  | read (position : Nat) (fault : ReadFault)
  | unsupported (description : String)
  | tooDeep (limit : Nat)
  | nothingLeft
  | unknownEntity (name : String)
  | payload (expected : PayloadShape) (found : Json)
  | config (fault : ConfigFault)

def AdaptError.message : AdaptError → String
  | read position fault => "Parse error at position " ++ toString position ++ ": " ++ fault.message
  | unsupported description => "Unsupported expression node: " ++ description
  | tooDeep limit => "Expression nested deeper than " ++ toString limit ++ " levels"
  | nothingLeft => "Unable to express the query for the backend: nothing left to send"
  | unknownEntity name => "Unknown entity: '" ++ name ++ "'"
  | payload expected found =>
      "Invalid payload: expected " ++ expected.description ++ ", got " ++ found.compact
  | config fault => "Configuration error: " ++ fault.message

end ODataAdapter
