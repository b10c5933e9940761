import ODataAdapter.Text.Digits
import ODataAdapter.Text.Utf8

/-!
Clauses of a query string: pieces between `&`, each a key and a value around its first `=`, with
bytes written as `%` and two hexadecimal digits. A plus stands for itself.
-/

namespace ODataAdapter.Query

/-- The bytes of a text with its escapes replaced; a `%` that begins no escape stays. -/
def unescape : List Char → List UInt8
  | [] => []
  | '%' :: high :: low :: rest =>
      match Text.hexDigit? high, Text.hexDigit? low with
      | some upper, some lower => UInt8.ofNat (upper * 16 + lower) :: unescape rest
      | _, _ => 0x25 :: unescape (high :: low :: rest)
  | char :: rest => String.utf8EncodeChar char ++ unescape rest

def decode (text : List Char) : List Char :=
  Text.decodeUtf8 (unescape text)

def splitAt (separator : Char) : List Char → List (List Char)
  | [] => [[]]
  | char :: rest =>
      if char = separator then [] :: splitAt separator rest
      else
        match splitAt separator rest with
        | [] => [[char]]
        | first :: others => (char :: first) :: others

def cutAt (separator : Char) (text : List Char) : List Char × List Char :=
  (text.takeWhile (· ≠ separator), (text.dropWhile (· ≠ separator)).drop 1)

def decodePiece (piece : List Char) : List Char × List Char :=
  let (key, value) := cutAt '=' piece
  (decode key, decode value)

def clauses (text : List Char) : List (List Char × List Char) :=
  ((splitAt '&' text).filter (!·.isEmpty)).map decodePiece

end ODataAdapter.Query
