import ODataAdapter.Text.Combining
import ODataAdapter.Text.Unprintable

/-!
Quoted display of a string on one line: quotes, backslashes and common controls are escaped, and
characters that would not show are given by their code point.
-/

namespace ODataAdapter.Text

def hexDigits (code : Nat) : List Char :=
  Nat.toDigits 16 code

def displayChar (char : Char) : List Char :=
  match char with
  | '\x00' => ['\\', '0']
  | '\t' => ['\\', 't']
  | '\r' => ['\\', 'r']
  | '\n' => ['\\', 'n']
  | '\\' => ['\\', '\\']
  | '"' => ['\\', '"']
  | _ =>
      if isCombining char || isUnprintable char then
        ['\\', 'u', '\x7b'] ++ hexDigits char.toNat ++ ['\x7d']
      else [char]

def display (text : String) : String :=
  String.ofList ('"' :: text.toList.flatMap displayChar ++ ['"'])

end ODataAdapter.Text
