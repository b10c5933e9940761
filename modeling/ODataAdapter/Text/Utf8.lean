/-!
Bytes and the characters they encode. Reading never fails: each longest run of bytes that begins no
complete character, or a single byte that begins none, is read as one replacement character.
-/

namespace ODataAdapter.Text

def utf8Bytes (text : List Char) : List UInt8 :=
  text.flatMap String.utf8EncodeChar

def utf8Length (text : List Char) : Nat :=
  text.foldr (fun char length => char.utf8Size + length) 0

def replacementChar : Char := '\uFFFD'

structure PartialChar where
  code : Nat
  missing : Nat
  low : UInt8
  high : UInt8

def leadByte (byte : UInt8) : List Char × Option PartialChar :=
  let code := byte.toNat
  if byte < 0x80 then ([Char.ofNat code], none)
  else if byte < 0xc2 then ([replacementChar], none)
  else if byte < 0xe0 then ([], some ⟨code - 0xc0, 0, 0x80, 0xbf⟩)
  else if byte = 0xe0 then ([], some ⟨0, 1, 0xa0, 0xbf⟩)
  else if byte = 0xed then ([], some ⟨0xd, 1, 0x80, 0x9f⟩)
  else if byte < 0xf0 then ([], some ⟨code - 0xe0, 1, 0x80, 0xbf⟩)
  else if byte = 0xf0 then ([], some ⟨0, 2, 0x90, 0xbf⟩)
  else if byte < 0xf4 then ([], some ⟨code - 0xf0, 2, 0x80, 0xbf⟩)
  else if byte = 0xf4 then ([], some ⟨4, 2, 0x80, 0x8f⟩)
  else ([replacementChar], none)

/-- The next byte either continues the open character or cuts it short and is read afresh. -/
def PartialChar.next (opened : PartialChar) (byte : UInt8) : List Char × Option PartialChar :=
  if opened.low ≤ byte && byte ≤ opened.high then
    let code := opened.code * 64 + (byte.toNat - 0x80)
    match opened.missing with
    | 0 => ([Char.ofNat code], none)
    | missing + 1 => ([], some ⟨code, missing, 0x80, 0xbf⟩)
  else
    let (chars, reopened) := leadByte byte
    (replacementChar :: chars, reopened)

def decodeFrom : Option PartialChar → List UInt8 → List Char
  | none, [] => []
  | some _, [] => [replacementChar]
  | opened, byte :: rest =>
      let (chars, next) := (opened.map (·.next byte)).getD (leadByte byte)
      chars ++ decodeFrom next rest

def decodeUtf8 (bytes : List UInt8) : List Char :=
  decodeFrom none bytes

theorem utf8Length_append (left right : List Char) :
    utf8Length (left ++ right) = utf8Length left + utf8Length right := by
  induction left with
  | nil => simp [utf8Length]
  | cons char left ih =>
      simp only [utf8Length] at ih
      simp only [utf8Length, List.cons_append, List.foldr_cons, ih]
      omega

end ODataAdapter.Text
