import ODataAdapter.Proofs.Query.Keys
import ODataAdapter.Proofs.Text.Decoding

/-!
What decoding leaves alone. It replaces escapes and nothing else, so a text without escapes is
decoded to itself, and a text with one to a shorter text. In form data a plus is a space; to write
every plus as an escape first keeps it, without an effect on the half-written escapes around it.
-/

namespace ODataAdapter.Query

open Text (hexDigit? utf8Bytes TakesContinuation pending decodeFrom)

def BeginsEscape (text : List Char) : Prop :=
  ∃ high low, (hexDigit? high).isSome = true ∧ (hexDigit? low).isSome = true ∧
    ['%', high, low] <+: text

/-- Somewhere in the text a `%` is followed by two hexadecimal digits. -/
def HasEscape (text : List Char) : Prop :=
  ∃ high low, (hexDigit? high).isSome = true ∧ (hexDigit? low).isSome = true ∧
    ['%', high, low] <:+: text

theorem not_hasEscape_nil : ¬HasEscape [] := by
  rintro ⟨high, low, _, _, inside⟩
  simp at inside

theorem hasEscape_cons {char : Char} {rest : List Char} :
    HasEscape (char :: rest) ↔ BeginsEscape (char :: rest) ∨ HasEscape rest := by
  simp only [HasEscape, BeginsEscape, List.infix_cons_iff]
  constructor
  · rintro ⟨high, low, isHigh, isLow, here | later⟩
    · exact Or.inl ⟨high, low, isHigh, isLow, here⟩
    · exact Or.inr ⟨high, low, isHigh, isLow, later⟩
  · rintro (⟨high, low, isHigh, isLow, here⟩ | ⟨high, low, isHigh, isLow, later⟩)
    · exact ⟨high, low, isHigh, isLow, Or.inl here⟩
    · exact ⟨high, low, isHigh, isLow, Or.inr later⟩

theorem unescape_escape {high low : Char} {upper lower : Nat} (isHigh : hexDigit? high = some upper)
    (isLow : hexDigit? low = some lower) (rest : List Char) :
    unescape ('%' :: high :: low :: rest) = UInt8.ofNat (upper * 16 + lower) :: unescape rest := by
  simp [unescape, isHigh, isLow]

theorem utf8EncodeChar_percent : String.utf8EncodeChar '%' = [0x25] := by
  decide

theorem unescape_plain {char : Char} {rest : List Char} (plain : ¬BeginsEscape (char :: rest)) :
    unescape (char :: rest) = String.utf8EncodeChar char ++ unescape rest := by
  rw [unescape.eq_def]
  split
  next empty => contradiction
  next high low rest' whole =>
    obtain ⟨rfl, rfl⟩ := List.cons.inj whole
    split
    next upper lower isHigh isLow =>
      refine absurd ⟨high, low, ?_, ?_, ?_⟩ plain
      · simp [isHigh]
      · simp [isLow]
      · simp
    next => rw [utf8EncodeChar_percent, List.singleton_append]
  next whole =>
    obtain ⟨rfl, rfl⟩ := List.cons.inj whole
    rfl

@[elab_as_elim]
theorem escapeInduction {motive : List Char → Prop} (text : List Char) (nil : motive [])
    (escape : ∀ high low rest upper lower, hexDigit? high = some upper →
      hexDigit? low = some lower → motive rest → motive ('%' :: high :: low :: rest))
    (plain : ∀ char rest, ¬BeginsEscape (char :: rest) → motive rest → motive (char :: rest)) :
    motive text := by
  fun_induction unescape text with
  | case1 => exact nil
  | case2 high low rest upper lower isLow isHigh ih =>
      exact escape high low rest upper lower isHigh isLow ih
  | case3 high low rest noEscape ih =>
      apply plain
      · rintro ⟨high', low', isHigh, isLow, begins⟩
        obtain ⟨upper, foundHigh⟩ := Option.isSome_iff_exists.1 isHigh
        obtain ⟨lower, foundLow⟩ := Option.isSome_iff_exists.1 isLow
        simp only [List.cons_prefix_cons, List.nil_prefix, and_true, true_and] at begins
        obtain ⟨rfl, rfl⟩ := begins
        exact noEscape upper lower foundHigh foundLow
      · exact ih
  | case4 char rest short ih =>
      apply plain
      · rintro ⟨high, low, _, _, more, whole⟩
        obtain ⟨rfl, rfl⟩ := List.cons.inj whole
        exact short high low more rfl rfl
      · exact ih

theorem unescape_eq_utf8Bytes {text : List Char} (plain : ¬HasEscape text) :
    unescape text = utf8Bytes text := by
  induction text with
  | nil => rfl
  | cons char rest ih =>
      rw [hasEscape_cons, not_or] at plain
      rw [unescape_plain plain.1, ih plain.2]
      rfl

theorem not_hasEscape_of_free {text : List Char} (free : '%' ∉ text) : ¬HasEscape text := by
  rintro ⟨high, low, _, _, inside⟩
  exact free (inside.subset List.mem_cons_self)

theorem unescape_append {text rest : List Char}
    (starts : ∀ char ∈ rest.head?, hexDigit? char = none) :
    unescape (text ++ rest) = unescape text ++ unescape rest := by
  induction text using escapeInduction with
  | nil => rfl
  | escape high low text upper lower isHigh isLow ih =>
      simp only [List.cons_append]
      rw [unescape_escape isHigh isLow, unescape_escape isHigh isLow, ih, List.cons_append]
  | plain char text plain ih =>
      have stillPlain : ¬BeginsEscape (char :: (text ++ rest)) := by
        rintro ⟨high, low, isHigh, isLow, more, whole⟩
        obtain ⟨rfl, _⟩ := List.cons.inj whole
        have digits : high :: low :: more = text ++ rest := (List.cons.inj whole).2
        rcases text with _ | ⟨first, _ | ⟨second, text⟩⟩
        · obtain rfl : rest = high :: low :: more := digits.symm
          simp [starts high rfl] at isHigh
        · obtain ⟨_, digit⟩ := List.cons.inj digits
          obtain rfl : rest = low :: more := digit.symm
          simp [starts low rfl] at isLow
        · obtain ⟨rfl, digit⟩ := List.cons.inj digits
          obtain ⟨rfl, _⟩ := List.cons.inj digit
          exact plain ⟨high, low, isHigh, isLow, by simp⟩
      rw [List.cons_append, unescape_plain stillPlain, unescape_plain plain, ih, List.append_assoc]

theorem unescape_cons_of_ne {char : Char} (other : char ≠ '%') (rest : List Char) :
    unescape (char :: rest) = String.utf8EncodeChar char ++ unescape rest := by
  apply unescape_plain
  rintro ⟨high, low, _, _, more, whole⟩
  exact other (List.cons.inj whole).1.symm

theorem unescape_free_append {text : List Char} (free : '%' ∉ text) (rest : List Char) :
    unescape (text ++ rest) = utf8Bytes text ++ unescape rest := by
  induction text with
  | nil => rfl
  | cons char text ih =>
      simp only [List.mem_cons, not_or] at free
      rw [List.cons_append, unescape_cons_of_ne (Ne.symm free.1), ih free.2, ← List.append_assoc]
      rfl

theorem length_decodeFrom_unescape {state : Option Text.PartialChar}
    (takes : TakesContinuation state) (text : List Char) :
    (decodeFrom state (unescape text)).length ≤ text.length + pending state ∧
      (HasEscape text →
        (decodeFrom state (unescape text)).length < text.length + pending state) := by
  induction text using escapeInduction generalizing state with
  | nil =>
      refine ⟨?_, fun escaped => absurd escaped not_hasEscape_nil⟩
      simp [unescape, Text.length_decodeFrom_nil]
  | escape high low rest upper lower isHigh isLow ih =>
      obtain ⟨next, nextTakes, step⟩ := Text.length_decodeFrom_cons_le state
        (UInt8.ofNat (upper * 16 + lower)) (unescape rest)
      have others := (ih nextTakes).1
      rw [unescape_escape isHigh isLow]
      simp only [List.length_cons]
      omega
  | plain char rest plain ih =>
      have nothing : pending none = 0 := rfl
      obtain ⟨others, fewer⟩ := ih Text.takesContinuation_none
      rw [unescape_plain plain, Text.length_decodeFrom_char takes, hasEscape_cons]
      simp only [List.length_cons]
      refine ⟨by omega, fun escaped => ?_⟩
      have shrinks := fewer (escaped.resolve_left plain)
      omega

theorem length_decode_le (text : List Char) : (decode text).length ≤ text.length :=
  (length_decodeFrom_unescape Text.takesContinuation_none text).1

theorem decode_eq_self_iff {text : List Char} : decode text = text ↔ ¬HasEscape text := by
  constructor
  · intro same escaped
    have shorter : (decode text).length < text.length :=
      (length_decodeFrom_unescape Text.takesContinuation_none text).2 escaped
    rw [same] at shorter
    exact Nat.lt_irrefl _ shorter
  · intro plain
    rw [decode, unescape_eq_utf8Bytes plain, Text.decodeUtf8_utf8Bytes]

/-! Plus signs. -/

def escapePlus (text : List Char) : List Char :=
  text.flatMap fun char => if char = '+' then ['%', '2', 'B'] else [char]

/-- Form data is decoded with a plus for a space. -/
def formDecode (text : List Char) : List Char :=
  decode (text.map fun char => if char = '+' then ' ' else char)

def formPiece (piece : List Char) : List Char × List Char :=
  let (key, value) := cutAt '=' piece
  (formDecode key, formDecode value)

def formClauses (text : List Char) : List (List Char × List Char) :=
  ((splitAt '&' text).filter (!·.isEmpty)).map formPiece

theorem escapePlus_append (left right : List Char) :
    escapePlus (left ++ right) = escapePlus left ++ escapePlus right := by
  simp [escapePlus]

theorem escapePlus_cons_of_ne {char : Char} (other : char ≠ '+') (rest : List Char) :
    escapePlus (char :: rest) = char :: escapePlus rest := by
  simp [escapePlus, other]

theorem ne_plus_of_hexDigit {char : Char} (isDigit : (hexDigit? char).isSome = true) :
    char ≠ '+' := by
  rintro rfl
  exact absurd isDigit (by decide)

theorem cons_of_escapePlus {digit : Char} {rest more : List Char}
    (isDigit : (hexDigit? digit).isSome = true) (begins : digit :: more = escapePlus rest) :
    ∃ rest', rest = digit :: rest' ∧ more = escapePlus rest' := by
  cases rest with
  | nil => simp [escapePlus] at begins
  | cons char rest =>
      by_cases plus : char = '+'
      · subst plus
        obtain ⟨rfl, _⟩ := List.cons.inj begins
        exact absurd isDigit (by decide)
      · rw [escapePlus_cons_of_ne plus] at begins
        obtain ⟨rfl, rfl⟩ := List.cons.inj begins
        exact ⟨rest, rfl, rfl⟩

theorem beginsEscape_of_escapePlus {char : Char} {rest : List Char}
    (escaped : BeginsEscape (char :: escapePlus rest)) : BeginsEscape (char :: rest) := by
  obtain ⟨high, low, isHigh, isLow, more, whole⟩ := escaped
  obtain ⟨rfl, digits⟩ := List.cons.inj whole
  obtain ⟨afterHigh, rfl, digit⟩ := cons_of_escapePlus isHigh digits
  obtain ⟨afterLow, rfl, _⟩ := cons_of_escapePlus isLow digit
  exact ⟨high, low, isHigh, isLow, by simp⟩

theorem unescape_escapePlus (text : List Char) : unescape (escapePlus text) = unescape text := by
  induction text using escapeInduction with
  | nil => rfl
  | escape high low rest upper lower isHigh isLow ih =>
      have highOther := ne_plus_of_hexDigit (Option.isSome_of_eq_some isHigh)
      have lowOther := ne_plus_of_hexDigit (Option.isSome_of_eq_some isLow)
      rw [escapePlus_cons_of_ne (by decide), escapePlus_cons_of_ne highOther,
        escapePlus_cons_of_ne lowOther, unescape_escape isHigh isLow, unescape_escape isHigh isLow,
        ih]
  | plain char rest plain ih =>
      by_cases plus : char = '+'
      · subst plus
        have two : hexDigit? '2' = some 2 := by decide
        have eleven : hexDigit? 'B' = some 11 := by decide
        have bytes : String.utf8EncodeChar '+' = [UInt8.ofNat (2 * 16 + 11)] := by decide
        have written : escapePlus ('+' :: rest) = '%' :: '2' :: 'B' :: escapePlus rest := by
          simp [escapePlus]
        rw [unescape_plain plain, written, unescape_escape two eleven, ih, bytes,
          List.singleton_append]
      · have stillPlain := fun escaped => plain (beginsEscape_of_escapePlus escaped)
        rw [escapePlus_cons_of_ne plus, unescape_plain stillPlain, unescape_plain plain, ih]

theorem formDecode_escapePlus (text : List Char) : formDecode (escapePlus text) = decode text := by
  have noPlus : (escapePlus text).map (fun char => if char = '+' then ' ' else char) =
      escapePlus text := by
    induction text with
    | nil => rfl
    | cons char rest ih =>
        rw [← List.singleton_append, escapePlus_append, List.map_append, ih]
        by_cases plus : char = '+' <;> simp [escapePlus, plus]
  rw [formDecode, noPlus, decode, unescape_escapePlus, decode]

theorem splitAt_escapePlus (text : List Char) :
    splitAt '&' (escapePlus text) = (splitAt '&' text).map escapePlus := by
  induction text with
  | nil => rfl
  | cons char rest ih =>
      by_cases separates : char = '&'
      · subst separates
        have nothing : escapePlus [] = [] := rfl
        rw [escapePlus_cons_of_ne (by decide)]
        simp [splitAt, ih, nothing]
      · have free : '&' ∉ [char] := by simp [Ne.symm separates]
        have freeEscaped : '&' ∉ escapePlus [char] := by
          by_cases plus : char = '+' <;> simp [escapePlus, plus, Ne.symm separates]
        obtain ⟨first, others, pieces, whole⟩ := splitAt_word free rest
        obtain ⟨first', others', pieces', whole'⟩ := splitAt_word freeEscaped (escapePlus rest)
        rw [pieces', pieces, List.map_cons] at ih
        obtain ⟨rfl, rfl⟩ := List.cons.inj ih
        rw [← List.singleton_append, escapePlus_append, whole', whole, List.map_cons,
          escapePlus_append]

theorem cutAt_escapePlus (piece : List Char) :
    cutAt '=' (escapePlus piece) =
      (escapePlus (cutAt '=' piece).1, escapePlus (cutAt '=' piece).2) := by
  induction piece with
  | nil => rfl
  | cons char rest ih =>
      simp only [cutAt, Prod.mk.injEq] at ih ⊢
      by_cases separates : char = '='
      · subst separates
        rw [escapePlus_cons_of_ne (by decide)]
        simp [escapePlus]
      · by_cases plus : char = '+'
        · subst plus
          simpa [escapePlus] using ih
        · simpa [separates, escapePlus_cons_of_ne plus] using ih

theorem isEmpty_escapePlus (text : List Char) : (escapePlus text).isEmpty = text.isEmpty := by
  cases text with
  | nil => rfl
  | cons char rest =>
      by_cases plus : char = '+' <;> simp [escapePlus, plus]

/-- Reading a query is reading form data in which every plus has been written as an escape. -/
theorem formClauses_escapePlus (text : List Char) :
    formClauses (escapePlus text) = clauses text := by
  have piece (piece : List Char) : formPiece (escapePlus piece) = decodePiece piece := by
    simp only [formPiece, decodePiece, cutAt_escapePlus, formDecode_escapePlus]
  simp only [formClauses, clauses, splitAt_escapePlus, List.filter_map, List.map_map,
    Function.comp_def, isEmpty_escapePlus, piece]

end ODataAdapter.Query
