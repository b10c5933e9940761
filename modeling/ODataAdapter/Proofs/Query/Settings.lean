import ODataAdapter.Proofs.Query.Escapes
import ODataAdapter.Proofs.Text.Trimming

/-!
What the clauses of a query set: keys without the blanks around them, with their values. A text
sets what the pieces set that it was put together from. The blanks at its ends, which are taken off
before it is split, make no difference, since they would be taken off the first key and the last
value.
-/

namespace ODataAdapter.Query

open Text (isBlank allBlank trim trimStart hexDigit?)

theorem plain_of_isBlank {char : Char} (blank : isBlank char = true) :
    hexDigit? char = none ∧ char ∉ ['%', '&', '='] := by
  have codes : ∀ code ∈ Text.blankCodes, hexDigit? (Char.ofNat code) = none ∧
      Char.ofNat code ∉ ['%', '&', '='] := by decide
  simpa using codes char.toNat (Text.mem_blankCodes blank)

section Blanks

variable {blanks : List Char} (blank : allBlank blanks = true)

include blank

theorem notMem_of_allBlank (mark : Char) (isMark : mark ∈ ['%', '&', '=']) : mark ∉ blanks :=
  fun member => (plain_of_isBlank (List.all_eq_true.1 blank mark member)).2 isMark

theorem decode_append_blank (text : List Char) :
    decode (text ++ blanks) = decode text ++ blanks := by
  have noDigit : ∀ char ∈ blanks.head?, hexDigit? char = none := fun char isHead =>
    (plain_of_isBlank (List.all_eq_true.1 blank char (List.mem_of_mem_head? isHead))).1
  have plain := not_hasEscape_of_free (notMem_of_allBlank blank '%' (by simp))
  rw [decode, unescape_append noDigit, unescape_eq_utf8Bytes plain,
    Text.decodeUtf8_append_utf8Bytes, decode]

theorem decode_blank_append (text : List Char) :
    decode (blanks ++ text) = blanks ++ decode text := by
  have free := notMem_of_allBlank blank '%' (by simp)
  rw [decode, unescape_free_append free, Text.decodeUtf8_utf8Bytes_append, decode]

end Blanks

/-- What clauses set: keys without the blanks around them, and values. A clause with a blank key
sets nothing. -/
def settings (clauses : List (List Char × List Char)) : List (String × List Char) :=
  (clauses.map fun (key, value) => (String.ofList (trim key), value)).filter (!·.1.isEmpty)

def trimmed (given : List (String × List Char)) : List (String × List Char) :=
  given.map (Prod.map id trim)

def pieceSettings (pieces : List (List Char)) : List (String × List Char) :=
  trimmed (settings (pieces.map decodePiece))

theorem pieceSettings_append (first second : List (List Char)) :
    pieceSettings (first ++ second) = pieceSettings first ++ pieceSettings second := by
  simp [pieceSettings, trimmed, settings]

theorem pieceSettings_perm {pieces pieces' : List (List Char)} (perm : pieces.Perm pieces') :
    (pieceSettings pieces).Perm (pieceSettings pieces') :=
  (((perm.map _).map _).filter _).map _

theorem pieceSettings_filter (pieces : List (List Char)) :
    pieceSettings (pieces.filter (!·.isEmpty)) = pieceSettings pieces := by
  induction pieces with
  | nil => rfl
  | cons piece pieces ih =>
      rw [← List.singleton_append, List.filter_append, pieceSettings_append, pieceSettings_append,
        ih]
      cases piece with
      | nil => rfl
      | cons char piece => rfl

theorem trimmed_settings_clauses (text : List Char) :
    trimmed (settings (clauses text)) = pieceSettings (splitAt '&' text) :=
  pieceSettings_filter (splitAt '&' text)

theorem pieceSettings_singleton_congr {piece piece' : List Char}
    (key : trim (decodePiece piece).1 = trim (decodePiece piece').1)
    (value : trim (decodePiece piece).2 = trim (decodePiece piece').2) :
    pieceSettings [piece] = pieceSettings [piece'] := by
  simp only [pieceSettings, settings, List.map_cons, List.map_nil, key]
  by_cases blank : (String.ofList (trim (decodePiece piece').1)).isEmpty = true
  · simp [blank]
  · simp [blank, trimmed, value]

section Blanks

variable {blanks : List Char} (blank : allBlank blanks = true)

include blank

theorem pieceSettings_append_blank (piece : List Char) :
    pieceSettings [piece ++ blanks] = pieceSettings [piece] := by
  by_cases separated : '=' ∈ piece
  · obtain ⟨key, value, rfl, free⟩ := List.eq_append_cons_of_mem separated
    rw [List.append_assoc, List.cons_append]
    apply pieceSettings_singleton_congr
    · simp only [decodePiece, cutAt_append free]
    · simp only [decodePiece, cutAt_append free, decode_append_blank blank,
        Text.trim_append_blank blank]
  · have stillFree : '=' ∉ piece ++ blanks := by
      simp [separated, notMem_of_allBlank blank '=' (by simp)]
    apply pieceSettings_singleton_congr
    · simp only [decodePiece, cutAt_free separated, cutAt_free stillFree,
        decode_append_blank blank, Text.trim_append_blank blank]
    · simp only [decodePiece, cutAt_free separated, cutAt_free stillFree]

theorem pieceSettings_blank_append (piece : List Char) :
    pieceSettings [blanks ++ piece] = pieceSettings [piece] := by
  have noEqual := notMem_of_allBlank blank '=' (by simp)
  by_cases separated : '=' ∈ piece
  · obtain ⟨key, value, rfl, free⟩ := List.eq_append_cons_of_mem separated
    have stillFree : '=' ∉ blanks ++ key := by simp [free, noEqual]
    rw [← List.append_assoc]
    apply pieceSettings_singleton_congr
    · simp only [decodePiece, cutAt_append free, cutAt_append stillFree,
        decode_blank_append blank, Text.trim_blank_append blank]
    · simp only [decodePiece, cutAt_append free, cutAt_append stillFree]
  · have stillFree : '=' ∉ blanks ++ piece := by simp [separated, noEqual]
    apply pieceSettings_singleton_congr
    · simp only [decodePiece, cutAt_free separated, cutAt_free stillFree,
        decode_blank_append blank, Text.trim_blank_append blank]
    · simp only [decodePiece, cutAt_free separated, cutAt_free stillFree]

theorem settings_append_blank (text : List Char) :
    trimmed (settings (clauses (text ++ blanks))) = trimmed (settings (clauses text)) := by
  have free := notMem_of_allBlank blank '&' (by simp)
  obtain ⟨others, last, pieces, whole⟩ := splitAt_append_word free text
  rw [trimmed_settings_clauses, trimmed_settings_clauses, pieces, whole, pieceSettings_append,
    pieceSettings_append, pieceSettings_append_blank blank]

theorem settings_blank_append (text : List Char) :
    trimmed (settings (clauses (blanks ++ text))) = trimmed (settings (clauses text)) := by
  have free := notMem_of_allBlank blank '&' (by simp)
  obtain ⟨first, others, pieces, whole⟩ := splitAt_word free text
  rw [trimmed_settings_clauses, trimmed_settings_clauses, pieces, whole, ← List.singleton_append,
    pieceSettings_append, pieceSettings_blank_append blank, ← pieceSettings_append,
    List.singleton_append]

end Blanks

/-- The text consists of these pieces between `&`, behind blanks and question marks. Its first piece
does not begin with a question mark of its own. -/
structure HasPieces (text : String) (pieces : List (List Char)) : Prop where
  written : ∃ blanks marks, allBlank blanks = true ∧ (∀ char ∈ marks, char = '?') ∧
    text.toList = blanks ++ (marks ++ List.intercalate ['&'] pieces)
  free : ∀ piece ∈ pieces, '&' ∉ piece
  unmarked : ∀ piece ∈ pieces.head?, (trimStart piece).head? ≠ some '?'

theorem pieceSettings_splitAt_intercalate {pieces : List (List Char)}
    (free : ∀ piece ∈ pieces, '&' ∉ piece) :
    pieceSettings (splitAt '&' (List.intercalate ['&'] pieces)) = pieceSettings pieces := by
  induction pieces with
  | nil => rfl
  | cons piece pieces ih =>
      have first := free piece List.mem_cons_self
      have others := ih fun piece member => free piece (List.mem_cons_of_mem _ member)
      cases pieces with
      | nil => simp [splitAt_free first]
      | cons next pieces =>
          rw [List.intercalate_cons_cons, List.append_assoc, List.singleton_append, splitAt_append,
            splitAt_free first, pieceSettings_append, others, ← pieceSettings_append,
            List.singleton_append]

theorem head?_trimStart_intercalate {pieces : List (List Char)}
    (unmarked : ∀ piece ∈ pieces.head?, (trimStart piece).head? ≠ some '?') :
    (trimStart (List.intercalate ['&'] pieces)).head? ≠ some '?' := by
  cases pieces with
  | nil => simp [trimStart]
  | cons piece pieces =>
      have first := unmarked piece rfl
      cases pieces with
      | nil => simpa using first
      | cons next pieces =>
          have separator : isBlank '&' = false := by decide
          rw [List.intercalate_cons_cons, List.append_assoc, trimStart, List.dropWhile_append]
          split
          · simp [separator]
          · rename_i visible
            rw [← trimStart] at visible ⊢
            rwa [List.head?_append_of_ne_nil _ (by simpa using visible)]

theorem dropWhile_question {text : List Char} (unmarked : text.head? ≠ some '?') :
    text.dropWhile (· = '?') = text := by
  cases text with
  | nil => rfl
  | cons char text =>
      have other : char ≠ '?' := by simpa using unmarked
      rw [List.dropWhile_cons_of_neg (by simpa using other)]

theorem HasPieces.stripped {text : String} {pieces : List (List Char)}
    (whole : HasPieces text pieces) :
    ∃ front back, allBlank front = true ∧ allBlank back = true ∧
      List.intercalate ['&'] pieces =
        front ++ ((trim text.toList).dropWhile (· = '?') ++ back) := by
  obtain ⟨blanks, marks, blank, question, written⟩ := whole.written
  have unmarked := head?_trimStart_intercalate whole.unmarked
  generalize List.intercalate ['&'] pieces = body at written unmarked
  rw [written, Text.trim_blank_append blank]
  cases marks with
  | nil =>
      obtain ⟨front, frontBlank, started⟩ := Text.exists_blank_append_trimStart body
      obtain ⟨back, backBlank, ended⟩ := Text.exists_trimEnd_append_blank (trimStart body)
      refine ⟨front, back, frontBlank, backBlank, ?_⟩
      rw [List.nil_append, trim, dropWhile_question (Text.head?_trimEnd_ne unmarked), ← ended,
        ← started]
  | cons mark marks =>
      obtain ⟨back, backBlank, ended⟩ := Text.exists_trimEnd_append_blank body
      have visible : ∀ char ∈ mark :: marks, isBlank char = false := fun char member =>
        question char member ▸ by decide
      have starts : trimStart (mark :: marks ++ body) = mark :: marks ++ body :=
        Text.trimStart_eq_self (by simp [visible mark])
      have ends : ∀ char ∈ (mark :: marks).getLast?, isBlank char = false := fun char isLast =>
        visible char (List.mem_of_getLast? isLast)
      have bodyUnmarked : body.head? ≠ some '?' := by
        intro begins
        have same : trimStart body = body :=
          Text.trimStart_eq_self (by simpa [begins] using (by decide : isBlank '?' = false))
        exact unmarked (by rwa [same])
      refine ⟨[], back, rfl, backBlank, ?_⟩
      rw [trim, starts, Text.trimEnd_append ends,
        List.dropWhile_append_of_pos (by simpa using question),
        dropWhile_question (Text.head?_trimEnd_ne bodyUnmarked), List.nil_append, ← ended]

theorem trimmed_settings_clausesOf {text : String} {pieces : List (List Char)}
    (whole : HasPieces text pieces) :
    trimmed (settings (clausesOf text)) = pieceSettings pieces := by
  obtain ⟨front, back, frontBlank, backBlank, body⟩ := whole.stripped
  rw [clausesOf, ← settings_append_blank backBlank, ← settings_blank_append frontBlank, ← body,
    trimmed_settings_clauses, pieceSettings_splitAt_intercalate whole.free]

end ODataAdapter.Query
