import ODataAdapter.Proofs.Filter.Reading
import ODataAdapter.Proofs.Query.Acceptance

/-!
Queries whose values are written with escapes. Whichever characters of a value are escaped, as long
as every `&` and every `%` is, the value is read as if it stood there by itself; a plus that is not
escaped is a plus.
-/

namespace ODataAdapter.Query

open Text (hexDigit? trim trimEnd utf8Bytes)

inductive EscapesBytes : List UInt8 → List Char → Prop
  | nil : EscapesBytes [] []
  | cons {byte : UInt8} {high low : Char} {bytes : List UInt8} {written : List Char} :
      hexDigit? high = some (byte.toNat / 16) → hexDigit? low = some (byte.toNat % 16) →
      EscapesBytes bytes written → EscapesBytes (byte :: bytes) ('%' :: high :: low :: written)

/-- The text with some of its characters escaped, all `&` and `%` among them. -/
inductive Escapes : List Char → List Char → Prop
  | nil : Escapes [] []
  | plain {char : Char} {text written : List Char} : char ≠ '&' → char ≠ '%' →
      Escapes text written → Escapes (char :: text) (char :: written)
  | escaped {char : Char} {word text written : List Char} :
      EscapesBytes (String.utf8EncodeChar char) word → Escapes text written →
      Escapes (char :: text) (word ++ written)

theorem ne_separator_of_hexDigit {char : Char} (isDigit : (hexDigit? char).isSome = true) :
    '&' ≠ char := by
  rintro rfl
  exact absurd isDigit (by decide)

theorem EscapesBytes.separator_notMem {bytes : List UInt8} {written : List Char}
    (escapes : EscapesBytes bytes written) : '&' ∉ written := by
  induction escapes with
  | nil => exact List.not_mem_nil
  | @cons byte high low bytes written isHigh isLow _ ih =>
      have percent : '&' ≠ '%' := by decide
      have highOther := ne_separator_of_hexDigit (Option.isSome_of_eq_some isHigh)
      have lowOther := ne_separator_of_hexDigit (Option.isSome_of_eq_some isLow)
      simp only [List.mem_cons, not_or]
      exact ⟨percent, highOther, lowOther, ih⟩

theorem Escapes.separator_notMem {text written : List Char} (escapes : Escapes text written) :
    '&' ∉ written := by
  induction escapes with
  | nil => exact List.not_mem_nil
  | plain noSeparator _ _ ih => exact List.not_mem_cons_of_ne_of_not_mem noSeparator.symm ih
  | escaped bytes _ ih =>
      rw [List.mem_append, not_or]
      exact ⟨bytes.separator_notMem, ih⟩

theorem EscapesBytes.unescape_append {bytes : List UInt8} {written : List Char}
    (escapes : EscapesBytes bytes written) (rest : List Char) :
    unescape (written ++ rest) = bytes ++ unescape rest := by
  induction escapes with
  | nil => rfl
  | @cons byte high low bytes written isHigh isLow _ ih =>
      have value : UInt8.ofNat (byte.toNat / 16 * 16 + byte.toNat % 16) = byte := by
        rw [Nat.div_add_mod' byte.toNat 16, UInt8.ofNat_toNat]
      rw [List.cons_append, List.cons_append, List.cons_append, unescape_escape isHigh isLow, ih,
        value, List.cons_append]

theorem Escapes.unescape_eq {text written : List Char} (escapes : Escapes text written) :
    unescape written = utf8Bytes text := by
  induction escapes with
  | nil => rfl
  | plain _ noPercent _ ih =>
      rw [unescape_cons_of_ne noPercent, ih]
      rfl
  | escaped bytes _ ih =>
      rw [bytes.unescape_append, ih]
      rfl

theorem Escapes.decode_eq {text written : List Char} (escapes : Escapes text written) :
    decode written = text := by
  rw [decode, escapes.unescape_eq, Text.decodeUtf8_utf8Bytes]

theorem trim_decode_trimEnd (written : List Char) :
    trim (decode (trimEnd written)) = trim (decode written) := by
  obtain ⟨blanks, blank, whole⟩ := Text.exists_trimEnd_append_blank written
  conv_rhs => rw [whole, decode_append_blank blank, Text.trim_append_blank blank]

theorem clausesOf_clause {text : String} {option : OptionKey} {written : List Char}
    (whole : text.toList = option.name.toList ++ '=' :: written) (free : '&' ∉ written) :
    clausesOf text = [(option.name.toList, decode (trimEnd written))] := by
  obtain ⟨noSeparator, _, _, _, starts⟩ := option.name_plain
  have ends : ∀ char ∈ (option.name.toList ++ ['=']).getLast?, Text.isBlank char = false := by
    intro char isLast
    rw [List.getLast?_concat] at isLast
    obtain rfl : '=' = char := Option.some.inj isLast
    decide
  have head : text.toList.head? = some '$' := by rw [whole, List.head?_append, starts]; rfl
  have started : Text.trimStart text.toList = text.toList :=
    Text.trimStart_eq_self fun char isHead => by
      obtain rfl : '$' = char := Option.some.inj (head.symm.trans isHead)
      decide
  have trimmed : trim text.toList = option.name.toList ++ '=' :: trimEnd written := by
    rw [trim, started, whole, List.append_cons, Text.trimEnd_append ends, ← List.append_cons]
  have unmarked : (option.name.toList ++ '=' :: trimEnd written).head? ≠ some '?' := by
    simp [List.head?_append, starts]
  obtain ⟨blanks, _, split⟩ := Text.exists_trimEnd_append_blank written
  have valueFree : '&' ∉ trimEnd written := fun member =>
    free (split ▸ List.mem_append_left blanks member)
  have pieceFree : '&' ∉ option.name.toList ++ '=' :: trimEnd written := by
    simp [noSeparator, valueFree]
  rw [clausesOf, trimmed, dropWhile_question unmarked, clauses, splitAt_free pieceFree]
  simp [decodePiece_clause]

theorem ofText_clause {depthLimit : Nat} {text : String} {option : OptionKey}
    {written : List Char} (whole : text.toList = option.name.toList ++ '=' :: written)
    (free : '&' ∉ written) :
    QueryOptions.ofText depthLimit text =
      setOption depthLimit {} option (decode (trimEnd written)) := by
  obtain ⟨_, _, _, trimmed, _⟩ := option.name_plain
  have named : option.name.isEmpty = false := by cases option <;> decide
  rw [QueryOptions.ofText, clausesOf_clause whole free]
  simp only [readClauses, trimmed, String.ofList_toList, named, List.contains_nil,
    OptionKey.ofName?_eq_some_iff.2 rfl, Bool.false_eq_true, if_false]
  cases setOption depthLimit {} option (decode (trimEnd written)) with
  | ok options => rfl
  | error error => rfl

/-- A filter or an ordering is read from a query as it is read by itself, with the same error if it
is refused, however it has been escaped there. To read the query is to read form data once every
plus is written as an escape. -/
theorem ofText_escaped (depthLimit : Nat) {text written : List Char}
    (escapes : Escapes text written) :
    QueryOptions.ofText depthLimit ("$filter=" ++ String.ofList written) =
        (Filter.readExpr depthLimit text).map (fun expr => { filter := some expr }) ∧
      QueryOptions.ofText depthLimit ("$orderby=" ++ String.ofList written) =
        (Order.readChain text).map (fun chain => { order := some chain }) ∧
      ∀ query : String, formClauses (escapePlus ((trim query.toList).dropWhile (· = '?'))) =
        clausesOf query := by
  have same : trim (decode (trimEnd written)) = trim text := by
    rw [trim_decode_trimEnd, escapes.decode_eq]
  have filter : ("$filter=" ++ String.ofList written).toList =
      OptionKey.filter.name.toList ++ '=' :: written := by
    simp [OptionKey.name]
  have order : ("$orderby=" ++ String.ofList written).toList =
      OptionKey.orderby.name.toList ++ '=' :: written := by
    simp [OptionKey.name]
  refine ⟨?_, ?_, fun query => formClauses_escapePlus _⟩
  · rw [ofText_clause filter escapes.separator_notMem, setOption, ← readExpr_trim, same,
      readExpr_trim]
  · rw [ofText_clause order escapes.separator_notMem, setOption, ← readChain_trim, same,
      readChain_trim]

theorem ofText_escaped_of_quoted_signs :
    Escapes "'é+&%'".toList "'%C3%a9+%26%25'".toList ∧
      QueryOptions.ofText defaultDepth "$filter='%C3%a9+%26%25'" =
        .ok { filter := some (.literal "'é+&%'") } := by
  have accent : EscapesBytes (String.utf8EncodeChar 'é') "%C3%a9".toList :=
    .cons (by decide) (by decide) (.cons (by decide) (by decide) .nil)
  have separator : EscapesBytes (String.utf8EncodeChar '&') "%26".toList :=
    .cons (by decide) (by decide) .nil
  have percent : EscapesBytes (String.utf8EncodeChar '%') "%25".toList :=
    .cons (by decide) (by decide) .nil
  have quote {text written : List Char} (rest : Escapes text written) :
      Escapes ('\'' :: text) ('\'' :: written) := .plain (by decide) (by decide) rest
  have escapes : Escapes "'é+&%'".toList "'%C3%a9+%26%25'".toList := by
    have whole := quote (.escaped accent
      (.plain (by decide : '+' ≠ '&') (by decide) (.escaped separator
        (.escaped percent (quote .nil)))))
    simpa using whole
  have quoted : Filter.IsLiteral "'é+&%'".toList :=
    Filter.isLiteral_of_literal? (by decide) (by decide)
  have read : Filter.readExpr defaultDepth "'é+&%'".toList = .ok (.literal "'é+&%'") :=
    ((Filter.Writes.literal quoted).loosen (by decide)).readExpr_eq (by decide)
  have filter := (ofText_escaped defaultDepth escapes).1
  rw [read, String.ofList_toList] at filter
  exact ⟨escapes, filter⟩

end ODataAdapter.Query
