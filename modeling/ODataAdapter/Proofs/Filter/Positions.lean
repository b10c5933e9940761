import ODataAdapter.Proofs.Filter.Budget
import ODataAdapter.Proofs.Text.Trimming

/-!
Where reading a filter fails. The position of a fault is the number of bytes in front of the text
that its message quotes, so it never lies inside of a character or behind the end of the text.
-/

namespace ODataAdapter

theorem Text.utf8Length_eq (text : List Char) :
    utf8Length text = (String.ofList text).utf8ByteSize := by
  induction text with
  | nil => rfl
  | cons char text ih =>
      rw [String.ofList_cons, String.utf8ByteSize_append, String.utf8ByteSize_singleton, ← ih]
      rfl

namespace Filter

/-- A byte position of a text, from which on there stands what is quoted. -/
structure PointsAt (whole : String) (position : Nat) (quoted : String) : Prop where
  within : position ≤ whole.utf8ByteSize
  boundary : String.Pos.Raw.IsValid whole ⟨position⟩
  suffix : ∃ front, whole = front ++ quoted ∧ position = front.utf8ByteSize

theorem pointsAt_offsetOf {whole rest : List Char} (suffix : rest <:+ whole) :
    PointsAt (String.ofList whole) (offsetOf whole rest) (String.ofList rest) := by
  obtain ⟨front, rfl⟩ := suffix
  have offset : offsetOf (front ++ rest) rest = (String.ofList front).utf8ByteSize := by
    rw [offsetOf, Text.utf8Length_append, Nat.add_sub_cancel, Text.utf8Length_eq]
  rw [offset, String.ofList_append]
  refine ⟨?_, ?_, String.ofList front, rfl, rfl⟩
  · rw [String.utf8ByteSize_append]
    exact Nat.le_add_right _ _
  · exact String.Pos.Raw.isValid_iff_exists_append.2 ⟨_, _, rfl, rfl⟩

theorem expression_ne_exhausted {depthLimit : Nat} {text : List Char}
    (shallow : deepestNesting text ≤ nestingLimit depthLimit) :
    expression (nestingLimit depthLimit + 1) text ≠ .exhausted := by
  intro used
  have settled := settles_expression (Nat.le_refl (nestingLimit depthLimit + 1)) 0
  have ends := (settled text (by rw [deepestNesting] at shallow; omega)).ends
  rw [used] at ends
  exact ends

def Quotes (fault : ReadFault) (quoted : String) : Prop :=
  fault = .trailingFilter quoted ∨ fault = .invalidFilter quoted

theorem length_message_trailingFilter (quoted : String) :
    (ReadFault.trailingFilter quoted).message.length = 30 + quoted.length + 1 := by
  have message : (ReadFault.trailingFilter quoted).message =
      "Unexpected trailing content: '" ++ quoted ++ "'" := rfl
  rw [message, String.length_append, String.length_append]
  rfl

theorem length_message_invalidFilter (quoted : String) :
    (ReadFault.invalidFilter quoted).message.length = 32 + quoted.length + 1 := by
  have message : (ReadFault.invalidFilter quoted).message =
      "Invalid filter expression near '" ++ quoted ++ "'" := rfl
  rw [message, String.length_append, String.length_append]
  rfl

theorem Quotes.message_ne {fault : ReadFault} {quoted : String} (quotes : Quotes fault quoted) :
    fault.message ≠ "Incomplete filter" := by
  -- Both messages are longer than this one, whatever they quote.
  have longer : "Incomplete filter".length < fault.message.length := by
    have short : "Incomplete filter".length = 17 := rfl
    rcases quotes with rfl | rfl
    · have trailing := length_message_trailingFilter quoted
      omega
    · have invalid := length_message_invalidFilter quoted
      omega
  intro same
  rw [same] at longer
  exact Nat.lt_irrefl _ longer

theorem readExpr_of_deep {depthLimit : Nat} {text : List Char}
    (deep : nestingLimit depthLimit < deepestNesting (Text.trim text)) :
    readExpr depthLimit text = .error (.tooDeep (nestingLimit depthLimit)) := by
  rw [readExpr, if_pos deep]

theorem readExpr_of_shallow {depthLimit : Nat} {text : List Char}
    (shallow : deepestNesting (Text.trim text) ≤ nestingLimit depthLimit) :
    (∃ expr, readExpr depthLimit text = .ok expr) ∨
      ∃ position fault quoted, readExpr depthLimit text = .error (.read position fault) ∧
        Quotes fault quoted ∧ PointsAt (String.ofList (Text.trim text)) position quoted := by
  have within := expression_leavesSuffix (nestingLimit depthLimit + 1) (Text.trim text)
  have enough := expression_ne_exhausted shallow
  rw [readExpr, if_neg (Nat.not_lt.2 shallow)]
  cases reading : expression (nestingLimit depthLimit + 1) (Text.trim text) with
  | exhausted => exact absurd reading enough
  | stuck rest =>
      rw [reading] at within
      exact Or.inr ⟨_, _, String.ofList rest, rfl, Or.inr rfl, pointsAt_offsetOf within⟩
  | read expr rest =>
      rw [reading] at within
      have left : Text.trimStart rest <:+ Text.trim text :=
        (Text.trimStart_suffix rest).trans within
      simp only []
      split
      next => exact Or.inl ⟨expr, rfl⟩
      next =>
        rw [Text.trimEnd_of_suffix left]
        exact Or.inr ⟨_, _, _, rfl, Or.inl rfl, pointsAt_offsetOf left⟩

/-- Reading fails for the nesting exactly if the text nests deeper than the limit allows. Otherwise
it succeeds, or it fails at a position of the trimmed text from which on there stands what the
message quotes. -/
theorem readExpr_points_at_quote (depthLimit : Nat) (text : List Char) :
    (∀ max, readExpr depthLimit text = .error (.tooDeep max) ↔
      max = min depthLimit 64 ∧ min depthLimit 64 < deepestNesting (Text.trim text)) ∧
    (deepestNesting (Text.trim text) ≤ min depthLimit 64 ↔
      (∃ expr, readExpr depthLimit text = .ok expr) ∨
        ∃ position fault quoted, readExpr depthLimit text = .error (.read position fault) ∧
          Quotes fault quoted ∧ fault.message ≠ "Incomplete filter" ∧
          PointsAt (String.ofList (Text.trim text)) position quoted) := by
  have limit : nestingLimit depthLimit = min depthLimit 64 := rfl
  rw [← limit]
  by_cases shallow : deepestNesting (Text.trim text) ≤ nestingLimit depthLimit
  · have notDeep := Nat.not_lt.2 shallow
    rcases readExpr_of_shallow shallow with found | found
    · obtain ⟨expr, found⟩ := found
      simp [found, notDeep, shallow]
    · obtain ⟨position, fault, quoted, found, quotes, points⟩ := found
      simp only [found, notDeep, shallow, and_false, iff_false, true_iff]
      refine ⟨by simp, Or.inr ⟨position, fault, quoted, rfl, quotes, quotes.message_ne, points⟩⟩
  · have deep := Nat.not_le.1 shallow
    simp [readExpr_of_deep deep, deep, eq_comm]

-- Positions count bytes: two of the characters in front of the parenthesis have two of them.
example : readExpr 256 "  Größe eq 1 )  ".toList = .error (.read 13 (.trailingFilter ")")) := by
  rfl

end Filter

end ODataAdapter
