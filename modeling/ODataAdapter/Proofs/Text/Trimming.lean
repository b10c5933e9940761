import ODataAdapter.Proofs.Text.Classes

/-!
Trimming takes off the blanks at the ends of a text, whatever else stands there, and no others.
-/

namespace ODataAdapter.Text

section Blanks

variable {blanks : List Char} (blank : allBlank blanks = true)

include blank

theorem trimStart_blank_append (text : List Char) :
    trimStart (blanks ++ text) = trimStart text :=
  List.dropWhile_append_of_pos (List.all_eq_true.1 blank)

theorem trimEnd_append_blank (text : List Char) : trimEnd (text ++ blanks) = trimEnd text := by
  have reversed : allBlank blanks.reverse = true := by simpa [allBlank] using blank
  have dropped : (blanks.reverse ++ text.reverse).dropWhile isBlank =
      text.reverse.dropWhile isBlank := trimStart_blank_append reversed text.reverse
  rw [trimEnd, List.reverse_append, dropped, trimEnd]

theorem trim_blank_append (text : List Char) : trim (blanks ++ text) = trim text := by
  rw [trim, trimStart_blank_append blank, trim]

theorem trim_append_blank (text : List Char) : trim (text ++ blanks) = trim text := by
  have gone : blanks.dropWhile isBlank = [] := by
    simpa [← isEmpty_trimStart, List.isEmpty_iff, trimStart] using blank
  simp only [trim, trimStart]
  rw [List.dropWhile_append]
  split
  · -- Nothing is left of the text itself either.
    rename_i empty
    rw [gone, List.isEmpty_iff.1 empty]
  · exact trimEnd_append_blank blank _

end Blanks

theorem exists_blank_append_trimStart (text : List Char) :
    ∃ blanks, allBlank blanks = true ∧ text = blanks ++ trimStart text := by
  refine ⟨text.takeWhile isBlank, List.all_takeWhile, ?_⟩
  rw [trimStart, List.takeWhile_append_dropWhile]

theorem exists_trimEnd_append_blank (text : List Char) :
    ∃ blanks, allBlank blanks = true ∧ text = trimEnd text ++ blanks := by
  obtain ⟨blanks, blank, whole⟩ := exists_blank_append_trimStart text.reverse
  refine ⟨blanks.reverse, by simpa [allBlank] using blank, ?_⟩
  have reversed := congrArg List.reverse whole
  simpa [trimEnd, trimStart] using reversed

theorem trim_trimEnd (text : List Char) : trim (trimEnd text) = trim text := by
  obtain ⟨blanks, blank, whole⟩ := exists_trimEnd_append_blank text
  conv_rhs => rw [whole, trim_append_blank blank]

theorem trim_trim (text : List Char) : trim (trim text) = trim text := by
  obtain ⟨blanks, blank, whole⟩ := exists_blank_append_trimStart text
  conv_rhs => rw [whole, trim_blank_append blank]
  exact trim_trimEnd (trimStart text)

theorem trimEnd_append {front : List Char} (ends : ∀ char ∈ front.getLast?, isBlank char = false)
    (text : List Char) : trimEnd (front ++ text) = front ++ trimEnd text := by
  obtain ⟨blanks, blank, whole⟩ := exists_trimEnd_append_blank text
  have visible : ∀ char ∈ (front ++ trimEnd text).getLast?, isBlank char = false := by
    by_cases empty : trimEnd text = []
    · simpa [empty] using ends
    · rw [List.getLast?_append_of_ne_nil front empty]
      exact isBlank_getLast_trimEnd text
  conv_lhs => rw [whole, ← List.append_assoc, trimEnd_append_blank blank, trimEnd_eq_self visible]

/-- What is left of a trimmed text has no blanks at its end. -/
theorem trimEnd_of_suffix {text rest : List Char} (suffix : rest <:+ trim text) :
    trimEnd rest = rest := by
  refine trimEnd_eq_self fun char isLast => ?_
  obtain ⟨front, whole⟩ := suffix
  refine isBlank_getLast_trimEnd (trimStart text) char ?_
  rw [← trim, ← whole, List.getLast?_append, Option.mem_def.1 isLast, Option.some_or]
  rfl

theorem head?_trimEnd_ne {text : List Char} {char : Char} (other : text.head? ≠ some char) :
    (trimEnd text).head? ≠ some char := by
  obtain ⟨blanks, _, whole⟩ := exists_trimEnd_append_blank text
  intro begins
  rw [whole, List.head?_append, begins] at other
  exact other rfl

end ODataAdapter.Text
