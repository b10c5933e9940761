import ODataAdapter.Proofs.Filter.Derivation
import ODataAdapter.Proofs.Filter.Reading

/-!
What is accepted as a filter: a text is read as a tree exactly if it writes the tree in the grammar
and nests no deeper than the limit. A text writes one tree at most.
-/

namespace ODataAdapter.Filter

theorem Writes.supported {level : Nat} {expr : Expr} {text : List Char}
    (written : Writes level expr text) : expr.Supported :=
  written.everywhere (fun _ _ _ => rfl) (fun _ _ => rfl) (fun _ _ => rfl) (fun _ _ _ => rfl)

theorem writes_trim_of_readExpr {depthLimit : Nat} {text : List Char} {expr : Expr}
    (found : readExpr depthLimit text = .ok expr) (supported : expr.Supported) :
    Writes 0 expr (Text.trim text) := by
  obtain ⟨word, rest, whole, written, blank⟩ := writes_of_readExpr found supported
  rw [Text.isEmpty_trimStart] at blank
  have noRest := Text.eq_nil_of_blank_end whole blank
  rw [noRest, List.append_nil] at whole
  rw [whole]
  exact written

theorem shallow_of_readExpr {depthLimit : Nat} {text : List Char} {expr : Expr}
    (found : readExpr depthLimit text = .ok expr) :
    deepestNesting (Text.trim text) ≤ nestingLimit depthLimit := by
  by_cases deep : nestingLimit depthLimit < deepestNesting (Text.trim text)
  · simp [readExpr, deep] at found
  · omega

/-- The texts that are read as trees with backend text are those that the grammar lets these trees
be written as, blanks around them aside, with parentheses no deeper than the limit. -/
theorem readExpr_eq_ok_iff_writes (depthLimit : Nat) (text : List Char) (expr : Expr) :
    readExpr depthLimit text = .ok expr ∧ expr.Supported ↔
      Writes 0 expr (Text.trim text) ∧
        deepestNesting (Text.trim text) ≤ nestingLimit depthLimit := by
  constructor
  · rintro ⟨found, supported⟩
    exact ⟨writes_trim_of_readExpr found supported, shallow_of_readExpr found⟩
  · rintro ⟨written, shallow⟩
    have found := written.readExpr_eq shallow
    have trimmed : readExpr depthLimit (Text.trim text) = readExpr depthLimit text := by
      simp only [readExpr, written.trim_eq]
    rw [trimmed] at found
    exact ⟨found, written.supported⟩

/-- The grammar is unambiguous: precedence and grouping to the left leave one tree for a text. -/
theorem Writes.unique {expr other : Expr} {text : List Char} (written : Writes 0 expr text)
    (writtenToo : Writes 0 other text) : expr = other := by
  obtain ⟨depth, nests, reads⟩ := written.readable
  obtain ⟨depth', nests', reads'⟩ := writtenToo.readable
  have noOperator : NoOperatorFrom 0 [] := noOperatorFrom_of_head (by simp [skipGap])
  have read := (reads _ (Nat.le_max_left depth depth')).read followsOperand_nil (fun _ => rfl)
    noOperator
  have readToo := (reads' _ (Nat.le_max_right depth depth')).read followsOperand_nil
    (fun _ => rfl) noOperator
  rw [read] at readToo
  exact (Reading.read.inj readToo).1

end ODataAdapter.Filter
