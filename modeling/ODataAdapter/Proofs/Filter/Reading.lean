import ODataAdapter.Filter.Text
import ODataAdapter.Proofs.Filter.Balance
import ODataAdapter.Proofs.Filter.Primary

/-!
Whatever the grammar lets a tree be written as is read as that tree. The reader of a level, given a
text that writes a tree and more behind it, stands where its loop goes on with the tree on its left.
-/

namespace ODataAdapter.Filter

theorem ReadsAs.tighter {inner : Reader Expr} {level : Nat} {expr : Expr} {text : List Char}
    (reads : ReadsAs inner (level + 1) expr text) (below : level < primaryLevel) :
    ReadsAs inner level expr text := by
  intro rest follows apart free
  rw [levelReader_eq_chain inner below, chain, reads.read follows apart free]
  rfl

theorem Apart.before_token {op : Operator} {text gap : List Char} (run : IsGapRun gap)
    (apart : Apart (text ++ gap) op.token.toList) (rest : List Char) :
    Apart text (gap ++ (op.token.toList ++ rest)) := by
  intro ends
  cases gap with
  | nil =>
      rw [List.append_nil] at apart
      have stops := apart ends
      obtain ⟨char, more, token, _⟩ := op.token_head
      simpa [token, atNameEnd] using stops
  | cons char gap =>
      simp [atNameEnd, continuesName_of_isGap (run char (by simp))]

theorem atNameEnd_append {text rest : List Char} (nonempty : text ≠ [])
    (ends : atNameEnd text = true) : atNameEnd (text ++ rest) = true := by
  cases text with
  | nil => exact absurd rfl nonempty
  | cons char text => exact ends

theorem ReadsAs.binary {inner : Reader Expr} (suffix : LeavesSuffix inner) {op : Operator}
    {left right : Expr} {text text' gap gap' : List Char}
    (readsLeft : ReadsAs inner op.precedence left text)
    (readsRight : ReadsAs inner (op.precedence + 1) right text')
    (written : Writes (op.precedence + 1) right text')
    (run : IsGapRun gap) (run' : IsGapRun gap') (apart : Apart (text ++ gap) op.token.toList)
    (apart' : Apart op.token.toList (gap' ++ text')) :
    ReadsAs inner op.precedence (.binary op left right)
      (text ++ gap ++ op.token.toList ++ gap' ++ text') := by
  intro rest follows apartRest free
  obtain ⟨char, more, token, continues, noGap⟩ := op.token_head
  have behindLeft : skipGap (gap ++ (op.token.toList ++ (gap' ++ (text' ++ rest)))) =
      op.token.toList ++ (gap' ++ (text' ++ rest)) :=
    skipGap_append run (by rw [token]; exact endsGap_cons noGap)
  have tokenEnds : atNameEnd (gap' ++ (text' ++ rest)) = true := by
    rw [← List.append_assoc]
    exact atNameEnd_append (by simp [written.nonempty]) (apart' op.token_endsInName)
  have leftFollows : FollowsOperand (gap ++ (op.token.toList ++ (gap' ++ (text' ++ rest)))) :=
    .of_skipGap (behindLeft.trans (by rw [token]; rfl)) (Or.inr (Or.inr continues))
  have noTighter : NoOperatorFrom (op.precedence + 1)
      (gap ++ (op.token.toList ++ (gap' ++ (text' ++ rest)))) := by
    intro other tight
    have different : op ≠ other := by
      rintro rfl
      omega
    rw [behindLeft, keyword?_other different tokenEnds]
  have found : operator? (levelOperators op.precedence)
      (skipGap (gap ++ (op.token.toList ++ (gap' ++ (text' ++ rest))))) =
        some (op, gap' ++ (text' ++ rest)) := by
    rw [behindLeft, operator?_append (mem_levelOperators.2 rfl) tokenEnds]
  have behindToken : skipGap (gap' ++ (text' ++ rest)) = text' ++ rest :=
    skipGap_append run' (written.startsOperand.append rest).endsGap
  have apartRight : Apart text' rest := fun ends => apartRest ends.append
  have readRight := readsRight.read follows apartRight free
  simp only [List.append_assoc]
  -- The left operand leaves the loop of the level in front of the operator.
  rw [readsLeft _ leftFollows (apart.before_token run _) noTighter,
    chainFrom_some (levelReader_leavesSuffix suffix _) found, behindToken, readRight]
  rfl

/-- A budget as large as the nesting of the text suffices to read it as the tree. -/
def Readable (level : Nat) (expr : Expr) (text : List Char) : Prop :=
  ∃ depth, Nests depth text ∧
    ∀ budget, depth ≤ budget → ReadsAs (expression budget) level expr text

theorem Listed.readable {texts : List (List Char)} {text : List Char} (listed : Listed texts text)
    {args : List (Expr × List Char)} (same : texts = args.map Prod.snd)
    (each : ∀ arg ∈ args, Readable 0 arg.1 arg.2) :
    ∃ depth, Nests depth text ∧
      ∀ budget, depth ≤ budget → ∀ arg ∈ args, ReadsAs (expression budget) 0 arg.1 arg.2 := by
  induction listed generalizing args with
  | none =>
      obtain rfl : args = [] := List.map_eq_nil_iff.1 same.symm
      exact ⟨0, nests_of_plain (by simp), by simp⟩
  | last text =>
      obtain ⟨arg, rfl, rfl⟩ := List.map_eq_singleton_iff.1 same.symm
      obtain ⟨depth, nests, reads⟩ := each arg (by simp)
      exact ⟨depth, nests, fun budget enough => by simpa using reads budget enough⟩
  | @more text next rest gap gap' texts run run' _ ih =>
      obtain ⟨arg, args, rfl, rfl, others⟩ := List.map_eq_cons_iff.1 same.symm
      obtain ⟨depth, nests, reads⟩ := each arg (by simp)
      obtain ⟨depth', nests', reads'⟩ :=
        ih others.symm fun arg member => each arg (by simp [member])
      have comma : Nests 0 [','] := nests_of_plain (List.all_iff_forall_prop.1 (by decide))
      have whole := ((nests.append run.nests).append (comma.append run'.nests)).append nests'
      refine ⟨max depth depth', by simpa using whole, fun budget enough arg' member => ?_⟩
      rcases List.mem_cons.1 member with rfl | later
      · exact reads budget (by omega)
      · exact reads' budget (by omega) arg' later

theorem Writes.level_le {level : Nat} {expr : Expr} {text : List Char}
    (written : Writes level expr text) : level ≤ primaryLevel := by
  induction written with
  | @binary op _ _ _ _ _ _ _ _ _ _ _ _ _ _ => exact Nat.le_of_lt op.precedence_lt_five
  | tighter _ ih => exact Nat.le_of_succ_le ih
  | group _ _ _ _ => exact Nat.le_refl _
  | literal _ => exact Nat.le_refl _
  | property _ => exact Nat.le_refl _
  | call _ _ _ _ _ _ _ => exact Nat.le_refl _

theorem Writes.readable {level : Nat} {expr : Expr} {text : List Char}
    (written : Writes level expr text) : Readable level expr text := by
  induction written with
  | @binary op left right text text' gap gap' _ writtenRight run run' apart apart' ihLeft ihRight =>
      obtain ⟨depth, nests, reads⟩ := ihLeft
      obtain ⟨depth', nests', reads'⟩ := ihRight
      have whole := (((nests.append run.nests).append op.nests_token).append run'.nests).append
        nests'
      refine ⟨max depth depth', by simpa using whole, fun budget enough => ?_⟩
      exact (reads budget (by omega)).binary (expression_leavesSuffix budget)
        (reads' budget (by omega)) writtenRight run run' apart apart'
  | tighter written ih =>
      obtain ⟨depth, nests, reads⟩ := ih
      exact ⟨depth, nests, fun budget enough => (reads budget enough).tighter written.level_le⟩
  | group written run run' ih =>
      obtain ⟨depth, nests, reads⟩ := ih
      have whole := ((run.nests.append nests).append run'.nests).parens
      refine ⟨depth + 1, by simpa using whole, fun budget enough => ?_⟩
      obtain ⟨budget, rfl⟩ := Nat.exists_eq_add_one_of_ne_zero (by omega : budget ≠ 0)
      exact readsAs_group written.startsOperand (reads budget (by omega)).readsWhole run run'
  | literal spelled =>
      exact ⟨0, spelled.nests, fun budget _ => readsAs_literal spelled⟩
  | property spelled =>
      exact ⟨0, spelled.1.nests, fun budget _ => readsAs_property spelled⟩
  | call named written listed run run' run'' ih =>
      obtain ⟨depth, nests, reads⟩ := listed.readable rfl ih
      have parens := ((run'.nests.append nests).append run''.nests).parens
      have whole := (named.1.nests.append run.nests).append parens
      refine ⟨depth + 1, by simpa using whole, fun budget enough => ?_⟩
      obtain ⟨budget, rfl⟩ := Nat.exists_eq_add_one_of_ne_zero (by omega : budget ≠ 0)
      have closing (rest : List Char) :
          expression (budget + 1) (')' :: rest) = .stuck (')' :: rest) :=
        levelReader_closing (expression budget) rest 0
      refine readsAs_call (expression_leavesSuffix (budget + 1)) closing named
        (fun arg member => ⟨(written arg member).startsOperand, ?_⟩) listed run run' run''
      exact (reads budget (by omega) arg member).readsWhole

theorem readExpr_eq_ok_of_expression {depthLimit : Nat} {text : List Char} {expr : Expr}
    (shallow : deepestNesting (Text.trim text) ≤ nestingLimit depthLimit)
    (read : expression (nestingLimit depthLimit + 1) (Text.trim text) = .read expr []) :
    readExpr depthLimit text = .ok expr := by
  have notDeep : ¬nestingLimit depthLimit < deepestNesting (Text.trim text) := Nat.not_lt.2 shallow
  simp [readExpr, notDeep, read, Text.trimStart]

/-- A text that writes a tree and nests no deeper than the limit is read as that tree. -/
theorem Writes.readExpr_eq {expr : Expr} {text : List Char} (written : Writes 0 expr text)
    {depthLimit : Nat} (shallow : deepestNesting text ≤ nestingLimit depthLimit) :
    readExpr depthLimit text = .ok expr := by
  obtain ⟨depth, nests, reads⟩ := written.readable
  have enough : depth ≤ nestingLimit depthLimit := nests.deepestNesting_eq ▸ shallow
  have readWhole := (reads _ enough).read followsOperand_nil (fun _ => rfl)
    (noOperatorFrom_of_head (by simp [skipGap]))
  rw [List.append_nil] at readWhole
  have found : expression (nestingLimit depthLimit + 1) text = .read expr [] := readWhole
  apply readExpr_eq_ok_of_expression
  · rwa [written.trim_eq]
  · rwa [written.trim_eq]

end ODataAdapter.Filter
