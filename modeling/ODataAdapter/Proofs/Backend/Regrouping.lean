import ODataAdapter.Proofs.Backend.Survival
import ODataAdapter.Proofs.Filter.Derivation

/-!
What becomes of the grouping of a filter. Operands of comparisons and arithmetic operators are
printed bare, so a printed tree is read as the tree that the operators' precedence makes of the same
sequence of operands, and as itself exactly if its operands bind tightly enough.
-/

namespace ODataAdapter.Filter.Expr

/-- An operator and its right operand behind a tree: they go to the last operand of the tree that
an operator as tight or tighter has not taken. -/
def extend (tree : Expr) (op : Operator) (operand : Expr) : Expr :=
  match tree with
  | binary inner left right =>
      if inner.isLogical = false ∧ inner.precedence < op.precedence then
        binary inner left (right.extend op operand)
      else binary op (binary inner left right) operand
  | other => binary op other operand

def attach (left : Expr) (op : Operator) (right : Expr) : Expr :=
  match right with
  | binary inner first second =>
      if inner.isLogical then left.extend op (binary inner first second)
      else (left.attach op first).attach inner second
  | other => left.extend op other

mutual

/-- The tree that precedence makes of the printed tree. -/
def regroup : Expr → Expr
  | binary op left right =>
      if op.isLogical then binary op left.regroup right.regroup
      else left.regroup.attach op right.regroup
  | convert source => convert source.regroup
  | call name args => call name (regroupAll args)
  | literal text => literal text
  | property name => property name
  | unsupported description => unsupported description

def regroupAll : List Expr → List Expr
  | [] => []
  | arg :: args => arg.regroup :: regroupAll args

end

theorem regroupAll_eq_map (args : List Expr) : regroupAll args = args.map regroup := by
  induction args with
  | nil => rfl
  | cons arg args ih => simp [regroupAll, ih]

def isBare : Expr → Bool
  | binary op _ _ => !op.isLogical
  | _ => false

theorem attach_bare {op inner : Operator} {left first second : Expr}
    (other : inner.isLogical = false) :
    left.attach op (binary inner first second) = (left.attach op first).attach inner second := by
  rw [attach]
  simp [other]

theorem attach_atom {op : Operator} {left right : Expr} (atom : right.isBare = false) :
    left.attach op right = left.extend op right := by
  cases right with
  | binary inner first second =>
      have logical : inner.isLogical = true := by simpa [isBare] using atom
      rw [attach]
      simp [logical]
  | _ => rfl

@[elab_as_elim]
theorem bareInduction {motive : Expr → Prop} (atom : ∀ tree, tree.isBare = false → motive tree)
    (bare : ∀ op left right, op.isLogical = false → motive left → motive right →
      motive (binary op left right))
    (tree : Expr) : motive tree := by
  induction tree using structural with
  | binary op left right ihLeft ihRight =>
      cases logical : op.isLogical with
      | true => exact atom _ (by simp [isBare, logical])
      | false => exact bare op left right logical ihLeft ihRight
  | convert source _ => exact atom _ rfl
  | call name args _ => exact atom _ rfl
  | literal text => exact atom _ rfl
  | property name => exact atom _ rfl
  | unsupported description => exact atom _ rfl

theorem isLogical_extend {op : Operator} {tree operand : Expr} (other : op.isLogical = false) :
    (tree.extend op operand).isLogical = false := by
  fun_cases extend tree op operand with
  | case1 inner left right looser => exact looser.1
  | case2 inner left right tight => exact other
  | case3 tree atom => exact other

theorem isLogical_attach {op : Operator} {left right : Expr} (other : op.isLogical = false) :
    (left.attach op right).isLogical = false := by
  induction right using bareInduction generalizing left op with
  | atom right atom =>
      rw [attach_atom atom]
      exact isLogical_extend other
  | bare inner first second notLogical _ ihSecond =>
      rw [attach_bare notLogical]
      exact ihSecond notLogical

theorem isLogical_regroup (expr : Expr) : expr.regroup.isLogical = expr.isLogical := by
  cases expr with
  | binary op left right =>
      cases logical : op.isLogical with
      | true => simp [regroup, isLogical, logical]
      | false =>
          have here : (binary op left right).isLogical = false := logical
          have same : (binary op left right).regroup = left.regroup.attach op right.regroup := by
            simp [regroup, logical]
          rw [here, same, isLogical_attach logical]
  | _ => rfl

section Texts

variable {mapping : Mapping}

theorem survivingText_rotate {op inner : Operator} (left middle right : Expr)
    (other : op.isLogical = false) (otherInner : inner.isLogical = false) :
    (binary inner left (binary op middle right)).survivingText mapping =
      (binary op (binary inner left middle) right).survivingText mapping := by
  rw [survivingText_bare otherInner, survivingText_bare other, survivingText_bare other,
    survivingText_bare otherInner]
  cases left.survivingText mapping with
  | none => rfl
  | some text =>
      cases middle.survivingText mapping with
      | none => rfl
      | some text' =>
          cases right.survivingText mapping with
          | none => rfl
          | some text'' => simp [asOperand, isLogical, other, otherInner, String.append_assoc]

theorem survivingText_extend {op : Operator} {tree operand : Expr} (other : op.isLogical = false) :
    (tree.extend op operand).survivingText mapping =
      (binary op tree operand).survivingText mapping := by
  fun_induction extend tree op operand with
  | case1 inner left right looser ih =>
      have alike : (right.extend op operand).isLogical = (binary op right operand).isLogical :=
        (isLogical_extend other).trans other.symm
      calc (binary inner left (right.extend op operand)).survivingText mapping
          = (binary inner left (binary op right operand)).survivingText mapping :=
            survivingText_binary_congr inner rfl ih rfl alike
        _ = (binary op (binary inner left right) operand).survivingText mapping :=
            survivingText_rotate left right operand other looser.1
  | case2 inner left right tight => rfl
  | case3 tree atom => rfl

theorem survivingText_attach {op : Operator} {left right : Expr} (other : op.isLogical = false) :
    (left.attach op right).survivingText mapping =
      (binary op left right).survivingText mapping := by
  induction right using bareInduction generalizing left op with
  | atom right atom =>
      rw [attach_atom atom]
      exact survivingText_extend other
  | bare inner first second notLogical ihFirst ihSecond =>
      have alike : (left.attach op first).isLogical = (binary op left first).isLogical :=
        (isLogical_attach other).trans other.symm
      calc (left.attach op (binary inner first second)).survivingText mapping
          = ((left.attach op first).attach inner second).survivingText mapping := by
            rw [attach_bare notLogical]
        _ = (binary inner (left.attach op first) second).survivingText mapping :=
            ihSecond notLogical
        _ = (binary inner (binary op left first) second).survivingText mapping :=
            survivingText_binary_congr inner (ihFirst other) rfl alike rfl
        _ = (binary op left (binary inner first second)).survivingText mapping :=
            (survivingText_rotate left first second notLogical other).symm

theorem survivingText_regroup (expr : Expr) :
    expr.regroup.survivingText mapping = expr.survivingText mapping := by
  induction expr using structural with
  | binary op left right ihLeft ihRight =>
      have parts := survivingText_binary_congr op ihLeft ihRight (isLogical_regroup left)
        (isLogical_regroup right)
      by_cases logical : op.isLogical = true
      · simpa [regroup, logical] using parts
      · have other : op.isLogical = false := by simpa using logical
        rw [← parts, ← survivingText_attach other]
        simp [regroup, other]
  | convert source ih => rw [regroup, survivingText_convert, survivingText_convert, ih]
  | call name args ih =>
      have same : (args.map regroup).map (survivingText mapping) =
          args.map (survivingText mapping) := by
        rw [List.map_map]
        exact List.map_congr_left ih
      rw [regroup, regroupAll_eq_map, survivingText_call, survivingText_call, same]
  | literal text => rfl
  | property name => rfl
  | unsupported description => rfl

end Texts

theorem print_regroup (expr : Expr) : expr.regroup.print = expr.print := by
  have same := @survivingText_regroup .empty expr
  simpa only [survivingText_empty, Option.some.injEq] using same

section Everywhere

variable {holds : Expr → Prop}

theorem everywhere_extend (binaries : ∀ op left right, holds (binary op left right))
    {op : Operator} {tree operand : Expr} (ofTree : tree.Everywhere holds)
    (ofOperand : operand.Everywhere holds) : (tree.extend op operand).Everywhere holds := by
  fun_induction extend tree op operand with
  | case1 inner left right looser ih => exact ⟨binaries _ _ _, ofTree.2.1, ih ofTree.2.2⟩
  | case2 inner left right tight => exact ⟨binaries _ _ _, ofTree, ofOperand⟩
  | case3 tree atom => exact ⟨binaries _ _ _, ofTree, ofOperand⟩

theorem everywhere_attach (binaries : ∀ op left right, holds (binary op left right))
    {op : Operator} {left right : Expr} (ofLeft : left.Everywhere holds)
    (ofRight : right.Everywhere holds) : (left.attach op right).Everywhere holds := by
  induction right using bareInduction generalizing left op with
  | atom right atom =>
      rw [attach_atom atom]
      exact everywhere_extend binaries ofLeft ofRight
  | bare inner first second notLogical ihFirst ihSecond =>
      rw [attach_bare notLogical]
      exact ihSecond (ihFirst ofLeft ofRight.2.1) ofRight.2.2

theorem everywhere_regroup (binaries : ∀ op left right, holds (binary op left right))
    (converts : ∀ source source', holds (convert source) → holds (convert source'))
    (calls : ∀ name args args', holds (call name args) → holds (call name args')) {expr : Expr}
    (everywhere : expr.Everywhere holds) : expr.regroup.Everywhere holds := by
  induction expr using structural with
  | binary op left right ihLeft ihRight =>
      simp only [regroup]
      split
      · exact ⟨binaries _ _ _, ihLeft everywhere.2.1, ihRight everywhere.2.2⟩
      · exact everywhere_attach binaries (ihLeft everywhere.2.1) (ihRight everywhere.2.2)
  | convert source ih => exact ⟨converts _ _ everywhere.1, ih everywhere.2⟩
  | call name args ih =>
      refine ⟨calls _ _ _ everywhere.1, (allEverywhere_iff _ _).2 ?_⟩
      rw [regroupAll_eq_map]
      refine List.forall_mem_map.2 fun arg member => ?_
      exact ih arg member ((allEverywhere_iff _ _).1 everywhere.2 arg member)
  | literal text => exact everywhere
  | property name => exact everywhere
  | unsupported description => exact everywhere

end Everywhere

/-! The regrouped tree binds tightly. -/

theorem standsRightOf_extend {op inner : Operator} {tree operand : Expr}
    (looser : inner.precedence < op.precedence) (stands : tree.StandsRightOf inner) :
    (tree.extend op operand).StandsRightOf inner := by
  fun_cases extend tree op operand with
  | case1 => exact stands
  | case2 => exact Or.inr looser
  | case3 => exact Or.inr looser

theorem standsRightOf_of_atom {tree : Expr} (atom : tree.isBare = false) (op : Operator) :
    tree.StandsRightOf op := by
  cases tree with
  | binary inner left right => exact Or.inl (by simpa [isBare] using atom)
  | _ => trivial

theorem bindsTightly_extend {op : Operator} {tree operand : Expr} (tight : tree.BindsTightly)
    (tightOperand : operand.BindsTightly) (stands : operand.StandsRightOf op) :
    (tree.extend op operand).BindsTightly := by
  -- Down the right edge, as long as the operators on it are looser.
  fun_induction extend tree op operand with
  | case1 inner left right looser ih =>
      obtain ⟨here, tightLeft, tightRight⟩ := tight
      obtain ⟨standsLeft, standsRight⟩ := here.resolve_left (by simp [looser.1])
      exact ⟨Or.inr ⟨standsLeft, standsRightOf_extend looser.2 standsRight⟩, tightLeft,
        ih tightRight⟩
  | case2 inner left right tighter =>
      have standsLeft : (binary inner left right).StandsLeftOf op := by
        by_cases logical : inner.isLogical = true
        · exact Or.inl logical
        · refine Or.inr (Nat.le_of_not_lt fun looser => tighter ⟨by simpa using logical, looser⟩)
      exact ⟨Or.inr ⟨standsLeft, stands⟩, tight, tightOperand⟩
  | case3 tree atom =>
      have standsLeft : tree.StandsLeftOf op := by
        cases tree with
        | binary inner left right => exact (atom inner left right rfl).elim
        | _ => trivial
      exact ⟨Or.inr ⟨standsLeft, stands⟩, tight, tightOperand⟩

theorem bindsTightly_attach {op : Operator} {left right : Expr} (tight : left.BindsTightly)
    (tightRight : right.BindsTightly) : (left.attach op right).BindsTightly := by
  induction right using bareInduction generalizing left op with
  | atom right atom =>
      rw [attach_atom atom]
      exact bindsTightly_extend tight tightRight (standsRightOf_of_atom atom op)
  | bare inner first second notLogical ihFirst ihSecond =>
      rw [attach_bare notLogical]
      exact ihSecond (ihFirst tight tightRight.2.1) tightRight.2.2

theorem bindsTightly_regroup (expr : Expr) : expr.regroup.BindsTightly := by
  induction expr using structural with
  | binary op left right ihLeft ihRight =>
      simp only [regroup]
      split
      · rename_i logical
        exact ⟨Or.inl logical, ihLeft, ihRight⟩
      · exact bindsTightly_attach ihLeft ihRight
  | convert source ih => exact ⟨trivial, ih⟩
  | call name args ih =>
      refine ⟨trivial, (allEverywhere_iff _ _).2 ?_⟩
      rw [regroupAll_eq_map]
      exact List.forall_mem_map.2 ih
  | literal text => trivial
  | property name => trivial
  | unsupported description => trivial

theorem supported_regroup {expr : Expr} (supported : expr.Supported) : expr.regroup.Supported :=
  everywhere_regroup (fun _ _ _ => rfl) (fun _ _ _ => rfl) (fun _ _ _ _ => rfl) supported

theorem writes_regroup {expr : Expr} (spelled : expr.WellSpelled) (supported : expr.Supported)
    (free : expr.ConvertFree) : Writes 0 expr.regroup expr.print.toList := by
  have regroupedSpelled : expr.regroup.WellSpelled := everywhere_regroup (fun _ _ _ => trivial)
    (fun _ _ _ => trivial) (fun _ _ _ named => named) spelled
  have regroupedFree : expr.regroup.ConvertFree := everywhere_regroup (fun _ _ _ => rfl)
    (fun _ _ found => found) (fun _ _ _ _ => rfl) free
  have written := writes_print regroupedSpelled (supported_regroup supported)
    (bindsTightly_regroup expr)
  rw [regroupedFree.eraseConverts_eq, print_regroup] at written
  exact written.loosen (Nat.zero_le _)

theorem readExpr_print {expr : Expr} (spelled : expr.WellSpelled) (supported : expr.Supported)
    (free : expr.ConvertFree) {depthLimit : Nat}
    (shallow : deepestNesting expr.print.toList ≤ nestingLimit depthLimit) :
    readExpr depthLimit expr.print.toList = .ok expr.regroup :=
  (writes_regroup spelled supported free).readExpr_eq shallow

theorem readExpr_print_eq_self_iff {expr : Expr} (spelled : expr.WellSpelled)
    (supported : expr.Supported) (free : expr.ConvertFree) {depthLimit : Nat}
    (shallow : deepestNesting expr.print.toList ≤ nestingLimit depthLimit) :
    readExpr depthLimit expr.print.toList = .ok expr ↔ expr.BindsTightly := by
  constructor
  · intro readSame
    rw [readExpr_print spelled supported free shallow] at readSame
    rw [← Except.ok.inj readSame]
    exact bindsTightly_regroup expr
  · intro tight
    have written := writes_print spelled supported tight
    rw [free.eraseConverts_eq] at written
    exact (written.loosen (Nat.zero_le _)).readExpr_eq shallow

end ODataAdapter.Filter.Expr

namespace ODataAdapter.Target

open ODataAdapter.Filter

theorem filterText_empty {depthLimit : Nat} {expr : Expr} {text : String}
    (translated : Target.filterText ⟨.empty, depthLimit⟩ expr = .ok text)
    (supported : expr.Supported) : text = expr.print := by
  have same := filterText_of_supported supported (withinDepth_of_filterText translated)
  rw [translated, Expr.survivingText_empty] at same
  exact Except.ok.inj same

def factoredSum : Expr :=
  .binary .gt (.binary .mul (.binary .add (.property "A") (.property "B")) (.property "C"))
    (.literal "1")

def bareSum : Expr :=
  .binary .gt (.binary .add (.property "A") (.binary .mul (.property "B") (.property "C")))
    (.literal "1")

theorem writes_factoredSum : Writes 0 factoredSum "(A add B) mul C gt 1".toList := by
  have first : Writes Operator.add.precedence (.property "A") "A".toList :=
    (Writes.property (isFieldPath_of_path? (by decide) (by decide))).loosen (by decide)
  have second : Writes (Operator.add.precedence + 1) (.property "B") "B".toList :=
    (Writes.property (isFieldPath_of_path? (by decide) (by decide))).loosen (by decide)
  have third : Writes (Operator.mul.precedence + 1) (.property "C") "C".toList :=
    (Writes.property (isFieldPath_of_path? (by decide) (by decide))).loosen (by decide)
  have one : Writes (Operator.gt.precedence + 1) (.literal "1") "1".toList :=
    (Writes.literal (isLiteral_of_literal? (by decide) (by decide))).loosen (by decide)
  have sum := first.spaced second
  have group := (sum.loosen (Nat.zero_le _)).parens
  have product := (group.loosen (Nat.le_of_lt Operator.mul.precedence_lt_five)).spaced third
  have comparison := (product.loosen (by decide : Operator.gt.precedence ≤ _)).spaced one
  exact comparison.loosen (Nat.zero_le _)

/-- A filter that was read and sent on as it is, is read again as the same tree exactly if its bare
operands bind tightly enough: operands of comparisons and arithmetic operators that are themselves
comparisons or arithmetic, on the left as tight as their operator or tighter, on the right
tighter. -/
theorem readExpr_filterText_eq_self_iff {source : List Char} {expr : Expr} {depthLimit : Nat}
    {text : String} (read : readExpr defaultDepth source = .ok expr) (supported : expr.Supported)
    (translated : Target.filterText ⟨.empty, depthLimit⟩ expr = .ok text)
    (shallow : deepestNesting text.toList ≤ maxNesting) :
    readExpr defaultDepth text.toList = .ok expr ↔ expr.BindsTightly := by
  obtain ⟨word, rest, _, written, _⟩ := writes_of_readExpr read supported
  obtain rfl := filterText_empty translated supported
  exact Expr.readExpr_print_eq_self_iff written.wellSpelled supported written.convertFree shallow

theorem readExpr_filterText_eq_self_of_bare_difference :
    let expr : Expr := .binary .and
      (.binary .gt (.binary .sub (.binary .sub (.property "A") (.property "B"))
        (.binary .mul (.property "C") (.property "D"))) (.literal "1"))
      (.binary .or (.property "E") (.property "F"))
    readExpr defaultDepth "(A sub B) sub (C mul D) gt 1 and (E or F)".toList = .ok expr ∧
      Target.filterText ⟨.empty, defaultDepth⟩ expr =
        .ok "(A sub B sub C mul D gt 1) and ((E) or (F))" ∧
      expr.BindsTightly ∧
        readExpr defaultDepth "(A sub B sub C mul D gt 1) and ((E) or (F))".toList = .ok expr := by
  intro expr
  have read : readExpr defaultDepth "(A sub B) sub (C mul D) gt 1 and (E or F)".toList =
      .ok expr := readExpr_eq_ok_of_expression (by decide) (by decide +kernel)
  have supported : expr.Supported := Expr.firstUnsupported_eq_none_iff.1 rfl
  have translated : Target.filterText ⟨.empty, defaultDepth⟩ expr =
      .ok "(A sub B sub C mul D gt 1) and ((E) or (F))" := by rfl
  have tight : expr.BindsTightly := by
    simp [expr, Expr.BindsTightly, Expr.Everywhere, Expr.BareOperandsBind, Expr.StandsLeftOf,
      Expr.StandsRightOf, Operator.isLogical, Operator.precedence]
  have readAgain := readExpr_filterText_eq_self_iff read supported translated (by decide)
  exact ⟨read, translated, tight, readAgain.2 tight⟩

theorem readExpr_filterText_factoredSum_ne :
    readExpr defaultDepth "(A add B) mul C gt 1".toList = .ok factoredSum ∧
      factoredSum.Supported ∧
        Target.filterText ⟨.empty, defaultDepth⟩ factoredSum = .ok "A add B mul C gt 1" ∧
          deepestNesting "A add B mul C gt 1".toList ≤ maxNesting ∧
            readExpr defaultDepth "A add B mul C gt 1".toList = .ok bareSum ∧
              bareSum ≠ factoredSum := by
  have supported : factoredSum.Supported := Expr.firstUnsupported_eq_none_iff.1 rfl
  have regrouped : factoredSum.regroup = bareSum := by decide
  have readAgain : readExpr defaultDepth factoredSum.print.toList = .ok factoredSum.regroup :=
    Expr.readExpr_print writes_factoredSum.wellSpelled supported writes_factoredSum.convertFree
      (by decide)
  rw [regrouped] at readAgain
  exact ⟨writes_factoredSum.readExpr_eq (by decide), supported, by rfl, by decide, readAgain,
    by decide⟩

end ODataAdapter.Target
