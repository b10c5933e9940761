import ODataAdapter.Proofs.Filter.Acceptance
import ODataAdapter.Proofs.Backend.Regrouping

/-!
How deep backend text nests. Every `and` and `or` puts its operands in parentheses, so the
parentheses of the text follow the height of the tree, and a long chain without any parenthesis can
be translated to a text that is nested too deep to be read again.
-/

namespace ODataAdapter.Filter

theorem Nests.spaced {depth depth' : Nat} {left right : List Char} (ofLeft : Nests depth left)
    (op : Operator) (ofRight : Nests depth' right) :
    Nests (max depth depth') (left ++ [' '] ++ op.token.toList ++ [' '] ++ right) := by
  have space := isGapRun_space.nests
  have whole := (((ofLeft.append space).append op.nests_token).append space).append ofRight
  simpa using whole

namespace Expr

def operandNesting (operand : Expr) (depth : Nat) : Nat :=
  if operand.isLogical then depth + 1 else depth

mutual

/-- The parentheses around the innermost part of a printed tree: of `and` and `or` around their
operands, of other operators around logical operands, and of calls around their arguments. -/
def nesting : Expr → Nat
  | binary op left right =>
      if op.isLogical then max left.nesting right.nesting + 1
      else max (left.operandNesting left.nesting) (right.operandNesting right.nesting)
  | convert source => source.nesting + 1
  | call _ args => nestingAll args + 1
  | literal _ | property _ | unsupported _ => 0

def nestingAll : List Expr → Nat
  | [] => 0
  | arg :: args => max arg.nesting (nestingAll args)

end

theorem nests_asOperand (operand : Expr) {depth : Nat} {text : String}
    (nests : Nests depth text.toList) :
    Nests (operand.operandNesting depth) (operand.asOperand text).toList := by
  by_cases logical : operand.isLogical = true
  · simpa [operandNesting, asOperand, logical, toList_inParens] using nests.parens
  · simpa [operandNesting, asOperand, logical] using nests

theorem nests_arguments {args : List Expr}
    (each : ∀ arg ∈ args, Nests arg.nesting arg.print.toList) :
    Nests (nestingAll args) ([','].intercalate (args.map fun arg => arg.print.toList)) := by
  induction args with
  | nil => exact nests_of_plain (by simp)
  | cons arg args ih =>
      have first := each arg List.mem_cons_self
      have others := ih fun arg member => each arg (List.mem_cons_of_mem _ member)
      cases args with
      | nil => simpa [nestingAll] using first
      | cons next args =>
          have comma : Nests 0 [','] := nests_of_plain (List.all_iff_forall_prop.1 (by decide))
          have whole := first.append (comma.append others)
          simpa [nestingAll] using whole

theorem nests_print {expr : Expr} (spelled : expr.WellSpelled) (supported : expr.Supported) :
    Nests expr.nesting expr.print.toList := by
  induction expr using structural with
  | binary op left right ihLeft ihRight =>
      have ofLeft := ihLeft spelled.2.1 supported.2.1
      have ofRight := ihRight spelled.2.2 supported.2.2
      by_cases logical : op.isLogical = true
      · have whole := ofLeft.parens.spaced op ofRight.parens
        simpa [nesting, print, logical, toList_inParens] using whole
      · have leftOperand := nests_asOperand left ofLeft
        have whole := leftOperand.spaced op (nests_asOperand right ofRight)
        simpa [nesting, print, logical] using whole
  | convert source ih =>
      have inner := (ih spelled.2 supported.2).parens
      simpa [nesting, print, toList_inParens] using inner
  | call name args ih =>
      have argsSpelled := (allEverywhere_iff _ _).1 spelled.2
      have argsSupported := (allEverywhere_iff _ _).1 supported.2
      have named : IsFunctionName name.toList := spelled.1
      have inner := nests_arguments fun arg member =>
        ih arg member (argsSpelled arg member) (argsSupported arg member)
      have whole := named.1.nests.append inner.parens
      simpa [nesting, print, printAll_eq_map, toList_inParens, Function.comp_def] using whole
  | literal text =>
      have literal : IsLiteral text.toList := spelled
      exact literal.nests
  | property name =>
      have path : IsFieldPath name.toList := spelled
      exact path.1.nests
  | unsupported description => simp [Supported, Everywhere, isUnsupported] at supported

theorem nesting_le_height (expr : Expr) : expr.nesting ≤ expr.height := by
  induction expr using structural with
  | binary op left right ihLeft ihRight =>
      simp only [nesting, operandNesting, height]
      split
      · omega
      · split <;> split <;> omega
  | convert source ih =>
      simp only [nesting, height]
      omega
  | call name args ih =>
      have withinArgs : nestingAll args ≤ heights args := by
        induction args with
        | nil => exact Nat.le_refl _
        | cons arg args ihArgs =>
            have first := ih arg List.mem_cons_self
            have others := ihArgs fun arg member => ih arg (List.mem_cons_of_mem _ member)
            simp only [nestingAll, heights]
            omega
      simp only [nesting, height]
      omega
  | literal text => exact Nat.zero_le _
  | property name => exact Nat.zero_le _
  | unsupported description => exact Nat.zero_le _

theorem readExpr_print_eq_ite {expr : Expr} (spelled : expr.WellSpelled)
    (supported : expr.Supported) (free : expr.ConvertFree) (depthLimit : Nat) :
    readExpr depthLimit expr.print.toList =
      if expr.nesting ≤ nestingLimit depthLimit then .ok expr.regroup
      else .error (.tooDeep (nestingLimit depthLimit)) := by
  have deepest := (nests_print spelled supported).deepestNesting_eq
  by_cases shallow : expr.nesting ≤ nestingLimit depthLimit
  · rw [if_pos shallow]
    rw [← deepest] at shallow
    exact readExpr_print spelled supported free shallow
  · have written := writes_regroup spelled supported free
    have deep : nestingLimit depthLimit < expr.nesting := by omega
    simp [readExpr, written.trim_eq, deepest, deep, shallow]

end Expr

end ODataAdapter.Filter

namespace ODataAdapter.Target

open ODataAdapter.Filter

theorem supported_of_filterText_empty {depthLimit : Nat} {expr : Expr} {text : String}
    (translated : Target.filterText ⟨.empty, depthLimit⟩ expr = .ok text) : expr.Supported := by
  obtain ⟨rendered, found⟩ :=
    Option.isSome_iff_exists.1 (withinDepth_of_filterText translated)
  have same := Expr.eq_of_render found
  rw [Expr.pruneGrouped_empty] at same
  apply Expr.firstUnsupported_eq_none_iff.1
  cases obstacle : expr.firstUnsupported with
  | none => rfl
  | some description =>
      simp [filterText, renderFilter, found, same, Expr.renderedAs, obstacle] at translated

/-- A filter that was read and sent on as it is nests as many parentheses as its tree makes, no more
than the tree is high. It is read again, as precedence groups it, exactly if these are no more than
may be nested, and refused as too deep otherwise. -/
theorem readExpr_filterText_eq_ite {source : List Char} {expr : Expr} {text : String}
    (read : readExpr defaultDepth source = .ok expr)
    (translated : Target.filterText ⟨.empty, defaultDepth⟩ expr = .ok text) :
    deepestNesting text.toList = expr.nesting ∧ expr.nesting ≤ expr.height ∧
      readExpr defaultDepth text.toList =
        if expr.nesting ≤ maxNesting then .ok expr.regroup else .error (.tooDeep maxNesting) := by
  have supported := supported_of_filterText_empty translated
  obtain ⟨word, rest, _, written, _⟩ := writes_of_readExpr read supported
  obtain rfl := filterText_empty translated supported
  exact ⟨(Expr.nests_print written.wellSpelled supported).deepestNesting_eq,
    Expr.nesting_le_height expr,
    Expr.readExpr_print_eq_ite written.wellSpelled supported written.convertFree defaultDepth⟩

theorem readExpr_filterText_eq_ite_of_nested_choices :
    let expr : Expr := .binary .and (.property "A")
      (.binary .or
        (.binary .eq (.binary .or (.property "B") (.call "f" [.property "C"])) (.property "D"))
        (.property "E"))
    let text := "(A) and ((((B) or (f(C))) eq D) or (E))"
    readExpr defaultDepth "A and ((B or f(C)) eq D or E)".toList = .ok expr ∧
      Target.filterText ⟨.empty, defaultDepth⟩ expr = .ok text ∧
        deepestNesting text.toList = 5 ∧ expr.height = 6 ∧
          readExpr defaultDepth text.toList = .ok expr := by
  intro expr text
  have read : readExpr defaultDepth "A and ((B or f(C)) eq D or E)".toList = .ok expr :=
    readExpr_eq_ok_of_expression (by decide) (by decide +kernel)
  have translated : Target.filterText ⟨.empty, defaultDepth⟩ expr = .ok text := by rfl
  have nesting : expr.nesting = 5 := by decide
  have regrouped : expr.regroup = expr := by decide
  obtain ⟨deepest, _, readAgain⟩ := readExpr_filterText_eq_ite read translated
  rw [nesting] at deepest readAgain
  rw [if_pos (by decide), regrouped] at readAgain
  exact ⟨read, translated, deepest, by decide, readAgain⟩

def flagChain : Nat → Expr
  | 0 => .property "A"
  | more + 1 => .binary .and (flagChain more) (.property "A")

def flagChainText : Nat → List Char
  | 0 => "A".toList
  | more + 1 => flagChainText more ++ " and A".toList

theorem writes_flagChain (more : Nat) :
    Writes Operator.and.precedence (flagChain more) (flagChainText more) := by
  have field : Writes primaryLevel (.property "A") "A".toList :=
    .property (isFieldPath_of_path? (by decide) (by decide))
  induction more with
  | zero => exact field.loosen (by decide)
  | succ more ih =>
      have whole := ih.spaced (field.loosen (by decide : Operator.and.precedence + 1 ≤ _))
      simpa [flagChain, flagChainText, Operator.token] using whole

theorem nests_flagChainText (more : Nat) : Nests 0 (flagChainText more) := by
  induction more with
  | zero => exact nests_of_plain (List.all_iff_forall_prop.1 (by decide))
  | succ more ih =>
      have last : Nests 0 " and A".toList :=
        nests_of_plain (List.all_iff_forall_prop.1 (by decide))
      exact ih.append last

theorem flagChain_measures (more : Nat) :
    (flagChain more).nesting = more ∧ (flagChain more).height = more + 1 := by
  induction more with
  | zero => exact ⟨rfl, rfl⟩
  | succ more ih =>
      simp [flagChain, Expr.nesting, Expr.height, Operator.isLogical, ih]

/-- Sixty-six fields joined by `and` are read and translated within the default limits, but the text
nests sixty-five parentheses and is refused. -/
theorem readExpr_filterText_flagChain_tooDeep :
    readExpr defaultDepth (flagChainText 65) = .ok (flagChain 65) ∧
      Target.filterText ⟨.empty, defaultDepth⟩ (flagChain 65) = .ok (flagChain 65).print ∧
        (flagChain 65).print ≠ "" ∧
          readExpr defaultDepth (flagChain 65).print.toList = .error (.tooDeep maxNesting) := by
  have written : Writes 0 (flagChain 65) (flagChainText 65) :=
    (writes_flagChain 65).loosen (Nat.zero_le _)
  obtain ⟨nesting, height⟩ := flagChain_measures 65
  have supported := written.supported
  have deepest := (Expr.nests_print written.wellSpelled supported).deepestNesting_eq
  refine ⟨written.readExpr_eq ?_, ?_, ?_, ?_⟩
  · rw [(nests_flagChainText 65).deepestNesting_eq]
    exact Nat.zero_le _
  · have fits : (flagChain 65).height ≤ defaultDepth := by
      rw [height]
      decide
    have rendered := Expr.render_empty fits
    rw [Expr.firstUnsupported_eq_none_iff.2 supported] at rendered
    simp only [filterText, renderFilter, rendered]
  · intro empty
    rw [empty, nesting] at deepest
    exact absurd deepest (by decide)
  · rw [Expr.readExpr_print_eq_ite written.wellSpelled supported written.convertFree, nesting]
    rfl

end ODataAdapter.Target
