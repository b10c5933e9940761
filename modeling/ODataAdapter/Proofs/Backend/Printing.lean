import ODataAdapter.Proofs.Backend.Pruning
import ODataAdapter.Proofs.Filter.Reading
import ODataAdapter.Query.Reader

/-!
Backend text is read as the tree it stands for. A printed tree writes, in the grammar, the tree
without its conversions, as long as the operands that are printed bare bind tightly enough; and
pruning keeps operands as tight as they were.
-/

namespace ODataAdapter.Filter

theorem isGapRun_nil : IsGapRun [] := by
  simp [IsGapRun]

theorem isGapRun_space : IsGapRun [' '] := by
  simp [IsGapRun, isGap]

theorem Writes.spaced {op : Operator} {left right : Expr} {text text' : List Char}
    (writtenLeft : Writes op.precedence left text)
    (writtenRight : Writes (op.precedence + 1) right text') :
    Writes op.precedence (.binary op left right)
      (text ++ [' '] ++ op.token.toList ++ [' '] ++ text') := by
  refine .binary writtenLeft writtenRight isGapRun_space isGapRun_space ?_ fun _ => rfl
  rintro ⟨last, isLast, continues⟩
  obtain rfl : ' ' = last := by simpa using isLast
  exact absurd continues (by decide)

theorem Writes.parens {expr : Expr} {text : List Char} (written : Writes 0 expr text) :
    Writes primaryLevel expr ('(' :: text ++ [')']) := by
  simpa using Writes.group written isGapRun_nil isGapRun_nil

theorem listed_intercalate (texts : List (List Char)) :
    Listed texts ([','].intercalate texts) := by
  induction texts with
  | nil => exact .none
  | cons text texts ih =>
      cases texts with
      | nil => simpa using Listed.last text
      | cons next texts => simpa using Listed.more isGapRun_nil isGapRun_nil ih

namespace Expr

theorem toList_inParens (text : String) : (inParens text).toList = '(' :: text.toList ++ [')'] := by
  simp [inParens]

theorem firstUnsupportedIn_eq_none_iff {args : List Expr} :
    firstUnsupportedIn args = none ↔ ∀ arg ∈ args, arg.firstUnsupported = none := by
  induction args with
  | nil => simp [firstUnsupportedIn]
  | cons arg args ih => simp [firstUnsupportedIn, ih]

theorem firstUnsupported_eq_none_iff {expr : Expr} :
    expr.firstUnsupported = none ↔ expr.Supported := by
  rw [Supported]
  induction expr using structural with
  | binary op left right ihLeft ihRight =>
      have plain : (binary op left right).isUnsupported = false := rfl
      rw [Everywhere]
      simp [firstUnsupported, ihLeft, ihRight, plain]
  | convert source ih =>
      have plain : (convert source).isUnsupported = false := rfl
      rw [Everywhere]
      simp [firstUnsupported, ih, plain]
  | call name args ih =>
      have plain : (call name args).isUnsupported = false := rfl
      rw [Everywhere, allEverywhere_iff, firstUnsupported, firstUnsupportedIn_eq_none_iff]
      simpa [plain] using forall₂_congr ih
  | literal text => simp [firstUnsupported, Everywhere, isUnsupported]
  | property name => simp [firstUnsupported, Everywhere, isUnsupported]
  | unsupported description => simp [firstUnsupported, Everywhere, isUnsupported]

theorem printAll_eq_map (args : List Expr) : printAll args = args.map print := by
  induction args with
  | nil => rfl
  | cons arg args ih => simp [printAll, ih]

def level : Expr → Nat
  | binary op _ _ => op.precedence
  | _ => primaryLevel

theorem writes_asOperand {operand : Expr} {needed : Nat}
    (written : Writes operand.level operand.eraseConverts operand.print.toList)
    (within : needed ≤ primaryLevel)
    (binds : operand.isLogical = false → needed ≤ operand.level) :
    Writes needed operand.eraseConverts (operand.asOperand operand.print).toList := by
  simp only [asOperand]
  split
  · rw [toList_inParens]
    exact (written.loosen (Nat.zero_le _)).parens.loosen within
  · rename_i other
    exact written.loosen (binds (by simpa using other))

theorem le_level_of_standsLeftOf {operand : Expr} {op : Operator}
    (stands : operand.StandsLeftOf op) (other : operand.isLogical = false) :
    op.precedence ≤ operand.level := by
  cases operand with
  | binary inner left right =>
      have notLogical : inner.isLogical = false := other
      have tight : op.precedence ≤ inner.precedence := by
        simpa [StandsLeftOf, notLogical] using stands
      exact tight
  | _ => exact Nat.le_of_lt op.precedence_lt_five

theorem lt_level_of_standsRightOf {operand : Expr} {op : Operator}
    (stands : operand.StandsRightOf op) (other : operand.isLogical = false) :
    op.precedence + 1 ≤ operand.level := by
  cases operand with
  | binary inner left right =>
      have notLogical : inner.isLogical = false := other
      have tight : op.precedence < inner.precedence := by
        simpa [StandsRightOf, notLogical] using stands
      exact tight
  | _ => exact op.precedence_lt_five

theorem writes_print {expr : Expr} (spelled : expr.WellSpelled) (supported : expr.Supported)
    (tight : expr.BindsTightly) : Writes expr.level expr.eraseConverts expr.print.toList := by
  induction expr using structural with
  | binary op left right ihLeft ihRight =>
      have writtenLeft := ihLeft spelled.2.1 supported.2.1 tight.2.1
      have writtenRight := ihRight spelled.2.2 supported.2.2 tight.2.2
      cases logical : op.isLogical with
      | true =>
          have leftParens := (writtenLeft.loosen (Nat.zero_le _)).parens
          have rightParens := (writtenRight.loosen (Nat.zero_le _)).parens
          have whole := (leftParens.loosen (Nat.le_of_lt op.precedence_lt_five)).spaced
            (rightParens.loosen op.precedence_lt_five)
          simpa [level, eraseConverts, print, logical, toList_inParens] using whole
      | false =>
          obtain ⟨standsLeft, standsRight⟩ := tight.1.resolve_left (by simp [logical])
          have leftOperand := writes_asOperand writtenLeft (Nat.le_of_lt op.precedence_lt_five)
            (le_level_of_standsLeftOf standsLeft)
          have rightOperand := writes_asOperand writtenRight op.precedence_lt_five
            (lt_level_of_standsRightOf standsRight)
          have whole := leftOperand.spaced rightOperand
          simpa [level, eraseConverts, print, logical] using whole
  | convert source ih =>
      have written := ih spelled.2 supported.2 tight.2
      simp only [level, eraseConverts, print, toList_inParens]
      exact (written.loosen (Nat.zero_le _)).parens
  | call name args ih =>
      have argsSpelled := (allEverywhere_iff _ _).1 spelled.2
      have argsSupported := (allEverywhere_iff _ _).1 supported.2
      have argsTight := (allEverywhere_iff _ _).1 tight.2
      have each : ∀ pair ∈ args.map fun arg => (arg.eraseConverts, arg.print.toList),
          Writes 0 pair.1 pair.2 := by
        intro pair member
        obtain ⟨arg, argMember, rfl⟩ := List.mem_map.1 member
        exact (ih arg argMember (argsSpelled arg argMember) (argsSupported arg argMember)
          (argsTight arg argMember)).loosen (Nat.zero_le _)
      have listed := listed_intercalate
        ((args.map fun arg => (arg.eraseConverts, arg.print.toList)).map Prod.snd)
      have whole := Writes.call spelled.1 each listed isGapRun_nil isGapRun_nil isGapRun_nil
      simpa [level, eraseConverts, eraseConvertsAll_eq_map, print, printAll_eq_map,
        toList_inParens, Function.comp_def] using whole
  | literal text => exact .literal spelled
  | property name => exact .property spelled
  | unsupported description => simp [Supported, Everywhere, isUnsupported] at supported

/-! What pruning keeps. -/

section Pruned

variable {mapping : Mapping}

/-- What holds at every node of a tree holds at every node of what is left of it, if it does not
depend on what is below a logical node or on the arguments of a call. -/
theorem everywhere_pruneGrouped {holds : Expr → Prop}
    (logical : ∀ op left right, op.isLogical = true → holds (binary op left right))
    (placed : ∀ op left right left' right', left.pruneGrouped mapping = some left' →
      right.pruneGrouped mapping = some right' → holds (binary op left right) →
        holds (binary op (groupSurvivor left left') (groupSurvivor right right')))
    (converts : ∀ source, holds (convert source))
    (calls : ∀ name args args', holds (call name args) → holds (call name args'))
    (renamed : ∀ name target, mapping.target? name = some target → holds (property name) →
      holds (property target))
    {expr tree : Expr} (everywhere : expr.Everywhere holds)
    (left : expr.pruneGrouped mapping = some tree) : tree.Everywhere holds := by
  have grouped {operand survivor : Expr} (kept : survivor.Everywhere holds) :
      (groupSurvivor operand survivor).Everywhere holds := by
    simp only [groupSurvivor]
    split
    · exact ⟨converts survivor, kept⟩
    · exact kept
  induction expr using structural generalizing tree with
  | binary op first second ihFirst ihSecond =>
      simp only [pruneGrouped] at ihFirst ihSecond
      obtain ⟨here, ofFirst, ofSecond⟩ := everywhere
      rcases pruneWith_binary_cases left with ⟨_, foundFirst | foundSecond⟩ |
        ⟨first', second', foundFirst, foundSecond, ⟨isLogical, rfl⟩ | ⟨_, rfl⟩⟩
      · exact ihFirst ofFirst foundFirst
      · exact ihSecond ofSecond foundSecond
      · exact ⟨logical op _ _ isLogical, ihFirst ofFirst foundFirst, ihSecond ofSecond foundSecond⟩
      · exact ⟨placed op _ _ _ _ foundFirst foundSecond here, grouped (ihFirst ofFirst foundFirst),
          grouped (ihSecond ofSecond foundSecond)⟩
  | convert source ih =>
      obtain ⟨survivor, found, rfl⟩ := Option.map_eq_some_iff.1 left
      exact ⟨converts survivor, ih everywhere.2 found⟩
  | call name args ih =>
      obtain ⟨survivors, found, rfl⟩ := Option.map_eq_some_iff.1 left
      have argsEverywhere := (allEverywhere_iff _ _).1 everywhere.2
      refine ⟨calls name args survivors everywhere.1, (allEverywhere_iff _ _).2 ?_⟩
      intro survivor member
      obtain ⟨arg, argMember, foundArg⟩ := exists_arg_of_pruneAllWith found survivor member
      exact ih arg argMember (argsEverywhere arg argMember) foundArg
  | literal text =>
      obtain rfl := Option.some.inj left
      exact everywhere
  | property name =>
      obtain ⟨target, found, rfl⟩ := Option.map_eq_some_iff.1 left
      exact renamed name target found everywhere
  | unsupported description =>
      obtain rfl := Option.some.inj left
      exact everywhere

theorem target?_of_names (holds : String → Prop)
    (targets : ∀ pair ∈ mapping.renames, holds pair.target) {name target : String}
    (found : mapping.target? name = some target) (ofName : holds name) : holds target := by
  simp only [Mapping.target?] at found
  split at found
  · simp at found
  · obtain rfl := Option.some.inj found
    simp only [Mapping.backendName]
    cases renamed : mapping.renames.find? (·.source = name) with
    | none => exact ofName
    | some pair => exact targets pair (List.mem_of_find?_eq_some renamed)

theorem shape_groupSurvivor {operand survivor : Expr}
    (left : operand.pruneGrouped mapping = some survivor) {inner : Operator} {first second : Expr}
    (shape : groupSurvivor operand survivor = binary inner first second) :
    inner.isLogical = true ∨ ∃ first second, operand = binary inner first second := by
  cases logical : inner.isLogical with
  | true => exact Or.inl rfl
  | false =>
      refine Or.inr ?_
      have notConverted : operand.isLogical = false ∧ survivor = binary inner first second := by
        simp only [groupSurvivor] at shape
        split at shape
        · simp at shape
        · rename_i stays
          subst shape
          simpa [isLogical, logical] using stays
      obtain ⟨other, rfl⟩ := notConverted
      cases operand with
      | binary op first second =>
          have notLogical : op.isLogical = false := other
          rcases pruneWith_binary_cases left with ⟨isLogical, _⟩ |
            ⟨_, _, _, _, ⟨isLogical, _⟩ | ⟨_, same⟩⟩
          · simp [notLogical] at isLogical
          · simp [notLogical] at isLogical
          · obtain ⟨rfl, _⟩ := binary.inj same
            exact ⟨first, second, rfl⟩
      | convert source => simp [pruneGrouped, pruneWith] at left
      | call name args => simp [pruneGrouped, pruneWith] at left
      | literal text => simp [pruneGrouped, pruneWith] at left
      | property name => simp [pruneGrouped, pruneWith] at left
      | unsupported description => simp [pruneGrouped, pruneWith] at left

theorem standsLeftOf_groupSurvivor {op : Operator} {operand survivor : Expr}
    (left : operand.pruneGrouped mapping = some survivor) (stands : operand.StandsLeftOf op) :
    (groupSurvivor operand survivor).StandsLeftOf op := by
  cases shape : groupSurvivor operand survivor with
  | binary inner first second =>
      rcases shape_groupSurvivor left shape with logical | ⟨first', second', rfl⟩
      · exact Or.inl logical
      · exact stands
  | _ => trivial

theorem standsRightOf_groupSurvivor {op : Operator} {operand survivor : Expr}
    (left : operand.pruneGrouped mapping = some survivor) (stands : operand.StandsRightOf op) :
    (groupSurvivor operand survivor).StandsRightOf op := by
  cases shape : groupSurvivor operand survivor with
  | binary inner first second =>
      rcases shape_groupSurvivor left shape with logical | ⟨first', second', rfl⟩
      · exact Or.inl logical
      · exact stands
  | _ => trivial

theorem bindsTightly_pruneGrouped {expr tree : Expr} (tight : expr.BindsTightly)
    (left : expr.pruneGrouped mapping = some tree) : tree.BindsTightly := by
  refine everywhere_pruneGrouped (fun _ _ _ logical => Or.inl logical) ?_ (fun _ => trivial)
    (fun _ _ _ _ => trivial) (fun _ _ _ _ => trivial) tight left
  rintro op first second first' second' foundFirst foundSecond (logical | ⟨standsLeft, standsRight⟩)
  · exact Or.inl logical
  · exact Or.inr ⟨standsLeftOf_groupSurvivor foundFirst standsLeft,
      standsRightOf_groupSurvivor foundSecond standsRight⟩

theorem wellSpelled_pruneGrouped
    (targets : ∀ pair ∈ mapping.renames, IsFieldPath pair.target.toList) {expr tree : Expr}
    (spelled : expr.WellSpelled) (left : expr.pruneGrouped mapping = some tree) :
    tree.WellSpelled :=
  everywhere_pruneGrouped (fun _ _ _ _ => trivial) (fun _ _ _ _ _ _ _ _ => trivial)
    (fun _ => trivial) (fun _ _ _ named => named)
    (fun _ _ found named => target?_of_names (IsFieldPath ·.toList) targets found named)
    spelled left

end Pruned

end Expr

end ODataAdapter.Filter

namespace ODataAdapter.Target

open ODataAdapter.Filter

theorem filterText_eq_ok {target : Target} {expr : Expr} {text : String}
    (translated : target.filterText expr = .ok text) (kept : text ≠ "") :
    ∃ tree, expr.pruneGrouped target.mapping = some tree ∧ tree.Supported ∧ text = tree.print := by
  unfold filterText at translated
  split at translated
  · simp at translated
  · simp only [Except.ok.injEq] at translated
    exact absurd translated.symm kept
  · simp at translated
  · rename_i rendered
    obtain rfl := Except.ok.inj translated
    unfold renderFilter at rendered
    split at rendered
    · rename_i found
      have same := Expr.eq_of_render found
      obtain rfl := Except.ok.inj rendered
      cases left : expr.pruneGrouped target.mapping with
      | none => simp [left, Expr.renderedAs] at same
      | some tree =>
          simp only [left, Expr.renderedAs, Rendered.kept.injEq] at same
          exact ⟨tree, rfl, Expr.firstUnsupported_eq_none_iff.1 same.2.symm, same.1⟩
    · simp at rendered

/-- The backend reads what is left of a filter: its text, unless it nests too deep to be read, gives
the tree without the deleted fields, with the others renamed and without conversions. -/
theorem readExpr_filterText (target : Target) {expr : Expr} {text : String}
    (spelled : expr.WellSpelled)
    (targets : ∀ pair ∈ target.mapping.renames, IsFieldPath pair.target.toList)
    (tight : expr.BindsTightly) (translated : target.filterText expr = .ok text)
    (kept : text ≠ "") (shallow : deepestNesting text.toList ≤ maxNesting) :
    ∃ tree, expr.prune target.mapping = some tree ∧
      readExpr defaultDepth text.toList = .ok tree.eraseConverts := by
  obtain ⟨grouped, left, supported, rfl⟩ := filterText_eq_ok translated kept
  have erased := Expr.eraseConverts_pruneGrouped target.mapping expr
  rw [left, Option.map_some] at erased
  obtain ⟨tree, found, same⟩ := Option.map_eq_some_iff.1 erased.symm
  have written := Expr.writes_print (Expr.wellSpelled_pruneGrouped targets spelled left) supported
    (Expr.bindsTightly_pruneGrouped tight left)
  refine ⟨tree, found, ?_⟩
  rw [same]
  exact (written.loosen (Nat.zero_le _)).readExpr_eq shallow

theorem readExpr_filterText_of_renamed_field :
    let target : Target := ⟨(Mapping.empty.withRename "Cost" "Price").withDeleted "Secret", 9⟩
    let cost : Expr := .binary .gt (.convert (.property "Cost")) (.literal "5")
    let expr : Expr := .binary .and cost (.binary .eq (.property "Secret") (.literal "1"))
    target.filterText expr = .ok "(Price) gt 5" ∧
      ∃ tree, expr.prune target.mapping = some tree ∧
        readExpr defaultDepth "(Price) gt 5".toList = .ok tree.eraseConverts := by
  intro target cost expr
  have translated : target.filterText expr = .ok "(Price) gt 5" := by rfl
  have spelled : expr.WellSpelled :=
    ⟨trivial, ⟨trivial, ⟨trivial, isFieldPath_of_path? (by decide) (by decide)⟩,
      isLiteral_of_literal? (by decide) (by decide)⟩, trivial,
      isFieldPath_of_path? (by decide) (by decide), isLiteral_of_literal? (by decide) (by decide)⟩
  have targets : ∀ pair ∈ target.mapping.renames, IsFieldPath pair.target.toList := by
    intro pair member
    obtain rfl := List.mem_singleton.1 member
    exact isFieldPath_of_path? (by decide) (by decide)
  have tight : expr.BindsTightly :=
    ⟨Or.inl rfl, ⟨Or.inr ⟨trivial, trivial⟩, ⟨trivial, trivial⟩, trivial⟩,
      Or.inr ⟨trivial, trivial⟩, trivial, trivial⟩
  exact ⟨translated, readExpr_filterText target spelled targets tight translated (by decide)
    (by decide)⟩

end ODataAdapter.Target
