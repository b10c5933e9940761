import ODataAdapter.Proofs.Backend.Regrouping

/-!
Translating a filter twice. A text that one mapping made is read again and translated by a second
one: the outcome is that of a single mapping that does to each field what the two do one after the
other, although the text may be grouped anew when it is read. Read again and left as it is, a
translated text stays the same.
-/

namespace ODataAdapter.Filter.Expr

mutual

def fields : Expr → List String
  | binary _ left right => left.fields ++ right.fields
  | convert source => source.fields
  | call _ args => fieldsAll args
  | literal _ | unsupported _ => []
  | property name => [name]

def fieldsAll : List Expr → List String
  | [] => []
  | arg :: args => arg.fields ++ fieldsAll args

end

theorem fields_subset_fieldsAll {args : List Expr} :
    ∀ arg ∈ args, ∀ name ∈ arg.fields, name ∈ fieldsAll args := by
  induction args with
  | nil => simp
  | cons first args ih =>
      intro arg member name field
      rw [fieldsAll, List.mem_append]
      rcases List.mem_cons.1 member with same | later
      · exact Or.inl (same ▸ field)
      · exact Or.inr (ih arg later name field)

mutual

def rename (newName : String → String) : Expr → Expr
  | binary op left right => binary op (left.rename newName) (right.rename newName)
  | convert source => convert (source.rename newName)
  | call name args => call name (renameAll newName args)
  | literal text => literal text
  | property name => property (newName name)
  | unsupported description => unsupported description

def renameAll (newName : String → String) : List Expr → List Expr
  | [] => []
  | arg :: args => arg.rename newName :: renameAll newName args

end

theorem renameAll_eq_map (newName : String → String) (args : List Expr) :
    renameAll newName args = args.map (rename newName) := by
  induction args with
  | nil => rfl
  | cons arg args ih => simp [renameAll, ih]

theorem isLogical_rename (newName : String → String) (expr : Expr) :
    (expr.rename newName).isLogical = expr.isLogical := by
  cases expr <;> rfl

theorem convertFree_rename (newName : String → String) {expr : Expr} (free : expr.ConvertFree) :
    (expr.rename newName).ConvertFree := by
  induction expr using structural with
  | binary op left right ihLeft ihRight => exact ⟨rfl, ihLeft free.2.1, ihRight free.2.2⟩
  | convert source ih => simp [ConvertFree, Everywhere, isConvert] at free
  | call name args ih =>
      have argsFree := (allEverywhere_iff _ args).1 free.2
      refine ⟨rfl, (allEverywhere_iff _ _).2 ?_⟩
      rw [renameAll_eq_map]
      exact List.forall_mem_map.2 fun arg member => ih arg member (argsFree arg member)
  | literal text => rfl
  | property name => rfl
  | unsupported description => rfl

theorem target?_of_kept {mapping : Mapping} {name : String}
    (kept : mapping.removes name = false) :
    mapping.target? name = some (mapping.backendName name) := by
  simp [Mapping.target?, kept]

theorem pruneGrouped_of_kept {mapping : Mapping} {expr : Expr}
    (kept : ∀ name ∈ expr.fields, mapping.removes name = false) :
    expr.pruneGrouped mapping = some (expr.rename mapping.backendName) := by
  induction expr using structural with
  | binary op left right ihLeft ihRight =>
      have keptLeft := ihLeft fun name field => kept name (List.mem_append_left _ field)
      have keptRight := ihRight fun name field => kept name (List.mem_append_right _ field)
      have placed (operand : Expr) :
          groupSurvivor operand (operand.rename mapping.backendName) =
            operand.rename mapping.backendName := by
        simp [groupSurvivor, isLogical_rename]
      rw [pruneGrouped] at keptLeft keptRight
      simp [pruneGrouped, pruneWith, keptLeft, keptRight, placed, rename]
  | convert source ih =>
      have keptSource := ih kept
      rw [pruneGrouped] at keptSource
      simp [pruneGrouped, pruneWith, keptSource, rename]
  | call name args ih =>
      have keptArgs : pruneAllWith groupSurvivor mapping args =
          some (renameAll mapping.backendName args) := by
        have each := fun arg member =>
          ih arg member fun name field => kept name (fields_subset_fieldsAll arg member name field)
        clear ih kept
        induction args with
        | nil => rfl
        | cons arg args ihArgs =>
            have first := each arg List.mem_cons_self
            have others := ihArgs fun arg member => each arg (List.mem_cons_of_mem _ member)
            rw [pruneGrouped] at first
            simp [pruneAllWith, first, others, renameAll]
      simp [pruneGrouped, pruneWith, keptArgs, rename]
  | literal text => rfl
  | property name =>
      have target := target?_of_kept (kept name List.mem_cons_self)
      simp [pruneGrouped, pruneWith, target, rename]
  | unsupported description => rfl

/-- What a mapping leaves of a renamed tree is what a mapping leaves of the tree that sends each
field where the first one sends its new name. -/
theorem survivingText_rename {mapping combined : Mapping} {newName : String → String} {expr : Expr}
    (composed : ∀ name ∈ expr.fields, combined.target? name = mapping.target? (newName name)) :
    (expr.rename newName).survivingText mapping = expr.survivingText combined := by
  induction expr using structural with
  | binary op left right ihLeft ihRight =>
      exact survivingText_binary_congr op
        (ihLeft fun name field => composed name (List.mem_append_left _ field))
        (ihRight fun name field => composed name (List.mem_append_right _ field))
        (isLogical_rename newName left) (isLogical_rename newName right)
  | convert source ih =>
      rw [rename, survivingText_convert, survivingText_convert, ih composed]
  | call name args ih =>
      have same : (args.map (rename newName)).map (survivingText mapping) =
          args.map (survivingText combined) := by
        rw [List.map_map]
        apply List.map_congr_left
        intro arg member
        exact ih arg member fun name field =>
          composed name (fields_subset_fieldsAll arg member name field)
      rw [rename, renameAll_eq_map, survivingText_call, survivingText_call, same]
  | literal text => rfl
  | property name =>
      rw [rename, survivingText_property, survivingText_property]
      exact (composed name List.mem_cons_self).symm
  | unsupported description => rfl

end ODataAdapter.Filter.Expr

namespace ODataAdapter.Target

open ODataAdapter.Filter

/-- A filter that was read goes through a first target that deletes none of its fields. The text is
read again, unless it nests too deep, and a second target makes the same of it as a target makes of
the filter at once that does to each field what the two do in turn. The text stays as it is when
nothing is renamed or deleted any more. -/
theorem filterText_filterText {source : List Char} {expr : Expr} {first second both : Target}
    (read : readExpr defaultDepth source = .ok expr) (supported : expr.Supported)
    (kept : ∀ name ∈ expr.fields, first.mapping.removes name = false)
    (targets : ∀ pair ∈ first.mapping.renames, IsFieldPath pair.target.toList)
    (composed : ∀ name ∈ expr.fields,
      both.mapping.target? name = (first.mapping.target? name).bind second.mapping.target?)
    (withinFirst : first.WithinDepth expr) (withinBoth : both.WithinDepth expr) :
    ∃ between text, first.filterText expr = .ok between ∧ both.filterText expr = .ok text ∧
      (deepestNesting between.toList ≤ maxNesting →
        ∃ again, readExpr defaultDepth between.toList = .ok again ∧
          (second.WithinDepth again → second.filterText again = .ok text) ∧
          ∀ depthLimit, Target.WithinDepth ⟨.empty, depthLimit⟩ again →
            Target.filterText ⟨.empty, depthLimit⟩ again = .ok between) := by
  obtain ⟨word, rest, _, written, _⟩ := writes_of_readExpr read supported
  have renamed := Expr.pruneGrouped_of_kept kept
  have renamedSupported := supported_pruneGrouped supported renamed
  have againSupported := Expr.supported_regroup renamedSupported
  have translated := filterText_of_supported supported withinFirst
  rw [Expr.survivingText, renamed] at translated
  refine ⟨_, _, translated, filterText_of_supported supported withinBoth, fun shallow => ?_⟩
  have readAgain : readExpr defaultDepth (expr.rename first.mapping.backendName).print.toList =
      .ok (expr.rename first.mapping.backendName).regroup :=
    Expr.readExpr_print (Expr.wellSpelled_pruneGrouped targets written.wellSpelled renamed)
      renamedSupported (Expr.convertFree_rename _ written.convertFree) shallow
  refine ⟨_, readAgain, fun withinSecond => ?_, fun depthLimit withinLimit => ?_⟩
  · have inTurn : ∀ name ∈ expr.fields, both.mapping.target? name =
        second.mapping.target? (first.mapping.backendName name) := by
      intro name field
      rw [composed name field, Expr.target?_of_kept (kept name field), Option.bind_some]
    rw [filterText_of_supported againSupported withinSecond, Expr.survivingText_regroup,
      Expr.survivingText_rename inTurn]
  · rw [filterText_of_supported againSupported withinLimit, Expr.survivingText_empty,
      Expr.print_regroup]
    rfl

def factoredChoice : Expr :=
  .binary .or factoredSum (.property "D")

theorem readExpr_factoredChoice :
    readExpr defaultDepth "(A add B) mul C gt 1 or D".toList = .ok factoredChoice := by
  have sum : Writes Operator.or.precedence factoredSum "(A add B) mul C gt 1".toList :=
    writes_factoredSum
  have choice : Writes (Operator.or.precedence + 1) (.property "D") "D".toList :=
    (Writes.property (isFieldPath_of_path? (by decide) (by decide))).loosen (by decide)
  exact (sum.spaced choice).readExpr_eq (by decide)

theorem filterText_filterText_of_factoredChoice :
    let first : Target := ⟨Mapping.empty.withRename "B" "Cost", 9⟩
    let second : Target := ⟨(Mapping.empty.withRename "A" "Price").withDeleted "Cost", 9⟩
    let both : Target := ⟨(Mapping.empty.withRename "A" "Price").withDeleted "B", 9⟩
    readExpr defaultDepth "(A add B) mul C gt 1 or D".toList = .ok factoredChoice ∧
      first.filterText factoredChoice = .ok "(A add Cost mul C gt 1) or (D)" ∧
      both.filterText factoredChoice = .ok "D" ∧
      ∃ between text, first.filterText factoredChoice = .ok between ∧
        both.filterText factoredChoice = .ok text ∧
        (deepestNesting between.toList ≤ maxNesting →
          ∃ again, readExpr defaultDepth between.toList = .ok again ∧
            (second.WithinDepth again → second.filterText again = .ok text) ∧
            ∀ depthLimit, Target.WithinDepth ⟨.empty, depthLimit⟩ again →
              Target.filterText ⟨.empty, depthLimit⟩ again = .ok between) := by
  intro first second both
  have kept : ∀ name ∈ factoredChoice.fields, first.mapping.removes name = false := by decide
  have targets : ∀ pair ∈ first.mapping.renames, IsFieldPath pair.target.toList := by
    intro pair member
    obtain rfl := List.mem_singleton.1 member
    exact isFieldPath_of_path? (by decide) (by decide)
  have composed : ∀ name ∈ factoredChoice.fields, both.mapping.target? name =
      (first.mapping.target? name).bind second.mapping.target? := by decide
  have supported : factoredChoice.Supported := Expr.firstUnsupported_eq_none_iff.1 rfl
  have translated : first.filterText factoredChoice = .ok "(A add Cost mul C gt 1) or (D)" := by
    cbv
  have atOnce : both.filterText factoredChoice = .ok "D" := by rfl
  exact ⟨readExpr_factoredChoice, translated, atOnce,
    filterText_filterText readExpr_factoredChoice supported kept targets composed
      (withinDepth_of_filterText translated) (withinDepth_of_filterText atOnce)⟩

end ODataAdapter.Target
