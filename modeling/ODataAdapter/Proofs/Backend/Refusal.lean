import ODataAdapter.Backend.Assembly
import ODataAdapter.Proofs.Backend.Survival

/-!
Which filters are refused for want of backend text. Only what is left of a tree after pruning
counts, and of the nodes in it that have no text the leftmost is reported.
-/

namespace ODataAdapter.Filter.Expr

mutual

def obstacles : Expr → List String
  | binary _ left right => left.obstacles ++ right.obstacles
  | convert source => source.obstacles
  | call _ args => obstaclesIn args
  | literal _ | property _ => []
  | unsupported description => [description]

def obstaclesIn : List Expr → List String
  | [] => []
  | arg :: args => arg.obstacles ++ obstaclesIn args

end

theorem firstUnsupported_eq_head? (expr : Expr) :
    expr.firstUnsupported = expr.obstacles.head? := by
  induction expr using structural with
  | binary op left right ihLeft ihRight =>
      simp [firstUnsupported, obstacles, List.head?_append, ihLeft, ihRight]
  | convert source ih => rw [firstUnsupported, obstacles, ih]
  | call name args ih =>
      rw [firstUnsupported, obstacles]
      induction args with
      | nil => rfl
      | cons arg args ihArgs =>
          have first := ih arg List.mem_cons_self
          have others := ihArgs fun arg member => ih arg (List.mem_cons_of_mem _ member)
          simp [firstUnsupportedIn, obstaclesIn, List.head?_append, first, others]
  | literal text => rfl
  | property name => rfl
  | unsupported description => rfl

theorem head?_obstacles_eq_none_iff {expr : Expr} :
    expr.obstacles.head? = none ↔ expr.Supported := by
  rw [← firstUnsupported_eq_head?, firstUnsupported_eq_none_iff]

theorem obstacles_eraseConverts (expr : Expr) : expr.eraseConverts.obstacles = expr.obstacles := by
  induction expr using structural with
  | binary op left right ihLeft ihRight => rw [eraseConverts, obstacles, obstacles, ihLeft, ihRight]
  | convert source ih => rw [eraseConverts, obstacles, ih]
  | call name args ih =>
      rw [eraseConverts, obstacles, obstacles]
      induction args with
      | nil => rfl
      | cons arg args ihArgs =>
          have first := ih arg List.mem_cons_self
          have others := ihArgs fun arg member => ih arg (List.mem_cons_of_mem _ member)
          rw [eraseConvertsAll, obstaclesIn, obstaclesIn, first, others]
  | literal text => rfl
  | property name => rfl
  | unsupported description => rfl

theorem obstacles_pruneGrouped (mapping : Mapping) (expr : Expr) :
    (expr.pruneGrouped mapping).map obstacles = (expr.prune mapping).map obstacles := by
  have erased := congrArg (Option.map obstacles) (eraseConverts_pruneGrouped mapping expr)
  simpa only [Option.map_map, Function.comp_def, obstacles_eraseConverts] using erased

/-- The leftmost node without backend text in what is left of a tree. -/
def leftmostObstacle (mapping : Mapping) (expr : Expr) : Option String :=
  (expr.prune mapping).bind fun tree => tree.obstacles.head?

theorem leftmostObstacle_eq_some_iff {mapping : Mapping} {expr : Expr} {description : String} :
    expr.leftmostObstacle mapping = some description ↔
      ∃ tree, expr.prune mapping = some tree ∧ tree.obstacles.head? = some description := by
  rw [leftmostObstacle, Option.bind_eq_some_iff]

theorem exists_leftmostObstacle_iff {mapping : Mapping} {expr : Expr} :
    (∃ description, expr.leftmostObstacle mapping = some description) ↔
      ∃ tree, expr.prune mapping = some tree ∧ ¬tree.Supported := by
  simp only [leftmostObstacle_eq_some_iff, ← head?_obstacles_eq_none_iff]
  constructor
  · rintro ⟨description, tree, left, first⟩
    exact ⟨tree, left, by simp [first]⟩
  · rintro ⟨tree, left, nonempty⟩
    obtain ⟨description, first⟩ := Option.ne_none_iff_exists'.1 nonempty
    exact ⟨description, tree, left, first⟩

end ODataAdapter.Filter.Expr

namespace ODataAdapter.Target

open ODataAdapter.Filter (Expr)

variable {target : Target} {expr : Expr}

theorem filterText_eq_leftmostObstacle (fits : expr.height ≤ target.depthLimit) :
    target.filterText expr =
      match expr.leftmostObstacle target.mapping with
      | some description => .error (.unsupported description)
      | none => .ok ((expr.survivingText target.mapping).getD "") := by
  have same := Expr.obstacles_pruneGrouped target.mapping expr
  simp only [filterText, renderFilter, Expr.render_eq fits, Expr.survivingText,
    Expr.leftmostObstacle]
  rcases Expr.both_or_neither same with ⟨gone, gone'⟩ | ⟨grouped, tree, found, found', same⟩
  · simp [gone, gone', Expr.renderedAs]
  · rw [found, found', Option.bind_some, ← same, ← Expr.firstUnsupported_eq_head?]
    simp only [Expr.renderedAs]
    cases grouped.firstUnsupported with
    | none => rfl
    | some description => rfl

theorem query_eq_error {allow : Allowance} {options : QueryOptions} {error : AdaptError}
    (given : options.filter = some expr) (refused : target.filterText expr = .error error) :
    target.query allow options = .error error := by
  simp only [query, clauses, given, refused, bind, Except.bind, Except.map]

theorem exists_query_eq_ok {allow : Allowance} {options : QueryOptions} {text : String}
    (given : options.filter = some expr) (translated : target.filterText expr = .ok text) :
    ∃ query, target.query allow options = .ok query := by
  simp only [query, clauses, given, translated, bind, Except.bind, Except.map, pure, Except.pure]
  exact ⟨_, rfl⟩

/-- A filter within the depth limit is refused exactly if a node without backend text is left in it
after pruning, with the description of the leftmost one. A query with such a filter is refused with
the same error, and with any other filter it is assembled. -/
theorem filterText_eq_unsupported_iff (target : Target) {expr : Expr}
    (fits : expr.height ≤ target.depthLimit) :
    ((∃ description, target.filterText expr = .error (.unsupported description)) ↔
      ∃ tree, expr.prune target.mapping = some tree ∧ ¬tree.Supported) ∧
    (∀ description, target.filterText expr = .error (.unsupported description) ↔
      ∃ tree, expr.prune target.mapping = some tree ∧
        tree.obstacles.head? = some description) ∧
    ∀ (allow : Allowance) (options : QueryOptions), options.filter = some expr →
      (∀ description, target.filterText expr = .error (.unsupported description) →
        target.query allow options = .error (.unsupported description)) ∧
      ((∀ description, target.filterText expr ≠ .error (.unsupported description)) →
        ∃ query, target.query allow options = .ok query) := by
  have outcome := filterText_eq_leftmostObstacle fits
  have refused (description : String) :
      target.filterText expr = .error (.unsupported description) ↔
        expr.leftmostObstacle target.mapping = some description := by
    rw [outcome]
    cases expr.leftmostObstacle target.mapping with
    | none => simp
    | some found => simp
  refine ⟨?_, ?_, ?_⟩
  · simp only [refused]
    exact Expr.exists_leftmostObstacle_iff
  · intro description
    rw [refused]
    exact Expr.leftmostObstacle_eq_some_iff
  · intro allow options given
    constructor
    · intro description failed
      exact query_eq_error given failed
    · intro accepted
      cases found : expr.leftmostObstacle target.mapping with
      | some description => exact absurd ((refused description).2 found) (accepted description)
      | none =>
          rw [found] at outcome
          exact exists_query_eq_ok given outcome

theorem filterText_eq_unsupported_iff_of_pruned_side :
    let target : Target := ⟨Mapping.empty.withDeleted "A", 4⟩
    let expr : Expr :=
      .binary .or (.binary .eq (.unsupported "unary: -B") (.property "A"))
        (.call "f" [.literal "1", .convert (.unsupported "unary: -C"), .unsupported "unary: -D"])
    expr.height ≤ target.depthLimit ∧
      target.filterText expr = .error (.unsupported "unary: -C") ∧
      ((∃ description, target.filterText expr = .error (.unsupported description)) ↔
        ∃ tree, expr.prune target.mapping = some tree ∧ ¬tree.Supported) ∧
      (∀ description, target.filterText expr = .error (.unsupported description) ↔
        ∃ tree, expr.prune target.mapping = some tree ∧
          tree.obstacles.head? = some description) ∧
      ∀ (allow : Allowance) (options : QueryOptions), options.filter = some expr →
        (∀ description, target.filterText expr = .error (.unsupported description) →
          target.query allow options = .error (.unsupported description)) ∧
        ((∀ description, target.filterText expr ≠ .error (.unsupported description)) →
          ∃ query, target.query allow options = .ok query) :=
  ⟨by decide, by rfl, filterText_eq_unsupported_iff _ (by decide)⟩

end ODataAdapter.Target
