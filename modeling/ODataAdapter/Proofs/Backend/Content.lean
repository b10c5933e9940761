import ODataAdapter.Proofs.Backend.Format
import ODataAdapter.Proofs.Backend.Refusal

/-!
When nothing is left of a query. Only the text of the query is looked at before it is sent. That
text is taken for empty exactly if nothing that was given survives: the filter is pruned, the sort
keys are on deleted fields, and paging and counts are held back. A blank count that goes through is
something.
-/

namespace ODataAdapter

open Query (OptionKey)

theorem sendable_queryText {sent : List (String × String)}
    (named : ∀ clause ∈ sent, Query.IsOption clause) :
    sendable (queryText sent) =
      if sent = [] then .error .nothingLeft else .ok (queryText sent) := by
  rw [sendable, Query.stripped_queryText named]
  cases sent with
  | nil => rfl
  | cons clause sent =>
      rw [Query.join_cons]
      simp

namespace Target

open ODataAdapter.Filter (Expr)

variable {target : Target} {allow : Allowance} {options : QueryOptions}

/-- No option reaches the backend: what is given of them is pruned, deleted or held back. -/
structure LeavesNothing (target : Target) (allow : Allowance) (options : QueryOptions) : Prop where
  filter : ∀ expr, options.filter = some expr → expr.prune target.mapping = none
  order : ∀ chain, options.order = some chain →
    ∀ key ∈ chain.keys, target.mapping.removes key.property = true
  limited : ∀ option ∈ limitedOptions, ¬Permitted allow options option

theorem filterText_of_pruned {expr : Expr} (fits : expr.height ≤ target.depthLimit)
    (gone : expr.prune target.mapping = none) : target.filterText expr = .ok "" := by
  have noObstacle : expr.leftmostObstacle target.mapping = none := by
    rw [Expr.leftmostObstacle, gone, Option.bind_none]
  have noText : expr.survivingText target.mapping = none := by
    rw [Expr.survivingText, Expr.pruneGrouped_eq_none_iff.2 gone, Option.map_none]
  rw [filterText_eq_leftmostObstacle fits, noObstacle, noText, Option.getD_none]

theorem clauses_of_translates {filter : String}
    (translates : target.Translates options.filter filter) :
    target.clauses allow options = .ok (target.clausesWith allow options filter) := by
  unfold clauses
  cases given : options.filter with
  | none =>
      obtain rfl := translates.none given
      rfl
  | some expr =>
      simp only [translates.some expr given]
      rfl

theorem withinDepth_of_height {expr : Expr} (fits : expr.height ≤ target.depthLimit) :
    target.WithinDepth expr := by
  rw [WithinDepth, Expr.render_eq fits, Option.isSome_some]

theorem exists_translates
    (translated : ∀ expr, options.filter = some expr → ∃ text, target.filterText expr = .ok text) :
    ∃ filter, target.Translates options.filter filter := by
  cases given : options.filter with
  | none => exact ⟨"", by simp, fun _ => rfl⟩
  | some expr =>
      obtain ⟨text, found⟩ := translated expr given
      refine ⟨text, fun other same => ?_, by simp⟩
      rw [← Option.some.inj same, found]

theorem query_of_translates {filter : String}
    (translates : target.Translates options.filter filter) :
    target.query allow options = .ok (queryText (target.clausesWith allow options filter)) := by
  rw [query, clauses_of_translates translates]
  rfl

theorem filterText_ne_nothingLeft (expr : Expr) : target.filterText expr ≠ .error .nothingLeft := by
  simp only [filterText, renderFilter]
  rcases expr.render target.mapping target.depthLimit with _ | _ | ⟨text, _ | description⟩
  all_goals simp

theorem query_ne_nothingLeft : target.query allow options ≠ .error .nothingLeft := by
  intro failed
  by_cases translated : ∀ expr, options.filter = some expr →
      ∃ text, target.filterText expr = .ok text
  · obtain ⟨filter, translates⟩ := exists_translates translated
    simp [query_of_translates translates] at failed
  · simp only [not_forall] at translated
    obtain ⟨expr, given, refused⟩ := translated
    cases outcome : target.filterText expr with
    | ok text => exact refused ⟨text, outcome⟩
    | error error =>
        rw [query_eq_error given outcome] at failed
        obtain rfl := Except.error.inj failed
        exact filterText_ne_nothingLeft expr outcome

theorem eq_nil_iff_leavesNothing {sent : List (String × String)}
    (assembled : target.clauses allow options = .ok sent)
    (sends : target.SendsOptions allow options sent) :
    sent = [] ↔ target.LeavesNothing allow options := by
  constructor
  · rintro rfl
    obtain ⟨filter, translates, _⟩ := clauses_eq_clausesWith assembled
    refine ⟨fun expr given => ?_, fun chain given key member => ?_,
      fun option limited permitted => ?_⟩
    · by_contra kept
      have found := (sends.filter filter).2 ⟨expr, given, kept, translates.some expr given⟩
      exact List.not_mem_nil found
    · by_contra kept
      have left : target.mapping.removes key.property = false := by simpa using kept
      have found := (sends.order _).2 ⟨chain, given, ⟨key, member, left⟩, rfl⟩
      exact List.not_mem_nil found
    · exact List.not_mem_nil ((mem_clauses_keys_iff assembled limited).2 permitted)
  · intro nothing
    rw [List.eq_nil_iff_forall_not_mem]
    rintro ⟨key, value⟩ member
    have isKey : key ∈ sent.map Prod.fst := List.mem_map_of_mem member
    obtain ⟨option, rfl⟩ : ∃ option : OptionKey, key = option.name :=
      clauses_named assembled _ member
    cases option with
    | filter =>
        obtain ⟨expr, given, kept, _⟩ := (sends.filter value).1 member
        exact kept (nothing.filter expr given)
    | orderby =>
        obtain ⟨chain, given, ⟨key, among, kept⟩, _⟩ := (sends.order value).1 member
        simp [nothing.order chain given key among] at kept
    | skip | top | inlineCount =>
        exact nothing.limited _ (by decide) ((mem_clauses_keys_iff assembled (by decide)).1 isKey)

section Read

variable {depthLimit : Nat} {text : String}
  (targets : ∀ pair ∈ target.mapping.renames, isBlankText pair.target = false)
  (read : QueryOptions.ofText depthLimit text = .ok options)

include targets read

theorem sendable_query {query : String} (assembled : target.query allow options = .ok query) :
    (target.LeavesNothing allow options → sendable query = .error .nothingLeft) ∧
      (¬target.LeavesNothing allow options → sendable query = .ok query) := by
  obtain ⟨sent, found, rfl⟩ := exists_of_map_eq_ok assembled
  have sends := sendsOptions_of_clauses targets (Query.readOptions_of_ofText read) found
  have empty := eq_nil_iff_leavesNothing found sends
  rw [sendable_queryText (clauses_named found)]
  constructor
  · intro nothing
    rw [if_pos (empty.2 nothing)]
  · intro something
    rw [if_neg (something ∘ empty.1)]

/-- A query for options that were read from a text is refused for want of content exactly if no
option reaches the backend. Any other query is sent as it was assembled, and it is assembled if the
filter has backend text throughout. -/
theorem bind_sendable_eq_nothingLeft_iff (allow : Allowance)
    (fits : ∀ expr, options.filter = some expr → expr.height ≤ target.depthLimit) :
    ((target.query allow options).bind sendable = .error .nothingLeft ↔
      target.LeavesNothing allow options) ∧
    (¬target.LeavesNothing allow options →
      (target.query allow options).bind sendable = target.query allow options) ∧
    ((∀ expr, options.filter = some expr → expr.Supported) →
      ∃ query, target.query allow options = .ok query) := by
  refine ⟨⟨fun refused => ?_, fun nothing => ?_⟩, fun something => ?_, fun supported => ?_⟩
  · cases outcome : target.query allow options with
    | error error =>
        rw [outcome, Except.bind] at refused
        rw [refused] at outcome
        exact absurd outcome query_ne_nothingLeft
    | ok query =>
        rw [outcome, Except.bind] at refused
        by_contra something
        simp [(sendable_query targets read outcome).2 something] at refused
  · obtain ⟨filter, translates⟩ := exists_translates fun expr given =>
      ⟨"", filterText_of_pruned (fits expr given) (nothing.filter expr given)⟩
    have assembled : target.query allow options = _ := query_of_translates translates
    rw [assembled, Except.bind]
    exact (sendable_query targets read assembled).1 nothing
  · cases outcome : target.query allow options with
    | error error => rfl
    | ok query =>
        rw [Except.bind]
        exact (sendable_query targets read outcome).2 something
  · obtain ⟨filter, translates⟩ := exists_translates fun expr given =>
      ⟨_, filterText_of_supported (supported expr given) (withinDepth_of_height (fits expr given))⟩
    exact ⟨_, query_of_translates translates⟩

end Read

def phoneChoice : Expr :=
  .binary .or (.binary .eq (.property "Phone") (.literal "1"))
    (.binary .eq (.property "Phone") (.literal "2"))

theorem readExpr_phoneChoice :
    Filter.readExpr defaultDepth "Phone eq 1 or Phone eq 2".toList = .ok phoneChoice := by
  have field : Filter.Writes Filter.Operator.eq.precedence (.property "Phone") "Phone".toList :=
    (Filter.Writes.property (Filter.isFieldPath_of_path? (by decide) (by decide))).loosen
      (by decide)
  have value {text : String} (spelled : Filter.IsLiteral text.toList) :
      Filter.Writes (Filter.Operator.eq.precedence + 1) (.literal text) text.toList :=
    (Filter.Writes.literal spelled).loosen (by decide)
  have one := field.spaced
    (value (Filter.isLiteral_of_literal? (by decide) (by decide) : Filter.IsLiteral "1".toList))
  have two := field.spaced
    (value (Filter.isLiteral_of_literal? (by decide) (by decide) : Filter.IsLiteral "2".toList))
  have left : Filter.Writes Filter.Operator.or.precedence _ _ := one.loosen (by decide)
  have right : Filter.Writes (Filter.Operator.or.precedence + 1) _ _ := two.loosen (by decide)
  exact (left.spaced right).readExpr_eq (by decide)

theorem bind_sendable_eq_nothingLeft_of_deleted_field :
    let target : Target := ⟨(Mapping.empty.withRename "Name" "Cust_Name").withDeleted "Phone", 3⟩
    let options : QueryOptions :=
      { filter := some phoneChoice, order := some (.last ⟨"Phone", false⟩), top := some 5 }
    QueryOptions.ofText defaultDepth
        "$filter=Phone eq 1 or Phone eq 2&$orderby=Phone&$top=5" = .ok options ∧
      (target.query .none options).bind sendable = .error .nothingLeft ∧
      (target.query .all options).bind sendable = .ok "?$top=5&" := by
  intro target options
  have read : QueryOptions.ofText defaultDepth
      "$filter=Phone eq 1 or Phone eq 2&$orderby=Phone&$top=5" = .ok options := by
    have found : Query.clausesOf "$filter=Phone eq 1 or Phone eq 2&$orderby=Phone&$top=5" =
        [(OptionKey.filter.name.toList, "Phone eq 1 or Phone eq 2".toList),
         (OptionKey.orderby.name.toList, "Phone".toList),
         (OptionKey.top.name.toList, "5".toList)] := by decide
    have count : Query.count? (Text.trim "5".toList) = some 5 := by decide
    have trimmed : Text.trim "Phone".toList = "Phone".toList := by decide
    have keys : Order.keys "Phone".toList = ([⟨"Phone", false⟩], []) := by decide
    have chain : Order.readChain "Phone".toList = .ok (.last ⟨"Phone", false⟩) := by
      simp only [Order.readChain, trimmed, keys, Text.allBlank, List.all_nil, if_true]
      rfl
    rw [QueryOptions.ofText, found,
      Query.readClauses_named .filter List.not_mem_nil
        (Query.setOption_filter readExpr_phoneChoice),
      Query.readClauses_named .orderby (by decide) (Query.setOption_orderby chain),
      Query.readClauses_named .top (by decide) (Query.setOption_top count), Query.readClauses]
  have targets : ∀ pair ∈ target.mapping.renames, isBlankText pair.target = false := by
    intro pair member
    obtain rfl := List.mem_singleton.1 member
    decide
  have fits : ∀ expr, options.filter = some expr → expr.height ≤ target.depthLimit := by
    intro expr given
    obtain rfl := Option.some.inj given
    decide
  have nothing : target.LeavesNothing .none options := by
    refine ⟨fun expr given => ?_, fun chain given => ?_, fun option limited => ?_⟩
    · obtain rfl := Option.some.inj given
      rfl
    · obtain rfl := Option.some.inj given
      decide
    · revert limited
      cases option <;> simp [limitedOptions, Permitted, Allowance.none]
  have something : ¬target.LeavesNothing .all options := fun nothing =>
    nothing.limited .top (by decide) ⟨rfl, rfl⟩
  have assembled : target.query .all options = .ok "?$top=5&" := by rfl
  refine ⟨read, ?_, ?_⟩
  · exact (bind_sendable_eq_nothingLeft_iff targets read .none fits).1.2 nothing
  · rw [(bind_sendable_eq_nothingLeft_iff targets read .all fits).2.1 something, assembled]

end Target

end ODataAdapter
