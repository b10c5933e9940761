import ODataAdapter.Proofs.Backend.Printing
import ODataAdapter.Proofs.Query.Keys

/-!
Which options reach the backend. Of the clauses that a query is made of, paging and counts are there
only when they are allowed and given, and no option is there twice. A reader of the query finds more
than these exactly if a value adds keys of its own.
-/

namespace ODataAdapter

open Query (OptionKey keysOf strayKeys)

def limitedOptions : List OptionKey :=
  [.skip, .top, .inlineCount]

def Permitted (allow : Allowance) (options : QueryOptions) : OptionKey → Prop
  | .filter | .orderby => True
  | .skip => allow.skip = true ∧ options.skip.isSome = true
  | .top => allow.top = true ∧ options.top.isSome = true
  | .inlineCount => allow.count = true ∧ options.inlineCount.isSome = true

structure ForwardsOnly (allow : Allowance) (options : QueryOptions) (keys : List String) :
    Prop where
  permitted : ∀ option : OptionKey, option.name ∈ keys → Permitted allow options option
  once : ∀ option : OptionKey, keys.count option.name ≤ 1

def addedKeys (sent : List (String × String)) : List String :=
  sent.flatMap fun clause => strayKeys clause.2

/-- The values add no option that has to be allowed and repeat no other. -/
def AddsNoOption (sent : List (String × String)) : Prop :=
  (∀ option ∈ limitedOptions, option.name ∉ addedKeys sent) ∧
    ∀ option : OptionKey, option ∉ limitedOptions →
      (sent.map Prod.fst).count option.name + (addedKeys sent).count option.name ≤ 1

namespace Target

variable {target : Target} {allow : Allowance} {options : QueryOptions}
  {sent : List (String × String)}

def clausesWith (target : Target) (allow : Allowance) (options : QueryOptions) (filter : String) :
    List (String × String) :=
  textClause "$filter" filter ++
    textClause "$orderby" ((options.order.map target.orderText).getD "") ++
    optionClause "$skip" allow.skip (options.skip.map fun count => toString count.toNat) ++
    optionClause "$top" allow.top (options.top.map fun count => toString count.toNat) ++
    optionClause "$inlinecount" allow.count options.inlineCount

structure Translates (target : Target) (given : Option Filter.Expr) (text : String) : Prop where
  some : ∀ expr, given = some expr → target.filterText expr = .ok text
  none : given = none → text = ""

theorem clauses_eq_clausesWith (assembled : target.clauses allow options = .ok sent) :
    ∃ filter, target.Translates options.filter filter ∧
      sent = target.clausesWith allow options filter := by
  unfold clauses at assembled
  cases given : options.filter with
  | none =>
      rw [given] at assembled
      exact ⟨"", ⟨by simp, fun _ => rfl⟩, (Except.ok.inj assembled).symm⟩
  | some expr =>
      rw [given] at assembled
      cases written : target.filterText expr with
      | error error => simp [written, bind, Except.bind] at assembled
      | ok filter =>
          simp only [written] at assembled
          refine ⟨filter, ⟨fun other same => ?_, by simp⟩, (Except.ok.inj assembled).symm⟩
          rw [← Option.some.inj same, written]

theorem clauses_eq_ok (assembled : target.clauses allow options = .ok sent) :
    ∃ filter order : String,
      sent = textClause "$filter" filter ++ textClause "$orderby" order ++
        optionClause "$skip" allow.skip (options.skip.map fun count => toString count.toNat) ++
        optionClause "$top" allow.top (options.top.map fun count => toString count.toNat) ++
        optionClause "$inlinecount" allow.count options.inlineCount := by
  obtain ⟨filter, _, same⟩ := clauses_eq_clausesWith assembled
  exact ⟨filter, _, same⟩

theorem textClause_keys (key value : String) :
    ((textClause key value).map Prod.fst).Sublist [key] := by
  unfold textClause
  split
  · exact List.nil_sublist _
  · exact List.Sublist.refl _

theorem optionClause_keys (key : String) (allowed : Bool) (value : Option String) :
    ((optionClause key allowed value).map Prod.fst).Sublist [key] := by
  unfold optionClause
  split
  · cases value with
    | none => exact List.nil_sublist _
    | some value => exact List.Sublist.refl _
  · exact List.nil_sublist _

theorem mem_optionClause_keys {key name : String} {allowed : Bool} {value : Option String} :
    name ∈ (optionClause key allowed value).map Prod.fst ↔
      name = key ∧ allowed = true ∧ value.isSome = true := by
  unfold optionClause
  cases allowed <;> cases value <;> simp

def optionNames : List String :=
  ["$filter", "$orderby", "$skip", "$top", "$inlinecount"]

theorem clauses_keys_sublist (assembled : target.clauses allow options = .ok sent) :
    (sent.map Prod.fst).Sublist optionNames := by
  obtain ⟨filter, order, rfl⟩ := clauses_eq_ok assembled
  simp only [List.map_append]
  exact ((((textClause_keys "$filter" filter).append (textClause_keys "$orderby" order)).append
    (optionClause_keys "$skip" _ _)).append (optionClause_keys "$top" _ _)).append
      (optionClause_keys "$inlinecount" _ _)

theorem clauses_named (assembled : target.clauses allow options = .ok sent) :
    ∀ clause ∈ sent, Query.IsOption clause := by
  intro clause member
  have names : ∀ name ∈ optionNames, ∃ option : OptionKey, name = option.name := by
    simp only [optionNames, List.forall_mem_cons, List.not_mem_nil, false_implies, implies_true,
      and_true]
    exact ⟨⟨.filter, rfl⟩, ⟨.orderby, rfl⟩, ⟨.skip, rfl⟩, ⟨.top, rfl⟩, ⟨.inlineCount, rfl⟩⟩
  exact names clause.1 ((clauses_keys_sublist assembled).subset (List.mem_map_of_mem member))

theorem clauses_once (assembled : target.clauses allow options = .ok sent) (name : String) :
    (sent.map Prod.fst).count name ≤ 1 := by
  have distinct : optionNames.Nodup := by decide
  exact List.nodup_iff_count.1 (distinct.sublist (clauses_keys_sublist assembled)) name

theorem mem_clauses_keys_iff (assembled : target.clauses allow options = .ok sent)
    {option : OptionKey} (limited : option ∈ limitedOptions) :
    option.name ∈ sent.map Prod.fst ↔ Permitted allow options option := by
  obtain ⟨filter, order, rfl⟩ := clauses_eq_ok assembled
  have noFilter : option.name ∉ (textClause "$filter" filter).map Prod.fst := fun member => by
    have same := (textClause_keys "$filter" filter).subset member
    revert same limited
    cases option <;> decide
  have noOrder : option.name ∉ (textClause "$orderby" order).map Prod.fst := fun member => by
    have same := (textClause_keys "$orderby" order).subset member
    revert same limited
    cases option <;> decide
  simp only [List.map_append, List.mem_append, noFilter, noOrder, false_or,
    mem_optionClause_keys, Option.isSome_map]
  cases option with
  | filter => simp [limitedOptions] at limited
  | orderby => simp [limitedOptions] at limited
  | skip => simp [OptionKey.name, Permitted]
  | top => simp [OptionKey.name, Permitted]
  | inlineCount => simp [OptionKey.name, Permitted]

end Target

theorem count_keys (sent : List (String × String)) (name : String) :
    (sent.flatMap fun clause => clause.1 :: strayKeys clause.2).count name =
      (sent.map Prod.fst).count name + (addedKeys sent).count name := by
  induction sent with
  | nil => rfl
  | cons clause sent ih =>
      simp only [addedKeys] at ih
      simp only [List.flatMap_cons, List.map_cons, addedKeys, List.cons_append, List.count_cons,
        List.count_append, ih]
      omega

namespace Target

variable {target : Target} {allow : Allowance} {options : QueryOptions}

/-- No option reaches the backend that must not, exactly if no value adds an option to the query:
one that has to be allowed, or one that is there already. -/
theorem forwardsOnly_iff_addsNoOption {query : String}
    (assembled : target.query allow options = .ok query) :
    ∃ sent, target.clauses allow options = .ok sent ∧ query = queryText sent ∧
      (ForwardsOnly allow options (keysOf query) ↔ AddsNoOption sent) := by
  simp only [Target.query] at assembled
  cases found : target.clauses allow options with
  | error error => simp [found, Except.map] at assembled
  | ok sent =>
      rw [found] at assembled
      obtain rfl : queryText sent = query := Except.ok.inj assembled
      refine ⟨sent, rfl, rfl, ?_⟩
      have counts (name : String) : (keysOf (queryText sent)).count name =
          (sent.map Prod.fst).count name + (addedKeys sent).count name := by
        rw [Query.keysOf_queryText (clauses_named found), count_keys]
      constructor
      · intro forwards
        -- A limited option that is added is permitted, so it has been sent too: it is there twice.
        refine ⟨fun option limited added => ?_, fun option _ => ?_⟩
        · have addedCount := List.count_pos_iff.2 added
          have reaches : option.name ∈ keysOf (queryText sent) := by
            rw [← List.count_pos_iff, counts]
            omega
          have sentToo := (mem_clauses_keys_iff found limited).2
            (forwards.permitted option reaches)
          have sentCount := List.count_pos_iff.2 sentToo
          have once := forwards.once option
          rw [counts] at once
          omega
        · rw [← counts]
          exact forwards.once option
      · rintro ⟨noneAdded, noRepetition⟩
        refine ⟨fun option reaches => ?_, fun option => ?_⟩
        · by_cases limited : option ∈ limitedOptions
          · refine (mem_clauses_keys_iff found limited).1 (List.count_pos_iff.1 ?_)
            have reachesCount := List.count_pos_iff.2 reaches
            rw [counts, List.count_eq_zero_of_not_mem (noneAdded option limited)] at reachesCount
            exact reachesCount
          · cases option with
            | filter => trivial
            | orderby => trivial
            | skip => simp [limitedOptions] at limited
            | top => simp [limitedOptions] at limited
            | inlineCount => simp [limitedOptions] at limited
        · rw [counts]
          by_cases limited : option ∈ limitedOptions
          · rw [List.count_eq_zero_of_not_mem (noneAdded option limited)]
            exact clauses_once found option.name
          · exact noRepetition option limited

theorem addsNoOption_of_free {sent : List (String × String)}
    (assembled : target.clauses allow options = .ok sent)
    (free : ∀ clause ∈ sent, '&' ∉ clause.2.toList) : AddsNoOption sent := by
  have none : addedKeys sent = [] :=
    List.flatMap_eq_nil_iff.2 fun clause member => Query.strayKeys_eq_nil (free clause member)
  refine ⟨fun option _ => by simp [none], fun option _ => ?_⟩
  simpa [none] using clauses_once assembled option.name

def quotedClause : Filter.Expr :=
  .binary .eq (.property "Name") (.literal "'a&$skip=5&b'")

theorem writes_quotedClause : Filter.Writes 0 quotedClause "Name eq 'a&$skip=5&b'".toList := by
  have field : Filter.IsFieldPath "Name".toList :=
    Filter.isFieldPath_of_path? (by decide) (by decide)
  have quoted : Filter.IsLiteral "'a&$skip=5&b'".toList :=
    Filter.isLiteral_of_literal? (by decide) (by decide)
  have name : Filter.Writes Filter.Operator.eq.precedence (.property "Name") "Name".toList :=
    (Filter.Writes.property field).loosen (by decide)
  have clause : Filter.Writes (Filter.Operator.eq.precedence + 1) (.literal "'a&$skip=5&b'")
      "'a&$skip=5&b'".toList := (Filter.Writes.literal quoted).loosen (by decide)
  exact (name.spaced clause).loosen (Nat.zero_le _)

theorem forwardsOnly_iff_addsNoOption_of_quotedClause :
    Target.query ⟨.empty, defaultDepth⟩ .none { filter := some quotedClause } =
        .ok "?$filter=Name eq 'a&$skip=5&b'&" ∧
      ∃ sent,
        Target.clauses ⟨.empty, defaultDepth⟩ .none { filter := some quotedClause } = .ok sent ∧
        "?$filter=Name eq 'a&$skip=5&b'&" = queryText sent ∧
          (ForwardsOnly .none { filter := some quotedClause }
            (keysOf "?$filter=Name eq 'a&$skip=5&b'&") ↔ AddsNoOption sent) := by
  have assembled : Target.query ⟨.empty, defaultDepth⟩ .none { filter := some quotedClause } =
      .ok "?$filter=Name eq 'a&$skip=5&b'&" := by rfl
  exact ⟨assembled, forwardsOnly_iff_addsNoOption assembled⟩

/-- An escaped `&` in a quoted string lets a query that asks for no paging send some, against what
is allowed. -/
theorem not_forwardsOnly_of_escaped_separator :
    QueryOptions.ofText defaultDepth "$filter=Name eq 'a%26$skip=5%26b'" =
        .ok { filter := some quotedClause } ∧
      Target.query ⟨.empty, defaultDepth⟩ .none { filter := some quotedClause } =
          .ok "?$filter=Name eq 'a&$skip=5&b'&" ∧
        ¬ForwardsOnly .none { filter := some quotedClause }
            (keysOf "?$filter=Name eq 'a&$skip=5&b'&") := by
  refine ⟨?_, by rfl, fun forwards => ?_⟩
  · have found : Query.clausesOf "$filter=Name eq 'a%26$skip=5%26b'" =
        [("$filter".toList, "Name eq 'a&$skip=5&b'".toList)] := by decide
    have key : String.ofList (Text.trim "$filter".toList) = "$filter" := by decide
    have option : OptionKey.ofName? "$filter" = some .filter := by decide
    have read : Filter.readExpr defaultDepth "Name eq 'a&$skip=5&b'".toList = .ok quotedClause :=
      writes_quotedClause.readExpr_eq (by decide)
    have nonempty : "$filter".isEmpty = false := by decide
    simp only [QueryOptions.ofText, found, Query.readClauses, key, nonempty, List.contains_nil,
      Bool.false_eq_true, if_false, option, Query.setOption, read, Except.map]
  · have reaches : OptionKey.skip.name ∈ keysOf "?$filter=Name eq 'a&$skip=5&b'&" := by decide
    exact absurd (forwards.permitted .skip reaches).1 (by decide)

end Target

end ODataAdapter
