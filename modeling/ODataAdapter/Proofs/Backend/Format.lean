import ODataAdapter.Proofs.Backend.Forwarding
import ODataAdapter.Proofs.Backend.Survival
import ODataAdapter.Proofs.Query.Origins

/-!
The format of an assembled query. Which clauses it has follows from the options alone: the filter is
there unless all of it is pruned, and the ordering unless all of its keys are, for neither is ever
blank otherwise. Paging and counts are there as they are given, a blank count too.
-/

namespace ODataAdapter

@[simp] theorem isBlankText_empty : isBlankText "" = true := rfl

theorem isBlankText_append (first second : String) :
    isBlankText (first ++ second) = (isBlankText first && isBlankText second) := by
  simp [isBlankText, Text.allBlank]

theorem isBlankText_of_startsOperand {text : String} (starts : Filter.StartsOperand text.toList) :
    isBlankText text = false := by
  have visible := starts.isBlank_head
  obtain ⟨char, isHead, _⟩ := starts
  cases whole : text.toList with
  | nil => simp [whole] at isHead
  | cons first rest =>
      rw [whole] at visible
      simp [isBlankText, Text.allBlank, whole, visible first rfl]

theorem eq_empty_of_trimmed {text : List Char}
    (blank : isBlankText (String.ofList (Text.trim text)) = true) :
    String.ofList (Text.trim text) = "" := by
  rw [isBlankText, String.toList_ofList] at blank
  rw [Text.eq_nil_of_blank_end (List.nil_append (Text.trim text)).symm blank]

namespace Filter.Expr

def LeafNotBlank : Expr → Prop
  | literal text => isBlankText text = false
  | property name => isBlankText name = false
  | _ => True

theorem leafNotBlank_asRead : HoldsAsRead LeafNotBlank where
  binary _ _ _ := trivial
  literal _ _ _ found := by
    have starts := startsOperand_of_literal? found
    exact isBlankText_of_startsOperand (by simpa using starts)
  call _ _ _ _ _ := trivial
  property _ _ _ found := by
    have starts := startsOperand_of_path? found
    exact isBlankText_of_startsOperand (by simpa using starts)
  unsupported _ := trivial

theorem isBlankText_inParens (text : String) : isBlankText (inParens text) = false := by
  have opening : isBlankText "(" = false := by decide
  simp [inParens, isBlankText_append, opening]

theorem isBlankText_print {tree : Expr} (leaf : tree.LeafNotBlank) :
    isBlankText tree.print = false := by
  cases tree with
  | binary op left right =>
      have token : isBlankText op.token = false := by cases op <;> decide
      simp only [print]
      split
      · simp [isBlankText_append, token]
      · simp [isBlankText_append, token]
  | convert source => exact isBlankText_inParens source.print
  | call name args => simp [print, isBlankText_append, isBlankText_inParens]
  | literal text => exact leaf
  | property name => exact leaf
  | unsupported description =>
      have opening : isBlankText "<unsupported: " = false := by decide
      simp [print, placeholder, isBlankText_append, opening]

theorem Everywhere.root {holds : Expr → Prop} {tree : Expr} (everywhere : tree.Everywhere holds) :
    holds tree := by
  cases tree with
  | binary op left right => exact everywhere.1
  | convert source => exact everywhere.1
  | call name args => exact everywhere.1
  | literal text => exact everywhere
  | property name => exact everywhere
  | unsupported description => exact everywhere

theorem isBlankText_print_pruneGrouped {mapping : Mapping}
    (targets : ∀ pair ∈ mapping.renames, isBlankText pair.target = false) {expr tree : Expr}
    (leaves : expr.Everywhere LeafNotBlank) (left : expr.pruneGrouped mapping = some tree) :
    isBlankText tree.print = false := by
  have kept : tree.Everywhere LeafNotBlank :=
    everywhere_pruneGrouped (fun _ _ _ _ => trivial) (fun _ _ _ _ _ _ _ _ => trivial)
      (fun _ => trivial) (fun _ _ _ named => named)
      (fun _ _ found named => target?_of_names (isBlankText · = false) targets found named)
      leaves left
  exact isBlankText_print kept.root

end Filter.Expr

theorem mem_textClause_iff {key value name given : String} :
    (name, given) ∈ textClause key value ↔
      name = key ∧ given = value ∧ isBlankText value = false := by
  unfold textClause
  split <;> simp_all

theorem mem_optionClause_iff {key name given : String} {allowed : Bool} {value : Option String} :
    (name, given) ∈ optionClause key allowed value ↔
      name = key ∧ allowed = true ∧ value = some given := by
  unfold optionClause
  cases allowed <;> cases value <;> simp [eq_comm]

namespace Target

open ODataAdapter.Filter (Expr)
open ODataAdapter.Filter.Expr (LeafNotBlank)

variable {target : Target}

theorem filterText_cases {expr : Expr} {text : String}
    (translated : target.filterText expr = .ok text) :
    expr.prune target.mapping = none ∧ text = "" ∨
      ∃ tree, expr.pruneGrouped target.mapping = some tree ∧ text = tree.print := by
  obtain ⟨rendered, found⟩ := Option.isSome_iff_exists.1 (withinDepth_of_filterText translated)
  have same := Expr.eq_of_render found
  simp only [filterText, renderFilter, found] at translated
  cases left : expr.pruneGrouped target.mapping with
  | none =>
      refine Or.inl ⟨Expr.pruneGrouped_eq_none_iff.1 left, ?_⟩
      simpa [same, left, Expr.renderedAs, eq_comm] using translated
  | some tree =>
      refine Or.inr ⟨tree, rfl, ?_⟩
      cases first : tree.firstUnsupported with
      | none => simpa [same, left, Expr.renderedAs, first, eq_comm] using translated
      | some description => simp [same, left, Expr.renderedAs, first] at translated

theorem filterText_notBlank_iff
    (targets : ∀ pair ∈ target.mapping.renames, isBlankText pair.target = false) {expr : Expr}
    (leaves : expr.Everywhere LeafNotBlank) {text : String}
    (translated : target.filterText expr = .ok text) :
    isBlankText text = false ↔ expr.prune target.mapping ≠ none := by
  rcases filterText_cases translated with ⟨gone, rfl⟩ | ⟨tree, left, rfl⟩
  · simp [gone]
  · have kept : expr.prune target.mapping ≠ none := fun gone => by
      simp [Expr.pruneGrouped_eq_none_iff.2 gone] at left
    exact iff_of_true (Expr.isBlankText_print_pruneGrouped targets leaves left) kept

theorem keyText?_notBlank
    (targets : ∀ pair ∈ target.mapping.renames, isBlankText pair.target = false) {key : SortKey}
    (field : isBlankText key.property = false) {text : String}
    (found : target.keyText? key = some text) : isBlankText text = false := by
  obtain ⟨name, foundName, rfl⟩ := Option.map_eq_some_iff.1 found
  have named := Expr.target?_of_names (isBlankText · = false) targets foundName field
  split
  · simp [isBlankText_append, named]
  · exact named

theorem keyText?_eq_none_iff {key : SortKey} :
    target.keyText? key = none ↔ target.mapping.removes key.property = true := by
  simp [keyText?, Mapping.target?]

theorem orderText_notBlank_iff
    (targets : ∀ pair ∈ target.mapping.renames, isBlankText pair.target = false)
    {chain : SortChain} (fields : ∀ key ∈ chain.keys, isBlankText key.property = false) :
    isBlankText (target.orderText chain) = false ↔
      ∃ key ∈ chain.keys, target.mapping.removes key.property = false := by
  have texts : ∀ text ∈ chain.keys.filterMap target.keyText?, isBlankText text = false := by
    intro text member
    obtain ⟨key, keyMember, found⟩ := List.mem_filterMap.1 member
    exact keyText?_notBlank targets (fields key keyMember) found
  have someText : chain.keys.filterMap target.keyText? ≠ [] ↔
      ∃ key ∈ chain.keys, target.mapping.removes key.property = false := by
    simp [List.filterMap_eq_nil_iff, keyText?_eq_none_iff]
  rw [← someText, orderText]
  cases kept : chain.keys.filterMap target.keyText? with
  | nil => simp
  | cons text rest =>
      have visible := texts text (by simp [kept])
      cases rest with
      | nil => simp [visible]
      | cons next rest => simp [isBlankText_append, visible]

/-- What is sent for the options: clauses in a fixed order and none twice, the filter unless all of
it is pruned, the ordering unless all of its keys are, and what else is given and allowed, with its
value. A value is blank only where a blank count is given. -/
structure SendsOptions (target : Target) (allow : Allowance) (options : QueryOptions)
    (sent : List (String × String)) : Prop where
  ordered : (sent.map Prod.fst).Sublist optionNames
  filter : ∀ value, ("$filter", value) ∈ sent ↔ ∃ expr, options.filter = some expr ∧
    expr.prune target.mapping ≠ none ∧ target.filterText expr = .ok value
  order : ∀ value, ("$orderby", value) ∈ sent ↔ ∃ chain, options.order = some chain ∧
    (∃ key ∈ chain.keys, target.mapping.removes key.property = false) ∧
      target.orderText chain = value
  skip : ∀ value, ("$skip", value) ∈ sent ↔ allow.skip = true ∧
    ∃ count, options.skip = some count ∧ toString count.toNat = value
  top : ∀ value, ("$top", value) ∈ sent ↔ allow.top = true ∧
    ∃ count, options.top = some count ∧ toString count.toNat = value
  inlineCount : ∀ value, ("$inlinecount", value) ∈ sent ↔ allow.count = true ∧
    options.inlineCount = some value
  blank : (∃ clause ∈ sent, isBlankText clause.2 = true) ↔ allow.count = true ∧
    options.inlineCount = some ""

variable {allow : Allowance} {options : QueryOptions} {sent : List (String × String)}

theorem isBlankText_toString (value : Nat) : isBlankText (toString value) = false := by
  obtain ⟨char, rest, digits⟩ := List.exists_cons_of_ne_nil
    (Nat.toDigits_ne_nil : Nat.toDigits 10 value ≠ [])
  have isDigit : char.isDigit = true :=
    Nat.isDigit_of_mem_toDigits (by decide) (by decide) (digits ▸ List.mem_cons_self)
  exact isBlankText_of_startsOperand ⟨char, by simp [digits], Or.inr (Or.inl isDigit)⟩

theorem mem_clausesWith_iff {filter key value : String} :
    (key, value) ∈ target.clausesWith allow options filter ↔
      (key = "$filter" ∧ value = filter ∧ isBlankText filter = false) ∨
      (key = "$orderby" ∧ value = (options.order.map target.orderText).getD "" ∧
        isBlankText ((options.order.map target.orderText).getD "") = false) ∨
      (key = "$skip" ∧ allow.skip = true ∧
        (options.skip.map fun count => toString count.toNat) = some value) ∨
      (key = "$top" ∧ allow.top = true ∧
        (options.top.map fun count => toString count.toNat) = some value) ∨
      (key = "$inlinecount" ∧ allow.count = true ∧ options.inlineCount = some value) := by
  simp only [clausesWith, List.mem_append, mem_textClause_iff, mem_optionClause_iff, or_assoc]

section Read

variable {depthLimit : Nat} {filter : String}
  (targets : ∀ pair ∈ target.mapping.renames, isBlankText pair.target = false)
  (read : Query.ReadOptions depthLimit options)

include read

theorem blank_mem_clausesWith_iff :
    (∃ clause ∈ target.clausesWith allow options filter, isBlankText clause.2 = true) ↔
      allow.count = true ∧ options.inlineCount = some "" := by
  have number {given : Option UInt64} {value : String}
      (found : (given.map fun count => toString count.toNat) = some value) :
      isBlankText value = false := by
    obtain ⟨count, _, rfl⟩ := Option.map_eq_some_iff.1 found
    exact isBlankText_toString count.toNat
  constructor
  · rintro ⟨⟨key, value⟩, member, blank⟩
    rcases mem_clausesWith_iff.1 member with ⟨_, rfl, visible⟩ | ⟨_, rfl, visible⟩ |
      ⟨_, _, found⟩ | ⟨_, _, found⟩ | ⟨_, allowed, found⟩
    · simp [visible] at blank
    · simp [visible] at blank
    · simp [number found] at blank
    · simp [number found] at blank
    · obtain ⟨text, rfl⟩ := read.inlineCount value found
      rw [eq_empty_of_trimmed blank] at found
      exact ⟨allowed, found⟩
  · rintro ⟨allowed, found⟩
    exact ⟨("$inlinecount", ""), mem_clausesWith_iff.2 (by simp [allowed, found]), by decide⟩

include targets

theorem filter_mem_clausesWith_iff (translates : target.Translates options.filter filter)
    {value : String} :
    ("$filter", value) ∈ target.clausesWith allow options filter ↔
      ∃ expr, options.filter = some expr ∧ expr.prune target.mapping ≠ none ∧
        target.filterText expr = .ok value := by
  cases given : options.filter with
  | none => simp [mem_clausesWith_iff, translates.none given]
  | some expr =>
      have translated := translates.some expr given
      obtain ⟨text, found⟩ := read.filter expr given
      have leaves := Filter.everywhere_of_readExpr Expr.leafNotBlank_asRead found
      have visible := filterText_notBlank_iff targets leaves translated
      simp [mem_clausesWith_iff, translated, visible, and_comm, eq_comm (a := value)]

theorem order_mem_clausesWith_iff {value : String} :
    ("$orderby", value) ∈ target.clausesWith allow options filter ↔
      ∃ chain, options.order = some chain ∧
        (∃ key ∈ chain.keys, target.mapping.removes key.property = false) ∧
          target.orderText chain = value := by
  cases given : options.order with
  | none => simp [mem_clausesWith_iff, given]
  | some chain =>
      obtain ⟨text, found⟩ := read.order chain given
      have fields : ∀ key ∈ chain.keys, isBlankText key.property = false :=
        fun key member => isBlankText_of_startsOperand
          (Order.startsOperand_of_readChain found key member)
      have visible := orderText_notBlank_iff targets fields
      simp [mem_clausesWith_iff, given, visible, and_comm, eq_comm (a := value)]

theorem sendsOptions_of_clauses (assembled : target.clauses allow options = .ok sent) :
    target.SendsOptions allow options sent := by
  obtain ⟨filter, translates, same⟩ := clauses_eq_clausesWith assembled
  have ordered := clauses_keys_sublist assembled
  rw [same] at ordered ⊢
  exact
    { ordered
      filter := fun _ => filter_mem_clausesWith_iff targets read translates
      order := fun _ => order_mem_clausesWith_iff targets read
      skip := fun _ => by simp [mem_clausesWith_iff]
      top := fun _ => by simp [mem_clausesWith_iff]
      inlineCount := fun _ => by simp [mem_clausesWith_iff]
      blank := blank_mem_clausesWith_iff read }

end Read

/-- A query for options that were read from a text consists of clauses: a question mark, and each
clause with its key, `=`, its value and `&` behind it. The clauses are those that the options ask
for. -/
theorem query_sendsOptions {depthLimit : Nat} {text query : String}
    (targets : ∀ pair ∈ target.mapping.renames, isBlankText pair.target = false)
    (read : QueryOptions.ofText depthLimit text = .ok options)
    (assembled : target.query allow options = .ok query) :
    ∃ sent, target.clauses allow options = .ok sent ∧ query = queryText sent ∧
      target.SendsOptions allow options sent := by
  obtain ⟨sent, found, rfl⟩ := exists_of_map_eq_ok assembled
  exact ⟨sent, found, rfl, sendsOptions_of_clauses targets (Query.readOptions_of_ofText read) found⟩

theorem query_sendsOptions_of_partly_deleted_ordering :
    let target : Target := ⟨(Mapping.empty.withRename "Name" "Cust_Name").withDeleted "Secret", 9⟩
    let options : QueryOptions :=
      { order := some (.more ⟨"Name", true⟩ (.last ⟨"Secret", false⟩)), top := some 5 }
    QueryOptions.ofText defaultDepth "$top=5&$orderby=Name desc,Secret" = .ok options ∧
      target.query .all options = .ok "?$orderby=Cust_Name desc&$top=5&" ∧
        ∃ sent, target.clauses .all options = .ok sent ∧
          "?$orderby=Cust_Name desc&$top=5&" = queryText sent ∧
            target.SendsOptions .all options sent := by
  intro target options
  have read : QueryOptions.ofText defaultDepth "$top=5&$orderby=Name desc,Secret" =
      .ok options := by
    have found : Query.clausesOf "$top=5&$orderby=Name desc,Secret" =
        [(Query.OptionKey.top.name.toList, "5".toList),
         (Query.OptionKey.orderby.name.toList, "Name desc,Secret".toList)] := by decide
    have count : Query.count? (Text.trim "5".toList) = some 5 := by decide
    have trimmed : Text.trim "Name desc,Secret".toList = "Name desc,Secret".toList := by decide
    have keys : Order.keys "Name desc,Secret".toList =
        ([⟨"Name", true⟩, ⟨"Secret", false⟩], []) := by decide
    have chain : Order.readChain "Name desc,Secret".toList =
        .ok (.more ⟨"Name", true⟩ (.last ⟨"Secret", false⟩)) := by
      simp only [Order.readChain, trimmed, keys, Text.allBlank, List.all_nil, if_true]
      rfl
    rw [QueryOptions.ofText, found,
      Query.readClauses_named .top List.not_mem_nil (Query.setOption_top count),
      Query.readClauses_named .orderby (by decide) (Query.setOption_orderby chain),
      Query.readClauses]
  have targets : ∀ pair ∈ target.mapping.renames, isBlankText pair.target = false := by
    intro pair member
    obtain rfl := List.mem_singleton.1 member
    decide
  have order : target.orderText (.more ⟨"Name", true⟩ (.last ⟨"Secret", false⟩)) =
      "Cust_Name desc" := by
    have kept : target.keyText? ⟨"Name", true⟩ = some "Cust_Name desc" := by rfl
    have deleted : target.keyText? ⟨"Secret", false⟩ = none := by rfl
    simp [orderText, SortChain.keys, kept, deleted]
  have assembled : target.query .all options = .ok "?$orderby=Cust_Name desc&$top=5&" := by
    simp only [query, clauses, options, Option.map_some, order]
    rfl
  exact ⟨read, assembled, query_sendsOptions targets read assembled⟩

/-- A blank count is sent as a clause with an empty value. -/
theorem exists_empty_clause_of_blank_count :
    let target : Target := ⟨.empty, defaultDepth⟩
    let options : QueryOptions := { top := some 5, inlineCount := some "" }
    QueryOptions.ofText defaultDepth "$top=5&$inlinecount=" = .ok options ∧
      target.query .all options = .ok "?$top=5&$inlinecount=&" ∧
        ∃ sent, target.clauses .all options = .ok sent ∧
          "?$top=5&$inlinecount=&" = queryText sent ∧ ∃ clause ∈ sent, clause.2 = "" := by
  intro target options
  refine ⟨?_, by rfl, [("$top", "5"), ("$inlinecount", "")], by rfl, by rfl, ?_⟩
  · have found : Query.clausesOf "$top=5&$inlinecount=" =
        [(Query.OptionKey.top.name.toList, "5".toList),
         (Query.OptionKey.inlineCount.name.toList, [])] := by decide
    have count : Query.count? (Text.trim "5".toList) = some 5 := by decide
    have setCount : Query.setOption defaultDepth { top := some 5 } .inlineCount [] =
        .ok options := by rfl
    rw [QueryOptions.ofText, found,
      Query.readClauses_named .top List.not_mem_nil (Query.setOption_top count),
      Query.readClauses_named .inlineCount (by decide) setCount, Query.readClauses]
  · exact ⟨("$inlinecount", ""), by simp, rfl⟩

end Target

end ODataAdapter
