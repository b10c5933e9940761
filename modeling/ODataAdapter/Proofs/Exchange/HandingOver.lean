import ODataAdapter.Exchange.Mapping
import ODataAdapter.Proofs.Exchange.TakingBack
import ODataAdapter.Proofs.Mapping.Layers

/-!
The JSON text of a filter, an ordering, the options of a query or a mapping holds all of it: the
value is taken back from the text as it was, up to the depth that JSON may nest. Here is also what
the text says where a value has a part that may be missing.
-/

namespace ODataAdapter

theorem NameSet.ofList_names (set : NameSet) : ofList set.names = set :=
  NameSet.ext fun name => contains_ofList set.names name

def Json.member? : Json → String → Option Json
  | object members, name => members.lookup name
  | _, _ => none

namespace Exchange

open ODataAdapter.Filter (Expr Operator)

theorem takesBack_rename (pair : Rename) : TakesBack rename renameToJson pair := by
  intro budget
  cases budget with
  | zero => simp [rename, renameToJson, Json.nesting]
  | succ budget =>
      rw [rename, renameToJson, members?_object (by simp) (by simp)]
      simp [takesBack_string pair.source budget, takesBack_string pair.target budget,
        Json.nesting, Json.nestingMembers, List.lookup]

theorem takesBack_mapping (value : Mapping) : TakesBack mapping mappingToJson value := by
  have renamesTaken := takesBack_list fun pair (_ : pair ∈ value.renames) => takesBack_rename pair
  have namesTaken := takesBack_list fun name (_ : name ∈ value.deleted.names) =>
    takesBack_string name
  intro budget
  cases budget with
  | zero => simp [mapping, mappingToJson, Json.nesting]
  | succ budget =>
      have renamesRead := renamesTaken budget
      have namesRead := namesTaken budget
      rw [mapping, mappingToJson, members?_object (by simp) (by simp)]
      simp [renamesRead, namesRead, NameSet.ofList_names, Json.nesting, Json.nestingMembers,
        List.lookup, ite_some_bind, ite_and]

theorem whole_renameToJson (pair : Rename) : (renameToJson pair).Whole :=
  whole_object ⟨.string _, .string _⟩

theorem whole_mappingToJson (value : Mapping) : (mappingToJson value).Whole := by
  have pairs : (Json.array (value.renames.map renameToJson)).Whole := by
    refine .array fun item isItem => ?_
    obtain ⟨pair, _, rfl⟩ := List.mem_map.1 isItem
    exact whole_renameToJson pair
  have names : (Json.array (value.deleted.names.map .string)).Whole := by
    refine .array fun item isItem => ?_
    obtain ⟨name, _, rfl⟩ := List.mem_map.1 isItem
    exact .string name
  exact whole_object ⟨pairs, names⟩

theorem optionToJson_eq_null_iff {α : Type} {encode : α → Json}
    (notNull : ∀ given, encode given ≠ .null) {value : Option α} :
    optionToJson encode value = .null ↔ value = none := by
  cases value with
  | none => simp [optionToJson]
  | some given => simp [optionToJson, notNull given]

def keyMembers (key : SortKey) : List (String × Json) :=
  [("property", .string key.property), ("descending", .bool key.descending)]

def linkToJson (key : SortKey) (next : Json) : Json :=
  .object (keyMembers key ++ [("next", next)])

theorem chainToJson_eq_foldr (chain : SortChain) :
    chainToJson chain = chain.keys.dropLast.foldr linkToJson
      (.object (keyMembers (chain.keys.getLast chain.keys_ne_nil))) := by
  induction chain with
  | last key => rfl
  | more key rest ih =>
      have nonempty := rest.keys_ne_nil
      rw [chainToJson, ih]
      simp only [SortChain.keys, List.dropLast_cons_of_ne_nil nonempty, List.foldr_cons,
        List.getLast_cons nonempty]
      rfl

theorem isLower_token (op : Operator) : ∀ char ∈ op.token.toList, char.isLower = true := by
  cases op <;> exact List.all_iff_forall_prop.1 (by decide)

/-- Every value is taken back from its JSON text as it was, if that nests less than a hundred and
twenty-eight arrays and objects, and refused otherwise. -/
def HandsOver {α : Type} (decode : Decoder α) (encode : α → Json) : Prop :=
  ∀ value, decodeText? decode (encode value).compact =
    if (encode value).nesting < 128 then some value else none

theorem handsOver {α : Type} {decode : Decoder α} {encode : α → Json}
    (taken : ∀ value, TakesBack decode encode value) (whole : ∀ value, (encode value).Whole) :
    HandsOver decode encode := by
  intro value
  rw [decodeText?_compact (taken value) (whole value)]
  exact if_congr Nat.lt_succ_iff.symm rfl rfl

/-- Filters, orderings, options and mappings are taken back from their JSON as they were. The last
sort key has no member for a next one, options that are absent are null, an operator is its word in
small letters, and the deleted names are in ascending order. -/
theorem handOver_loses_nothing :
    (HandsOver expr exprToJson ∧ HandsOver chain chainToJson ∧ HandsOver options optionsToJson ∧
      HandsOver mapping mappingToJson) ∧
    (∀ chain : SortChain, chainToJson chain = chain.keys.dropLast.foldr linkToJson
      (.object (keyMembers (chain.keys.getLast chain.keys_ne_nil)))) ∧
    (∀ options : QueryOptions,
      ((optionsToJson options).member? "filter" = some .null ↔ options.filter = none) ∧
      ((optionsToJson options).member? "order" = some .null ↔ options.order = none) ∧
      ((optionsToJson options).member? "skip" = some .null ↔ options.skip = none) ∧
      ((optionsToJson options).member? "top" = some .null ↔ options.top = none) ∧
      ((optionsToJson options).member? "inline_count" = some .null ↔
        options.inlineCount = none)) ∧
    (∀ op left right, ((exprToJson (.binary op left right)).member? "Binary").bind
        (·.member? "op") = some (.string op.token) ∧
      ∀ char ∈ op.token.toList, char.isLower = true) ∧
    ∀ mapping : Mapping,
      (mappingToJson mapping).member? "delete" =
        some (.array (mapping.deleted.names.map .string)) ∧
      mapping.deleted.names.Pairwise (· < ·) := by
  have present {name : String} {members : List (String × Json)} {value : Json}
      (isMember : members.lookup name = some value) :
      (Json.object members).member? name = some .null ↔ value = .null := by
    rw [Json.member?, isMember, Option.some.injEq]
  refine ⟨⟨?_, ?_, ?_, ?_⟩, chainToJson_eq_foldr, fun options => ⟨?_, ?_, ?_, ?_, ?_⟩,
    fun op left right => ⟨?_, isLower_token op⟩, fun mapping => ⟨rfl, mapping.deleted.ascending⟩⟩
  · exact handsOver takesBack_expr whole_exprToJson
  · exact handsOver takesBack_chain whole_chainToJson
  · exact handsOver takesBack_options whole_optionsToJson
  · exact handsOver takesBack_mapping whole_mappingToJson
  · exact (present rfl).trans (optionToJson_eq_null_iff exprToJson_ne_null)
  · exact (present rfl).trans (optionToJson_eq_null_iff chainToJson_ne_null)
  · exact (present rfl).trans (optionToJson_eq_null_iff (by simp [countToJson]))
  · exact (present rfl).trans (optionToJson_eq_null_iff (by simp [countToJson]))
  · exact (present rfl).trans (optionToJson_eq_null_iff (by simp))
  · rw [exprToJson]
    rfl

end Exchange

end ODataAdapter
