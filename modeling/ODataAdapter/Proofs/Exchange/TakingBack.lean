import ODataAdapter.Exchange.Options
import ODataAdapter.Proofs.Filter.Tree
import ODataAdapter.Proofs.Json.Rereading

/-!
Values that are handed over as JSON. What was written for a filter, an ordering or the options of a
query is taken back as the same value, as long as it nests no deeper than the reader allows, and
refused otherwise. Each node of a filter takes two levels or three, and each sort key one.
-/

namespace ODataAdapter

namespace Json

mutual

def nesting : Json → Nat
  | array items => nestingItems items + 1
  | object members => nestingMembers members + 1
  | null | bool _ | number _ | string _ => 0

def nestingItems : List Json → Nat
  | [] => 0
  | item :: items => max item.nesting (nestingItems items)

def nestingMembers : List (String × Json) → Nat
  | [] => 0
  | (_, value) :: members => max value.nesting (nestingMembers members)

end

theorem toWritten_eq_null {value : Json} (same : value.toWritten = .null) : value = null := by
  cases value with
  | null => rfl
  | bool value => simp [toWritten] at same
  | number value => simp [toWritten] at same
  | string value => simp [toWritten] at same
  | array items => simp [toWritten] at same
  | object members => simp [toWritten] at same

end Json

namespace Exchange

open ODataAdapter.Filter (Expr Operator)

/-- A decoder returns a value from what was written for it, if that nests no deeper than the
budget. -/
def TakesBack {α : Type} (decode : Decoder α) (encode : α → Json) (value : α) : Prop :=
  ∀ budget, decode budget (encode value).toWritten =
    if (encode value).nesting ≤ budget then some value else none

section Parts

variable {α : Type} {decode : Decoder α} {encode : α → Json}

theorem takesBack_string (text : String) : TakesBack string .string text := by
  intro budget
  simp [string, Json.toWritten, Json.nesting, WrittenString.toString?_ofString]

theorem takesBack_bool (value : Bool) : TakesBack bool .bool value := by
  intro budget
  simp [bool, Json.toWritten, Json.nesting]

theorem takesBack_operator (op : Operator) : TakesBack operator operatorToJson op := by
  intro budget
  simp [operator, operatorToJson, Json.toWritten, Json.nesting,
    WrittenString.toString?_ofString, Operator.ofToken?_token]

theorem takesBack_count (value : UInt64) : TakesBack count countToJson value := by
  intro budget
  have small : value.toNat < UInt64.size := value.toNat_lt
  have positive : ¬((value.toNat : Int) < 0) := by omega
  simp [count, countToJson, Json.toWritten, Json.nesting, WrittenNumber.ofNumber_integer,
    WrittenNumber.ofInt, WrittenNumber.whole?, positive, Text.numberOf_toDigits, small]

theorem nullable_toWritten {value : Json} (notNull : value ≠ .null) (read : Written → Option α) :
    nullable read value.toWritten = (read value.toWritten).map some := by
  cases written : value.toWritten with
  | null => exact absurd (Json.toWritten_eq_null written) notNull
  | bool value => rfl
  | number text => rfl
  | string text => rfl
  | array items => rfl
  | object members => rfl

theorem takesBack_nullable {value : Option α}
    (each : ∀ given ∈ value, TakesBack decode encode given)
    (notNull : ∀ given, encode given ≠ .null) :
    TakesBack (fun budget => nullable (decode budget)) (optionToJson encode) value := by
  intro budget
  cases value with
  | none => simp [optionToJson, nullable, Json.toWritten, Json.nesting]
  | some given =>
      simp only [optionToJson, Option.elim_some, nullable_toWritten (notNull given),
        each given rfl budget]
      by_cases shallow : (encode given).nesting ≤ budget
      · simp [shallow]
      · simp [shallow]

theorem takesBack_list {values : List α} (each : ∀ value ∈ values, TakesBack decode encode value) :
    TakesBack (list decode) (fun values => .array (values.map encode)) values := by
  intro budget
  cases budget with
  | zero => simp [list, Json.nesting]
  | succ budget =>
      simp only [list, Json.toWritten, items?, Json.toWrittenItems_eq_map, Json.nesting,
        Nat.add_le_add_iff_right]
      -- All items are read with the same budget, so the first that is too deep decides.
      induction values with
      | nil => simp [Json.nestingItems]
      | cons value values ih =>
          have first := each value List.mem_cons_self budget
          have others := ih fun value member => each value (List.mem_cons_of_mem _ member)
          simp only [List.map_cons, List.mapM_cons, first, others, Json.nestingItems, Nat.max_le]
          by_cases shallow : (encode value).nesting ≤ budget
          · by_cases othersShallow : Json.nestingItems (values.map encode) ≤ budget
            · simp [shallow, othersShallow]
            · simp [shallow, othersShallow]
          · simp [shallow]

def readField (field : String × Json) : String × Written :=
  (field.1, field.2.toWritten)

theorem mapM_writtenMember (fields : List (String × Json)) :
    (Json.toWrittenMembers fields).mapM (fun (name, value) =>
      (WrittenString.toString? name).map (·, value)) = some (fields.map readField) := by
  induction fields with
  | nil => rfl
  | cons field fields ih =>
      rw [Json.toWrittenMembers, List.mapM_cons, ih]
      simp [WrittenString.toString?_ofString, readField]

theorem lookup_readField (fields : List (String × Json)) (name : String) :
    (fields.map readField).lookup name = (fields.lookup name).map Json.toWritten := by
  induction fields with
  | nil => rfl
  | cons field fields ih =>
      by_cases same : name = field.1
      · simp [List.lookup, same, readField]
      · have different : (name == field.1) = false := beq_eq_false_iff_ne.2 same
        simpa [List.lookup, different, readField] using ih

theorem members?_object {names : List String} {fields : List (String × Json)}
    (known : ∀ field ∈ fields, field.1 ∈ names) (distinct : (fields.map Prod.fst).Nodup) :
    members? names (Json.object fields).toWritten =
      some (names.map fun name => (fields.lookup name).map Json.toWritten) := by
  have own : ∀ field ∈ fields.map readField, names.contains field.1 = true := by
    intro field isField
    obtain ⟨member, isMember, rfl⟩ := List.mem_map.1 isField
    simpa [readField] using known member isMember
  have once (name : String) : ((fields.map readField).filter (·.1 = name)).length ≤ 1 := by
    calc
      ((fields.map readField).filter (·.1 = name)).length =
          (fields.map Prod.fst).count name := by
        rw [← List.countP_eq_length_filter, List.countP_map, List.count, List.countP_map]
        exact List.countP_congr fun field _ => decide_eq_true_iff.trans beq_iff_eq.symm
      _ ≤ 1 := List.nodup_iff_count.1 distinct name
  simp only [members?, Json.toWritten, pick?, mapM_writtenMember, Option.bind_eq_bind,
    Option.bind_some, List.filter_eq_self.2 own, lookup_readField]
  simp [once]

@[simp] theorem withDefault_none (default : α) (read : Written → Option α) :
    withDefault default read none = some default := rfl

@[simp] theorem withDefault_some (default : α) (read : Written → Option α) (value : Written) :
    withDefault default read (some value) = read value := rfl

theorem ite_some_bind {β : Type} (holds : Prop) [Decidable holds] (value : α)
    (next : α → Option β) :
    (if holds then some value else none).bind next = if holds then next value else none := by
  by_cases given : holds
  · simp [given]
  · simp [given]

end Parts

theorem exprsToJson_eq_map (args : List Expr) : exprsToJson args = args.map exprToJson := by
  induction args with
  | nil => rfl
  | cons arg args ih => rw [exprsToJson, ih, List.map_cons]

theorem exprToJson_ne_null (value : Expr) : exprToJson value ≠ .null := by
  cases value <;> simp [exprToJson, nodeToJson]

theorem chainToJson_ne_null (chain : SortChain) : chainToJson chain ≠ .null := by
  cases chain <;> simp [chainToJson]

theorem nesting_nodeToJson (kind : String) (fields : List (String × Json)) :
    (nodeToJson kind fields).nesting = Json.nestingMembers fields + 2 := by
  simp [nodeToJson, Json.nesting, Json.nestingMembers]

theorem expr_nodeToJson (budget : Nat) (kind : String) (fields : List (String × Json)) :
    expr (budget + 2) (nodeToJson kind fields).toWritten =
      node (expr budget) (list expr budget) budget kind (Json.object fields).toWritten := by
  have known := WrittenString.toString?_ofString kind
  cases budget with
  | zero =>
      have none : list expr 0 = fun _ => none := rfl
      simp [nodeToJson, Json.toWritten, Json.toWrittenMembers, expr, known, none]
  | succ inner =>
      have some : list expr (inner + 1) = items? (expr inner) := rfl
      simp [nodeToJson, Json.toWritten, Json.toWrittenMembers, expr, known, some]

theorem takesBack_node {value : Expr} {kind : String} {fields : List (String × Json)}
    (written : exprToJson value = nodeToJson kind fields)
    (read : ∀ budget, node (expr budget) (list expr budget) budget kind
      (Json.object fields).toWritten =
        if Json.nestingMembers fields ≤ budget then some value else none) :
    TakesBack expr exprToJson value := by
  intro budget
  rw [written, nesting_nodeToJson]
  -- Below two levels there is no node to read, and the written node has two.
  match budget with
  | 0 => simp [expr]
  | 1 => simp [expr]
  | budget + 2 =>
      rw [expr_nodeToJson, read]
      simp

theorem takesBack_expr (value : Expr) : TakesBack expr exprToJson value := by
  induction value using Expr.structural with
  | binary op left right ihLeft ihRight =>
      refine takesBack_node (by rw [exprToJson]) fun budget => ?_
      rw [node, members?_object (by simp) (by simp)]
      simp [takesBack_operator op budget, ihLeft budget, ihRight budget, Json.nestingMembers,
        List.lookup, ite_some_bind, ite_and]
  | convert source ih =>
      refine takesBack_node (by rw [exprToJson]) fun budget => ?_
      rw [node, members?_object (by simp) (by simp)]
      simp [ih budget, Json.nestingMembers, List.lookup]
  | call name args ih =>
      have taken := takesBack_list ih
      simp only [← exprsToJson_eq_map] at taken
      refine takesBack_node (by rw [exprToJson]) fun budget => ?_
      rw [node, members?_object (by simp) (by simp)]
      simp [takesBack_string name budget, taken budget, Json.nestingMembers, List.lookup,
        ite_some_bind, ite_and]
  | literal text =>
      refine takesBack_node (by rw [exprToJson]) fun budget => ?_
      rw [node, members?_object (by simp) (by simp)]
      simp [takesBack_string text budget, Json.nestingMembers, List.lookup]
  | property name =>
      refine takesBack_node (by rw [exprToJson]) fun budget => ?_
      rw [node, members?_object (by simp) (by simp)]
      simp [takesBack_string name budget, Json.nestingMembers, List.lookup]
  | unsupported description =>
      refine takesBack_node (by rw [exprToJson]) fun budget => ?_
      rw [node, members?_object (by simp) (by simp)]
      simp [takesBack_string description budget, Json.nestingMembers, List.lookup]

theorem takesBack_chain (value : SortChain) : TakesBack chain chainToJson value := by
  induction value with
  | last key =>
      intro budget
      cases budget with
      | zero => simp [chain, chainToJson, Json.nesting]
      | succ budget =>
          rw [chain, chainToJson, members?_object (by simp) (by simp)]
          simp [takesBack_string key.property budget, takesBack_bool key.descending budget,
            Json.nesting, Json.nestingMembers, List.lookup]
  | more key rest ih =>
      intro budget
      cases budget with
      | zero => simp [chain, chainToJson, Json.nesting]
      | succ budget =>
          rw [chain, chainToJson, members?_object (by simp) (by simp)]
          simp [takesBack_string key.property budget, takesBack_bool key.descending budget,
            nullable_toWritten (chainToJson_ne_null rest), ih budget, Json.nesting,
            Json.nestingMembers, List.lookup, ite_some_bind]

theorem takesBack_options (value : QueryOptions) : TakesBack options optionsToJson value := by
  have filterTaken : TakesBack (fun budget => nullable (expr budget)) _ value.filter :=
    takesBack_nullable (fun given _ => takesBack_expr given) exprToJson_ne_null
  have orderTaken : TakesBack (fun budget => nullable (chain budget)) _ value.order :=
    takesBack_nullable (fun given _ => takesBack_chain given) chainToJson_ne_null
  have countTaken (given : Option UInt64) :
      TakesBack (fun budget => nullable (count budget)) _ given :=
    takesBack_nullable (fun given _ => takesBack_count given) (by simp [countToJson])
  have textTaken : TakesBack (fun budget => nullable (string budget)) _ value.inlineCount :=
    takesBack_nullable (fun given _ => takesBack_string given) (by simp)
  intro budget
  cases budget with
  | zero => simp [options, optionsToJson, Json.nesting]
  | succ budget =>
      have filterRead := filterTaken budget
      have orderRead := orderTaken budget
      have skipRead := countTaken value.skip budget
      have topRead := countTaken value.top budget
      have textRead := textTaken budget
      rw [options, optionsToJson, members?_object (by simp) (by simp)]
      simp [filterRead, orderRead, skipRead, topRead, textRead, Json.nesting, Json.nestingMembers,
        List.lookup, ite_some_bind, ite_and]

theorem whole_object {fields : List (String × Json)}
    (each : (fields.map Prod.snd).Forall Json.Whole) : (Json.object fields).Whole := by
  refine .object fun field isField => ?_
  exact List.forall_iff_forall_mem.1 each _ (List.mem_map_of_mem isField)

theorem whole_exprToJson (value : Expr) : (exprToJson value).Whole := by
  induction value using Expr.structural with
  | binary op left right ihLeft ihRight =>
      exact whole_object (whole_object ⟨.string _, ihLeft, ihRight⟩)
  | convert source ih => exact whole_object (whole_object ih)
  | call name args ih =>
      have list : (Json.array (exprsToJson args)).Whole := by
        rw [exprsToJson_eq_map]
        refine .array fun item isItem => ?_
        obtain ⟨arg, member, rfl⟩ := List.mem_map.1 isItem
        exact ih arg member
      exact whole_object (whole_object ⟨.string _, list⟩)
  | literal text => exact whole_object (whole_object (.string _))
  | property name => exact whole_object (whole_object (.string _))
  | unsupported description => exact whole_object (whole_object (.string _))

theorem whole_chainToJson (value : SortChain) : (chainToJson value).Whole := by
  induction value with
  | last key => exact whole_object ⟨.string _, .bool _⟩
  | more key rest ih => exact whole_object ⟨.string _, .bool _, ih⟩

theorem whole_optionToJson {α : Type} {encode : α → Json} (each : ∀ value, (encode value).Whole)
    (value : Option α) : (optionToJson encode value).Whole := by
  cases value with
  | none => exact .null
  | some value => exact each value

theorem whole_optionsToJson (value : QueryOptions) : (optionsToJson value).Whole := by
  have counts := whole_optionToJson fun count => Json.Whole.number (UInt64.toNat count)
  exact whole_object ⟨whole_optionToJson whole_exprToJson _,
    whole_optionToJson whole_chainToJson _, counts _, counts _, whole_optionToJson .string _⟩

/-! How deep a written value nests. -/

mutual

/-- Two objects for each node, and an array for the arguments of a call. -/
def exprLevels : Expr → Nat
  | .binary _ left right => max (exprLevels left) (exprLevels right) + 2
  | .convert source => exprLevels source + 2
  | .call _ args => argsLevels args + 3
  | .literal _ | .property _ | .unsupported _ => 2

def argsLevels : List Expr → Nat
  | [] => 0
  | arg :: args => max (exprLevels arg) (argsLevels args)

end

theorem nesting_exprToJson (value : Expr) : (exprToJson value).nesting = exprLevels value := by
  induction value using Expr.structural with
  | binary op left right ihLeft ihRight =>
      simp [exprToJson, nesting_nodeToJson, Json.nestingMembers, operatorToJson, Json.nesting,
        ihLeft, ihRight, exprLevels]
  | convert source ih =>
      simp [exprToJson, nesting_nodeToJson, Json.nestingMembers, ih, exprLevels]
  | call name args ih =>
      have list : Json.nestingItems (exprsToJson args) = argsLevels args := by
        induction args with
        | nil => rfl
        | cons arg args ihArgs =>
            have first := ih arg List.mem_cons_self
            have others := ihArgs fun arg member => ih arg (List.mem_cons_of_mem _ member)
            rw [exprsToJson, Json.nestingItems, first, others, argsLevels]
      simp [exprToJson, nesting_nodeToJson, Json.nestingMembers, Json.nesting, list, exprLevels]
  | literal text => rfl
  | property name => rfl
  | unsupported description => rfl

theorem nesting_chainToJson (value : SortChain) :
    (chainToJson value).nesting = value.keys.length := by
  induction value with
  | last key => rfl
  | more key rest ih =>
      simp [chainToJson, Json.nesting, Json.nestingMembers, ih, SortChain.keys]

/-- Options nest as deep as their filter or as they have sort keys, in one object more. -/
def optionsLevels (options : QueryOptions) : Nat :=
  max (options.filter.elim 0 exprLevels) (options.order.elim 0 (·.keys.length)) + 1

theorem nesting_optionsToJson (options : QueryOptions) :
    (optionsToJson options).nesting = optionsLevels options := by
  have optional {α : Type} (encode : α → Json) (value : Option α) :
      (optionToJson encode value).nesting = value.elim 0 fun given => (encode given).nesting := by
    cases value with
    | none => rfl
    | some given => rfl
  have flat {α : Type} (value : Option α) : (value.elim 0 fun _ => 0) = 0 := by
    cases value with
    | none => rfl
    | some given => rfl
  simp [optionsToJson, Json.nesting, Json.nestingMembers, optional, countToJson, flat,
    nesting_exprToJson, nesting_chainToJson, optionsLevels]

theorem decodeText?_compact {α : Type} {decode : Decoder α} {encode : α → Json} {value : α}
    (taken : TakesBack decode encode value) (whole : (encode value).Whole) :
    decodeText? decode (encode value).compact =
      if (encode value).nesting ≤ Written.maxNesting then some value else none := by
  have read := Written.ofText?_compact whole
  have decoded := taken Written.maxNesting
  simp [decodeText?, read, decoded]

end Exchange

end ODataAdapter
