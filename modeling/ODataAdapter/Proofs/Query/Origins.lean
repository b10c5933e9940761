import ODataAdapter.Proofs.Filter.Nodes
import ODataAdapter.Proofs.Order.Acceptance
import ODataAdapter.Proofs.Query.Keys

/-!
Where the options of a query come from: each of them is what its reader made of a text. So sort keys
are on fields, as are the properties of a filter, and counts have no blanks around them.
-/

namespace ODataAdapter

theorem exists_of_map_eq_ok {ε α β : Type} {f : α → β} {outcome : Except ε α} {value : β}
    (found : outcome.map f = .ok value) : ∃ given, outcome = .ok given ∧ f given = value := by
  cases outcome with
  | error error => simp [Except.map] at found
  | ok given => exact ⟨given, rfl, Except.ok.inj found⟩

theorem Order.startsOperand_of_readChain {text : List Char} {chain : SortChain}
    (found : readChain text = .ok chain) :
    ∀ key ∈ chain.keys, Filter.StartsOperand key.property.toList :=
  fun key member => ((writes_of_readChain found).isPath key member).startsOperand

namespace Query

/-- Each option that is given is what its reader makes of a text. -/
structure ReadOptions (depthLimit : Nat) (options : QueryOptions) : Prop where
  filter : ∀ expr, options.filter = some expr → ∃ text, Filter.readExpr depthLimit text = .ok expr
  order : ∀ chain, options.order = some chain → ∃ text, Order.readChain text = .ok chain
  inlineCount : ∀ count, options.inlineCount = some count →
    ∃ text, count = String.ofList (Text.trim text)

variable {depthLimit : Nat} {options read : QueryOptions}

theorem readOptions_empty : ReadOptions depthLimit {} where
  filter := by simp
  order := by simp
  inlineCount := by simp

theorem ReadOptions.setOption {key : OptionKey} {value : List Char}
    (before : ReadOptions depthLimit options)
    (found : Query.setOption depthLimit options key value = .ok read) :
    ReadOptions depthLimit read := by
  cases key with
  | filter =>
      obtain ⟨expr, outcome, rfl⟩ := exists_of_map_eq_ok found
      refine ⟨fun given same => ?_, before.order, before.inlineCount⟩
      obtain rfl := Option.some.inj same
      exact ⟨value, outcome⟩
  | orderby =>
      obtain ⟨chain, outcome, rfl⟩ := exists_of_map_eq_ok found
      refine ⟨before.filter, fun given same => ?_, before.inlineCount⟩
      obtain rfl := Option.some.inj same
      exact ⟨value, outcome⟩
  | skip =>
      obtain ⟨count, _, rfl⟩ := exists_of_map_eq_ok found
      exact ⟨before.filter, before.order, before.inlineCount⟩
  | top =>
      obtain ⟨count, _, rfl⟩ := exists_of_map_eq_ok found
      exact ⟨before.filter, before.order, before.inlineCount⟩
  | inlineCount =>
      obtain rfl := Except.ok.inj found
      refine ⟨before.filter, before.order, fun given same => ?_⟩
      obtain rfl := Option.some.inj same
      exact ⟨value, rfl⟩

theorem ReadOptions.readClauses {seen : List String} {clauses : List (List Char × List Char)}
    (before : ReadOptions depthLimit options)
    (found : Query.readClauses depthLimit seen options clauses = .ok read) :
    ReadOptions depthLimit read := by
  induction clauses generalizing seen options with
  | nil =>
      obtain rfl := Except.ok.inj found
      exact before
  | cons clause clauses ih =>
      obtain ⟨key, value⟩ := clause
      simp only [Query.readClauses] at found
      split at found
      · exact ih before found
      · split at found
        · simp at found
        · split at found
          · exact ih before found
          · split at found
            · rename_i set
              exact ih (before.setOption set) found
            · simp at found

theorem readOptions_of_ofText {text : String}
    (found : QueryOptions.ofText depthLimit text = .ok options) : ReadOptions depthLimit options :=
  readOptions_empty.readClauses found

end Query

end ODataAdapter
