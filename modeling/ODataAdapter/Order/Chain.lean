/-!
Orderings: sort keys that are applied from left to right, at least one.
-/

namespace ODataAdapter

structure SortKey where
  property : String
  descending : Bool := false
  deriving DecidableEq, Repr, Inhabited

inductive SortChain
  | last (key : SortKey)
  | more (key : SortKey) (rest : SortChain)
  deriving DecidableEq, Repr, Inhabited

namespace SortChain

def keys : SortChain → List SortKey
  | last key => [key]
  | more key rest => key :: rest.keys

theorem keys_ne_nil (chain : SortChain) : chain.keys ≠ [] := by
  cases chain with
  | last key => exact List.cons_ne_nil _ _
  | more key rest => exact List.cons_ne_nil _ _

def ofKeys? : List SortKey → Option SortChain
  | [] => none
  | key :: keys => some ((ofKeys? keys).elim (last key) (more key))

def followedBy : SortChain → SortKey → SortChain
  | last first, key => more first (last key)
  | more first rest, key => more first (rest.followedBy key)

@[simp] theorem keys_followedBy (chain : SortChain) (key : SortKey) :
    (chain.followedBy key).keys = chain.keys ++ [key] := by
  induction chain with
  | last first => rfl
  | more first rest ih => simp [followedBy, keys, ih]

theorem ofKeys?_keys (chain : SortChain) : ofKeys? chain.keys = some chain := by
  induction chain with
  | last key => rfl
  | more key rest ih => simp [keys, ofKeys?, ih]

theorem keys_of_ofKeys? {keys : List SortKey} {chain : SortChain}
    (found : ofKeys? keys = some chain) : chain.keys = keys := by
  induction keys generalizing chain with
  | nil => simp [ofKeys?] at found
  | cons key keys ih =>
      obtain rfl := Option.some.inj found
      cases rest : ofKeys? keys with
      | some chain => simp [SortChain.keys, ih rest]
      | none =>
          cases keys with
          | nil => rfl
          | cons next keys => simp [ofKeys?] at rest

theorem exists_keys_eq {keys : List SortKey} (nonempty : keys ≠ []) :
    ∃ chain : SortChain, chain.keys = keys := by
  obtain ⟨key, rest, rfl⟩ := List.exists_cons_of_ne_nil nonempty
  exact ⟨_, keys_of_ofKeys? rfl⟩

end SortChain

end ODataAdapter
