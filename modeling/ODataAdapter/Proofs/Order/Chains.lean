import ODataAdapter.Order.Chain

/-!
Chains of sort keys are the lists of keys with at least one. A chain is walked from its front, and
the steps of the walk yield its keys in their order and then nothing. A chain with a key behind it
is the one that is put together from all of these keys, which is never none.
-/

namespace ODataAdapter.SortChain

def first : SortChain → SortKey
  | last key => key
  | more key _ => key

def next? : SortChain → Option SortChain
  | last _ => none
  | more _ rest => some rest

theorem keys_eq (chain : SortChain) :
    chain.keys = chain.first :: (chain.next?.map keys).getD [] := by
  cases chain with
  | last key => rfl
  | more key rest => rfl

/-- Where a walk stands: in front of the rest of a chain, or at the end. -/
abbrev Cursor := Option SortChain

namespace Cursor

def step : Cursor → Option SortKey × Cursor
  | none => (none, none)
  | some chain => (some chain.first, chain.next?)

def yielded (cursor : Cursor) : Nat → Option SortKey
  | 0 => (step cursor).1
  | count + 1 => yielded (step cursor).2 count

def ahead (cursor : Cursor) : List SortKey :=
  (cursor.map keys).getD []

theorem step_yields (cursor : Cursor) : (step cursor).1 = (ahead cursor).head? := by
  cases cursor with
  | none => rfl
  | some chain =>
      have keys : ahead (some chain) = chain.first :: ahead chain.next? := keys_eq chain
      rw [keys]
      rfl

theorem step_advances (cursor : Cursor) : ahead (step cursor).2 = (ahead cursor).tail := by
  cases cursor with
  | none => rfl
  | some chain =>
      have keys : ahead (some chain) = chain.first :: ahead chain.next? := keys_eq chain
      rw [keys]
      rfl

theorem yielded_eq (cursor : Cursor) (position : Nat) :
    yielded cursor position = (ahead cursor)[position]? := by
  induction position generalizing cursor with
  | zero => rw [yielded, step_yields, List.head?_eq_getElem?]
  | succ position ih => rw [yielded, ih, step_advances, List.getElem?_tail]

end Cursor

theorem ofKeys?_eq_none_iff {keys : List SortKey} : ofKeys? keys = none ↔ keys = [] := by
  cases keys with
  | nil => exact ⟨fun _ => rfl, fun _ => rfl⟩
  | cons key keys => simp [ofKeys?]

theorem ahead_ofKeys? (keys : List SortKey) : Cursor.ahead (ofKeys? keys) = keys := by
  cases found : ofKeys? keys with
  | none => exact (ofKeys?_eq_none_iff.1 found).symm
  | some chain => exact keys_of_ofKeys? found

def putBefore (chain : Option SortChain) (key : SortKey) : Option SortChain :=
  some (chain.elim (last key) (more key))

theorem ofKeys?_eq_foldl (keys : List SortKey) :
    ofKeys? keys = keys.reverse.foldl putBefore none := by
  induction keys with
  | nil => rfl
  | cons key keys ih =>
      rw [List.reverse_cons, List.foldl_append, ← ih]
      rfl

theorem keys_foldl_followedBy (chain : SortChain) (added : List SortKey) :
    (added.foldl followedBy chain).keys = chain.keys ++ added := by
  induction added generalizing chain with
  | nil => exact (List.append_nil chain.keys).symm
  | cons key added ih =>
      rw [List.foldl_cons, ih, keys_followedBy, List.append_assoc, List.singleton_append]

def rebuiltWith (chain : SortChain) (key : SortKey) : SortChain :=
  match ofKeys? (chain.keys ++ [key]) with
  | some rebuilt => rebuilt
  | none => chain

theorem ofKeys?_concat (chain : SortChain) (key : SortKey) :
    ofKeys? (chain.keys ++ [key]) = some (chain.followedBy key) := by
  rw [← keys_followedBy, ofKeys?_keys]

/-- A walk along a chain yields its keys. A list of keys, put together from its end, makes a chain
unless it is empty, and the walk along that chain yields the list; the keys of a chain make that
chain. Keys that are put behind a chain one after another are yielded behind its own, and putting
the chain together anew for each of them comes to the same and always gives a chain. -/
theorem chains_are_nonempty_lists :
    (∀ (chain : SortChain) (position : Nat),
      Cursor.yielded (some chain) position = chain.keys[position]?) ∧
    (∀ keys, ofKeys? keys = keys.reverse.foldl putBefore none ∧ (ofKeys? keys = none ↔ keys = []) ∧
      ∀ position, Cursor.yielded (ofKeys? keys) position = keys[position]?) ∧
    (∀ chain : SortChain, ofKeys? chain.keys = some chain) ∧
    (∀ (chain : SortChain) (added : List SortKey),
      (added.foldl followedBy chain).keys = chain.keys ++ added ∧
        added.foldl rebuiltWith chain = added.foldl followedBy chain) ∧
    ∀ (chain : SortChain) (key : SortKey), ofKeys? (chain.keys ++ [key]) ≠ none := by
  refine ⟨fun chain position => ?_,
    fun keys => ⟨ofKeys?_eq_foldl keys, ofKeys?_eq_none_iff, fun position => ?_⟩, ofKeys?_keys,
    fun chain added => ⟨keys_foldl_followedBy chain added, ?_⟩, fun chain key => ?_⟩
  · exact Cursor.yielded_eq (some chain) position
  · rw [Cursor.yielded_eq, ahead_ofKeys?]
  · have same : rebuiltWith = followedBy := by
      funext chain key
      rw [rebuiltWith, ofKeys?_concat]
    rw [same]
  · rw [ofKeys?_concat]
    exact Option.some_ne_none _

end ODataAdapter.SortChain
