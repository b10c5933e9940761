/-!
Sets of names, kept in ascending order.
-/

namespace ODataAdapter

structure NameSet where
  names : List String
  ascending : names.Pairwise (· < ·)
  deriving DecidableEq, Repr

namespace NameSet

def empty : NameSet := ⟨[], .nil⟩

instance : EmptyCollection NameSet := ⟨empty⟩
instance : Inhabited NameSet := ⟨empty⟩

def contains (set : NameSet) (name : String) : Bool :=
  set.names.contains name

def place (name : String) : List String → List String
  | [] => [name]
  | first :: rest =>
      if name < first then name :: first :: rest
      else if name = first then first :: rest
      else first :: place name rest

theorem mem_place {name other : String} {names : List String} :
    other ∈ place name names ↔ other = name ∨ other ∈ names := by
  induction names with
  | nil => simp [place]
  | cons first rest ih =>
      unfold place
      split
      · simp
      · split
        next same => simp [same]
        next => simp [ih, or_left_comm]

theorem pairwise_place {name : String} {names : List String}
    (ascending : names.Pairwise (· < ·)) : (place name names).Pairwise (· < ·) := by
  induction names with
  | nil => simp [place]
  | cons first rest ih =>
      have restAscending := List.pairwise_cons.1 ascending
      unfold place
      split
      next less =>
        refine List.pairwise_cons.2 ⟨fun other member => ?_, ascending⟩
        rcases List.mem_cons.1 member with same | member
        · exact same ▸ less
        · exact String.lt_trans less (restAscending.1 other member)
      next notLess =>
        split
        next => exact ascending
        next different =>
          refine List.pairwise_cons.2 ⟨fun other member => ?_, ih restAscending.2⟩
          rcases mem_place.1 member with same | member
          · have greater : first < name := by
              refine String.not_le.1 fun atMost => ?_
              exact different (String.le_antisymm atMost (String.not_lt.1 notLess))
            exact same ▸ greater
          · exact restAscending.1 other member

def insert (set : NameSet) (name : String) : NameSet :=
  ⟨place name set.names, pairwise_place set.ascending⟩

def ofList (names : List String) : NameSet :=
  names.foldl insert ∅

def union (first second : NameSet) : NameSet :=
  second.names.foldl insert first

@[simp] theorem contains_insert (set : NameSet) (name other : String) :
    (set.insert name).contains other = (other = name || set.contains other) := by
  rw [Bool.eq_iff_iff]
  simp [contains, insert, mem_place]

end NameSet

end ODataAdapter
