import Mathlib.Data.List.Basic
import ODataAdapter.Mapping.Basic

/-!
Sources that more than one rename has. They are listed once each, in the order in which the table
comes to each of them for the second time. That is not always the order in which it first comes to
them.
-/

namespace ODataAdapter.Mapping

def sources (mapping : Mapping) : List String :=
  mapping.renames.map Rename.source

section Occurrences

variable {name : String} {before : List String}

theorem count_concat (before : List String) (name other : String) :
    (before ++ [name]).count other = before.count other + if name = other then 1 else 0 := by
  rw [List.count_append, List.count_singleton]
  simp only [beq_iff_eq]

theorem idxOfNth_append {nth : Nat} (occurs : nth < before.count name) (after : List String) :
    (before ++ after).idxOfNth name nth = before.idxOfNth name nth := by
  have inFront : nth < (before.idxsOf name).length := by rwa [List.length_idxsOf]
  have inWhole : nth < ((before ++ after).idxsOf name).length := by
    rw [List.length_idxsOf, List.count_append]
    omega
  rw [← List.getElem_idxOf_eq_idxOfNth (h := inWhole),
    ← List.getElem_idxOf_eq_idxOfNth (h := inFront)]
  simp only [List.idxsOf_append, List.getElem_append_left inFront]

theorem idxOfNth_concat (name : String) (before : List String) :
    (before ++ [name]).idxOfNth name (before.count name) = before.length := by
  have last : before.count name < ((before ++ [name]).idxsOf name).length := by
    rw [List.length_idxsOf, count_concat, if_pos rfl]
    exact Nat.lt_succ_self _
  rw [← List.getElem_idxOf_eq_idxOfNth (h := last)]
  simp

end Occurrences

/-- The state of the scan behind some sources: the names among them, and those that occur twice, in
the order of their second occurrences. -/
structure Scanned (before seen found : List String) : Prop where
  seen_iff : ∀ name, name ∈ seen ↔ name ∈ before
  found_iff : ∀ name, name ∈ found ↔ 2 ≤ before.count name
  ordered : found.Pairwise fun name later => before.idxOfNth name 1 < before.idxOfNth later 1

namespace Scanned

variable {before seen found : List String} {name : String}

theorem empty : Scanned [] [] [] where
  seen_iff := by simp
  found_iff := by simp
  ordered := .nil

theorem ordered_concat (scanned : Scanned before seen found) (name : String) :
    found.Pairwise fun first later =>
      (before ++ [name]).idxOfNth first 1 < (before ++ [name]).idxOfNth later 1 := by
  refine scanned.ordered.imp_of_mem fun {first later} isFirst isLater less => ?_
  rwa [idxOfNth_append ((scanned.found_iff first).1 isFirst),
    idxOfNth_append ((scanned.found_iff later).1 isLater)]

theorem fresh (scanned : Scanned before seen found) (isNew : name ∉ seen) :
    Scanned (before ++ [name]) (seen ++ [name]) found where
  seen_iff := by simp [scanned.seen_iff]
  found_iff := by
    have absent : before.count name = 0 :=
      List.count_eq_zero.2 fun member => isNew ((scanned.seen_iff name).2 member)
    intro other
    rw [scanned.found_iff, count_concat]
    by_cases same : name = other
    · subst same
      simp [absent]
    · simp [same]
  ordered := scanned.ordered_concat name

theorem seen_concat (scanned : Scanned before seen found) (met : name ∈ seen) (other : String) :
    other ∈ seen ↔ other ∈ before ++ [name] := by
  rw [scanned.seen_iff, List.mem_append, List.mem_singleton]
  constructor
  · exact Or.inl
  · rintro (earlier | rfl)
    · exact earlier
    · exact (scanned.seen_iff other).1 met

theorem again (scanned : Scanned before seen found) (met : name ∈ seen) (isFound : name ∈ found) :
    Scanned (before ++ [name]) seen found where
  seen_iff := scanned.seen_concat met
  found_iff := by
    have twice := (scanned.found_iff name).1 isFound
    intro other
    rw [scanned.found_iff, count_concat]
    by_cases same : name = other
    · subst same
      omega
    · simp [same]
  ordered := scanned.ordered_concat name

theorem second (scanned : Scanned before seen found) (met : name ∈ seen) (isNew : name ∉ found) :
    Scanned (before ++ [name]) seen (found ++ [name]) := by
  have once : before.count name = 1 := by
    have some := List.count_pos_iff.2 ((scanned.seen_iff name).1 met)
    have notTwice := mt (scanned.found_iff name).2 isNew
    omega
  refine ⟨scanned.seen_concat met, fun other => ?_, ?_⟩
  · rw [List.mem_append, List.mem_singleton, scanned.found_iff, count_concat]
    by_cases same : name = other
    · subst same
      simp [once]
    · simp [same, Ne.symm same]
  · -- The new name stands at the end of what has been scanned, behind all second occurrences.
    have here : (before ++ [name]).idxOfNth name 1 = before.length :=
      once ▸ idxOfNth_concat name before
    refine List.pairwise_append.2 ⟨scanned.ordered_concat name, List.pairwise_singleton _ _, ?_⟩
    intro earlier isFound last isLast
    obtain rfl := List.mem_singleton.1 isLast
    have twice := (scanned.found_iff earlier).1 isFound
    rw [here, idxOfNth_append twice]
    exact List.idxOfNth_lt_length_of_lt_count twice

end Scanned

theorem scanned_repeatsFrom {before seen found : List String} (scanned : Scanned before seen found)
    (pairs : List Rename) :
    ∃ met, Scanned (before ++ pairs.map Rename.source) met (repeatsFrom seen found pairs) := by
  induction pairs generalizing before seen found with
  | nil => exact ⟨seen, by simpa [repeatsFrom] using scanned⟩
  | cons pair pairs ih =>
      rw [List.map_cons, List.append_cons]
      simp only [repeatsFrom, List.contains_iff_mem]
      split
      next met =>
        split
        next isFound => exact ih (scanned.again met isFound)
        next isNew => exact ih (scanned.second met isNew)
      next isNew => exact ih (scanned.fresh isNew)

theorem exists_scanned_repeatedSources (mapping : Mapping) :
    ∃ met, Scanned mapping.sources met mapping.repeatedSources :=
  scanned_repeatsFrom .empty mapping.renames

theorem mem_repeatedSources_iff {mapping : Mapping} {name : String} :
    name ∈ mapping.repeatedSources ↔ 2 ≤ mapping.sources.count name := by
  obtain ⟨_, scanned⟩ := exists_scanned_repeatedSources mapping
  exact scanned.found_iff name

theorem nodup_repeatedSources (mapping : Mapping) : mapping.repeatedSources.Nodup := by
  obtain ⟨_, scanned⟩ := exists_scanned_repeatedSources mapping
  refine scanned.ordered.imp fun {name later} less same => ?_
  rw [same] at less
  exact Nat.lt_irrefl _ less

theorem Scanned.first_order_iff {before seen found : List String}
    (scanned : Scanned before seen found) :
    (found.Pairwise fun name later => before.idxOf name < before.idxOf later) ↔
      ∀ name ∈ found, ∀ other ∈ found, before.idxOf name < before.idxOf other →
        before.idxOfNth name 1 < before.idxOfNth other 1 := by
  constructor
  · intro firstOrder name isFound other otherFound less
    obtain ⟨index, below, rfl⟩ := List.getElem_of_mem isFound
    obtain ⟨index', below', rfl⟩ := List.getElem_of_mem otherFound
    rcases Nat.lt_trichotomy index index' with inFront | same | behind
    · exact List.pairwise_iff_getElem.1 scanned.ordered index index' below below' inFront
    · subst same
      exact absurd less (Nat.lt_irrefl _)
    · have more := List.pairwise_iff_getElem.1 firstOrder index' index below' below behind
      omega
  · intro agree
    refine scanned.ordered.imp_of_mem fun {name later} isFound laterFound less => ?_
    rcases Nat.lt_trichotomy (before.idxOf name) (before.idxOf later) with inFront | same | behind
    · exact inFront
    · have twice := (scanned.found_iff name).1 isFound
      have isSource : name ∈ before := List.count_pos_iff.1 (by omega)
      rw [List.idxOf_inj isSource] at same
      rw [same] at less
      exact absurd less (Nat.lt_irrefl _)
    · have more := agree later laterFound name isFound behind
      omega

/-- The names occur at least twice, each is listed once, and they stand in the order of their second
occurrences. This is the order of their first occurrences exactly if no two of them change places
between the first and the second. -/
theorem repeatedSources_by_second_occurrence (mapping : Mapping) :
    (∀ name, name ∈ mapping.repeatedSources ↔ 2 ≤ mapping.sources.count name) ∧
    mapping.repeatedSources.Nodup ∧
    (mapping.repeatedSources.Pairwise fun name later =>
      mapping.sources.idxOfNth name 1 < mapping.sources.idxOfNth later 1) ∧
    ((mapping.repeatedSources.Pairwise fun name later =>
        mapping.sources.idxOf name < mapping.sources.idxOf later) ↔
      ∀ name ∈ mapping.repeatedSources, ∀ other ∈ mapping.repeatedSources,
        mapping.sources.idxOf name < mapping.sources.idxOf other →
          mapping.sources.idxOfNth name 1 < mapping.sources.idxOfNth other 1) := by
  obtain ⟨_, scanned⟩ := exists_scanned_repeatedSources mapping
  exact ⟨scanned.found_iff, nodup_repeatedSources mapping, scanned.ordered, scanned.first_order_iff⟩

/-- The first repeated name of the table is listed last if all of the other occurrences stand
between its own. -/
theorem repeatedSources_of_enclosing_repetition :
    let mapping : Mapping := { renames := [⟨"A", "X"⟩, ⟨"B", "Y"⟩, ⟨"B", "Z"⟩, ⟨"A", "W"⟩] }
    mapping.repeatedSources = ["B", "A"] ∧
      ¬mapping.repeatedSources.Pairwise fun name later =>
        mapping.sources.idxOf name < mapping.sources.idxOf later := by
  decide

end ODataAdapter.Mapping
