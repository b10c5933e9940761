import Mathlib.Data.List.NodupEquivFin
import ODataAdapter.Command.Listing
import ODataAdapter.Proofs.Mapping.Repetitions

/-!
Which renames are marked in the listing of an entity: those that another with the same source stands
in front of. They are the renames that no name is renamed by, and their sources are the repeated
ones.
-/

namespace ODataAdapter

namespace Mapping

section Position

variable (mapping : Mapping) (position : Fin mapping.renames.length)

def sourceAt : String :=
  mapping.renames[position].source

def retarget (target : String) : Mapping :=
  { mapping with renames := mapping.renames.set position ⟨mapping.sourceAt position, target⟩ }

/-- The rename at a position decides the backend name of its source, whatever its target is. -/
def Decides : Prop :=
  ∀ target, (mapping.retarget position target).backendName (mapping.sourceAt position) = target

theorem find?_retarget (target : String) :
    (mapping.retarget position target).renames.find? (·.source = mapping.sourceAt position) =
      ((mapping.renames.take position).find? (·.source = mapping.sourceAt position)).or
        (some ⟨mapping.sourceAt position, target⟩) := by
  rw [retarget, List.set_eq_take_append_cons_drop, if_pos position.isLt, List.find?_append]
  simp

theorem decides_iff :
    mapping.Decides position ↔ mapping.sourceAt position ∉ mapping.sources.take position := by
  have earlier : mapping.sourceAt position ∈ mapping.sources.take position ↔
      ((mapping.renames.take position).find?
        (·.source = mapping.sourceAt position)).isSome = true := by
    simp [sources, ← List.map_take, List.find?_isSome]
  rw [earlier, Decides]
  simp only [backendName, find?_retarget]
  cases (mapping.renames.take position).find? (·.source = mapping.sourceAt position) with
  | none => simp
  | some pair =>
      -- The earlier rename gives one name, which cannot be every target.
      have oneTarget : ¬∀ target, pair.target = target := by
        intro every
        have different : "A" = "B" := (every "A").symm.trans (every "B")
        exact absurd different (by decide)
      simpa using oneTarget

theorem mem_take_sources_iff :
    mapping.sourceAt position ∈ mapping.sources.take position ↔
      ∃ earlier < position, mapping.sourceAt earlier = mapping.sourceAt position := by
  rw [List.mem_take_iff_getElem]
  constructor
  · rintro ⟨index, below, same⟩
    have inside : index < mapping.renames.length := by
      have bounded := position.isLt
      omega
    refine ⟨⟨index, inside⟩, ?_, ?_⟩
    · exact Nat.lt_of_lt_of_le below (Nat.min_le_left _ _)
    · simpa [sources, sourceAt] using same
  · rintro ⟨earlier, less, same⟩
    refine ⟨earlier, ?_, ?_⟩
    · have bounded := earlier.isLt
      simp only [sources, List.length_map]
      omega
    · simpa [sources, sourceAt] using same

end Position

theorem length_sources (mapping : Mapping) : mapping.sources.length = mapping.renames.length :=
  List.length_map _

theorem get_sources (mapping : Mapping) (position : Fin mapping.renames.length) :
    mapping.sources.get (position.cast mapping.length_sources.symm) =
      mapping.sourceAt position := by
  simp only [sources, sourceAt, List.get_eq_getElem, List.getElem_map]
  rfl

theorem mem_repeatedSources_iff_exists {mapping : Mapping} {name : String} :
    name ∈ mapping.repeatedSources ↔
      ∃ position, mapping.sourceAt position = name ∧
        mapping.sourceAt position ∈ mapping.sources.take position := by
  rw [mem_repeatedSources_iff, ← List.duplicate_iff_two_le_count,
    List.duplicate_iff_exists_distinct_get]
  constructor
  · rintro ⟨earlier, position, less, isEarlier, isName⟩
    have first := mapping.get_sources (earlier.cast mapping.length_sources)
    have second := mapping.get_sources (position.cast mapping.length_sources)
    refine ⟨position.cast mapping.length_sources, second.symm.trans isName.symm, ?_⟩
    refine (mem_take_sources_iff mapping _).2 ⟨earlier.cast mapping.length_sources, less, ?_⟩
    calc mapping.sourceAt (earlier.cast mapping.length_sources)
      _ = name := first.symm.trans isEarlier.symm
      _ = mapping.sourceAt (position.cast mapping.length_sources) := isName.trans second
  · rintro ⟨position, rfl, repeated⟩
    obtain ⟨earlier, less, same⟩ := (mem_take_sources_iff mapping position).1 repeated
    refine ⟨earlier.cast mapping.length_sources.symm, position.cast mapping.length_sources.symm,
      less, ?_, ?_⟩
    · rw [get_sources, same]
    · rw [get_sources]

theorem getElem?_shadowingFrom (seen : List String) (pairs : List Rename) (position : Nat) :
    (shadowingFrom seen pairs)[position]? = pairs[position]?.map fun pair =>
      (pair, decide (pair.source ∈ seen ++ (pairs.take position).map Rename.source)) := by
  induction pairs generalizing seen position with
  | nil => simp [shadowingFrom]
  | cons first pairs ih =>
      unfold shadowingFrom
      cases position with
      | zero => split <;> simp_all
      | succ position =>
          split
          next met =>
            -- A source that has been met before is not put down again.
            have known : first.source ∈ seen := List.contains_iff_mem.1 met
            have same (name : String) :
                name ∈ seen ++ (pairs.take position).map Rename.source ↔
                  name ∈ seen ++ first.source :: (pairs.take position).map Rename.source := by
              simp only [List.mem_append, List.mem_cons]
              constructor
              · rintro (isSeen | later)
                · exact Or.inl isSeen
                · exact Or.inr (Or.inr later)
              · rintro (isSeen | rfl | later)
                · exact Or.inl isSeen
                · exact Or.inl known
                · exact Or.inr later
            simp only [List.getElem?_cons_succ, ih, List.take_succ_cons, List.map_cons, same]
          next notMet =>
            simp only [List.getElem?_cons_succ, ih, List.take_succ_cons, List.map_cons,
              List.append_assoc, List.singleton_append]

theorem getElem?_shadowing (mapping : Mapping) (position : Fin mapping.renames.length) :
    mapping.shadowing[position.val]? =
      some (mapping.renames[position],
        decide (mapping.sourceAt position ∈ mapping.sources.take position)) := by
  rw [shadowing, getElem?_shadowingFrom, List.getElem?_eq_getElem position.isLt, Option.map_some,
    List.nil_append, List.map_take]
  rfl

theorem map_fst_shadowing (mapping : Mapping) :
    mapping.shadowing.map Prod.fst = mapping.renames := by
  refine List.ext_getElem? fun position => ?_
  rw [List.getElem?_map, shadowing, getElem?_shadowingFrom]
  cases mapping.renames[position]? with
  | none => rfl
  | some pair => rfl

theorem marked_mem_shadowing_iff {mapping : Mapping} {pair : Rename} :
    (pair, true) ∈ mapping.shadowing ↔
      ∃ position : Fin mapping.renames.length, mapping.renames[position] = pair ∧
        mapping.sourceAt position ∈ mapping.sources.take position := by
  constructor
  · intro member
    obtain ⟨index, found⟩ := List.getElem?_of_mem member
    have inside : index < mapping.renames.length := by
      have below := (List.getElem?_eq_some_iff.1 found).1
      rwa [← mapping.map_fst_shadowing, List.length_map]
    have row := mapping.getElem?_shadowing ⟨index, inside⟩
    rw [found] at row
    obtain ⟨isPair, isMarked⟩ := Prod.mk.inj (Option.some.inj row)
    exact ⟨⟨index, inside⟩, isPair.symm, of_decide_eq_true isMarked.symm⟩
  · rintro ⟨position, rfl, repeated⟩
    have row := mapping.getElem?_shadowing position
    rw [decide_eq_true repeated] at row
    exact List.mem_of_getElem? row

end Mapping

namespace Command

theorem renameLine_eq (width : Nat) (pair : Rename) (marked : Bool) :
    renameLine width (pair, marked) =
      padded width pair.source ++ " → " ++ pair.target ++
        if marked then " (shadowed by earlier pair)" else "" := by
  cases marked with
  | true => rfl
  | false => exact String.append_empty.symm

theorem getElem?_fieldLines (entity : String) {mapping : Mapping} (allow : Allowance)
    {position : Nat} {entry : Rename × Bool}
    (isEntry : mapping.shadowing[position]? = some entry) :
    (fieldLines entity mapping allow)[position + 3]? =
      some (renameLine (columnWidth mapping) entry) := by
  have row : (mapping.shadowing.map (renameLine (columnWidth mapping)))[position]? =
      some (renameLine (columnWidth mapping) entry) := by
    rw [List.getElem?_map, isEntry, Option.map_some]
  have inside := (List.getElem?_eq_some_iff.1 row).1
  simp only [fieldLines, List.cons_append, List.nil_append, List.append_assoc,
    List.getElem?_cons_succ]
  rw [List.getElem?_append_left inside, row]

/-- The listing has a row for each rename, and a rename is marked there exactly if the backend name
of its source is not taken from it, and so exactly if an earlier rename has its source. The sources
of the marked renames are the repeated ones, each of which is named once. -/
theorem fieldLines_mark_shadowed_renames (mapping : Mapping) :
    mapping.shadowing.map Prod.fst = mapping.renames ∧
    (∀ position : Fin mapping.renames.length, ∃ marked : Bool,
      mapping.shadowing[position.val]? = some (mapping.renames[position], marked) ∧
      (∀ entity allow, (fieldLines entity mapping allow)[position.val + 3]? =
        some (padded (columnWidth mapping) (mapping.sourceAt position) ++ " → " ++
          mapping.renames[position].target ++
            if marked then " (shadowed by earlier pair)" else "")) ∧
      (marked = true ↔ ¬mapping.Decides position) ∧
      (marked = true ↔
        ∃ earlier < position, mapping.sourceAt earlier = mapping.sourceAt position)) ∧
    mapping.repeatedSources.Nodup ∧
    ∀ name, name ∈ mapping.repeatedSources ↔
      ∃ pair, (pair, true) ∈ mapping.shadowing ∧ pair.source = name := by
  refine ⟨mapping.map_fst_shadowing, fun position => ?_, mapping.nodup_repeatedSources,
    fun name => ?_⟩
  · have row := mapping.getElem?_shadowing position
    refine ⟨_, row, fun entity allow => ?_, ?_, ?_⟩
    · rw [getElem?_fieldLines entity allow row, renameLine_eq, Mapping.sourceAt]
    · rw [decide_eq_true_iff, mapping.decides_iff, not_not]
    · rw [decide_eq_true_iff, mapping.mem_take_sources_iff]
  · rw [Mapping.mem_repeatedSources_iff_exists]
    constructor
    · rintro ⟨position, isName, repeated⟩
      have isMarked := Mapping.marked_mem_shadowing_iff.2 ⟨position, rfl, repeated⟩
      exact ⟨mapping.renames[position], isMarked, isName⟩
    · rintro ⟨pair, isMarked, isName⟩
      obtain ⟨position, rfl, repeated⟩ := Mapping.marked_mem_shadowing_iff.1 isMarked
      exact ⟨position, isName, repeated⟩

-- Equal renames are told apart by where they stand.
example : ({ renames := [⟨"A", "X"⟩, ⟨"B", "Y"⟩, ⟨"A", "X"⟩] } : Mapping).shadowing =
    [(⟨"A", "X"⟩, false), (⟨"B", "Y"⟩, false), (⟨"A", "X"⟩, true)] := by decide

end Command

end ODataAdapter
