import Mathlib.Data.List.Sort
import ODataAdapter.Mapping.Basic

/-!
Mappings in layers. What the layers make together depends on the renames of all of them in order and
on the set of the names that one of them deletes, not on where one layer ends.
-/

namespace ODataAdapter

namespace NameSet

theorem ext {first second : NameSet}
    (same : ∀ name, first.contains name = second.contains name) : first = second := by
  obtain ⟨names, ascending⟩ := first
  obtain ⟨names', ascending'⟩ := second
  have members (name : String) : name ∈ names ↔ name ∈ names' := by
    simpa [contains] using same name
  obtain rfl : names = names' :=
    ascending.eq_of_mem_iff ascending' members
  rfl

@[simp] theorem contains_empty (name : String) : (∅ : NameSet).contains name = false := rfl

theorem contains_foldl_insert (names : List String) (set : NameSet) (name : String) :
    (names.foldl insert set).contains name = (names.contains name || set.contains name) := by
  induction names generalizing set with
  | nil => rfl
  | cons first names ih =>
      rw [List.foldl_cons, ih, contains_insert, Bool.eq_iff_iff]
      simp [or_left_comm, or_assoc]

@[simp] theorem contains_ofList (names : List String) (name : String) :
    (ofList names).contains name = names.contains name := by
  rw [ofList, contains_foldl_insert, contains_empty, Bool.or_false]

@[simp] theorem contains_union (first second : NameSet) (name : String) :
    (first.union second).contains name = (first.contains name || second.contains name) := by
  rw [union, contains_foldl_insert, Bool.or_comm]
  rfl

end NameSet

namespace Mapping

variable {first second : Mapping}

theorem ext (renames : first.renames = second.renames)
    (removes : ∀ name, first.removes name = second.removes name) : first = second := by
  obtain ⟨pairs, deleted⟩ := first
  obtain ⟨pairs', deleted'⟩ := second
  obtain rfl : pairs = pairs' := renames
  obtain rfl : deleted = deleted' := NameSet.ext removes
  rfl

@[simp] theorem renames_append (first second : Mapping) :
    (first.append second).renames = first.renames ++ second.renames := rfl

@[simp] theorem removes_append (first second : Mapping) (name : String) :
    (first.append second).removes name = (first.removes name || second.removes name) :=
  NameSet.contains_union first.deleted second.deleted name

@[simp] theorem renames_empty : empty.renames = [] := rfl

@[simp] theorem removes_empty (name : String) : empty.removes name = false := rfl

theorem append_assoc (first second third : Mapping) :
    (first.append second).append third = first.append (second.append third) :=
  ext (by simp) (by simp [Bool.or_assoc])

theorem empty_append (mapping : Mapping) : empty.append mapping = mapping :=
  ext (by simp) (by simp)

theorem append_empty (mapping : Mapping) : mapping.append empty = mapping :=
  ext (by simp) (by simp)

/-- The layers one behind the other, those in front with precedence. -/
def stack (layers : List Mapping) : Mapping :=
  layers.foldl append empty

theorem foldl_append (mapping : Mapping) (layers : List Mapping) :
    layers.foldl append mapping = mapping.append (stack layers) := by
  induction layers generalizing mapping with
  | nil => exact (append_empty mapping).symm
  | cons layer layers ih =>
      have front : stack (layer :: layers) = (empty.append layer).append (stack layers) := by
        rw [stack, List.foldl_cons, ih]
      rw [List.foldl_cons, ih, front, empty_append, append_assoc]

theorem stack_cons (layer : Mapping) (layers : List Mapping) :
    stack (layer :: layers) = layer.append (stack layers) := by
  rw [stack, List.foldl_cons, empty_append, foldl_append]

theorem renames_stack (layers : List Mapping) :
    (stack layers).renames = layers.flatMap renames := by
  induction layers with
  | nil => rfl
  | cons layer layers ih => rw [stack_cons, renames_append, ih, List.flatMap_cons]

theorem removes_stack (layers : List Mapping) (name : String) :
    (stack layers).removes name = layers.any (·.removes name) := by
  induction layers with
  | nil => rfl
  | cons layer layers ih => rw [stack_cons, removes_append, ih, List.any_cons]

/-- Two ways to divide the same renames and deletions into layers come to the same. -/
theorem stack_congr {layers layers' : List Mapping}
    (pairs : layers.flatMap renames = layers'.flatMap renames)
    (deletions : ∀ name, layers.any (·.removes name) = layers'.any (·.removes name)) :
    stack layers = stack layers' :=
  ext (by rw [renames_stack, renames_stack, pairs])
    (fun name => by rw [removes_stack, removes_stack, deletions])

theorem target?_eq_none_iff {mapping : Mapping} {name : String} :
    mapping.target? name = none ↔ mapping.removes name = true := by
  simp [target?]

theorem target?_eq_some_iff {mapping : Mapping} {name target : String} :
    mapping.target? name = some target ↔
      mapping.removes name = false ∧ mapping.backendName name = target := by
  simp [target?]

theorem backendName_append (first second : Mapping) (name : String) :
    (first.append second).backendName name =
      ((first.renames.find? (·.source = name)).map Rename.target).getD
        (second.backendName name) := by
  rw [backendName, backendName, renames_append, List.find?_append]
  cases first.renames.find? (·.source = name) with
  | none => rfl
  | some pair => rfl

end Mapping

end ODataAdapter
