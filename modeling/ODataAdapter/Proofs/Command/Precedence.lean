import ODataAdapter.Command.Setup
import ODataAdapter.Proofs.Mapping.Layers
import ODataAdapter.Proofs.Query.Keys

/-!
What a name is resolved to when renames and deletions are given on the command line. A deletion
counts wherever it stands. Of the renames, those of the profile come first and the others in the
order in which they are given.
-/

namespace ODataAdapter.Command

def sourceOf (argument : String) : String :=
  String.ofList (Text.trim (Query.cutAt '=' argument.toList).1)

def targetOf (argument : String) : String :=
  String.ofList (Text.trim (Query.cutAt '=' argument.toList).2)

def trimmedName (argument : String) : String :=
  String.ofList (Text.trim argument.toList)

/-- The target of the first rename of the profile for a name, else that of the first rename on the
command line for it, else the name. -/
def resolvedName (profile : Mapping) (maps : List String) (name : String) : String :=
  match profile.renames.find? (·.source = name) with
  | some pair => pair.target
  | none =>
      match maps.find? (sourceOf · = name) with
      | some argument => targetOf argument
      | none => name

theorem renameOf_of_mem {argument : String} (separated : '=' ∈ argument.toList) :
    renameOf argument = .ok ⟨sourceOf argument, targetOf argument⟩ := by
  obtain ⟨before, after, whole, free⟩ := List.eq_append_cons_of_mem separated
  have others := Query.forall_ne_of_notMem free
  rw [sourceOf, targetOf, whole, Query.cutAt_append free]
  simp only [renameOf, whole]
  rw [List.takeWhile_append_of_pos others, List.dropWhile_append_of_pos others]
  simp

theorem renameOf_of_notMem {argument : String} (absent : '=' ∉ argument.toList) :
    renameOf argument = .error (.mapWithoutTarget argument) := by
  have others := Query.forall_ne_of_notMem absent
  simp only [renameOf, List.dropWhile_eq_nil_iff.2 others]

theorem mapM_renameOf_cases (maps : List String) :
    ((∀ argument ∈ maps, '=' ∈ argument.toList) ∧
      maps.mapM renameOf =
        .ok (maps.map fun argument => ⟨sourceOf argument, targetOf argument⟩)) ∨
    ∃ before argument after, maps = before ++ argument :: after ∧
      (∀ other ∈ before, '=' ∈ other.toList) ∧ '=' ∉ argument.toList ∧
        maps.mapM renameOf = .error (.mapWithoutTarget argument) := by
  induction maps with
  | nil => exact Or.inl ⟨by simp, rfl⟩
  | cons first maps ih =>
      by_cases separated : '=' ∈ first.toList
      · have read := renameOf_of_mem separated
        rcases ih with ⟨others, found⟩ | ⟨before, argument, after, rfl, others, absent, failed⟩
        · refine Or.inl ⟨List.forall_mem_cons.2 ⟨separated, others⟩, ?_⟩
          rw [List.mapM_cons, read, found]
          rfl
        · refine Or.inr ⟨first :: before, argument, after, rfl,
            List.forall_mem_cons.2 ⟨separated, others⟩, absent, ?_⟩
          rw [List.mapM_cons, read, failed]
          rfl
      · refine Or.inr ⟨[], first, maps, rfl, by simp, separated, ?_⟩
        rw [List.mapM_cons, renameOf_of_notMem separated]
        rfl

def givenMapping (invocation : Invocation) : Mapping :=
  { renames := invocation.maps.map fun argument => ⟨sourceOf argument, targetOf argument⟩
    deleted := NameSet.ofList (invocation.deletes.map trimmedName) }

theorem backendName_givenMapping (profile : Mapping) (invocation : Invocation) (name : String) :
    (profile.append (givenMapping invocation)).backendName name =
      resolvedName profile invocation.maps name := by
  rw [Mapping.backendName_append, resolvedName, Mapping.backendName, givenMapping, List.find?_map]
  cases profile.renames.find? (·.source = name) with
  | some pair => rfl
  | none =>
      simp only [Function.comp_def]
      cases invocation.maps.find? (sourceOf · = name) with
      | some argument => rfl
      | none => rfl

theorem removes_givenMapping {invocation : Invocation} {name : String} :
    (givenMapping invocation).removes name = true ↔
      ∃ argument ∈ invocation.deletes, trimmedName argument = name := by
  simp [Mapping.removes, givenMapping]

section Layered

variable {config : Config} {invocation : Invocation} {profile : Profile}

theorem layered_eq_ok (found : profileOf config invocation.entity = .ok profile)
    (separated : ∀ argument ∈ invocation.maps, '=' ∈ argument.toList) :
    layered config invocation =
      .ok (profile.mapping.append (givenMapping invocation), narrow invocation profile.allow) := by
  rcases mapM_renameOf_cases invocation.maps with
    ⟨_, read⟩ | ⟨before, argument, after, whole, _, absent, _⟩
  · rw [layered, found, adHocMapping, read]
    rfl
  · exact absurd (separated argument (by simp [whole])) absent

theorem layered_eq_error {argument : String} (given : argument ∈ invocation.maps)
    (absent : '=' ∉ argument.toList) : ∃ error, layered config invocation = .error error := by
  rcases mapM_renameOf_cases invocation.maps with ⟨separated, _⟩ | ⟨_, first, _, _, _, _, failed⟩
  · exact absurd (separated argument given) absent
  · cases found : profileOf config invocation.entity with
    | error error => exact ⟨error, by rw [layered, found]; rfl⟩
    | ok profile =>
        refine ⟨.mapWithoutTarget first, ?_⟩
        rw [layered, found, adHocMapping, failed]
        rfl

end Layered

/-- The mapping and the allowance that every action works with. A name is resolved to nothing if the
profile or the command line deletes it, and otherwise by the first rename for it, those of the
profile in front. A rename without an `=` fails the command. Layers behind one another come to the
same wherever one ends and the next begins. -/
theorem layered_resolves_by_precedence (config : Config) (invocation : Invocation) :
    (∀ profile, profileOf config invocation.entity = .ok profile →
      (∀ argument ∈ invocation.maps, '=' ∈ argument.toList) →
        ∃ mapping, layered config invocation =
            .ok (mapping, ⟨profile.allow.skip && !invocation.noSkip,
              profile.allow.top && !invocation.noTop,
              profile.allow.count && !invocation.noCount⟩) ∧
          ∀ name,
            (mapping.target? name = none ↔ profile.mapping.removes name = true ∨
              ∃ argument ∈ invocation.deletes, trimmedName argument = name) ∧
            ∀ target, mapping.target? name = some target →
              target = resolvedName profile.mapping invocation.maps name) ∧
    (∀ argument ∈ invocation.maps, '=' ∉ argument.toList →
      ∃ error, layered config invocation = .error error) ∧
    (∀ first second third : Mapping,
      (first.append second).append third = first.append (second.append third)) ∧
    (∀ mapping : Mapping, Mapping.empty.append mapping = mapping ∧
      mapping.append .empty = mapping) ∧
    ∀ layers layers' : List Mapping,
      layers.flatMap Mapping.renames = layers'.flatMap Mapping.renames →
        (∀ name, layers.any (·.removes name) = layers'.any (·.removes name)) →
          Mapping.stack layers = Mapping.stack layers' := by
  refine ⟨fun profile found separated => ?_, fun argument given absent => ?_, Mapping.append_assoc,
    fun mapping => ⟨mapping.empty_append, mapping.append_empty⟩, fun _ _ => Mapping.stack_congr⟩
  · refine ⟨_, layered_eq_ok found separated, fun name => ⟨?_, fun target resolved => ?_⟩⟩
    · rw [Mapping.target?_eq_none_iff, Mapping.removes_append, Bool.or_eq_true,
        removes_givenMapping]
    · rw [← backendName_givenMapping, (Mapping.target?_eq_some_iff.1 resolved).2]
  · exact layered_eq_error given absent

theorem layered_resolves_by_precedence_of_shadowed_renames :
    let profile : Profile :=
      { allow := ⟨true, true, false⟩
        mapping := (Mapping.empty.withRename "Name" "Cust_Name").withDeleted "Secret" }
    let config : Config := { profiles := [("Customers", profile)] }
    let invocation : Invocation :=
      { action := .fields
        entity := some "Customers"
        maps := ["Name=Title", " City = Town=2 ", "City=Place", "Phone=Tel"]
        deletes := [" Phone "]
        noTop := true }
    profileOf config invocation.entity = .ok profile ∧
      (∀ argument ∈ invocation.maps, '=' ∈ argument.toList) ∧
      ∃ mapping, layered config invocation = .ok (mapping, ⟨true, false, false⟩) ∧
        mapping.target? "Phone" = none ∧ mapping.target? "Name" = some "Cust_Name" ∧
          mapping.target? "City" = some "Town=2" := by
  intro profile config invocation
  have found : profileOf config invocation.entity = .ok profile := by rfl
  have separated : ∀ argument ∈ invocation.maps, '=' ∈ argument.toList := by decide
  obtain ⟨mapping, assembled, resolves⟩ :=
    (layered_resolves_by_precedence config invocation).1 profile found separated
  have kept {name : String} (stays : ¬(profile.mapping.removes name = true ∨
      ∃ argument ∈ invocation.deletes, trimmedName argument = name)) :
      mapping.target? name = some (resolvedName profile.mapping invocation.maps name) := by
    obtain ⟨target, resolved⟩ := Option.ne_none_iff_exists'.1 (stays ∘ (resolves name).1.1)
    rw [resolved, (resolves name).2 target resolved]
  refine ⟨found, separated, mapping, assembled, (resolves "Phone").1.2 (by decide), ?_, ?_⟩
  · exact kept (by decide)
  · exact kept (by decide)

end ODataAdapter.Command
