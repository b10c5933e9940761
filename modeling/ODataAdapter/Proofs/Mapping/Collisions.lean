import ODataAdapter.Proofs.Mapping.RoundTrip

/-!
Members of a backend record that go back to one client name. The first rename with a target decides
where the member of this name goes; a member that no rename sends anywhere keeps its name. Where
several come together, one that was renamed is before one that was not, and of the renamed ones the
one with the least backend name is before the others.
-/

namespace ODataAdapter.Mapping

variable {mapping : Mapping} {record : Record} {key name : String}

def GivesBack (mapping : Mapping) (key name : String) : Prop :=
  ∃ before after, mapping.renames = before ++ ⟨name, key⟩ :: after ∧
    ∀ pair ∈ before, pair.target ≠ key

def Keeps (mapping : Mapping) (key : String) : Prop :=
  ∀ pair ∈ mapping.renames, pair.target ≠ key

theorem source?_eq_some_iff_givesBack :
    mapping.source? key = some name ↔ mapping.GivesBack key name := by
  simp only [source?, Option.map_eq_some_iff, List.find?_eq_some_iff_append, decide_eq_true_eq,
    Bool.not_eq_true', decide_eq_false_iff_not]
  constructor
  · rintro ⟨⟨_, _⟩, ⟨rfl, before, after, split, earlier⟩, rfl⟩
    exact ⟨before, after, split, earlier⟩
  · rintro ⟨before, after, split, earlier⟩
    exact ⟨⟨name, key⟩, ⟨rfl, before, after, split, earlier⟩, rfl⟩

theorem source?_eq_none_iff_keeps : mapping.source? key = none ↔ mapping.Keeps key := by
  simp [source?, Keeps, List.find?_eq_none]

theorem mem_names_restoreRecord_iff (ordered : record.Ordered) :
    name ∈ (mapping.restoreRecord record).names ↔
      ∃ key ∈ record.names, mapping.clientName key = name := by
  rw [Record.mem_names_iff]
  constructor
  · rintro ⟨value, found⟩
    obtain ⟨key, member, same⟩ := exists_member_of_get?_restoreRecord ordered found
    exact ⟨key, List.mem_map_of_mem member, same⟩
  · rintro ⟨key, isName, rfl⟩
    obtain ⟨⟨_, value⟩, member, rfl⟩ := List.mem_map.1 isName
    exact exists_get?_restoreRecord ordered member

theorem get?_restoreRecord_of_unchanged
    (unchanged : ∀ key ∈ record.names, mapping.source? key ≠ some name)
    (keeps : mapping.source? name = none) :
    (mapping.restoreRecord record).get? name = record.get? name := by
  have notRenamed : mapping.renamedValue? record name = none := by
    rw [renamedValue?, Option.map_eq_none_iff, List.find?_eq_none]
    intro member isMember goes
    exact unchanged member.1 (List.mem_map_of_mem isMember) (of_decide_eq_true goes)
  rw [get?_restoreRecord, notRenamed, Option.none_or, unchangedValue?, if_pos keeps]

/-- What a record is once its members have their client names. The names are those that its own
names go back to. Each holds the value of the least backend name that a rename gives it, wherever in
the record this stands, and only if there is none the value of the member that has kept the name. -/
structure SettlesCollisions (mapping : Mapping) (record restored : Record) : Prop where
  ordered : restored.Ordered
  names : ∀ name, name ∈ restored.names ↔
    ∃ key ∈ record.names, mapping.GivesBack key name ∨ mapping.Keeps key ∧ key = name
  renamed : ∀ name, (∃ key ∈ record.names, mapping.GivesBack key name) →
    ∃ key, IsLeast {key | key ∈ record.names ∧ mapping.GivesBack key name} key ∧
      restored.get? name = record.get? key
  unchanged : ∀ name ∈ restored.names, (∀ key ∈ record.names, ¬ mapping.GivesBack key name) →
    restored.get? name = record.get? name

theorem settlesCollisions_restoreRecord (ordered : record.Ordered) :
    mapping.SettlesCollisions record (mapping.restoreRecord record) where
  ordered := ordered_restoreRecord record
  names name := by
    simp only [mem_names_restoreRecord_iff ordered, clientName_eq_iff,
      source?_eq_some_iff_givesBack, source?_eq_none_iff_keeps]
  renamed name given := by
    simp only [← source?_eq_some_iff_givesBack] at given ⊢
    obtain ⟨key, value, held, goes, least, restored⟩ := exists_least_renamed ordered given
    have present : key ∈ record.names := Record.mem_names_iff.2 ⟨value, held⟩
    refine ⟨key, ⟨⟨present, goes⟩, fun other others => ?_⟩, restored.trans held.symm⟩
    exact least other others.1 others.2
  unchanged name isName unchanged := by
    simp only [← source?_eq_some_iff_givesBack] at unchanged
    obtain ⟨key, present, same⟩ := (mem_names_restoreRecord_iff ordered).1 isName
    rcases clientName_eq_iff.1 same with renamed | ⟨keeps, rfl⟩
    · exact absurd renamed (unchanged key present)
    · exact get?_restoreRecord_of_unchanged unchanged keeps

theorem SettlesCollisions.unique {first second : Record}
    (settles : mapping.SettlesCollisions record first)
    (settlesToo : mapping.SettlesCollisions record second) : first = second := by
  have sameNames (name : String) : name ∈ first.names ↔ name ∈ second.names := by
    rw [settles.names, settlesToo.names]
  refine settles.ordered.ext settlesToo.ordered fun name value => ?_
  by_cases isName : name ∈ first.names
  · have sameValue : first.get? name = second.get? name := by
      by_cases given : ∃ key ∈ record.names, mapping.GivesBack key name
      · obtain ⟨key, least, held⟩ := settles.renamed name given
        obtain ⟨key', least', held'⟩ := settlesToo.renamed name given
        rw [held, held', least.unique least']
      · have unchanged : ∀ key ∈ record.names, ¬ mapping.GivesBack key name :=
          fun key present gives => given ⟨key, present, gives⟩
        rw [settles.unchanged name isName unchanged,
          settlesToo.unchanged name ((sameNames name).1 isName) unchanged]
    rw [sameValue]
  · have notHeld : ¬ first.get? name = some value :=
      fun held => isName (Record.mem_names_iff.2 ⟨value, held⟩)
    have notHeldToo : ¬ second.get? name = some value :=
      fun held => isName ((sameNames name).2 (Record.mem_names_iff.2 ⟨value, held⟩))
    exact iff_of_false notHeld notHeldToo

/-- Restoring settles collisions by these rules and does nothing else. -/
theorem restoreRecord_eq_iff_settlesCollisions (ordered : record.Ordered) {restored : Record} :
    mapping.restoreRecord record = restored ↔ mapping.SettlesCollisions record restored := by
  have settles : mapping.SettlesCollisions record (mapping.restoreRecord record) :=
    settlesCollisions_restoreRecord ordered
  exact ⟨fun same => same ▸ settles, fun settlesToo => settles.unique settlesToo⟩

theorem settlesCollisions_of_kept_between_renamed :
    let mapping := ((Mapping.empty.withRename "Name" "ZName").withRename "Email" "E_Mail")
      |>.withRename "Email" "Mail"
    let record : Record := [("City", .null), ("E_Mail", .bool true), ("Email", .null),
      ("Mail", .null), ("Name", .null), ("ZName", .bool false)]
    record.Ordered ∧ mapping.SettlesCollisions record
      [("City", .null), ("Email", .bool true), ("Name", .bool false)] := by
  intro mapping record
  have ordered : record.Ordered := by decide
  exact ⟨ordered, (restoreRecord_eq_iff_settlesCollisions ordered).1 (by rfl)⟩

end ODataAdapter.Mapping
