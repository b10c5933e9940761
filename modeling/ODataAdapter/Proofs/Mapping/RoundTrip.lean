import ODataAdapter.Proofs.Mapping.Restoring

/-!
A record that goes to the backend and comes back. Each member goes under the backend name of its
client name; when it is restored it is again under the client name, unless a member without a rename
has the name that a rename gives to another.
-/

namespace ODataAdapter.Record

theorem mem_insert {record : Record} {name : String} {value : Json} {member : String × Json}
    (isMember : member ∈ record.insert name value) : member = (name, value) ∨ member ∈ record := by
  induction record with
  | nil => exact Or.inl (List.mem_singleton.1 isMember)
  | cons first rest ih =>
      obtain ⟨key, kept⟩ := first
      rw [insert] at isMember
      split at isMember
      · exact List.mem_cons.1 isMember
      · split at isMember
        · rcases List.mem_cons.1 isMember with same | later
          · exact Or.inl same
          · exact Or.inr (List.mem_cons_of_mem _ later)
        · rcases List.mem_cons.1 isMember with same | later
          · exact Or.inr (same ▸ List.mem_cons_self)
          · exact (ih later).imp_right (List.mem_cons_of_mem _)

theorem Ordered.insert {record : Record} (ordered : record.Ordered) (name : String)
    (value : Json) : (record.insert name value).Ordered := by
  induction record with
  | nil => exact List.pairwise_singleton _ _
  | cons first rest ih =>
      obtain ⟨key, kept⟩ := first
      obtain ⟨later, restOrdered⟩ := List.pairwise_cons.1 ordered
      rw [Record.insert]
      split
      · rename_i less
        refine List.pairwise_cons.2 ⟨fun other isName => ?_, ordered⟩
        rcases List.mem_cons.1 isName with same | isName
        · exact same ▸ less
        · exact lt_trans less (later other isName)
      · rename_i notLess
        split
        · rename_i same
          subst same
          exact ordered
        · rename_i different
          refine List.pairwise_cons.2 ⟨fun other isName => ?_, ih restOrdered⟩
          obtain ⟨member, isMember, rfl⟩ := List.mem_map.1 isName
          rcases mem_insert isMember with same | isMember
          · subst same
            exact lt_of_le_of_ne (not_lt.1 notLess) (Ne.symm different)
          · exact later member.1 (List.mem_map_of_mem isMember)

theorem ofMembers_concat (members : List (String × Json)) (last : String × Json) :
    ofMembers (members ++ [last]) = (ofMembers members).insert last.1 last.2 := by
  simp [ofMembers]

theorem ordered_ofMembers (members : List (String × Json)) : (ofMembers members).Ordered := by
  induction members using List.reverseRecOn with
  | nil => exact List.Pairwise.nil
  | append_singleton members last ih =>
      rw [ofMembers_concat]
      exact ih.insert last.1 last.2

theorem get?_ofMembers_eq_some_iff {members : List (String × Json)}
    (distinct : (members.map Prod.fst).Nodup) {name : String} {value : Json} :
    (ofMembers members).get? name = some value ↔ (name, value) ∈ members := by
  induction members using List.reverseRecOn with
  | nil => simp [ofMembers, get?]
  | append_singleton members last ih =>
      obtain ⟨key, kept⟩ := last
      rw [List.map_append, List.nodup_append] at distinct
      obtain ⟨membersDistinct, _, apart⟩ := distinct
      rw [ofMembers_concat, get?_insert, List.mem_append, List.mem_singleton, Prod.mk.injEq]
      by_cases same : name = key
      · have fresh : (name, value) ∉ members := fun isMember =>
          apart name (List.mem_map_of_mem isMember) key (by simp) same
        simp [same, eq_comm, same ▸ fresh]
      · simp [same, ih membersDistinct]

theorem get?_eq_some_iff {record : Record} (ordered : record.Ordered) {name : String}
    {value : Json} : record.get? name = some value ↔ (name, value) ∈ record := by
  refine ⟨fun found => ?_, get?_eq_some_of_mem ordered⟩
  induction record with
  | nil => simp [get?] at found
  | cons first rest ih =>
      obtain ⟨key, kept⟩ := first
      rw [get?_cons] at found
      split at found
      · rename_i same
        simp [same, Option.some.inj found]
      · exact List.mem_cons_of_mem _ (ih (List.pairwise_cons.1 ordered).2 found)

theorem Ordered.ext {first second : Record} (ordered : first.Ordered)
    (orderedToo : second.Ordered)
    (same : ∀ name value, first.get? name = some value ↔ second.get? name = some value) :
    first = second := by
  have members (member : String × Json) : member ∈ first ↔ member ∈ second := by
    rw [← get?_eq_some_iff ordered, ← get?_eq_some_iff orderedToo, same]
  have strict {record : Record} (ordered : record.Ordered) :
      record.Pairwise fun left right => left.1 < right.1 := List.pairwise_map.1 ordered
  have nodup {record : Record} (ordered : record.Ordered) : record.Nodup :=
    (strict ordered).imp fun less same => ne_of_lt less (congrArg Prod.fst same)
  have permutation := (List.perm_ext_iff_of_nodup (nodup ordered) (nodup orderedToo)).2 members
  exact permutation.eq_of_pairwise
    (fun _ _ _ _ less greater => absurd (lt_trans less greater) (lt_irrefl _))
    (strict ordered) (strict orderedToo)

end ODataAdapter.Record

namespace ODataAdapter.Mapping

variable {mapping : Mapping}

theorem ordered_placeMembers (members : Record) {placed : Record} (ordered : placed.Ordered)
    (renamed : List String) : (mapping.placeMembers placed renamed members).Ordered := by
  induction members generalizing placed renamed with
  | nil => exact ordered
  | cons member rest ih =>
      obtain ⟨key, value⟩ := member
      rw [placeMembers]
      split
      · split
        · exact ih ordered renamed
        · exact ih (ordered.insert key value) renamed
      · rename_i name _
        split
        · exact ih ordered renamed
        · exact ih (ordered.insert name value) _

theorem ordered_restoreRecord (record : Record) : (mapping.restoreRecord record).Ordered :=
  ordered_placeMembers record (show Record.Ordered [] from .nil) []

theorem clientName_eq_iff {key name : String} :
    mapping.clientName key = name ↔
      mapping.source? key = some name ∨ mapping.source? key = none ∧ key = name := by
  rw [clientName]
  cases mapping.source? key with
  | none => simp
  | some source => simp

theorem exists_member_of_get?_restoreRecord {record : Record} (ordered : record.Ordered)
    {name : String} {value : Json}
    (found : (mapping.restoreRecord record).get? name = some value) :
    ∃ key, (key, value) ∈ record ∧ mapping.clientName key = name := by
  rw [get?_restoreRecord, Option.or_eq_some_iff] at found
  rcases found with renamed | ⟨_, unchanged⟩
  · obtain ⟨member, first, rfl⟩ := Option.map_eq_some_iff.1 renamed
    have goes : mapping.source? member.1 = some name := by simpa using List.find?_some first
    exact ⟨member.1, List.mem_of_find?_eq_some first, clientName_eq_iff.2 (Or.inl goes)⟩
  · rw [unchangedValue?] at unchanged
    split at unchanged
    · rename_i stays
      exact ⟨name, (Record.get?_eq_some_iff ordered).1 unchanged,
        clientName_eq_iff.2 (Or.inr ⟨stays, rfl⟩)⟩
    · simp at unchanged

theorem exists_get?_restoreRecord {record : Record} (ordered : record.Ordered) {key : String}
    {value : Json} (member : (key, value) ∈ record) :
    ∃ restored, (mapping.restoreRecord record).get? (mapping.clientName key) = some restored := by
  rw [← Option.isSome_iff_exists, get?_restoreRecord, Option.isSome_or, Bool.or_eq_true]
  cases source : mapping.source? key with
  | none =>
      refine Or.inr ?_
      rw [clientName, source, Option.getD_none, unchangedValue?, if_pos source,
        Record.get?_eq_some_of_mem ordered member]
      rfl
  | some name =>
      refine Or.inl ?_
      rw [clientName, source, Option.getD_some, renamedValue?, Option.isSome_map,
        List.find?_isSome]
      exact ⟨(key, value), member, by simpa using source⟩

theorem get?_restoreRecord_eq_some_iff {record : Record} (ordered : record.Ordered)
    (apart : ∀ key ∈ record.names, ∀ other ∈ record.names,
      mapping.clientName key = mapping.clientName other → key = other)
    {name : String} {value : Json} :
    (mapping.restoreRecord record).get? name = some value ↔
      ∃ key, (key, value) ∈ record ∧ mapping.clientName key = name := by
  refine ⟨exists_member_of_get?_restoreRecord ordered, ?_⟩
  rintro ⟨key, member, rfl⟩
  obtain ⟨restored, found⟩ := exists_get?_restoreRecord ordered member
  obtain ⟨other, otherMember, same⟩ := exists_member_of_get?_restoreRecord ordered found
  obtain rfl := apart other (List.mem_map_of_mem otherMember) key (List.mem_map_of_mem member) same
  have held := Record.get?_eq_some_of_mem ordered member
  rw [Record.get?_eq_some_of_mem ordered otherMember] at held
  rw [found, held]

/-! There and back. -/

def renameRecord (mapping : Mapping) (record : Record) : Record :=
  Record.ofMembers (record.map fun member => (mapping.backendName member.1, member.2))

/-- The name is free: no rename gives it to another field, unless it has a rename itself. -/
def Free (mapping : Mapping) (name : String) : Prop :=
  (∀ pair ∈ mapping.renames, pair.source ≠ name) → ∀ pair ∈ mapping.renames, pair.target ≠ name

instance (mapping : Mapping) (name : String) : Decidable (mapping.Free name) :=
  inferInstanceAs (Decidable (_ → _))

theorem backendName_of_unpaired {name : String}
    (unpaired : ∀ pair ∈ mapping.renames, pair.source ≠ name) :
    mapping.backendName name = name := by
  have none : mapping.renames.find? (·.source = name) = none := by
    simpa [List.find?_eq_none] using unpaired
  rw [backendName, none, Option.map_none, Option.getD_none]

theorem clientName_backendName (distinct : (mapping.renames.map Rename.target).Nodup)
    {name : String} (free : mapping.Free name) :
    mapping.clientName (mapping.backendName name) = name := by
  rw [clientName_eq_iff]
  by_cases paired : ∃ pair ∈ mapping.renames, pair.source = name
  · exact Or.inl ((source?_eq_some_iff distinct).2 (backendName_mem paired))
  · have unpaired : ∀ pair ∈ mapping.renames, pair.source ≠ name := by simpa using paired
    have stays := backendName_of_unpaired unpaired
    refine Or.inr ⟨?_, stays⟩
    rw [stays, source?, Option.map_eq_none_iff, List.find?_eq_none]
    simpa using free unpaired

section RoundTrip

variable {record : Record}

theorem mem_renameRecord_iff (distinct : (mapping.renames.map Rename.target).Nodup)
    (ordered : record.Ordered) (free : ∀ name ∈ record.names, mapping.Free name)
    {key : String} {value : Json} :
    (key, value) ∈ mapping.renameRecord record ↔
      ∃ name, (name, value) ∈ record ∧ mapping.backendName name = key := by
  have keys : (record.map fun member => (mapping.backendName member.1, member.2)).map Prod.fst =
      record.names.map mapping.backendName := by
    simp [Record.names]
  have apart : (record.names.map mapping.backendName).Nodup := by
    -- Names that are sent to one key come back from it as one.
    refine List.Nodup.map_on (fun first isName second isNameToo same => ?_) (ordered.imp ne_of_lt)
    rw [← clientName_backendName distinct (free first isName), same,
      clientName_backendName distinct (free second isNameToo)]
  rw [← keys] at apart
  rw [renameRecord, ← Record.get?_eq_some_iff (Record.ordered_ofMembers _),
    Record.get?_ofMembers_eq_some_iff apart]
  simp

/-- With distinct targets, a record whose names are free comes back from the backend as it was. Its
fields may be renamed in chains and cycles, and one name may have several renames. -/
theorem restoreRecord_renameRecord (distinct : (mapping.renames.map Rename.target).Nodup)
    (ordered : record.Ordered) (free : ∀ name ∈ record.names, mapping.Free name) :
    mapping.restoreRecord (mapping.renameRecord record) = record := by
  have sent {key : String} {value : Json} :=
    @mem_renameRecord_iff mapping record distinct ordered free key value
  have sentOrdered : (mapping.renameRecord record).Ordered := Record.ordered_ofMembers _
  have back {name : String} {value : Json} (member : (name, value) ∈ record) :
      mapping.clientName (mapping.backendName name) = name :=
    clientName_backendName distinct (free name (List.mem_map_of_mem member))
  have apart : ∀ key ∈ (mapping.renameRecord record).names,
      ∀ other ∈ (mapping.renameRecord record).names,
        mapping.clientName key = mapping.clientName other → key = other := by
    intro key isKey other isOther same
    obtain ⟨⟨_, value⟩, isMember, rfl⟩ := List.mem_map.1 isKey
    obtain ⟨⟨_, value'⟩, isMember', rfl⟩ := List.mem_map.1 isOther
    obtain ⟨name, member, rfl⟩ := sent.1 isMember
    obtain ⟨name', member', rfl⟩ := sent.1 isMember'
    rw [back member, back member'] at same
    rw [same]
  refine (ordered_restoreRecord _).ext ordered fun name value => ?_
  rw [get?_restoreRecord_eq_some_iff sentOrdered apart, Record.get?_eq_some_iff ordered]
  constructor
  · rintro ⟨key, isMember, rfl⟩
    obtain ⟨name, member, rfl⟩ := sent.1 isMember
    rwa [back member]
  · intro member
    exact ⟨mapping.backendName name, sent.2 ⟨name, member, rfl⟩, back member⟩

end RoundTrip

theorem restoreRecord_renameRecord_of_swapped_names :
    let mapping := (Mapping.empty.withRename "A" "B").withRename "B" "A"
    let record : Record := [("A", .number (.integer 1)), ("B", .null), ("C", .bool true)]
    (mapping.renames.map Rename.target).Nodup ∧ record.Ordered ∧
      (∀ name ∈ record.names, mapping.Free name) ∧
        mapping.restoreRecord (mapping.renameRecord record) = record := by
  intro mapping record
  have distinct : (mapping.renames.map Rename.target).Nodup := by decide
  have ordered : record.Ordered := by decide
  have free : ∀ name ∈ record.names, mapping.Free name := by decide
  exact ⟨distinct, ordered, free, restoreRecord_renameRecord distinct ordered free⟩

end ODataAdapter.Mapping
