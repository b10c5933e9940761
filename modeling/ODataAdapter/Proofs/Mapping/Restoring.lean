import ODataAdapter.Mapping.Records
import Mathlib

/-!
What a restored record holds under a client name: the value of the first member that a rename gives
this name, else that of the member that keeps it. The members come in the order of their backend
names, so among several renames with one source the least target decides, and not the rename that
is first in the mapping.
-/

namespace ODataAdapter.Record

def Ordered (record : Record) : Prop :=
  record.names.Pairwise (· < ·)

instance (record : Record) : Decidable record.Ordered :=
  inferInstanceAs (Decidable (record.names.Pairwise (· < ·)))

theorem get?_cons (key name : String) (value : Json) (rest : Record) :
    get? ((key, value) :: rest) name = if name = key then some value else get? rest name := by
  by_cases same : name = key
  · simp [get?, same]
  · have test : (name == key) = false := beq_eq_false_iff_ne.2 same
    simp [get?, List.lookup_cons, test, same]

theorem contains_eq_isSome_get? (record : Record) (name : String) :
    record.contains name = (record.get? name).isSome := by
  induction record with
  | nil => rfl
  | cons member rest ih =>
      obtain ⟨key, value⟩ := member
      rw [get?_cons]
      simp only [contains, List.any_cons] at ih ⊢
      by_cases same : name = key
      · simp [same]
      · simp [same, Ne.symm same, ih]

theorem mem_names_iff {record : Record} {name : String} :
    name ∈ record.names ↔ ∃ value, record.get? name = some value := by
  rw [← Option.isSome_iff_exists, ← contains_eq_isSome_get?]
  simp [names, contains]

theorem get?_insert (record : Record) (name other : String) (value : Json) :
    (record.insert name value).get? other =
      if other = name then some value else record.get? other := by
  induction record with
  | nil => rw [Record.insert, get?_cons]
  | cons member rest ih =>
      obtain ⟨key, kept⟩ := member
      rw [Record.insert]
      split
      · rw [get?_cons]
      · split
        · rename_i same
          subst same
          by_cases here : other = name <;> simp [get?_cons, here]
        · rename_i different
          rw [get?_cons, ih, get?_cons]
          by_cases here : other = key
          · subst here
            simp [Ne.symm different]
          · simp [here]

theorem contains_insert_of_contains {record : Record} {name other : String} {value : Json}
    (held : record.contains other = true) : (record.insert name value).contains other = true := by
  rw [contains_eq_isSome_get?] at held ⊢
  rw [get?_insert]
  by_cases same : other = name
  · simp [same]
  · simpa [same] using held

theorem get?_eq_some_of_mem {record : Record} (ordered : record.Ordered) {name : String}
    {value : Json} (member : (name, value) ∈ record) : record.get? name = some value := by
  induction record with
  | nil => contradiction
  | cons first rest ih =>
      obtain ⟨key, kept⟩ := first
      obtain ⟨later, restOrdered⟩ := List.pairwise_cons.1 ordered
      rw [get?_cons]
      rcases List.mem_cons.1 member with here | there
      · obtain ⟨rfl, rfl⟩ := Prod.mk.inj here
        rw [if_pos rfl]
      · have below := later name (List.mem_map_of_mem there)
        rw [if_neg (ne_of_gt below)]
        exact ih restOrdered there

theorem find?_least {record : Record} (ordered : record.Ordered) {p : String × Json → Bool}
    {found : String × Json} (isFound : record.find? p = some found) :
    ∀ member ∈ record, p member = true → found.1 ≤ member.1 := by
  induction record with
  | nil => simp at isFound
  | cons first rest ih =>
      obtain ⟨later, restOrdered⟩ := List.pairwise_cons.1 ordered
      intro member isMember holds
      by_cases firstHolds : p first = true
      · rw [List.find?_cons_of_pos firstHolds] at isFound
        obtain rfl := Option.some.inj isFound
        rcases List.mem_cons.1 isMember with same | there
        · exact le_of_eq (congrArg Prod.fst same.symm)
        · exact le_of_lt (later member.1 (List.mem_map_of_mem there))
      · rw [List.find?_cons_of_neg firstHolds] at isFound
        rcases List.mem_cons.1 isMember with same | there
        · exact absurd (same ▸ holds) firstHolds
        · exact ih restOrdered isFound member there holds

end ODataAdapter.Record

namespace ODataAdapter.Mapping

variable {mapping : Mapping} {name : String}

def renamedValue? (mapping : Mapping) (members : Record) (name : String) : Option Json :=
  (members.find? fun member => mapping.source? member.1 = some name).map Prod.snd

def unchangedValue? (mapping : Mapping) (members : Record) (name : String) : Option Json :=
  if mapping.source? name = none then members.get? name else none

theorem renamedValue?_cons (key : String) (value : Json) (rest : Record) :
    mapping.renamedValue? ((key, value) :: rest) name =
      if mapping.source? key = some name then some value
      else mapping.renamedValue? rest name := by
  simp only [renamedValue?, List.find?_cons]
  split
  · rename_i goes
    simp [of_decide_eq_true goes]
  · rename_i stays
    simp [of_decide_eq_false stays]

theorem unchangedValue?_cons (key : String) (value : Json) (rest : Record) :
    mapping.unchangedValue? ((key, value) :: rest) name =
      if mapping.source? key = none ∧ name = key then some value
      else mapping.unchangedValue? rest name := by
  simp only [unchangedValue?, Record.get?_cons]
  by_cases same : name = key
  · subst same
    by_cases unpaired : mapping.source? name = none <;> simp [unpaired]
  · simp [same]

theorem get?_placeMembers (members : Record) {placed : Record} {renamed : List String}
    (covered : ∀ other ∈ renamed, placed.contains other = true) :
    (mapping.placeMembers placed renamed members).get? name =
      if name ∈ renamed then placed.get? name
      else ((mapping.renamedValue? members name).or (placed.get? name)).or
        (mapping.unchangedValue? members name) := by
  induction members generalizing placed renamed with
  | nil => simp [placeMembers, renamedValue?, unchangedValue?, Record.get?]
  | cons member rest ih =>
      obtain ⟨key, value⟩ := member
      rw [placeMembers, renamedValue?_cons, unchangedValue?_cons]
      -- A renamed member wins over what was placed before unless that was renamed too.
      cases found : mapping.source? key with
      | none =>
          dsimp only
          by_cases taken : placed.contains key = true
          · rw [if_pos taken, ih covered]
            rw [Record.contains_eq_isSome_get?] at taken
            obtain ⟨old, held⟩ := Option.isSome_iff_exists.1 taken
            by_cases same : name = key
            · subst same
              simp [held]
            · simp [same]
          · have stillCovered :
                ∀ other ∈ renamed, (placed.insert key value).contains other = true :=
              fun other member => Record.contains_insert_of_contains (covered other member)
            rw [if_neg taken, ih stillCovered, Record.get?_insert]
            by_cases same : name = key
            · subst same
              have fresh : name ∉ renamed := fun member => taken (covered name member)
              rw [Record.contains_eq_isSome_get?, Option.not_isSome_iff_eq_none] at taken
              cases mapping.renamedValue? rest name with
              | none => simp [fresh, taken]
              | some value => simp [fresh]
            · simp [same]
      | some given =>
          dsimp only
          by_cases again : given ∈ renamed
          · rw [if_pos (by simp [again, covered given again]), ih covered]
            by_cases same : given = name
            · subst same
              simp [again]
            · simp [same]
          · have stillCovered : ∀ other ∈ given :: renamed,
                (placed.insert given value).contains other = true := by
              intro other member
              rcases List.mem_cons.1 member with same | earlier
              · simp [Record.contains_eq_isSome_get?, Record.get?_insert, same]
              · exact Record.contains_insert_of_contains (covered other earlier)
            rw [if_neg (by simp [again]), ih stillCovered, Record.get?_insert]
            by_cases same : given = name
            · subst same
              simp [again]
            · simp [same, Ne.symm same]

/-- What a restored record holds under a name is what a rename has given the name, and only without
that what has kept it. -/
theorem get?_restoreRecord (record : Record) :
    (mapping.restoreRecord record).get? name =
      (mapping.renamedValue? record name).or (mapping.unchangedValue? record name) := by
  have nothing : Record.get? [] name = none := rfl
  rw [restoreRecord, get?_placeMembers record (by simp), if_neg (by simp), nothing, Option.or_none]

theorem exists_least_renamed {record : Record} (ordered : record.Ordered)
    (given : ∃ key ∈ record.names, mapping.source? key = some name) :
    ∃ key value, record.get? key = some value ∧ mapping.source? key = some name ∧
      (∀ other ∈ record.names, mapping.source? other = some name → key ≤ other) ∧
      (mapping.restoreRecord record).get? name = some value := by
  obtain ⟨_, present, goes⟩ := given
  obtain ⟨member, isMember, rfl⟩ := List.mem_map.1 present
  cases found : record.find? fun member => mapping.source? member.1 = some name with
  | none => exact absurd (decide_eq_true goes) (List.find?_eq_none.1 found member isMember)
  | some least =>
      obtain ⟨key, value⟩ := least
      refine ⟨key, value, ?_, by simpa using List.find?_some found, ?_, ?_⟩
      · exact Record.get?_eq_some_of_mem ordered (List.mem_of_find?_eq_some found)
      · intro other isName otherGoes
        obtain ⟨member', isMember', rfl⟩ := List.mem_map.1 isName
        exact Record.find?_least ordered found member' isMember' (decide_eq_true otherGoes)
      · rw [get?_restoreRecord, renamedValue?, found]
        rfl

/-! Mappings in which every target occurs once. -/

theorem find?_target_of_mem {renames : List Rename} (distinct : (renames.map Rename.target).Nodup)
    {pair : Rename} (member : pair ∈ renames) :
    renames.find? (·.target = pair.target) = some pair := by
  induction renames with
  | nil => contradiction
  | cons first rest ih =>
      obtain ⟨fresh, restDistinct⟩ := List.nodup_cons.1 distinct
      rcases List.mem_cons.1 member with same | later
      · subst same
        simp
      · have different : first.target ≠ pair.target := by
          intro same
          exact fresh (same ▸ List.mem_map_of_mem later)
        rw [List.find?_cons_of_neg (by simpa using different)]
        exact ih restDistinct later

theorem source?_eq_some_iff (distinct : (mapping.renames.map Rename.target).Nodup) {key : String} :
    mapping.source? key = some name ↔ ⟨name, key⟩ ∈ mapping.renames := by
  rw [source?, Option.map_eq_some_iff]
  constructor
  · rintro ⟨pair, found, rfl⟩
    have target : pair.target = key := by simpa using List.find?_some found
    subst target
    exact List.mem_of_find?_eq_some found
  · intro member
    exact ⟨⟨name, key⟩, find?_target_of_mem distinct member, rfl⟩

theorem backendName_mem (paired : ∃ pair ∈ mapping.renames, pair.source = name) :
    ⟨name, mapping.backendName name⟩ ∈ mapping.renames := by
  cases found : mapping.renames.find? (·.source = name) with
  | none =>
      obtain ⟨pair, member, same⟩ := paired
      have differs := List.find?_eq_none.1 found pair member
      simp [same] at differs
  | some pair =>
      have source : pair.source = name := by simpa using List.find?_some found
      subst source
      simpa [backendName, found] using List.mem_of_find?_eq_some found

theorem exists_least_restored (distinct : (mapping.renames.map Rename.target).Nodup)
    {record : Record} (ordered : record.Ordered) {target : String}
    (paired : ⟨name, target⟩ ∈ mapping.renames) (present : target ∈ record.names) :
    ∃ key value, record.get? key = some value ∧ ⟨name, key⟩ ∈ mapping.renames ∧
      (∀ other ∈ record.names, ⟨name, other⟩ ∈ mapping.renames → key ≤ other) ∧
      (mapping.restoreRecord record).get? name = some value := by
  have goes (key : String) : mapping.source? key = some name ↔ ⟨name, key⟩ ∈ mapping.renames :=
    source?_eq_some_iff distinct
  simpa only [goes] using exists_least_renamed ordered ⟨target, present, (goes target).2 paired⟩

/-- With distinct targets, a restored record has a value under every name that is renamed to a
member of the record: that of the member with the least backend name among those the name is renamed
to. This is the member that the name itself is renamed to, whatever the record, exactly if the first
rename of the name has the least target of all its renames. -/
theorem get?_restoreRecord_backendName_iff
    (distinct : (mapping.renames.map Rename.target).Nodup)
    (paired : ∃ pair ∈ mapping.renames, pair.source = name) :
    (∀ record : Record, record.Ordered → mapping.backendName name ∈ record.names →
      ∃ key value, record.get? key = some value ∧ ⟨name, key⟩ ∈ mapping.renames ∧
        (∀ other ∈ record.names, ⟨name, other⟩ ∈ mapping.renames → key ≤ other) ∧
        (mapping.restoreRecord record).get? name = some value) ∧
    ((∀ record : Record, record.Ordered → mapping.backendName name ∈ record.names →
        (mapping.restoreRecord record).get? name = record.get? (mapping.backendName name)) ↔
      ∀ pair ∈ mapping.renames, pair.source = name →
        mapping.backendName name ≤ pair.target) := by
  have first := backendName_mem paired
  refine ⟨?_, ?_, ?_⟩
  · intro record ordered present
    exact exists_least_restored distinct ordered first present
  · intro agrees pair member same
    subst same
    -- A record of the two members alone, with different values.
    by_contra notLeast
    have less : pair.target < mapping.backendName pair.source := not_le.1 notLeast
    have ordered :
        Record.Ordered [(pair.target, .null), (mapping.backendName pair.source, .bool true)] := by
      simpa [Record.Ordered, Record.names] using less
    obtain ⟨key, value, found, _, least, restored⟩ :=
      exists_least_restored distinct ordered first (by simp [Record.names])
    have atMost : key ≤ pair.target := least _ (by simp [Record.names]) member
    have keyOther : key ≠ mapping.backendName pair.source := ne_of_lt (lt_of_le_of_lt atMost less)
    have agreed := agrees _ ordered (by simp [Record.names])
    rw [restored, ← found] at agreed
    simp only [Record.get?_cons, keyOther, ne_of_gt less, if_true, if_false] at agreed
    split at agreed
    · simp at agreed
    · simp [Record.get?] at agreed
  · intro least record ordered present
    obtain ⟨key, value, found, keyPaired, keyLeast, restored⟩ :=
      exists_least_restored distinct ordered first present
    have atMost := keyLeast _ present first
    have atLeast := least _ keyPaired rfl
    rw [restored, ← le_antisymm atMost atLeast, found]

theorem get?_restoreRecord_backendName_iff_of_shadowed :
    let mapping := (Mapping.empty.withRename "N" "b").withRename "N" "z"
    (mapping.renames.map Rename.target).Nodup ∧
      (∃ pair ∈ mapping.renames, pair.source = "N") ∧
      (∀ record : Record, record.Ordered → mapping.backendName "N" ∈ record.names →
        ∃ key value, record.get? key = some value ∧ ⟨"N", key⟩ ∈ mapping.renames ∧
          (∀ other ∈ record.names, ⟨"N", other⟩ ∈ mapping.renames → key ≤ other) ∧
          (mapping.restoreRecord record).get? "N" = some value) ∧
      ((∀ record : Record, record.Ordered → mapping.backendName "N" ∈ record.names →
          (mapping.restoreRecord record).get? "N" = record.get? (mapping.backendName "N")) ↔
        ∀ pair ∈ mapping.renames, pair.source = "N" →
          mapping.backendName "N" ≤ pair.target) := by
  intro mapping
  have distinct : (mapping.renames.map Rename.target).Nodup := by decide
  have paired : ∃ pair ∈ mapping.renames, pair.source = "N" := by decide
  exact ⟨distinct, paired, get?_restoreRecord_backendName_iff distinct paired⟩

/-- The field `z` is what the client means by `N`, but a record gives it the value of `b`, whose
rename comes second. -/
theorem get?_restoreRecord_ne_of_shadowed_first :
    let mapping := (Mapping.empty.withRename "N" "z").withRename "N" "b"
    let record : Record := [("b", .number (.integer 1)), ("z", .number (.integer 2))]
    (mapping.renames.map Rename.target).Nodup ∧ record.Ordered ∧
      mapping.backendName "N" = "z" ∧ record.get? "z" = some (.number (.integer 2)) ∧
        (mapping.restoreRecord record).get? "N" = some (.number (.integer 1)) := by
  exact ⟨by decide, by decide, by decide, by rfl, by rfl⟩

end ODataAdapter.Mapping
