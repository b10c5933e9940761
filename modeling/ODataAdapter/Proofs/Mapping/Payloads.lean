import ODataAdapter.Proofs.Mapping.RoundTrip

/-!
Whole payloads. Which shapes are restored and what becomes of their parts, and the element that is
named where a payload is refused.
-/

namespace ODataAdapter

namespace Record

theorem names_insert_of_mem {record : Record} (ordered : record.Ordered) {name : String}
    (present : name ∈ record.names) (value : Json) :
    (record.insert name value).names = record.names := by
  induction record with
  | nil => contradiction
  | cons first rest ih =>
      obtain ⟨key, kept⟩ := first
      obtain ⟨later, restOrdered⟩ := List.pairwise_cons.1 ordered
      have notBefore : ¬ name < key := by
        rcases List.mem_cons.1 present with same | isLater
        · exact same ▸ lt_irrefl name
        · exact not_lt_of_gt (later name isLater)
      rw [insert, if_neg notBefore]
      by_cases same : name = key
      · simp [names, same]
      · have isLater : name ∈ names rest := (List.mem_cons.1 present).resolve_left same
        have restNames := ih restOrdered isLater
        simp only [names] at restNames
        simp [names, same, restNames]

end Record

namespace Json

def IsRecord (value : Json) : Prop :=
  ∃ record : Record, value = .object record

inductive IsPayload : Json → Prop
  | rows {rows : List Json} : (∀ row ∈ rows, row.IsRecord) → IsPayload (.array rows)
  | envelope {record : Record} {rows : List Json} : record.get? "value" = some (.array rows) →
      (∀ row ∈ rows, row.IsRecord) → IsPayload (.object record)
  | record {record : Record} : (∀ rows, record.get? "value" ≠ some (.array rows)) →
      IsPayload (.object record)

def IsFirstOther (rows : List Json) (row : Json) : Prop :=
  ∃ before after, rows = before ++ row :: after ∧ (∀ earlier ∈ before, earlier.IsRecord) ∧
    ¬ row.IsRecord

/-- What stands in a payload in the place of something else: the first row that is no record, or the
payload as a whole. -/
inductive Offends : Json → PayloadShape → Json → Prop
  | row {rows : List Json} {row : Json} : IsFirstOther rows row → Offends (.array rows) .record row
  | enveloped {record : Record} {rows : List Json} {row : Json} :
      record.get? "value" = some (.array rows) → IsFirstOther rows row →
        Offends (.object record) .record row
  | whole {payload : Json} : (∀ rows, payload ≠ .array rows) → ¬ payload.IsRecord →
      Offends payload .recordOrRecords payload

theorem IsFirstOther.cons {rows : List Json} {row : Json} (first : IsFirstOther rows row)
    (record : Record) : IsFirstOther (.object record :: rows) row := by
  obtain ⟨before, after, rfl, records, other⟩ := first
  exact ⟨.object record :: before, after, rfl,
    List.forall_mem_cons.2 ⟨⟨record, rfl⟩, records⟩, other⟩

theorem IsFirstOther.not_forall {rows : List Json} {row : Json} (first : IsFirstOther rows row) :
    ¬ ∀ row ∈ rows, row.IsRecord := by
  obtain ⟨before, after, rfl, _, other⟩ := first
  exact fun records => other (records row (by simp))

theorem Offends.not_isPayload {payload found : Json} {expected : PayloadShape}
    (offends : Offends payload expected found) : ¬ payload.IsPayload := by
  intro shape
  cases shape with
  | rows records =>
      cases offends with
      | row first => exact first.not_forall records
      | whole noRows _ => exact noRows _ rfl
  | envelope held records =>
      cases offends with
      | enveloped heldToo first =>
          obtain rfl := Json.array.inj (Option.some.inj (held.symm.trans heldToo))
          exact first.not_forall records
      | whole _ noRecord => exact noRecord ⟨_, rfl⟩
  | record other =>
      cases offends with
      | enveloped held _ => exact other _ held
      | whole _ noRecord => exact noRecord ⟨_, rfl⟩

theorem payload_cases (payload : Json) :
    (∃ rows, payload = .array rows) ∨
    (∃ (record : Record) (rows : List Json), payload = .object record ∧
      record.get? "value" = some (.array rows)) ∨
    (∃ record : Record, payload = .object record ∧
      ∀ rows, record.get? "value" ≠ some (.array rows)) ∨
    ((∀ rows, payload ≠ .array rows) ∧ ¬ payload.IsRecord) := by
  cases payload with
  | array rows => exact Or.inl ⟨rows, rfl⟩
  | object record =>
      refine Or.inr ?_
      by_cases held : ∃ rows, Record.get? record "value" = some (.array rows)
      · obtain ⟨rows, found⟩ := held
        exact Or.inl ⟨record, rows, rfl, found⟩
      · exact Or.inr (Or.inl ⟨record, rfl, not_exists.1 held⟩)
  | _ => exact Or.inr (Or.inr (Or.inr (by simp [IsRecord])))

end Json

namespace Mapping

variable {mapping : Mapping}

def RestoresRow (mapping : Mapping) (row restored : Json) : Prop :=
  ∃ record : Record, row = .object record ∧ restored = .object (mapping.restoreRecord record)

/-- What becomes of a payload: a list has its rows restored one by one, an envelope has its list
replaced by the restored one and all else as it was, and another record is restored itself. -/
inductive RestoresTo (mapping : Mapping) : Json → Json → Prop
  | rows {rows restored : List Json} : List.Forall₂ mapping.RestoresRow rows restored →
      RestoresTo mapping (.array rows) (.array restored)
  | envelope {record restored : Record} {rows restoredRows : List Json} :
      record.get? "value" = some (.array rows) →
        List.Forall₂ mapping.RestoresRow rows restoredRows → restored.names = record.names →
          restored.get? "value" = some (.array restoredRows) →
            (∀ name, name ≠ "value" → restored.get? name = record.get? name) →
              RestoresTo mapping (.object record) (.object restored)
  | record {record : Record} : (∀ rows, record.get? "value" ≠ some (.array rows)) →
      RestoresTo mapping (.object record) (.object (mapping.restoreRecord record))

theorem restoreRows_cases (rows : List Json) :
    ((∀ row ∈ rows, row.IsRecord) ∧ ∃ restored, mapping.restoreRows rows = .ok restored ∧
      List.Forall₂ mapping.RestoresRow rows restored) ∨
    ∃ row, mapping.restoreRows rows = .error (.payload .record row) ∧
      Json.IsFirstOther rows row := by
  fun_induction restoreRows mapping rows with
  | case1 => exact Or.inl ⟨by simp, [], rfl, .nil⟩
  | case2 record rows ih =>
      rcases ih with ⟨records, restored, found, each⟩ | ⟨row, failed, first⟩
      · refine Or.inl ⟨List.forall_mem_cons.2 ⟨⟨record, rfl⟩, records⟩, _, by rw [found]; rfl, ?_⟩
        exact .cons ⟨record, rfl, rfl⟩ each
      · exact Or.inr ⟨row, by rw [failed]; rfl, first.cons record⟩
  | case3 row rows other =>
      have noRecord : ¬ row.IsRecord := fun ⟨record, same⟩ => other record same
      exact Or.inr ⟨row, rfl, [], rows, rfl, by simp, noRecord⟩

theorem restorePayload_envelope {record : Record} {rows : List Json}
    (held : record.get? "value" = some (.array rows)) :
    mapping.restorePayload (.object record) = (mapping.restoreRows rows).map fun rows =>
      .object (record.insert "value" (.array rows)) := by
  simp [restorePayload, held]

theorem restorePayload_record {record : Record}
    (other : ∀ rows, record.get? "value" ≠ some (.array rows)) :
    mapping.restorePayload (.object record) = .ok (.object (mapping.restoreRecord record)) := by
  rw [restorePayload]
  split
  · rename_i rows held
    exact absurd held (other rows)
  · rfl

theorem restorePayload_scalar {payload : Json} (noRows : ∀ rows, payload ≠ .array rows)
    (noRecord : ¬ payload.IsRecord) :
    mapping.restorePayload payload = .error (.payload .recordOrRecords payload) := by
  cases payload with
  | array rows => exact absurd rfl (noRows rows)
  | object record => exact absurd ⟨record, rfl⟩ noRecord
  | _ => rfl

theorem restoresTo_envelope {record : Record} (ordered : record.Ordered) {rows restored : List Json}
    (held : record.get? "value" = some (.array rows))
    (each : List.Forall₂ mapping.RestoresRow rows restored) :
    mapping.RestoresTo (.object record) (.object (record.insert "value" (.array restored))) := by
  have present : "value" ∈ record.names := Record.mem_names_iff.2 ⟨_, held⟩
  refine .envelope held each (Record.names_insert_of_mem ordered present _) ?_ ?_
  · rw [Record.get?_insert, if_pos rfl]
  · intro name different
    rw [Record.get?_insert, if_neg different]

theorem restorePayload_cases {payload : Json}
    (ordered : ∀ record : Record, payload = .object record → record.Ordered) :
    (payload.IsPayload ∧ ∃ restored, mapping.restorePayload payload = .ok restored ∧
      mapping.RestoresTo payload restored) ∨
    ∃ expected found, mapping.restorePayload payload = .error (.payload expected found) ∧
      payload.Offends expected found := by
  rcases payload.payload_cases with
    ⟨rows, rfl⟩ | ⟨record, rows, rfl, held⟩ | ⟨record, rfl, other⟩ | ⟨noRows, noRecord⟩
  · rw [restorePayload]
    rcases mapping.restoreRows_cases rows with
      ⟨records, restored, found, each⟩ | ⟨row, failed, first⟩
    · exact Or.inl ⟨.rows records, _, by rw [found]; rfl, .rows each⟩
    · exact Or.inr ⟨_, row, by rw [failed]; rfl, .row first⟩
  · rw [restorePayload_envelope held]
    rcases mapping.restoreRows_cases rows with
      ⟨records, restored, found, each⟩ | ⟨row, failed, first⟩
    · exact Or.inl ⟨.envelope held records, _, by rw [found]; rfl,
        restoresTo_envelope (ordered record rfl) held each⟩
    · exact Or.inr ⟨_, row, by rw [failed]; rfl, .enveloped held first⟩
  · exact Or.inl ⟨.record other, _, restorePayload_record other, .record other⟩
  · exact Or.inr ⟨_, payload, restorePayload_scalar noRows noRecord, .whole noRows noRecord⟩

/-- A payload is restored exactly if it is a list of records, an envelope around one, or another
record, and then part by part. Otherwise the first element in the place of a record is named. -/
theorem restorePayload_restores_or_refuses {payload : Json}
    (ordered : ∀ record : Record, payload = .object record → record.Ordered) :
    ((∃ restored, mapping.restorePayload payload = .ok restored) ↔ payload.IsPayload) ∧
    (∀ restored, mapping.restorePayload payload = .ok restored →
      mapping.RestoresTo payload restored) ∧
    ∀ error, mapping.restorePayload payload = .error error →
      ∃ expected found, error = .payload expected found ∧ payload.Offends expected found := by
  rcases restorePayload_cases ordered with
    ⟨shape, restored, outcome, restores⟩ | ⟨expected, found, outcome, offends⟩
  · rw [outcome]
    refine ⟨iff_of_true ⟨restored, rfl⟩ shape, ?_, by simp⟩
    rintro _ ⟨⟩
    exact restores
  · rw [outcome]
    refine ⟨iff_of_false (by simp) offends.not_isPayload, by simp, ?_⟩
    rintro _ ⟨⟩
    exact ⟨expected, found, rfl, offends⟩

theorem restorePayload_restores_or_refuses_of_envelopes :
    let mapping := Mapping.empty.withRename "Code" "No"
    let record (row : Json) : Record :=
      [("Code", .null), ("value", .array [.object [("No", .bool true)], row]), ("zone", .null)]
    let restored : Record :=
      [("Code", .null),
        ("value", .array [.object [("Code", .bool true)], .object [("Name", .null)]]),
        ("zone", .null)]
    (∀ row, (record row).Ordered) ∧
      mapping.RestoresTo (.object (record (.object [("Name", .null)]))) (.object restored) ∧
        (Json.object (record .null)).Offends .record .null := by
  intro mapping record restored
  have ordered (row : Json) : (record row).Ordered := by
    simp only [Record.Ordered, record, Record.names, List.map]
    decide
  have objectOrdered (row : Json) (other : Record)
      (same : Json.object (record row) = .object other) : other.Ordered :=
    Json.object.inj same ▸ ordered row
  have restores : mapping.restorePayload (.object (record (.object [("Name", .null)]))) =
      .ok (.object restored) := by rfl
  have refuses : mapping.restorePayload (.object (record .null)) =
      .error (.payload .record .null) := by rfl
  obtain ⟨expected, found, same, offends⟩ :=
    (restorePayload_restores_or_refuses (objectOrdered .null)).2.2 _ refuses
  obtain ⟨rfl, rfl⟩ := AdaptError.payload.inj same
  exact ⟨ordered, (restorePayload_restores_or_refuses (objectOrdered _)).2.1 _ restores, offends⟩

end Mapping

end ODataAdapter
