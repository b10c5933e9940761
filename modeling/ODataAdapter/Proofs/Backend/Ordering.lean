import ODataAdapter.Backend.Ordering
import ODataAdapter.Proofs.Backend.Printing
import ODataAdapter.Proofs.Order.Acceptance

/-!
Orderings that are read again from their backend text. Keys on deleted fields are gone from it, and
the others stand in their order under their backend names, with a comma between each two.
-/

namespace ODataAdapter

def SortKey.renamed? (mapping : Mapping) (key : SortKey) : Option SortKey :=
  (mapping.target? key.property).map fun name => { key with property := name }

def SortKey.text (key : SortKey) : String :=
  if key.descending then key.property ++ " desc" else key.property

def SortChain.survivors (mapping : Mapping) (chain : SortChain) : List SortKey :=
  chain.keys.filterMap (·.renamed? mapping)

theorem SortChain.survivors_eq_nil_iff {mapping : Mapping} {chain : SortChain} :
    chain.survivors mapping = [] ↔ ∀ key ∈ chain.keys, mapping.removes key.property = true := by
  simp [survivors, SortKey.renamed?, Mapping.target?, List.filterMap_eq_nil_iff]

theorem Filter.IsPath.comma_notMem {path : List Char} (spelled : IsPath path) : ',' ∉ path := by
  have noName {name : List Char} (named : IsName name) : ',' ∉ name := fun comma =>
    absurd (named.continues _ comma) (by decide)
  induction spelled with
  | name named => exact noName named
  | step named _ ih => simp [noName named, ih]

namespace Order

open ODataAdapter.Filter

/-- No comma begins or ends the text, and no two stand together. -/
def CommasSeparate (text : List Char) : Prop :=
  text.head? ≠ some ',' ∧ text.getLast? ≠ some ',' ∧ ¬ [',', ','] <:+: text

theorem splitOn_append_comma (before after : List Char) :
    (before ++ ',' :: after).splitOn ',' = before.splitOn ',' ++ after.splitOn ',' :=
  List.splitOnP_append_cons before after (beq_self_eq_true ',')

theorem commasSeparate_of_splitOn {text : List Char} (elements : [] ∉ text.splitOn ',') :
    CommasSeparate text := by
  have nothing : ([] : List Char).splitOn ',' = [[]] := rfl
  refine ⟨fun leading => elements ?_, fun trailing => elements ?_, fun doubled => elements ?_⟩
  · obtain ⟨after, rfl⟩ := List.head?_eq_some_iff.1 leading
    rw [← List.nil_append (',' :: after), splitOn_append_comma, nothing]
    simp
  · obtain ⟨before, rfl⟩ := List.getLast?_eq_some_iff.1 trailing
    rw [splitOn_append_comma, nothing]
    simp
  · obtain ⟨before, after, rfl⟩ := doubled
    have whole : before ++ [',', ','] ++ after = before ++ ',' :: ([] ++ ',' :: after) := by simp
    rw [whole, splitOn_append_comma, splitOn_append_comma, nothing]
    simp

theorem nil_notMem_of_writesKey {keys : List SortKey} {texts : List (List Char)}
    (each : List.Forall₂ WritesKey keys texts) : [] ∉ texts := by
  induction each with
  | nil => simp
  | cons written _ ih => simp [written.startsOperand.nonempty.symm, ih]

theorem WritesKey.comma_notMem {key : SortKey} {text : List Char} (written : WritesKey key text) :
    ',' ∉ text := by
  cases written with
  | plain spelled => exact spelled.comma_notMem
  | directed spelled run _ member =>
      have noGap : ',' ∉ _ := fun comma => absurd (run ',' comma) (by decide)
      have noWord : ',' ∉ _ := fun comma =>
        absurd ((isName_direction member).continues ',' comma) (by decide)
      simp [spelled.comma_notMem, noGap, noWord]

theorem writesKey_text {key : SortKey} (spelled : IsPath key.property.toList) :
    WritesKey key key.text.toList := by
  obtain ⟨path, descending⟩ := key
  cases descending with
  | false => exact .plain spelled
  | true =>
      have member : ("desc", true) ∈ directions := by simp [directions]
      have written := WritesKey.directed spelled isGapRun_space (by simp) member
      simpa [SortKey.text] using written

theorem writes_intercalate {chain : SortChain}
    (spelled : ∀ key ∈ chain.keys, IsPath key.property.toList) :
    Writes chain (String.intercalate "," (chain.keys.map SortKey.text)).toList := by
  induction chain with
  | last key =>
      have written := Writes.last (writesKey_text (spelled key List.mem_cons_self))
      simpa [SortChain.keys] using written
  | more key rest ih =>
      obtain ⟨here, later⟩ := List.forall_mem_cons.1 spelled
      have written := Writes.more (writesKey_text here) isGapRun_nil isGapRun_nil (ih later)
      have others : rest.keys.map SortKey.text ≠ [] := by simpa using rest.keys_ne_nil
      rw [SortChain.keys, List.map_cons, String.intercalate_cons_of_ne_nil others]
      simpa using written

theorem splitOn_intercalate {keys : List SortKey} (nonempty : keys ≠ [])
    (spelled : ∀ key ∈ keys, IsPath key.property.toList) :
    (String.intercalate "," (keys.map SortKey.text)).toList.splitOn ',' =
      keys.map fun key => key.text.toList := by
  have free : ∀ text ∈ keys.map fun key => key.text.toList, ',' ∉ text := by
    intro text member
    obtain ⟨key, isKey, rfl⟩ := List.mem_map.1 member
    exact (writesKey_text (spelled key isKey)).comma_notMem
  have split := List.splitOn_intercalate ',' free (by simpa using nonempty)
  simpa [String.toList_intercalate, Function.comp_def] using split

end Order

namespace Target

open ODataAdapter.Filter

variable {target : Target} {chain : SortChain}

theorem orderText_eq_intercalate : target.orderText chain =
    String.intercalate "," ((chain.survivors target.mapping).map SortKey.text) := by
  have keyText (key : SortKey) :
      target.keyText? key = (key.renamed? target.mapping).map SortKey.text := by
    simp [keyText?, SortKey.renamed?, SortKey.text, Function.comp_def]
  simp only [orderText, SortChain.survivors, List.map_filterMap, keyText]

section Paths

variable (fields : ∀ key ∈ chain.keys, IsPath key.property.toList)
  (targets : ∀ pair ∈ target.mapping.renames, IsPath pair.target.toList)

include fields targets

theorem isPath_survivors :
    ∀ key ∈ chain.survivors target.mapping, IsPath key.property.toList := by
  intro key member
  obtain ⟨given, isKey, renamed⟩ := List.mem_filterMap.1 member
  obtain ⟨name, found, rfl⟩ := Option.map_eq_some_iff.1 renamed
  exact Expr.target?_of_names (IsPath ·.toList) targets found (fields given isKey)

theorem writes_orderText {left : SortChain} (same : left.keys = chain.survivors target.mapping) :
    Order.Writes left (target.orderText chain).toList := by
  have spelled := isPath_survivors fields targets
  rw [← same] at spelled
  rw [orderText_eq_intercalate, ← same]
  exact Order.writes_intercalate spelled

theorem readChain_orderText_eq {left : SortChain}
    (same : left.keys = chain.survivors target.mapping) :
    Order.readChain (target.orderText chain).toList = .ok left := by
  have written := writes_orderText fields targets same
  rw [← written.trim_eq] at written
  exact written.readChain_eq

theorem writesKey_elements (kept : chain.survivors target.mapping ≠ []) :
    List.Forall₂ Order.WritesKey (chain.survivors target.mapping)
      ((target.orderText chain).toList.splitOn ',') := by
  have spelled := isPath_survivors fields targets
  rw [orderText_eq_intercalate, Order.splitOn_intercalate kept spelled,
    List.forall₂_map_right_iff, List.forall₂_same]
  exact fun key isKey => Order.writesKey_text (spelled key isKey)

end Paths

/-- An ordering on paths is read again from its backend text as the keys that are not deleted, each
in its place, under its backend name and in its direction; without such a key the text is empty. -/
theorem readChain_orderText (fields : ∀ key ∈ chain.keys, IsPath key.property.toList)
    (targets : ∀ pair ∈ target.mapping.renames, IsPath pair.target.toList) :
    ((∃ key ∈ chain.keys, target.mapping.removes key.property = false) →
      (∃ left, left.keys = chain.survivors target.mapping ∧
        Order.readChain (target.orderText chain).toList = .ok left) ∧
      List.Forall₂ Order.WritesKey (chain.survivors target.mapping)
        ((target.orderText chain).toList.splitOn ',')) ∧
    ((∀ key ∈ chain.keys, target.mapping.removes key.property = true) →
      target.orderText chain = "") ∧
    Order.CommasSeparate (target.orderText chain).toList := by
  by_cases none : chain.survivors target.mapping = []
  · have empty : target.orderText chain = "" := by
      rw [orderText_eq_intercalate, none]
      rfl
    refine ⟨fun ⟨key, isKey, kept⟩ => ?_, fun _ => empty, by simp [empty, Order.CommasSeparate]⟩
    have deleted := SortChain.survivors_eq_nil_iff.1 none key isKey
    simp [kept] at deleted
  · obtain ⟨left, same⟩ := SortChain.exists_keys_eq none
    have read := readChain_orderText_eq fields targets same
    have each := writesKey_elements fields targets none
    refine ⟨fun _ => ⟨⟨left, same, read⟩, each⟩, fun deleted => ?_, ?_⟩
    · exact absurd (SortChain.survivors_eq_nil_iff.2 deleted) none
    · exact Order.commasSeparate_of_splitOn (Order.nil_notMem_of_writesKey each)

theorem readChain_orderText_of_direction_names :
    let target : Target :=
      ⟨(Mapping.empty.withRename "desc" "asc/desc").withDeleted "Secret", defaultDepth⟩
    let chain : SortChain :=
      .more ⟨"asc", true⟩ (.more ⟨"Secret", false⟩ (.last ⟨"desc", false⟩))
    (∀ key ∈ chain.keys, IsPath key.property.toList) ∧
      (∀ pair ∈ target.mapping.renames, IsPath pair.target.toList) ∧
        (∃ key ∈ chain.keys, target.mapping.removes key.property = false) ∧
          Order.readChain (target.orderText chain).toList =
              .ok (.more ⟨"asc", true⟩ (.last ⟨"asc/desc", false⟩)) ∧
            Order.CommasSeparate (target.orderText chain).toList := by
  intro target chain
  have fields : ∀ key ∈ chain.keys, IsPath key.property.toList := by
    simp only [chain, SortChain.keys, List.forall_mem_cons, List.not_mem_nil, false_implies,
      implies_true, and_true]
    exact ⟨isPath_of_path? (by decide), isPath_of_path? (by decide), isPath_of_path? (by decide)⟩
  have targets : ∀ pair ∈ target.mapping.renames, IsPath pair.target.toList :=
    List.forall_mem_singleton.2 (isPath_of_path? (by decide))
  have kept : ∃ key ∈ chain.keys, target.mapping.removes key.property = false :=
    ⟨⟨"asc", true⟩, by decide, by decide⟩
  obtain ⟨whenKept, _, commas⟩ := readChain_orderText fields targets
  obtain ⟨⟨left, same, read⟩, _⟩ := whenKept kept
  have survivors : chain.survivors target.mapping = [⟨"asc", true⟩, ⟨"asc/desc", false⟩] := by
    decide
  have whole := left.ofKeys?_keys
  rw [same, survivors] at whole
  obtain rfl := Option.some.inj whole
  exact ⟨fields, targets, kept, read, commas⟩

end Target

end ODataAdapter
