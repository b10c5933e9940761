import ODataAdapter.Order.Reader
import ODataAdapter.Proofs.Filter.Acceptance

/-!
The grammar of orderings as a relation, and that a text is accepted as an ordering exactly if it is
written so, blanks around it aside. A text writes one ordering at most.
-/

namespace ODataAdapter.Order

open ODataAdapter.Filter

def directions : List (String × Bool) :=
  [("asc", false), ("desc", true)]

inductive WritesKey : SortKey → List Char → Prop
  | plain {path : String} : IsPath path.toList → WritesKey ⟨path, false⟩ path.toList
  | directed {path word : String} {descending : Bool} {gap : List Char} :
      IsPath path.toList → IsGapRun gap → gap ≠ [] → (word, descending) ∈ directions →
        WritesKey ⟨path, descending⟩ (path.toList ++ (gap ++ word.toList))

inductive Writes : SortChain → List Char → Prop
  | last {key : SortKey} {text : List Char} : WritesKey key text → Writes (.last key) text
  | more {key : SortKey} {chain : SortChain} {text rest gap gap' : List Char} :
      WritesKey key text → IsGapRun gap → IsGapRun gap' → Writes chain rest →
        Writes (.more key chain) (text ++ (gap ++ ',' :: (gap' ++ rest)))

theorem isName_direction {word : String} {descending : Bool}
    (member : (word, descending) ∈ directions) : IsName word.toList := by
  simp only [directions, List.mem_cons, Prod.mk.injEq, List.not_mem_nil, or_false] at member
  rcases member with ⟨rfl, _⟩ | ⟨rfl, _⟩
  · exact isName_of_forall (List.all_iff_forall_prop.1 (by decide))
  · exact isName_of_forall (List.all_iff_forall_prop.1 (by decide))

theorem WritesKey.startsOperand {key : SortKey} {text : List Char} (written : WritesKey key text) :
    StartsOperand text := by
  cases written with
  | plain spelled => exact spelled.startsOperand
  | directed spelled _ _ _ => exact spelled.startsOperand.append _

theorem Writes.startsOperand {chain : SortChain} {text : List Char} (written : Writes chain text) :
    StartsOperand text := by
  cases written with
  | last written => exact written.startsOperand
  | more written _ _ _ => exact written.startsOperand.append _

theorem WritesKey.endsInName {key : SortKey} {text : List Char} (written : WritesKey key text) :
    EndsInName text := by
  cases written with
  | plain spelled => exact spelled.endsInName
  | directed _ _ _ member => exact (isName_direction member).endsInName.append.append

theorem Writes.endsInName {chain : SortChain} {text : List Char} (written : Writes chain text) :
    EndsInName text := by
  induction written with
  | last written => exact written.endsInName
  | @more _ _ text rest gap gap' _ _ _ _ ih =>
      have ends : EndsInName (text ++ gap ++ ',' :: gap' ++ rest) := ih.append
      simpa using ends

theorem Writes.trim_eq {chain : SortChain} {text : List Char} (written : Writes chain text) :
    Text.trim text = text :=
  Text.trim_eq_self written.startsOperand.isBlank_head written.endsInName.isBlank_getLast

theorem WritesKey.isPath {key : SortKey} {text : List Char} (written : WritesKey key text) :
    IsPath key.property.toList := by
  cases written with
  | plain spelled => exact spelled
  | directed spelled _ _ _ => exact spelled

theorem Writes.isPath {chain : SortChain} {text : List Char} (written : Writes chain text) :
    ∀ key ∈ chain.keys, IsPath key.property.toList := by
  induction written with
  | last written => exact List.forall_mem_singleton.2 written.isPath
  | more written _ _ _ ih => exact List.forall_mem_cons.2 ⟨written.isPath, ih⟩

def EndsKey (rest : List Char) : Prop :=
  ∀ char ∈ (skipGap rest).head?, char = ','

theorem endsKey_nil : EndsKey [] := by
  simp [EndsKey, skipGap]

theorem endsKey_append {gap : List Char} (run : IsGapRun gap) (behind : List Char) :
    EndsKey (gap ++ ',' :: behind) := by
  rw [EndsKey, skipGap_append run (endsGap_cons (by decide))]
  simp

theorem EndsKey.atNameEnd {rest : List Char} (ends : EndsKey rest) : atNameEnd rest = true :=
  atNameEnd_of_skipGap fun char starts => by
    rw [ends char starts]
    decide

theorem EndsKey.endsPath {rest : List Char} (ends : EndsKey rest) : EndsPath rest := by
  have follows : FollowsOperand rest := fun char starts => Or.inr (Or.inl (ends char starts))
  exact follows.endsPath ends.atNameEnd

theorem EndsKey.direction_eq {rest : List Char} (ends : EndsKey rest) :
    direction rest = (false, rest) := by
  have noLetter {char : Char} (other : char ≠ ',') : (skipGap rest).head? ≠ some char :=
    fun starts => other (ends char starts)
  have noAsc : keyword? "asc" (skipGap rest) = none :=
    keyword?_of_head (show _ = 'a' :: ['s', 'c'] by decide) (noLetter (by decide))
  have noDesc : keyword? "desc" (skipGap rest) = none :=
    keyword?_of_head (show _ = 'd' :: ['e', 's', 'c'] by decide) (noLetter (by decide))
  simp [direction, noAsc, noDesc]

theorem direction_append {word : String} {descending : Bool} {gap rest : List Char}
    (run : IsGapRun gap) (member : (word, descending) ∈ directions)
    (ends : atNameEnd rest = true) :
    direction (gap ++ (word.toList ++ rest)) = (descending, rest) := by
  have startsWord := (isName_direction member).startsOperand.append rest
  have found : keyword? word (word.toList ++ rest) = some rest :=
    keyword?_eq_some_iff.2 ⟨rfl, ends⟩
  rw [direction, skipGap_append run startsWord.endsGap]
  simp only [directions, List.mem_cons, Prod.mk.injEq, List.not_mem_nil, or_false] at member
  rcases member with ⟨rfl, rfl⟩ | ⟨rfl, rfl⟩
  · simp only [found]
  · have noAsc : keyword? "asc" ("desc".toList ++ rest) = none :=
      keyword?_of_head (show _ = 'a' :: ['s', 'c'] by decide) (by simp)
    simp only [found, noAsc]

theorem endsPath_gap {gap : List Char} (run : IsGapRun gap) (nonempty : gap ≠ [])
    (rest : List Char) : EndsPath (gap ++ rest) := by
  obtain ⟨first, more, rfl⟩ := List.exists_cons_of_ne_nil nonempty
  have isGap := run first List.mem_cons_self
  refine ⟨by simp [Filter.atNameEnd, continuesName_of_isGap isGap], fun char behind same => ?_⟩
  obtain ⟨rfl, _⟩ := List.cons.inj same
  exact absurd isGap (by decide)

theorem WritesKey.key?_append {key : SortKey} {text rest : List Char}
    (written : WritesKey key text) (ends : EndsKey rest) :
    key? (text ++ rest) = some (key, rest) := by
  cases written with
  | plain spelled => simp [key?, path?_append spelled ends.endsPath, ends.direction_eq]
  | @directed path word descending gap spelled run nonempty member =>
      have endsPath := endsPath_gap run nonempty (word.toList ++ rest)
      rw [List.append_assoc, List.append_assoc, key?, path?_append spelled endsPath]
      simp [direction_append run member ends.atNameEnd]

theorem keysFrom_nil (fuel : Nat) : keysFrom fuel [] = ([], []) := by
  cases fuel with
  | zero => rfl
  | succ fuel => rfl

theorem keysFrom_comma {fuel : Nat} {gap gap' text rest : List Char} {key : SortKey}
    (run : IsGapRun gap) (run' : IsGapRun gap') (starts : EndsRun isGap text)
    (found : key? text = some (key, rest)) :
    keysFrom (fuel + 1) (gap ++ ',' :: (gap' ++ text)) =
      (key :: (keysFrom fuel rest).1, (keysFrom fuel rest).2) := by
  have comma : skipGap (gap ++ ',' :: (gap' ++ text)) = ',' :: (gap' ++ text) :=
    skipGap_append run (endsGap_cons (by decide))
  simp [keysFrom, comma, skipGap_append run' starts, found]

theorem Writes.keysFrom_eq {chain : SortChain} {text gap gap' : List Char} {fuel : Nat}
    (written : Writes chain text) (run : IsGapRun gap) (run' : IsGapRun gap')
    (enough : text.length < fuel) :
    keysFrom fuel (gap ++ ',' :: (gap' ++ text)) = (chain.keys, []) := by
  induction written generalizing gap gap' fuel with
  | @last key text written =>
      obtain ⟨fuel, rfl⟩ := Nat.exists_eq_succ_of_ne_zero (Nat.ne_zero_of_lt enough)
      have found := written.key?_append endsKey_nil
      rw [List.append_nil] at found
      rw [keysFrom_comma run run' written.startsOperand.endsGap found, keysFrom_nil]
      rfl
  | @more key chain text rest next next' written runNext runNext' _ ih =>
      obtain ⟨fuel, rfl⟩ := Nat.exists_eq_succ_of_ne_zero (Nat.ne_zero_of_lt enough)
      have found := written.key?_append (endsKey_append runNext (next' ++ rest))
      have starts := written.startsOperand.append (next ++ ',' :: (next' ++ rest))
      -- Each key but the first has a comma, so the text outlasts the rounds.
      have enoughRest : rest.length < fuel := by
        simp only [List.length_append, List.length_cons] at enough
        omega
      rw [keysFrom_comma run run' starts.endsGap found, ih runNext runNext' enoughRest]
      rfl

theorem Writes.keys_eq {chain : SortChain} {text : List Char} (written : Writes chain text) :
    Order.keys text = (chain.keys, []) := by
  cases written with
  | last written =>
      have found := written.key?_append endsKey_nil
      rw [List.append_nil] at found
      simp [Order.keys, found, keysFrom_nil, SortChain.keys]
  | @more key chain text rest gap gap' written run run' others =>
      have found := written.key?_append (endsKey_append run (gap' ++ rest))
      have enough : rest.length < (gap ++ ',' :: (gap' ++ rest)).length := by
        simp only [List.length_append, List.length_cons]
        omega
      simp only [Order.keys, found, others.keysFrom_eq run run' enough, SortChain.keys]

theorem Writes.readChain_eq {chain : SortChain} {text : List Char}
    (written : Writes chain (Text.trim text)) : readChain text = .ok chain := by
  simp [readChain, written.keys_eq, Text.allBlank, SortChain.ofKeys?_keys]

/-! What is read. -/

/-- A direction is read after gaps and up to the end of its word; otherwise nothing is read. -/
theorem direction_cases (text : List Char) :
    direction text = (false, text) ∨ ∃ gap word descending rest, IsGapRun gap ∧
      (word, descending) ∈ directions ∧ text = gap ++ (word.toList ++ rest) ∧
        direction text = (descending, rest) := by
  obtain ⟨gap, run, whole⟩ := skipGap_split text
  simp only [direction]
  split
  · rename_i rest found
    rw [(keyword?_eq_some_iff.1 found).1] at whole
    exact Or.inr ⟨gap, "asc", false, rest, run, by simp [directions], whole, rfl⟩
  · split
    · rename_i rest found
      rw [(keyword?_eq_some_iff.1 found).1] at whole
      exact Or.inr ⟨gap, "desc", true, rest, run, by simp [directions], whole, rfl⟩
    · exact Or.inl rfl

theorem parts_of_key? {text rest : List Char} {key : SortKey}
    (found : key? text = some (key, rest)) :
    ∃ behind, path? text = some (key.property.toList, behind) ∧
      direction behind = (key.descending, rest) := by
  simp only [key?, Option.map_eq_some_iff, Prod.exists, Prod.mk.injEq] at found
  obtain ⟨path, behind, foundPath, rfl, rfl⟩ := found
  exact ⟨behind, by simpa using foundPath, rfl⟩

theorem writesKey_of_key? {text rest : List Char} {key : SortKey}
    (found : key? text = some (key, rest)) : ∃ word, WritesKey key word ∧ text = word ++ rest := by
  obtain ⟨path, descending⟩ := key
  obtain ⟨behind, foundPath, foundDirection⟩ := parts_of_key? found
  obtain ⟨rfl, spelled, ends⟩ := path?_eq_some foundPath
  rcases direction_cases behind with
    plain | ⟨gap, word, descending', left, run, member, whole, directed⟩
  · obtain ⟨rfl, rfl⟩ := Prod.mk.inj (plain.symm.trans foundDirection)
    exact ⟨path.toList, .plain spelled, rfl⟩
  · obtain ⟨rfl, rfl⟩ := Prod.mk.inj (directed.symm.trans foundDirection)
    -- The path takes all of its name, so the direction does not begin right behind it.
    have nonempty : gap ≠ [] := by
      rintro rfl
      have nameEnd := ends.1
      obtain ⟨first, more, same⟩ := List.exists_cons_of_ne_nil (isName_direction member).nonempty
      have continues := (isName_direction member).continues first (same ▸ List.mem_cons_self)
      simp [whole, same, Filter.atNameEnd, continues] at nameEnd
    exact ⟨path.toList ++ (gap ++ word.toList), .directed spelled run nonempty member,
      by simp [whole]⟩

theorem writes_of_keysFrom (fuel : Nat) {text rest : List Char} {key : SortKey}
    (found : key? text = some (key, rest)) :
    ∃ chain word, Writes chain word ∧ chain.keys = key :: (keysFrom fuel rest).1 ∧
      text = word ++ (keysFrom fuel rest).2 := by
  induction fuel generalizing text key rest with
  | zero =>
      obtain ⟨word, written, whole⟩ := writesKey_of_key? found
      exact ⟨.last key, word, .last written, rfl, whole⟩
  | succ fuel ih =>
      obtain ⟨word, written, whole⟩ := writesKey_of_key? found
      rw [keysFrom]
      split
      · rename_i behind comma
        split
        · rename_i next left foundNext
          obtain ⟨gap, run, wholeRest⟩ := skipGap_split rest
          obtain ⟨gap', run', wholeBehind⟩ := skipGap_split behind
          obtain ⟨chain, others, writtenOthers, keys, wholeOthers⟩ := ih foundNext
          refine ⟨.more key chain, _, .more written run run' writtenOthers, ?_, ?_⟩
          · rw [SortChain.keys, keys]
          · rw [comma, wholeBehind, wholeOthers] at wholeRest
            rw [whole, wholeRest]
            simp
        · exact ⟨.last key, word, .last written, rfl, whole⟩
      · exact ⟨.last key, word, .last written, rfl, whole⟩

theorem keys_cases (text : List Char) :
    Order.keys text = ([], text) ∨ ∃ chain word rest, Order.keys text = (chain.keys, rest) ∧
      Writes chain word ∧ text = word ++ rest := by
  rw [Order.keys]
  split
  · exact Or.inl rfl
  · rename_i key rest found
    obtain ⟨chain, word, written, keys, whole⟩ := writes_of_keysFrom rest.length found
    exact Or.inr ⟨chain, word, _, by rw [keys], written, whole⟩

theorem readChain_cases (text : List Char) :
    (∃ chain, readChain text = .ok chain ∧ Writes chain (Text.trim text)) ∨
    (Text.trim text = [] ∧ readChain text = .error (.read 0 .emptyOrder)) ∨
    (Text.trim text ≠ [] ∧
      ∃ position rest, readChain text = .error (.read position (.trailingOrder rest))) := by
  simp only [readChain]
  rcases keys_cases (Text.trim text) with none | ⟨chain, word, rest, found, written, whole⟩
  · rw [none]
    by_cases empty : Text.trim text = []
    · exact Or.inr (Or.inl ⟨empty, by simp [empty, Text.allBlank, SortChain.ofKeys?]⟩)
    · have visible : Text.allBlank (Text.trim text) ≠ true := fun blank =>
        empty (Text.eq_nil_of_blank_end (List.nil_append (Text.trim text)).symm blank)
      exact Or.inr (Or.inr ⟨empty, _, _, if_neg visible⟩)
  · rw [found]
    by_cases blank : Text.allBlank rest = true
    · have noRest := Text.eq_nil_of_blank_end whole blank
      rw [noRest, List.append_nil] at whole
      exact Or.inl ⟨chain, by simp [blank, SortChain.ofKeys?_keys], whole ▸ written⟩
    · have nonempty : Text.trim text ≠ [] := by
        rintro empty
        rw [empty] at whole
        simp [(List.append_eq_nil_iff.1 whole.symm).2, Text.allBlank] at blank
      exact Or.inr (Or.inr ⟨nonempty, _, _, if_neg blank⟩)

theorem writes_of_readChain {text : List Char} {chain : SortChain}
    (found : readChain text = .ok chain) : Writes chain (Text.trim text) := by
  rcases readChain_cases text with ⟨other, foundOther, written⟩ | ⟨_, failed⟩ | ⟨_, _, _, failed⟩
  · obtain rfl := Except.ok.inj (found.symm.trans foundOther)
    exact written
  · simp [found] at failed
  · simp [found] at failed

/-- A text is accepted exactly as the ordering that it writes. Of the others the blank ones are
refused as empty, and the rest for what stands behind the keys. -/
theorem readChain_accepts_exactly (text : List Char) :
    (∀ chain, readChain text = .ok chain ↔ Writes chain (Text.trim text)) ∧
    ∀ error, readChain text = .error error →
      (Text.trim text = [] → error = .read 0 .emptyOrder) ∧
      (Text.trim text ≠ [] → ∃ position rest, error = .read position (.trailingOrder rest)) := by
  refine ⟨fun chain => ⟨writes_of_readChain, Writes.readChain_eq⟩, fun error failed => ?_⟩
  rcases readChain_cases text with
    ⟨_, found, _⟩ | ⟨empty, refused⟩ | ⟨nonempty, position, rest, refused⟩
  · simp [found] at failed
  · obtain rfl := Except.error.inj (failed.symm.trans refused)
    exact ⟨fun _ => rfl, fun nonempty => absurd empty nonempty⟩
  · obtain rfl := Except.error.inj (failed.symm.trans refused)
    exact ⟨fun empty => absurd empty nonempty, fun _ => ⟨position, rest, rfl⟩⟩

end ODataAdapter.Order
