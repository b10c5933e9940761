import ODataAdapter.Proofs.Filter.Positions
import ODataAdapter.Proofs.Order.Acceptance

/-!
What is read of an ordering that is refused, and where its fault is said to be. The longest part in
front is read that writes an ordering and does not end inside of a name, or nothing if there is no
such part. The position of the fault is the end of that part. The message quotes what is left from
its first character on that is not blank, so its quote stands at the position only if no blanks come
in between; the position of a fault of a filter is behind such blanks.
-/

namespace ODataAdapter.Order

open ODataAdapter.Filter

structure Fronts (text front rest : List Char) : Prop where
  whole : text = front ++ rest
  written : ∃ chain, Writes chain front
  ends : atNameEnd rest = true

/-- What is read of a text, and what is left unread. -/
inductive Splits (text : List Char) : List Char → List Char → Prop
  | unread : (∀ front rest, ¬Fronts text front rest) → Splits text [] text
  | read {front rest : List Char} : Fronts text front rest →
      (∀ front' rest', Fronts text front' rest' → front'.length ≤ front.length) →
        Splits text front rest

theorem Splits.whole {text front rest : List Char} (split : Splits text front rest) :
    text = front ++ rest := by
  cases split with
  | unread _ => rfl
  | read fronts _ => exact fronts.whole

theorem Splits.unique {text front rest front' rest' : List Char} (split : Splits text front rest)
    (split' : Splits text front' rest') : front = front' ∧ rest = rest' := by
  cases split with
  | unread noFront =>
      cases split' with
      | unread _ => exact ⟨rfl, rfl⟩
      | read fronts _ => exact absurd fronts (noFront _ _)
  | read fronts longest =>
      cases split' with
      | unread noFront => exact absurd fronts (noFront _ _)
      | read fronts' longest' =>
          have same : front.length = front'.length :=
            Nat.le_antisymm (longest' _ _ fronts) (longest _ _ fronts')
          exact List.append_inj (fronts.whole.symm.trans fronts'.whole) same

theorem direction_suffix (text : List Char) : (direction text).2 <:+ text := by
  rcases direction_cases text with plain | ⟨gap, word, descending, rest, _, _, whole, directed⟩
  · rw [plain]
  · rw [directed]
    exact suffix_of_eq_append (whole.trans (List.append_assoc gap word.toList rest).symm)

theorem atNameEnd_direction {text : List Char} (ends : atNameEnd text = true) :
    atNameEnd (direction text).2 = true := by
  simp only [direction]
  split
  next rest found => exact (keyword?_eq_some_iff.1 found).2
  next =>
    split
    next rest found => exact (keyword?_eq_some_iff.1 found).2
    next => exact ends

theorem atNameEnd_of_key? {text rest : List Char} {key : SortKey}
    (found : key? text = some (key, rest)) : atNameEnd rest = true := by
  obtain ⟨behind, foundPath, foundDirection⟩ := parts_of_key? found
  have ends := atNameEnd_direction (path?_eq_some foundPath).2.2.1
  rwa [foundDirection] at ends

theorem key?_suffix {text rest : List Char} {key : SortKey}
    (found : key? text = some (key, rest)) : rest <:+ text := by
  obtain ⟨word, _, whole⟩ := writesKey_of_key? found
  exact suffix_of_eq_append whole

theorem keysFrom_suffix (fuel : Nat) (text : List Char) : (keysFrom fuel text).2 <:+ text := by
  induction fuel generalizing text with
  | zero => exact List.suffix_refl text
  | succ fuel ih =>
      rw [keysFrom]
      split
      next behind comma =>
        split
        next key rest found =>
          have atComma : ',' :: behind <:+ text := comma ▸ skipGap_suffix text
          have behindComma : behind <:+ ',' :: behind := List.suffix_cons ',' behind
          calc (keysFrom fuel rest).2
            _ <:+ rest := ih rest
            _ <:+ skipGap behind := key?_suffix found
            _ <:+ behind := skipGap_suffix behind
            _ <:+ ',' :: behind := behindComma
            _ <:+ text := atComma
        next => exact List.suffix_refl text
      next => exact List.suffix_refl text

theorem atNameEnd_keysFrom (fuel : Nat) {text : List Char} (ends : atNameEnd text = true) :
    atNameEnd (keysFrom fuel text).2 = true := by
  induction fuel generalizing text with
  | zero => exact ends
  | succ fuel ih =>
      rw [keysFrom]
      split
      next =>
        split
        next found => exact ih (atNameEnd_of_key? found)
        next => exact ends
      next => exact ends

theorem IsPath.append_slash {path path' : List Char} (spelled : IsPath path)
    (spelled' : IsPath path') : IsPath (path ++ '/' :: path') := by
  induction spelled with
  | name named => exact .step named spelled'
  | @step name rest named _ ih =>
      rw [List.append_assoc, List.cons_append]
      exact .step named ih

theorem exists_path?_append {path rest : List Char} (spelled : IsPath path)
    (ends : atNameEnd rest = true) :
    ∃ path' left, path? (path ++ rest) = some (path', left) ∧ left <:+ rest := by
  by_cases stops : EndsPath rest
  · exact ⟨path, rest, path?_append spelled stops, List.suffix_refl rest⟩
  · -- A name goes on behind a slash, as far as the path does.
    obtain ⟨char, behind, rfl, starts⟩ :
        ∃ char behind, rest = '/' :: char :: behind ∧ startsName char = true := by
      simpa [EndsPath, ends] using stops
    obtain ⟨whole, stopsLeft, spelledMore⟩ := pathRest_spec behind
    have longer : IsPath (path ++ '/' :: char :: (pathRest behind).1) :=
      IsPath.append_slash spelled (spelledMore char starts)
    have regrouped : path ++ '/' :: char :: behind =
        path ++ '/' :: char :: (pathRest behind).1 ++ (pathRest behind).2 := by
      conv_lhs => rw [whole]
      simp
    refine ⟨_, _, regrouped ▸ path?_append longer stopsLeft, ?_⟩
    exact ⟨'/' :: char :: (pathRest behind).1, by simp [← whole]⟩

theorem WritesKey.exists_key?_append {key : SortKey} {text rest : List Char}
    (written : WritesKey key text) (ends : atNameEnd rest = true) :
    ∃ key' left, key? (text ++ rest) = some (key', left) ∧ left <:+ rest := by
  cases written with
  | plain spelled =>
      obtain ⟨path', left, found, suffix⟩ := exists_path?_append spelled ends
      refine ⟨_, _, by rw [key?, found]; rfl, ?_⟩
      exact (direction_suffix left).trans suffix
  | @directed path word descending gap spelled run nonempty member =>
      have endsPath := endsPath_gap run nonempty (word.toList ++ rest)
      have found := path?_append spelled endsPath
      have directed := direction_append run member ends
      refine ⟨⟨path, descending⟩, rest, ?_, List.suffix_refl rest⟩
      simp [key?, found, directed]

theorem Writes.keysFrom_suffix {chain : SortChain} {text rest gap gap' : List Char} {fuel : Nat}
    (written : Writes chain text) (ends : atNameEnd rest = true) (run : IsGapRun gap)
    (run' : IsGapRun gap') (enough : text.length < fuel) :
    (keysFrom fuel (gap ++ ',' :: (gap' ++ (text ++ rest)))).2 <:+ rest := by
  induction written generalizing gap gap' fuel with
  | @last key text written =>
      obtain ⟨fuel, rfl⟩ := Nat.exists_eq_succ_of_ne_zero (Nat.ne_zero_of_lt enough)
      obtain ⟨key', left, found, suffix⟩ := written.exists_key?_append ends
      have starts := written.startsOperand.append rest
      rw [keysFrom_comma run run' starts.endsGap found]
      exact (Order.keysFrom_suffix fuel left).trans suffix
  | @more key chain text others next next' written runNext runNext' _ ih =>
      obtain ⟨fuel, rfl⟩ := Nat.exists_eq_succ_of_ne_zero (Nat.ne_zero_of_lt enough)
      have found := written.key?_append (endsKey_append runNext (next' ++ (others ++ rest)))
      have starts := written.startsOperand.append (next ++ ',' :: (next' ++ (others ++ rest)))
      have enoughOthers : others.length < fuel := by
        simp only [List.length_append, List.length_cons] at enough
        omega
      have read := ih runNext runNext' enoughOthers
      have regrouped : text ++ (next ++ ',' :: (next' ++ others)) ++ rest =
          text ++ (next ++ ',' :: (next' ++ (others ++ rest))) := by simp
      rw [regrouped, keysFrom_comma run run' starts.endsGap found]
      exact read

theorem Writes.keys_suffix {chain : SortChain} {text rest : List Char}
    (written : Writes chain text) (ends : atNameEnd rest = true) :
    (Order.keys (text ++ rest)).2 <:+ rest := by
  cases written with
  | last written =>
      obtain ⟨key', left, found, suffix⟩ := written.exists_key?_append ends
      simp only [Order.keys, found]
      exact (Order.keysFrom_suffix left.length left).trans suffix
  | @more key chain text others gap gap' written run run' writtenOthers =>
      have found := written.key?_append (endsKey_append run (gap' ++ (others ++ rest)))
      have enough : others.length < (gap ++ ',' :: (gap' ++ (others ++ rest))).length := by
        simp only [List.length_append, List.length_cons]
        omega
      have read := writtenOthers.keysFrom_suffix ends run run' enough
      have regrouped : text ++ (gap ++ ',' :: (gap' ++ others)) ++ rest =
          text ++ (gap ++ ',' :: (gap' ++ (others ++ rest))) := by simp
      rw [regrouped]
      simp only [Order.keys, found]
      exact read

theorem atNameEnd_keys {text rest : List Char} {first : SortKey} {keys : List SortKey}
    (found : Order.keys text = (first :: keys, rest)) : atNameEnd rest = true := by
  rw [Order.keys] at found
  split at found
  next => simp at found
  next key behind foundKey =>
    obtain ⟨_, rfl⟩ := Prod.mk.inj found
    exact atNameEnd_keysFrom behind.length (atNameEnd_of_key? foundKey)

theorem exists_splits_keys (text : List Char) :
    ∃ front, Splits text front (Order.keys text).2 := by
  have behind {front rest : List Char} (fronts : Fronts text front rest) :
      (Order.keys text).2 <:+ rest := by
    obtain ⟨chain, written⟩ := fronts.written
    rw [fronts.whole]
    exact written.keys_suffix fronts.ends
  rcases keys_cases text with none | ⟨chain, word, rest, found, written, whole⟩
  · refine ⟨[], ?_⟩
    rw [none] at behind ⊢
    refine .unread fun front rest fronts => ?_
    obtain ⟨chain, written⟩ := fronts.written
    have shorter : text.length ≤ rest.length := (behind fronts).length_le
    have longer := congrArg List.length fronts.whole
    have nonempty := List.length_pos_iff.2 written.startsOperand.nonempty
    simp only [List.length_append] at longer
    omega
  · have ends : atNameEnd rest = true := by
      obtain ⟨first, others, same⟩ := List.exists_cons_of_ne_nil chain.keys_ne_nil
      rw [same] at found
      exact atNameEnd_keys found
    refine ⟨word, ?_⟩
    rw [found] at behind ⊢
    refine .read ⟨whole, ⟨chain, written⟩, ends⟩ fun front' rest' fronts => ?_
    have shorter : rest.length ≤ rest'.length := (behind fronts).length_le
    have same := congrArg List.length (whole.symm.trans fronts.whole)
    simp only [List.length_append] at same
    omega

/-! The fault. -/

structure LeavesUnread (text front blanks quoted : List Char) : Prop where
  splits : Splits text front (blanks ++ quoted)
  blank : Text.allBlank blanks = true
  visible : ∃ char rest, quoted = char :: rest ∧ Text.isBlank char = false

theorem size_of_pointsAt {whole quoted : String} {position : Nat}
    (points : PointsAt whole position quoted) :
    whole.utf8ByteSize = position + quoted.utf8ByteSize := by
  obtain ⟨front, rfl, rfl⟩ := points.suffix
  exact String.utf8ByteSize_append

theorem offsetOf_eq {text front rest : List Char} (whole : text = front ++ rest) :
    offsetOf text rest = Text.utf8Length front := by
  rw [offsetOf, whole, Text.utf8Length_append, Nat.add_sub_cancel]

theorem eq_nil_of_utf8Length {text : List Char} (empty : Text.utf8Length text = 0) :
    text = [] := by
  cases text with
  | nil => rfl
  | cons char text =>
      have size := char.utf8Size_pos
      have sum : char.utf8Size + Text.utf8Length text = 0 := empty
      omega

namespace LeavesUnread

variable {text front blanks quoted : List Char}

theorem whole (leaves : LeavesUnread text front blanks quoted) :
    text = front ++ blanks ++ quoted := by
  rw [List.append_assoc]
  exact leaves.splits.whole

theorem pointsAt (leaves : LeavesUnread text front blanks quoted) :
    PointsAt (String.ofList text) (Text.utf8Length front + Text.utf8Length blanks)
      (String.ofList quoted) := by
  have suffix : quoted <:+ text := suffix_of_eq_append leaves.whole
  have points := pointsAt_offsetOf suffix
  rwa [offsetOf_eq leaves.whole, Text.utf8Length_append] at points

theorem pointsAt_front_iff (leaves : LeavesUnread text front blanks quoted) :
    PointsAt (String.ofList text) (Text.utf8Length front) (String.ofList quoted) ↔
      blanks = [] := by
  constructor
  · intro points
    -- A quote stands at one position only, since it goes on to the end of the text.
    have size := size_of_pointsAt points
    have size' := size_of_pointsAt leaves.pointsAt
    exact eq_nil_of_utf8Length (by omega)
  · rintro rfl
    have points := leaves.pointsAt
    rwa [show Text.utf8Length [] = 0 from rfl, Nat.add_zero] at points

theorem not_allBlank (leaves : LeavesUnread text front blanks quoted) :
    Text.allBlank (blanks ++ quoted) = false := by
  obtain ⟨char, rest, rfl, visible⟩ := leaves.visible
  simp [Text.allBlank, visible]

theorem trimStart_eq (leaves : LeavesUnread text front blanks quoted) :
    Text.trimStart (blanks ++ quoted) = quoted := by
  rw [Text.trimStart_blank_append leaves.blank]
  obtain ⟨char, rest, rfl, visible⟩ := leaves.visible
  exact Text.trimStart_eq_self (by simpa using visible)

end LeavesUnread

theorem exists_leavesUnread {text : List Char}
    (visible : Text.allBlank (Order.keys text).2 = false) :
    ∃ front blanks, (Order.keys text).2 = blanks ++ Text.trimStart (Order.keys text).2 ∧
      LeavesUnread text front blanks (Text.trimStart (Order.keys text).2) := by
  obtain ⟨front, splits⟩ := exists_splits_keys text
  obtain ⟨blanks, blank, whole⟩ := Text.exists_blank_append_trimStart (Order.keys text).2
  refine ⟨front, blanks, whole, whole ▸ splits, blank, ?_⟩
  rw [← Text.isEmpty_trimStart, List.isEmpty_eq_false_iff] at visible
  obtain ⟨char, rest, begins⟩ := List.exists_cons_of_ne_nil visible
  refine ⟨char, rest, begins, ?_⟩
  have stops := endsRun_dropWhile Text.isBlank (Order.keys text).2
  exact stops char (by rw [← Text.trimStart, begins]; rfl)

theorem readChain_eq_trailingOrder_iff {text : List Char} {position : Nat} {quoted : String} :
    readChain text = .error (.read position (.trailingOrder quoted)) ↔
      Text.allBlank (Order.keys (Text.trim text)).2 = false ∧
        position = offsetOf (Text.trim text) (Order.keys (Text.trim text)).2 ∧
        quoted = String.ofList (Text.trimStart (Order.keys (Text.trim text)).2) := by
  obtain ⟨front, splits⟩ := exists_splits_keys (Text.trim text)
  have left : Text.trimStart (Order.keys (Text.trim text)).2 <:+ Text.trim text :=
    (Text.trimStart_suffix _).trans (suffix_of_eq_append splits.whole)
  have quote : Text.trim (Order.keys (Text.trim text)).2 =
      Text.trimStart (Order.keys (Text.trim text)).2 := Text.trimEnd_of_suffix left
  simp only [readChain]
  split
  next blank =>
    rw [blank]
    split
    next => simp
    next => simp
  next visible =>
    rw [quote]
    simp [visible, offsetOf, eq_comm]

/-- A text is refused for what stands behind its sort keys exactly if something visible does. The
position is the end of what is read, so what the message quotes stands as many bytes behind it as
the blanks in between have, and at the position itself only if there are none. -/
theorem readChain_points_before_blanks (text : List Char) (position : Nat) (quoted : String) :
    readChain text = .error (.read position (.trailingOrder quoted)) ↔
      ∃ front blanks, LeavesUnread (Text.trim text) front blanks quoted.toList ∧
        position = Text.utf8Length front ∧
        PointsAt (String.ofList (Text.trim text)) (position + Text.utf8Length blanks) quoted ∧
        (PointsAt (String.ofList (Text.trim text)) position quoted ↔ blanks = []) := by
  rw [readChain_eq_trailingOrder_iff]
  constructor
  · rintro ⟨visible, rfl, rfl⟩
    obtain ⟨front, blanks, unread, leaves⟩ := exists_leavesUnread visible
    have atFront : offsetOf (Text.trim text) (Order.keys (Text.trim text)).2 =
        Text.utf8Length front := by
      rw [unread]
      exact offsetOf_eq leaves.splits.whole
    rw [atFront, String.toList_ofList]
    exact ⟨front, blanks, leaves, rfl, leaves.pointsAt, leaves.pointsAt_front_iff⟩
  · rintro ⟨front, blanks, leaves, rfl, _, _⟩
    obtain ⟨front', splits⟩ := exists_splits_keys (Text.trim text)
    obtain ⟨rfl, unread⟩ := splits.unique leaves.splits
    rw [unread]
    refine ⟨leaves.not_allBlank, (offsetOf_eq leaves.splits.whole).symm, ?_⟩
    rw [leaves.trimStart_eq, String.ofList_toList]

/-- Behind `Name` a word is left that is no direction. The fault of an ordering is said to be at the
blank in front of the word, the fault of a filter at the word. -/
theorem readChain_points_short_of_quote :
    readChain "Name foo".toList = .error (.read 4 (.trailingOrder "foo")) ∧
      ¬PointsAt "Name foo" 4 "foo" ∧ PointsAt "Name foo" 5 "foo" ∧
      readExpr 256 "Name foo".toList = .error (.read 5 (.trailingFilter "foo")) := by
  have sizes : "Name foo".utf8ByteSize = 8 ∧ "foo".utf8ByteSize = 3 := ⟨rfl, rfl⟩
  refine ⟨rfl, ?_, ?_, rfl⟩
  · intro points
    have size := size_of_pointsAt points
    omega
  · have suffix : "foo".toList <:+ "Name foo".toList := ⟨"Name ".toList, rfl⟩
    exact pointsAt_offsetOf suffix

end ODataAdapter.Order
