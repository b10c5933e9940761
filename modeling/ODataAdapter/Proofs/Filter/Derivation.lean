import ODataAdapter.Filter.Text
import ODataAdapter.Proofs.Filter.Boundary
import ODataAdapter.Proofs.Filter.Progress

/-!
Every tree that is read has been written: what a reader takes off a text to give a tree with backend
text writes that tree in the grammar.
-/

namespace ODataAdapter.Filter

/-- What the reader takes off a text writes the tree at the level, and ends where its last word
does. -/
def Derives (reader : Reader Expr) (level : Nat) : Prop :=
  ∀ text expr rest, reader text = .read expr rest → expr.Supported →
    ∃ word, text = word ++ rest ∧ Writes level expr word ∧ Apart word rest

theorem Reading.bind_eq_read {α β : Type} {reading : Reading α}
    {next : α → List Char → Reading β} {value : β} {rest : List Char}
    (found : reading.bind next = .read value rest) :
    ∃ first behind, reading = .read first behind ∧ next first behind = .read value rest := by
  cases reading with
  | read first behind => exact ⟨first, behind, rfl, found⟩
  | stuck place => simp [Reading.bind] at found
  | exhausted => simp [Reading.bind] at found

theorem Reading.orElse_eq_read {α : Type} {reading : Reading α} {other : Unit → Reading α}
    {value : α} {rest : List Char} (found : reading.orElse other = .read value rest) :
    reading = .read value rest ∨
      (∃ place, reading = .stuck place) ∧ other () = .read value rest := by
  cases reading with
  | read first behind => exact Or.inl found
  | stuck place => exact Or.inr ⟨⟨place, rfl⟩, found⟩
  | exhausted => simp [Reading.orElse] at found

theorem skipGap_split (text : List Char) :
    ∃ gap, IsGapRun gap ∧ text = gap ++ skipGap text :=
  ⟨text.takeWhile isGap, fun _ => List.mem_takeWhile_imp,
    (List.takeWhile_append_dropWhile).symm⟩

theorem atNameEnd_of_append {left right : List Char} (ends : atNameEnd (left ++ right) = true) :
    atNameEnd left = true := by
  cases left with
  | nil => rfl
  | cons char left => exact ends

theorem EndsInName.of_append {left right : List Char} (nonempty : right ≠ [])
    (ends : EndsInName (left ++ right)) : EndsInName right := by
  obtain ⟨last, isLast, continues⟩ := ends
  refine ⟨last, ?_, continues⟩
  rw [List.getLast?_append_of_ne_nil left nonempty] at isLast
  exact isLast

theorem Apart.append {left right rest : List Char} (apart : Apart right rest)
    (nonempty : right ≠ []) : Apart (left ++ right) rest :=
  fun ends => apart (ends.of_append nonempty)

theorem Apart.append_gap {word gap rest : List Char} (apart : Apart word (gap ++ rest))
    (run : IsGapRun gap) : Apart (word ++ gap) rest := by
  intro ends
  cases gap with
  | nil =>
      rw [List.append_nil] at ends
      exact apart ends
  | cons char gap =>
      obtain ⟨last, isLast, continues⟩ := ends.of_append (by simp)
      rw [continuesName_of_isGap (run last (List.mem_of_mem_getLast? isLast))] at continues
      contradiction

theorem not_endsInName_closing (text : List Char) : ¬EndsInName (text ++ [')']) := by
  intro ends
  obtain ⟨last, isLast, continues⟩ := ends.of_append (by simp)
  obtain rfl : ')' = last := Option.some.inj isLast
  exact absurd continues (by decide)

section Chains

variable {operand : Reader Expr} {level : Nat}

theorem chainFrom_supported {operators : List Operator} {fuel : Nat} {left expr : Expr}
    {text rest : List Char} (found : chainFrom operand operators fuel left text = .read expr rest)
    (supported : expr.Supported) : left.Supported := by
  induction fuel generalizing left text with
  | zero =>
      obtain ⟨rfl, _⟩ := Reading.read.inj found
      exact supported
  | succ fuel ih =>
      simp only [chainFrom] at found
      split at found
      · obtain ⟨rfl, _⟩ := Reading.read.inj found
        exact supported
      · obtain ⟨right, behind, _, later⟩ := Reading.bind_eq_read found
        exact (ih later).2.1

/-- The word and what stands in front of the rest of the text write the tree. -/
def Completes (level : Nat) (word : List Char) (expr : Expr) (text rest : List Char) : Prop :=
  ∃ more, text = more ++ rest ∧ Writes level expr (word ++ more) ∧ Apart (word ++ more) rest

theorem Completes.stop {word text : List Char} {expr : Expr} (written : Writes level expr word)
    (apart : Apart word text) : Completes level word expr text text :=
  ⟨[], rfl, by rwa [List.append_nil], by rwa [List.append_nil]⟩

theorem chainFrom_derives (derives : Derives operand (level + 1)) {fuel : Nat} {left expr : Expr}
    {text rest word : List Char}
    (found : chainFrom operand (levelOperators level) fuel left text = .read expr rest)
    (supported : expr.Supported) (written : Writes level left word) (apart : Apart word text) :
    Completes level word expr text rest := by
  -- With every operator the word grows by the token and the operand behind it.
  induction fuel generalizing left text word with
  | zero =>
      obtain ⟨rfl, rfl⟩ := Reading.read.inj found
      exact .stop written apart
  | succ fuel ih =>
      simp only [chainFrom] at found
      split at found
      · obtain ⟨rfl, rfl⟩ := Reading.read.inj found
        exact .stop written apart
      · rename_i op afterToken foundOperator
        obtain ⟨right, behind, foundRight, later⟩ := Reading.bind_eq_read found
        obtain ⟨member, foundKeyword⟩ := operator?_eq_some foundOperator
        obtain rfl := mem_levelOperators.1 member
        obtain ⟨wholeToken, tokenEnds⟩ := keyword?_eq_some_iff.1 foundKeyword
        obtain ⟨gap, run, whole⟩ := skipGap_split text
        obtain ⟨gap', run', wholeAfter⟩ := skipGap_split afterToken
        obtain ⟨word', wholeRight, writtenRight, apartRight⟩ :=
          derives _ _ _ foundRight (chainFrom_supported later supported).2.2
        rw [wholeToken] at whole
        rw [wholeRight] at wholeAfter
        rw [wholeAfter, ← List.append_assoc] at tokenEnds
        have apartToken : Apart (word ++ gap) op.token.toList := fun ends => by
          rw [whole] at apart
          exact atNameEnd_of_append (apart.append_gap run ends)
        have writtenBoth := Writes.binary written writtenRight run run' apartToken
          fun _ => atNameEnd_of_append tokenEnds
        obtain ⟨more, rfl, writtenWhole, apartWhole⟩ :=
          ih later writtenBoth (apartRight.append writtenRight.nonempty)
        refine ⟨gap ++ op.token.toList ++ gap' ++ word' ++ more, ?_, ?_, ?_⟩
        · simp [whole, wholeAfter]
        · simpa only [List.append_assoc] using writtenWhole
        · simpa only [List.append_assoc] using apartWhole

theorem chain_derives (derives : Derives operand (level + 1)) :
    Derives (chain (levelOperators level) operand) level := by
  intro text expr rest found supported
  obtain ⟨left, behind, foundLeft, later⟩ := Reading.bind_eq_read found
  obtain ⟨word, rfl, written, apart⟩ :=
    derives _ _ _ foundLeft (chainFrom_supported later supported)
  obtain ⟨more, rfl, writtenWhole, apartWhole⟩ :=
    chainFrom_derives derives later supported written.tighter apart
  exact ⟨word ++ more, by simp, writtenWhole, apartWhole⟩

end Chains

/-! Primaries. -/

section Primaries

variable {inner : Reader Expr}

theorem closing_eq_read {α : Type} {value read : α} {text rest : List Char}
    (found : closing value text = .read read rest) :
    value = read ∧ ∃ gap, IsGapRun gap ∧ text = gap ++ ')' :: rest := by
  unfold closing at found
  split at found
  · rename_i behind closes
    obtain ⟨rfl, rfl⟩ := Reading.read.inj found
    obtain ⟨gap, run, whole⟩ := skipGap_split text
    exact ⟨rfl, gap, run, by rw [← closes]; exact whole⟩
  · simp at found

def ListsMore (read args : List Expr) (text rest : List Char) : Prop :=
  ∃ more : List (Expr × List Char), args = read ++ more.map Prod.fst ∧
    (∀ arg ∈ more, Writes 0 arg.1 arg.2) ∧
      ∀ word, ∃ tail, text = tail ++ rest ∧
        Listed (word :: more.map Prod.snd) (word ++ tail)

theorem ListsMore.stop (args : List Expr) (text : List Char) : ListsMore args args text text :=
  ⟨[], by simp, by simp, fun word => ⟨[], rfl, by simpa using Listed.last word⟩⟩

theorem argumentsFrom_derives (derives : Derives inner 0) {fuel : Nat} {read args : List Expr}
    {text rest : List Char} (found : argumentsFrom inner fuel read text = .read args rest)
    (supported : ∀ arg ∈ args, arg.Supported) : ListsMore read args text rest := by
  induction fuel generalizing read text with
  | zero =>
      obtain ⟨rfl, rfl⟩ := Reading.read.inj found
      exact .stop read text
  | succ fuel ih =>
      simp only [argumentsFrom] at found
      split at found
      · rename_i afterComma comma
        split at found
        · rename_i arg behind foundArg
          obtain ⟨more, rfl, written, lists⟩ := ih found
          obtain ⟨word', wholeArg, writtenArg, _⟩ :=
            derives _ _ _ foundArg (supported arg (by simp))
          obtain ⟨gap, run, whole⟩ := skipGap_split text
          obtain ⟨gap', run', wholeAfter⟩ := skipGap_split afterComma
          obtain ⟨tail, rfl, listed⟩ := lists word'
          rw [comma] at whole
          rw [wholeArg] at wholeAfter
          refine ⟨(arg, word') :: more, by simp, ?_, fun word => ?_⟩
          · exact List.forall_mem_cons.2 ⟨writtenArg, written⟩
          · refine ⟨gap ++ ',' :: (gap' ++ (word' ++ tail)), by simp [whole, wholeAfter], ?_⟩
            simpa using Listed.more run run' listed
        · obtain ⟨rfl, rfl⟩ := Reading.read.inj found
          exact .stop read text
        · simp at found
      · obtain ⟨rfl, rfl⟩ := Reading.read.inj found
        exact .stop read text

theorem arguments_derives (derives : Derives inner 0) {args : List Expr} {text rest : List Char}
    (found : arguments inner text = .read args rest)
    (supported : ∀ arg ∈ args, arg.Supported) :
    ∃ (written : List (Expr × List Char)) (listing : List Char),
      args = written.map Prod.fst ∧ text = listing ++ rest ∧
        (∀ arg ∈ written, Writes 0 arg.1 arg.2) ∧ Listed (written.map Prod.snd) listing := by
  unfold arguments at found
  split at found
  · rename_i arg behind foundArg
    obtain ⟨more, rfl, written, lists⟩ := argumentsFrom_derives derives found supported
    obtain ⟨word, rfl, writtenArg, _⟩ := derives _ _ _ foundArg (supported arg (by simp))
    obtain ⟨tail, rfl, listed⟩ := lists word
    refine ⟨(arg, word) :: more, word ++ tail, by simp, by simp, ?_, listed⟩
    exact List.forall_mem_cons.2 ⟨writtenArg, written⟩
  · obtain ⟨rfl, rfl⟩ := Reading.read.inj found
    exact ⟨[], [], rfl, rfl, by simp, Listed.none⟩
  · simp at found

theorem group_derives (derives : Derives inner 0) : Derives (group inner) primaryLevel := by
  intro text expr rest found supported
  unfold group at found
  split at found
  · rename_i behind
    obtain ⟨read, afterInner, foundInner, foundClosing⟩ := Reading.bind_eq_read found
    obtain ⟨rfl, gap', run', rfl⟩ := closing_eq_read foundClosing
    obtain ⟨word, wholeInner, written, _⟩ := derives _ _ _ foundInner supported
    obtain ⟨gap, run, whole⟩ := skipGap_split behind
    rw [wholeInner] at whole
    refine ⟨'(' :: gap ++ word ++ gap' ++ [')'], by simp [whole], .group written run run', ?_⟩
    exact fun ends => absurd ends (not_endsInName_closing _)
  · simp at found

theorem notReserved {text name rest : List Char} (whole : text = name ++ rest)
    (ends : atNameEnd rest = true) (noMark : unaryMark? text = none)
    (noLiteral : literal? text = none) : ∀ word ∈ reservedWords, name ≠ word.toList := by
  have found (word : String) (same : name = word.toList) : keyword? word text = some rest :=
    keyword?_eq_some_iff.2 ⟨whole.trans (by rw [same]), ends⟩
  refine List.forall_mem_cons.2 ⟨fun same => ?_, fun word member same => ?_⟩
  · have noWord := (unaryMark?_eq_none_iff.1 noMark).1
    rw [found "not" same] at noWord
    contradiction
  · simp only [literal?_eq_or, Option.or_eq_none_iff, word?, Option.map_eq_none_iff] at noLiteral
    obtain ⟨_, _, _, noTrue, noFalse, noNull⟩ := noLiteral
    simp only [literalWords, List.mem_cons, List.not_mem_nil, or_false] at member
    have foundWord := found word same
    rcases member with rfl | rfl | rfl
    · simp [noTrue] at foundWord
    · simp [noFalse] at foundWord
    · simp [noNull] at foundWord

theorem literal_derives {text rest : List Char} {expr : Expr}
    (found : literal text = .read expr rest) (noMark : unaryMark? text = none) :
    ∃ word, text = word ++ rest ∧ Writes primaryLevel expr word ∧ Apart word rest := by
  unfold literal at found
  split at found
  · rename_i word behind foundWord
    obtain ⟨rfl, rfl⟩ := Reading.read.inj found
    obtain ⟨whole, apart, spelled⟩ := literal?_eq_some foundWord
    have noWord : keyword? "not" text = none := (unaryMark?_eq_none_iff.1 noMark).1
    have written : Writes primaryLevel (.literal (String.ofList word))
        (String.ofList word).toList := .literal (by simpa using spelled noWord)
    exact ⟨word, whole, by simpa using written, apart⟩
  · simp at found

theorem path_derives {text rest : List Char} {expr : Expr} (found : path text = .read expr rest)
    (noMark : unaryMark? text = none) (noLiteral : literal? text = none) :
    ∃ word, text = word ++ rest ∧ Writes primaryLevel expr word ∧ Apart word rest := by
  unfold path at found
  split at found
  · rename_i word behind foundWord
    obtain ⟨rfl, rfl⟩ := Reading.read.inj found
    obtain ⟨whole, isPath, ends⟩ := path?_eq_some foundWord
    obtain ⟨name, more, split, named, alone, slash⟩ := isPath.firstName
    have isField : IsFieldPath word := by
      refine ⟨isPath, ?_⟩
      rw [alone]
      have behindName : atNameEnd (more ++ behind) = true :=
        atNameEnd_of_slash slash fun _ => ends.1
      exact notReserved (by rw [whole, split, List.append_assoc]) behindName noMark noLiteral
    have written : Writes primaryLevel (.property (String.ofList word))
        (String.ofList word).toList := .property (by simpa using isField)
    exact ⟨word, whole, by simpa using written, fun _ => ends.1⟩
  · simp at found

theorem call_derives (derives : Derives inner 0) {text rest : List Char} {expr : Expr}
    (found : call inner text = .read expr rest) (supported : expr.Supported)
    (noMark : unaryMark? text = none) (noLiteral : literal? text = none) :
    ∃ word, text = word ++ rest ∧ Writes primaryLevel expr word ∧ Apart word rest := by
  unfold call at found
  split at found
  · simp at found
  · rename_i name afterName foundName
    obtain ⟨whole, named, ends⟩ := name?_eq_some_iff.1 foundName
    split at found
    · rename_i behind opened
      obtain ⟨args, left, foundArgs, foundClosing⟩ := Reading.bind_eq_read found
      obtain ⟨rfl, gap'', run'', rfl⟩ := closing_eq_read foundClosing
      obtain ⟨written, listing, rfl, wholeArgs, each, listed⟩ := arguments_derives derives foundArgs
        ((Expr.allEverywhere_iff _ _).1 supported.2)
      obtain ⟨gap, run, wholeName⟩ := skipGap_split afterName
      obtain ⟨gap', run', wholeBehind⟩ := skipGap_split behind
      rw [opened] at wholeName
      rw [wholeArgs] at wholeBehind
      have free := notReserved whole ends noMark noLiteral
      have isFunction : IsFunctionName (String.ofList name).toList := by
        rw [String.toList_ofList]
        exact ⟨named, free⟩
      have writtenCall := Writes.call isFunction each listed run run' run''
      refine ⟨name ++ gap ++ '(' :: gap' ++ listing ++ gap'' ++ [')'], ?_, ?_, ?_⟩
      · simp [whole, wholeName, wholeBehind]
      · simpa using writtenCall
      · exact fun endsInName => absurd endsInName (not_endsInName_closing _)
    · simp at found

theorem primary_derives (derives : Derives inner 0) {text rest : List Char} {expr : Expr}
    (found : primary inner text = .read expr rest) (supported : expr.Supported)
    (noMark : unaryMark? text = none) :
    ∃ word, text = word ++ rest ∧ Writes primaryLevel expr word ∧ Apart word rest := by
  rcases Reading.orElse_eq_read found with inGroup | ⟨_, found⟩
  · exact group_derives derives _ _ _ inGroup supported
  · rcases Reading.orElse_eq_read found with isLiteral | ⟨⟨_, stuck⟩, found⟩
    · exact literal_derives isLiteral noMark
    · have noLiteral : literal? text = none := by
        unfold literal at stuck
        split at stuck
        · simp at stuck
        · assumption
      rcases Reading.orElse_eq_read found with isCall | ⟨_, isPath⟩
      · exact call_derives derives isCall supported noMark noLiteral
      · exact path_derives isPath noMark noLiteral

theorem unary_derives (derives : Derives inner 0) : Derives (unary inner) primaryLevel := by
  intro text expr rest found supported
  cases mark : unaryMark? text with
  | none =>
      simp only [unary, skipMarks_of_none mark, mark, Option.isNone_none, if_true] at found
      obtain ⟨read, behind, foundPrimary, done⟩ := Reading.bind_eq_read found
      obtain ⟨rfl, rfl⟩ := Reading.read.inj done
      exact primary_derives derives foundPrimary supported mark
  | some behindMark =>
      -- Behind a mark every operand becomes a node without backend text.
      obtain ⟨read, behind, _, done⟩ := Reading.bind_eq_read found
      simp only [mark, Option.isNone_some, Bool.false_eq_true, if_false] at done
      obtain ⟨rfl, _⟩ := Reading.read.inj done
      simp [Expr.Supported, Expr.Everywhere, Expr.isUnsupported] at supported

end Primaries

theorem levelReader_derives {inner : Reader Expr} (derives : Derives inner 0) {level : Nat}
    (within : level ≤ primaryLevel) : Derives (levelReader inner level) level := by
  by_cases below : level < primaryLevel
  · rw [levelReader_eq_chain inner below]
    exact chain_derives (levelReader_derives derives below)
  · obtain rfl : level = primaryLevel := by omega
    exact unary_derives derives
termination_by primaryLevel - level

theorem expression_derives (budget : Nat) : Derives (expression budget) 0 := by
  induction budget with
  | zero =>
      intro text expr rest found
      simp [expression] at found
  | succ budget ih => exact levelReader_derives ih (Nat.zero_le _)

/-- A text that is read as a tree with backend text writes that tree, blanks around it aside. -/
theorem writes_of_readExpr {depthLimit : Nat} {text : List Char} {expr : Expr}
    (found : readExpr depthLimit text = .ok expr) (supported : expr.Supported) :
    ∃ word rest, Text.trim text = word ++ rest ∧ Writes 0 expr word ∧
      (Text.trimStart rest).isEmpty = true := by
  simp only [readExpr] at found
  split at found
  · simp at found
  · split at found
    · rename_i read rest foundRead
      split at found
      · rename_i blank
        obtain rfl : read = expr := Except.ok.inj found
        obtain ⟨word, whole, written, _⟩ := expression_derives _ _ _ _ foundRead supported
        exact ⟨word, rest, whole, written, blank⟩
      · simp at found
    · simp at found
    · simp at found

end ODataAdapter.Filter
