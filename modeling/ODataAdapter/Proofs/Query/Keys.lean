import ODataAdapter.Backend.Assembly
import ODataAdapter.Proofs.Text.Classes
import ODataAdapter.Query.Reader

/-!
The option keys of an assembled query, as a reader of it finds them. Values are written as they are,
so an `&` in a value begins a clause of its own there.
-/

namespace ODataAdapter.Query

def keyOf (piece : List Char) : String :=
  String.ofList (Text.trim (decodePiece piece).1)

def keysOf (text : String) : List String :=
  (clausesOf text).map fun clause => String.ofList (Text.trim clause.1)

def pieceKeys (text : List Char) : List String :=
  ((splitAt '&' text).filter (!·.isEmpty)).map keyOf

/-- The keys that a value adds to a query: those of its pieces after the first. -/
def strayKeys (value : String) : List String :=
  (((splitAt '&' value.toList).drop 1).filter (!·.isEmpty)).map keyOf

theorem splitAt_ne_nil (separator : Char) (text : List Char) : splitAt separator text ≠ [] := by
  fun_induction splitAt separator text with
  | case1 => simp
  | case2 => simp
  | case3 => simp
  | case4 => simp

theorem splitAt_append (separator : Char) (left right : List Char) :
    splitAt separator (left ++ separator :: right) =
      splitAt separator left ++ splitAt separator right := by
  induction left with
  | nil => simp [splitAt]
  | cons char left ih =>
      by_cases separates : char = separator
      · simp [splitAt, separates, ih]
      · obtain ⟨first, others, pieces⟩ := List.exists_cons_of_ne_nil (splitAt_ne_nil separator left)
        simp [splitAt, separates, ih, pieces]

theorem splitAt_word {separator : Char} {word : List Char} (free : separator ∉ word)
    (text : List Char) :
    ∃ first others, splitAt separator text = first :: others ∧
      splitAt separator (word ++ text) = (word ++ first) :: others := by
  obtain ⟨first, others, pieces⟩ := List.exists_cons_of_ne_nil (splitAt_ne_nil separator text)
  refine ⟨first, others, pieces, ?_⟩
  induction word with
  | nil => exact pieces
  | cons char word ih =>
      simp only [List.mem_cons, not_or] at free
      simp [splitAt, Ne.symm free.1, ih free.2]

theorem splitAt_free {separator : Char} {text : List Char} (free : separator ∉ text) :
    splitAt separator text = [text] := by
  obtain ⟨first, others, empty, whole⟩ := splitAt_word free []
  simp only [splitAt, List.cons.injEq, List.nil_eq] at empty
  obtain ⟨rfl, rfl⟩ := empty
  simpa using whole

theorem splitAt_append_word {separator : Char} {word : List Char} (free : separator ∉ word)
    (text : List Char) :
    ∃ others last, splitAt separator text = others ++ [last] ∧
      splitAt separator (text ++ word) = others ++ [last ++ word] := by
  induction text with
  | nil => exact ⟨[], [], rfl, splitAt_free free⟩
  | cons char text ih =>
      obtain ⟨others, last, pieces, whole⟩ := ih
      by_cases separates : char = separator
      · exact ⟨[] :: others, last, by simp [splitAt, separates, pieces],
          by simp [splitAt, separates, whole]⟩
      · cases others with
        | nil =>
            exact ⟨[], char :: last, by simp [splitAt, separates, pieces],
              by simp [splitAt, separates, whole]⟩
        | cons first others =>
            exact ⟨(char :: first) :: others, last, by simp [splitAt, separates, pieces],
              by simp [splitAt, separates, whole]⟩

theorem forall_ne_of_notMem {separator : Char} {text : List Char} (free : separator ∉ text) :
    ∀ char ∈ text, decide (char ≠ separator) = true := by
  intro char member
  simp only [decide_eq_true_eq]
  rintro rfl
  exact free member

theorem cutAt_free {separator : Char} {text : List Char} (free : separator ∉ text) :
    cutAt separator text = (text, []) := by
  have others := forall_ne_of_notMem free
  rw [cutAt, List.takeWhile_eq_self_iff.2 others, List.dropWhile_eq_nil_iff.2 others]
  rfl

theorem cutAt_append {separator : Char} {word : List Char} (free : separator ∉ word)
    (rest : List Char) : cutAt separator (word ++ separator :: rest) = (word, rest) := by
  have others := forall_ne_of_notMem free
  rw [cutAt, List.takeWhile_append_of_pos others, List.dropWhile_append_of_pos others]
  simp

theorem pieceKeys_append (left right : List Char) :
    pieceKeys (left ++ '&' :: right) = pieceKeys left ++ pieceKeys right := by
  simp [pieceKeys, splitAt_append]

theorem strayKeys_eq_nil {value : String} (free : '&' ∉ value.toList) : strayKeys value = [] := by
  simp [strayKeys, splitAt_free free]

theorem OptionKey.name_plain (option : OptionKey) :
    '&' ∉ option.name.toList ∧ '=' ∉ option.name.toList ∧
      decode option.name.toList = option.name.toList ∧
        Text.trim option.name.toList = option.name.toList ∧
          option.name.toList.head? = some '$' := by
  cases option <;> decide

theorem decodePiece_clause (option : OptionKey) (value : List Char) :
    decodePiece (option.name.toList ++ '=' :: value) = (option.name.toList, decode value) := by
  obtain ⟨_, noEqual, decoded, _⟩ := option.name_plain
  simp only [decodePiece, cutAt_append noEqual, decoded]

theorem keyOf_clause (option : OptionKey) (value : List Char) :
    keyOf (option.name.toList ++ '=' :: value) = option.name := by
  obtain ⟨_, _, _, trimmed, _⟩ := option.name_plain
  rw [keyOf, decodePiece_clause, trimmed, String.ofList_toList]

theorem pieceKeys_clause (option : OptionKey) (value : String) :
    pieceKeys (option.name.toList ++ '=' :: value.toList) = option.name :: strayKeys value := by
  obtain ⟨noSeparator, _⟩ := option.name_plain
  have free : '&' ∉ option.name.toList ++ ['='] := by simp [noSeparator]
  obtain ⟨first, others, pieces, whole⟩ := splitAt_word free value.toList
  rw [List.append_assoc, List.singleton_append] at whole
  simp [pieceKeys, strayKeys, whole, pieces, keyOf_clause]

def IsOption (clause : String × String) : Prop :=
  ∃ option : OptionKey, clause.1 = option.name

theorem join_cons (clause : String × String) (sent : List (String × String)) :
    (String.join ((clause :: sent).map clauseText)).toList =
      (clause.1.toList ++ '=' :: clause.2.toList) ++
        '&' :: (String.join (sent.map clauseText)).toList := by
  simp [clauseText]

theorem pieceKeys_join {sent : List (String × String)}
    (named : ∀ clause ∈ sent, IsOption clause) :
    pieceKeys (String.join (sent.map clauseText)).toList =
      sent.flatMap fun clause => clause.1 :: strayKeys clause.2 := by
  induction sent with
  | nil => rfl
  | cons clause sent ih =>
      obtain ⟨option, key⟩ := named clause List.mem_cons_self
      have others := ih fun clause member => named clause (List.mem_cons_of_mem _ member)
      rw [join_cons, key, pieceKeys_append, pieceKeys_clause, others, List.flatMap_cons, key]

theorem join_last (sent : List (String × String)) :
    (String.join (sent.map clauseText)).toList = [] ∨
      ∃ front, (String.join (sent.map clauseText)).toList = front ++ ['&'] := by
  induction sent with
  | nil => exact Or.inl rfl
  | cons clause sent ih =>
      rw [join_cons]
      rcases ih with empty | ⟨front, body⟩
      · exact Or.inr ⟨clause.1.toList ++ '=' :: clause.2.toList, by rw [empty]⟩
      · exact Or.inr ⟨clause.1.toList ++ '=' :: clause.2.toList ++ '&' :: front, by simp [body]⟩

theorem join_head {sent : List (String × String)}
    (named : ∀ clause ∈ sent, IsOption clause) :
    ∀ char ∈ (String.join (sent.map clauseText)).toList.head?, char = '$' := by
  cases sent with
  | nil => simp
  | cons clause sent =>
      obtain ⟨option, key⟩ := named clause List.mem_cons_self
      obtain ⟨_, _, _, _, starts⟩ := option.name_plain
      intro char isHead
      rw [join_cons, key] at isHead
      simpa [starts, List.head?_append] using Eq.symm (Option.mem_def.1 isHead)

theorem stripped_queryText {sent : List (String × String)}
    (named : ∀ clause ∈ sent, IsOption clause) :
    (Text.trim (queryText sent).toList).dropWhile (· = '?') =
      (String.join (sent.map clauseText)).toList := by
  have whole : (queryText sent).toList = '?' :: (String.join (sent.map clauseText)).toList := by
    simp [queryText]
  have ends : ∀ char ∈ (queryText sent).toList.getLast?, Text.isBlank char = false := by
    intro char isLast
    rw [whole] at isLast
    rcases join_last sent with empty | ⟨front, body⟩
    · obtain rfl : '?' = char := by simpa [empty] using isLast
      decide
    · rw [body, ← List.cons_append, List.getLast?_concat] at isLast
      obtain rfl : '&' = char := Option.some.inj isLast
      decide
  have trimmed : Text.trim (queryText sent).toList = (queryText sent).toList := by
    refine Text.trim_eq_self (fun char isHead => ?_) ends
    obtain rfl : '?' = char := by simpa [whole] using isHead
    decide
  rw [trimmed, whole, List.dropWhile_cons_of_pos (by simp)]
  cases body : (String.join (sent.map clauseText)).toList with
  | nil => rfl
  | cons first rest =>
      obtain rfl := join_head named first (by simp [body])
      simp

theorem clausesOf_queryText {sent : List (String × String)}
    (named : ∀ clause ∈ sent, IsOption clause) :
    clausesOf (queryText sent) = clauses (String.join (sent.map clauseText)).toList := by
  rw [clausesOf, stripped_queryText named]

/-- A query is read as the clauses it was made of and those that their values add. -/
theorem keysOf_queryText {sent : List (String × String)}
    (named : ∀ clause ∈ sent, IsOption clause) :
    keysOf (queryText sent) = sent.flatMap fun clause => clause.1 :: strayKeys clause.2 := by
  have keys : keysOf (queryText sent) = pieceKeys (String.join (sent.map clauseText)).toList := by
    rw [keysOf, clausesOf_queryText named, clauses, List.map_map]
    rfl
  rw [keys, pieceKeys_join named]

section Reading

variable {depthLimit : Nat} {options read : QueryOptions} {value : List Char}

theorem readClauses_named {seen : List String} {clauses : List (List Char × List Char)}
    (option : OptionKey) (fresh : option.name ∉ seen)
    (set : setOption depthLimit options option value = .ok read) :
    readClauses depthLimit seen options ((option.name.toList, value) :: clauses) =
      readClauses depthLimit (seen ++ [option.name]) read clauses := by
  obtain ⟨_, _, _, trimmed, _⟩ := option.name_plain
  have nonempty : option.name.isEmpty = false := by cases option <;> decide
  have named : OptionKey.ofName? option.name = some option := by cases option <;> decide
  have notSeen : seen.contains option.name = false := by simpa using fresh
  simp only [readClauses, trimmed, String.ofList_toList, nonempty, notSeen, named, set,
    Bool.false_eq_true, if_false]

theorem setOption_filter {expr : Filter.Expr}
    (found : Filter.readExpr depthLimit value = .ok expr) :
    setOption depthLimit options .filter value = .ok { options with filter := some expr } := by
  simp only [setOption, found, Except.map]

theorem setOption_orderby {chain : SortChain} (found : Order.readChain value = .ok chain) :
    setOption depthLimit options .orderby value = .ok { options with order := some chain } := by
  simp only [setOption, found, Except.map]

theorem setOption_top {count : UInt64} (found : count? (Text.trim value) = some count) :
    setOption depthLimit options .top value = .ok { options with top := some count } := by
  simp only [setOption, readCount, found, Except.map]

end Reading

end ODataAdapter.Query
