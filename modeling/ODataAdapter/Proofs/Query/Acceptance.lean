import ODataAdapter.Proofs.Query.Settings

/-!
Which queries are read, and as what. Each option is read from the one setting with its key, whatever
stands beside it. A query is refused for the first setting whose key has been set before or whose
value its reader refuses, and for nothing else. So the order of settings makes no difference to what
is read, nor do settings that are no options.
-/

namespace ODataAdapter.Query

open Text (trim)

def Accepts (depthLimit : Nat) (value : List Char) : OptionKey → Prop
  | .filter => ∃ expr, Filter.readExpr depthLimit value = .ok expr
  | .orderby => ∃ chain, Order.readChain value = .ok chain
  | .skip => ∃ count, readCount .skip value = .ok count
  | .top => ∃ count, readCount .top value = .ok count
  | .inlineCount => True

def Rejects (depthLimit : Nat) (value : List Char) (error : AdaptError) : OptionKey → Prop
  | .filter => Filter.readExpr depthLimit value = .error error
  | .orderby => Order.readChain value = .error error
  | .skip => readCount .skip value = .error error
  | .top => readCount .top value = .error error
  | .inlineCount => False

structure Readable (depthLimit : Nat) (given : List (String × List Char)) : Prop where
  distinct : (given.map Prod.fst).Nodup
  accepted : ∀ option : OptionKey, ∀ value, (option.name, value) ∈ given →
    Accepts depthLimit value option

/-- A setting that cannot be read behind others: its key has been set, or else its value is
refused. -/
inductive Faulty (depthLimit : Nat) (before : List (String × List Char)) :
    String × List Char → AdaptError → Prop
  | repeated {key : String} {value : List Char} : key ∈ before.map Prod.fst →
      Faulty depthLimit before (key, value) (.read 0 (.duplicateOption key))
  | rejected {option : OptionKey} {value : List Char} {error : AdaptError} :
      option.name ∉ before.map Prod.fst → Rejects depthLimit value error option →
      Faulty depthLimit before (option.name, value) error

def optionsOf (depthLimit : Nat) (given : List (String × List Char)) : QueryOptions where
  filter := (given.lookup "$filter").bind fun value => (Filter.readExpr depthLimit value).toOption
  order := (given.lookup "$orderby").bind fun value => (Order.readChain value).toOption
  skip := (given.lookup "$skip").bind fun value => (readCount .skip value).toOption
  top := (given.lookup "$top").bind fun value => (readCount .top value).toOption
  inlineCount := (given.lookup "$inlinecount").map fun value => String.ofList (trim value)

section Settings

variable {depthLimit : Nat} {before : List (String × List Char)} {key : String} {value : List Char}

theorem OptionKey.ofName?_eq_some_iff {name : String} {option : OptionKey} :
    OptionKey.ofName? name = some option ↔ name = option.name := by
  constructor
  · intro found
    simpa [eq_comm] using List.find?_some found
  · rintro rfl
    cases option <;> rfl

theorem accepts_or_rejects (depthLimit : Nat) (value : List Char) (option : OptionKey) :
    Accepts depthLimit value option ∨ ∃ error, Rejects depthLimit value error option := by
  have outcome {α : Type} (read : Except AdaptError α) :
      (∃ result, read = .ok result) ∨ ∃ error, read = .error error := by
    cases read with
    | ok result => exact Or.inl ⟨result, rfl⟩
    | error error => exact Or.inr ⟨error, rfl⟩
  cases option with
  | filter => exact outcome _
  | orderby => exact outcome _
  | skip => exact outcome _
  | top => exact outcome _
  | inlineCount => exact Or.inl trivial

theorem setOption_of_rejects {options : QueryOptions} {option : OptionKey} {error : AdaptError}
    (rejects : Rejects depthLimit value error option) :
    setOption depthLimit options option value = .error error := by
  cases option with
  | filter => exact congrArg (Except.map _) rejects
  | orderby => exact congrArg (Except.map _) rejects
  | skip => exact congrArg (Except.map _) rejects
  | top => exact congrArg (Except.map _) rejects
  | inlineCount => exact rejects.elim

theorem lookup_append_fresh (fresh : key ∉ before.map Prod.fst) (value : List Char)
    (name : String) : (before ++ [(key, value)]).lookup name =
      if name = key then some value else before.lookup name := by
  rw [List.lookup_append]
  by_cases same : name = key
  · subst same
    have absent : before.lookup name = none := List.lookup_eq_none_iff.2 fun setting member => by
      simpa using fun found : name = setting.1 => fresh (found ▸ List.mem_map_of_mem member)
    simp [absent]
  · have other : (name == key) = false := by simpa using same
    simp [List.lookup_cons, other, same]

theorem optionsOf_congr {given given' : List (String × List Char)}
    (same : ∀ option : OptionKey, given.lookup option.name = given'.lookup option.name) :
    optionsOf depthLimit given = optionsOf depthLimit given' := by
  have filter := same .filter
  have order := same .orderby
  have skip := same .skip
  have top := same .top
  have count := same .inlineCount
  simp only [OptionKey.name] at filter order skip top count
  simp only [optionsOf, filter, order, skip, top, count]

theorem optionsOf_append_unread (before : List (String × List Char))
    {added : List (String × List Char)}
    (unread : ∀ setting ∈ added, ∀ option : OptionKey, option.name ≠ setting.1) :
    optionsOf depthLimit (before ++ added) = optionsOf depthLimit before := by
  apply optionsOf_congr
  intro option
  have absent : added.lookup option.name = none :=
    List.lookup_eq_none_iff.2 fun setting member => by
      simpa using unread setting member option
  rw [List.lookup_append, absent, Option.or_none]

theorem setOption_optionsOf {option : OptionKey} (fresh : option.name ∉ before.map Prod.fst)
    (accepts : Accepts depthLimit value option) :
    setOption depthLimit (optionsOf depthLimit before) option value =
      .ok (optionsOf depthLimit (before ++ [(option.name, value)])) := by
  have looked := lookup_append_fresh fresh value
  cases option with
  | filter =>
      obtain ⟨expr, read⟩ := accepts
      simp only [OptionKey.name] at looked
      simp [setOption, optionsOf, looked, OptionKey.name, read, Except.map, Except.toOption]
  | orderby =>
      obtain ⟨chain, read⟩ := accepts
      simp only [OptionKey.name] at looked
      simp [setOption, optionsOf, looked, OptionKey.name, read, Except.map, Except.toOption]
  | skip =>
      obtain ⟨count, read⟩ := accepts
      simp only [OptionKey.name] at looked
      simp [setOption, optionsOf, looked, OptionKey.name, read, Except.map, Except.toOption]
  | top =>
      obtain ⟨count, read⟩ := accepts
      simp only [OptionKey.name] at looked
      simp [setOption, optionsOf, looked, OptionKey.name, read, Except.map, Except.toOption]
  | inlineCount =>
      simp only [OptionKey.name] at looked
      simp [setOption, optionsOf, looked, OptionKey.name]

theorem Readable.of_append {after : List (String × List Char)}
    (readable : Readable depthLimit (before ++ after)) : Readable depthLimit before where
  distinct := (List.map_append ▸ readable.distinct).of_append_left
  accepted option value member := readable.accepted option value (List.mem_append_left after member)

theorem readable_append_iff :
    Readable depthLimit (before ++ [(key, value)]) ↔ Readable depthLimit before ∧
      key ∉ before.map Prod.fst ∧
        ∀ option : OptionKey, option.name = key → Accepts depthLimit value option := by
  constructor
  · intro readable
    have distinct := readable.distinct
    rw [List.map_append, List.map_singleton, List.nodup_append] at distinct
    refine ⟨readable.of_append, fun again => ?_, ?_⟩
    · exact distinct.2.2 key again key List.mem_cons_self rfl
    · rintro option rfl
      exact readable.accepted option value (by simp)
  · rintro ⟨readable, fresh, accepts⟩
    constructor
    · rw [List.map_append, List.map_singleton, List.nodup_append]
      refine ⟨readable.distinct, List.nodup_singleton key, fun name member other same => ?_⟩
      obtain rfl := List.mem_singleton.1 same
      rintro rfl
      exact fresh member
    · intro option given member
      rcases List.mem_append.1 member with earlier | last
      · exact readable.accepted option given earlier
      · obtain ⟨name, rfl⟩ := Prod.mk.inj (List.mem_singleton.1 last)
        exact accepts option name

theorem readable_or_faulty (readable : Readable depthLimit before)
    (setting : String × List Char) :
    Readable depthLimit (before ++ [setting]) ∨
      ∃ error, Faulty depthLimit before setting error := by
  obtain ⟨key, value⟩ := setting
  rw [readable_append_iff]
  by_cases again : key ∈ before.map Prod.fst
  · exact Or.inr ⟨_, .repeated again⟩
  · cases known : OptionKey.ofName? key with
    | none =>
        refine Or.inl ⟨readable, again, fun option name => ?_⟩
        rw [OptionKey.ofName?_eq_some_iff.2 name.symm] at known
        contradiction
    | some option =>
        obtain rfl := OptionKey.ofName?_eq_some_iff.1 known
        rcases accepts_or_rejects depthLimit value option with accepts | ⟨error, rejects⟩
        · refine Or.inl ⟨readable, again, fun other name => ?_⟩
          rw [OptionKey.ofName?_eq_some_iff.2 name.symm] at known
          exact Option.some.inj known ▸ accepts
        · exact Or.inr ⟨error, .rejected again rejects⟩

theorem readable_or_firstFault (given : List (String × List Char)) :
    Readable depthLimit given ∨
      ∃ before setting after error, given = before ++ setting :: after ∧
        Readable depthLimit before ∧ Faulty depthLimit before setting error := by
  induction given using List.reverseRecOn with
  | nil => exact Or.inl ⟨List.nodup_nil, by simp⟩
  | append_singleton given setting ih =>
      rcases ih with readable | ⟨before, fault, after, error, rfl, readable, faulty⟩
      · rcases readable_or_faulty readable setting with both | ⟨error, faulty⟩
        · exact Or.inl both
        · exact Or.inr ⟨given, setting, [], error, rfl, readable, faulty⟩
      · exact Or.inr ⟨before, fault, after ++ [setting], error, by simp, readable, faulty⟩

end Settings

section Reading

variable {depthLimit : Nat} {before : List (String × List Char)} {key : String}
  {name value : List Char} {clauses : List (List Char × List Char)}

theorem settings_cons_blank (blank : (String.ofList (trim name)).isEmpty = true) :
    settings ((name, value) :: clauses) = settings clauses := by
  simp [settings, blank]

theorem settings_cons_named (isKey : String.ofList (trim name) = key)
    (named : key.isEmpty = false) :
    settings ((name, value) :: clauses) = (key, value) :: settings clauses := by
  simp [settings, isKey, named]

theorem readClauses_blank {seen : List String} {options : QueryOptions}
    (blank : (String.ofList (trim name)).isEmpty = true) :
    readClauses depthLimit seen options ((name, value) :: clauses) =
      readClauses depthLimit seen options clauses := by
  simp only [readClauses, blank, if_true]

theorem readClauses_readable (isKey : String.ofList (trim name) = key)
    (named : key.isEmpty = false) (readable : Readable depthLimit (before ++ [(key, value)])) :
    readClauses depthLimit (before.map Prod.fst) (optionsOf depthLimit before)
        ((name, value) :: clauses) =
      readClauses depthLimit ((before ++ [(key, value)]).map Prod.fst)
        (optionsOf depthLimit (before ++ [(key, value)])) clauses := by
  obtain ⟨_, fresh, accepts⟩ := readable_append_iff.1 readable
  have notSeen : (before.map Prod.fst).contains key = false := by simpa using fresh
  rw [List.map_append, List.map_singleton]
  simp only [readClauses, isKey, named, notSeen, Bool.false_eq_true, if_false]
  cases known : OptionKey.ofName? key with
  | none =>
      have unread : ∀ setting ∈ [(key, value)], ∀ option : OptionKey, option.name ≠ setting.1 := by
        simp only [List.forall_mem_singleton]
        intro option same
        rw [OptionKey.ofName?_eq_some_iff.2 same.symm] at known
        contradiction
      rw [optionsOf_append_unread before unread]
  | some option =>
      obtain rfl := OptionKey.ofName?_eq_some_iff.1 known
      simp only [setOption_optionsOf fresh (accepts option rfl)]

theorem readClauses_faulty {options : QueryOptions} {error : AdaptError}
    (isKey : String.ofList (trim name) = key) (named : key.isEmpty = false)
    (faulty : Faulty depthLimit before (key, value) error) :
    readClauses depthLimit (before.map Prod.fst) options ((name, value) :: clauses) =
      .error error := by
  cases faulty with
  | repeated again =>
      have seen : (before.map Prod.fst).contains key = true := by simpa using again
      simp only [readClauses, isKey, named, seen, Bool.false_eq_true, if_false, if_true]
  | @rejected option _ _ fresh rejects =>
      have notSeen : (before.map Prod.fst).contains option.name = false := by simpa using fresh
      simp only [readClauses, isKey, named, notSeen, OptionKey.ofName?_eq_some_iff.2 rfl,
        setOption_of_rejects rejects, Bool.false_eq_true, if_false]

theorem readClauses_of_readable (before : List (String × List Char))
    (readable : Readable depthLimit (before ++ settings clauses)) :
    readClauses depthLimit (before.map Prod.fst) (optionsOf depthLimit before) clauses =
      .ok (optionsOf depthLimit (before ++ settings clauses)) := by
  induction clauses generalizing before with
  | nil => simp [readClauses, settings]
  | cons clause clauses ih =>
      obtain ⟨name, value⟩ := clause
      cases named : (String.ofList (trim name)).isEmpty with
      | true =>
          rw [settings_cons_blank named] at readable ⊢
          rw [readClauses_blank named, ih before readable]
      | false =>
          rw [settings_cons_named rfl named, List.append_cons] at readable ⊢
          rw [readClauses_readable rfl named readable.of_append, ih _ readable]

theorem readClauses_of_fault (before : List (String × List Char))
    {front back : List (String × List Char)} {setting : String × List Char} {error : AdaptError}
    (split : settings clauses = front ++ setting :: back)
    (readable : Readable depthLimit (before ++ front))
    (faulty : Faulty depthLimit (before ++ front) setting error) :
    readClauses depthLimit (before.map Prod.fst) (optionsOf depthLimit before) clauses =
      .error error := by
  induction clauses generalizing before front with
  | nil => simp [settings] at split
  | cons clause clauses ih =>
      obtain ⟨name, value⟩ := clause
      cases named : (String.ofList (trim name)).isEmpty with
      | true =>
          rw [settings_cons_blank named] at split
          rw [readClauses_blank named, ih before split readable faulty]
      | false =>
          rw [settings_cons_named rfl named] at split
          cases front with
          | nil =>
              obtain ⟨rfl, _⟩ := List.cons.inj split
              rw [List.append_nil] at faulty
              exact readClauses_faulty rfl named faulty
          | cons first front =>
              obtain ⟨rfl, rest⟩ := List.cons.inj split
              rw [List.append_cons] at readable faulty
              rw [readClauses_readable rfl named readable.of_append, ih _ rest readable faulty]

end Reading

section Texts

variable {depthLimit : Nat} {text text' : String} {options : QueryOptions}

theorem ofText_of_readable (readable : Readable depthLimit (settings (clausesOf text))) :
    QueryOptions.ofText depthLimit text =
      .ok (optionsOf depthLimit (settings (clausesOf text))) := by
  have none : optionsOf depthLimit [] = {} := rfl
  rw [← List.nil_append (settings (clausesOf text))] at readable ⊢
  rw [QueryOptions.ofText, ← none]
  exact readClauses_of_readable [] readable

theorem ofText_of_fault {before after : List (String × List Char)} {setting : String × List Char}
    {error : AdaptError} (split : settings (clausesOf text) = before ++ setting :: after)
    (readable : Readable depthLimit before) (faulty : Faulty depthLimit before setting error) :
    QueryOptions.ofText depthLimit text = .error error := by
  have none : optionsOf depthLimit [] = {} := rfl
  rw [QueryOptions.ofText, ← none]
  exact readClauses_of_fault [] split readable faulty

theorem ofText_eq_ok_iff :
    QueryOptions.ofText depthLimit text = .ok options ↔
      Readable depthLimit (settings (clausesOf text)) ∧
        options = optionsOf depthLimit (settings (clausesOf text)) := by
  constructor
  · intro read
    rcases readable_or_firstFault (settings (clausesOf text)) with
      readable | ⟨before, setting, after, error, split, readable, faulty⟩
    · rw [ofText_of_readable readable] at read
      exact ⟨readable, (Except.ok.inj read).symm⟩
    · rw [ofText_of_fault split readable faulty] at read
      contradiction
  · rintro ⟨readable, rfl⟩
    exact ofText_of_readable readable

theorem ofText_eq_error_iff {error : AdaptError} :
    QueryOptions.ofText depthLimit text = .error error ↔
      ∃ before setting after, settings (clausesOf text) = before ++ setting :: after ∧
        Readable depthLimit before ∧ Faulty depthLimit before setting error := by
  constructor
  · intro failed
    rcases readable_or_firstFault (settings (clausesOf text)) with
      readable | ⟨before, setting, after, error', split, readable, faulty⟩
    · rw [ofText_of_readable readable] at failed
      contradiction
    · rw [ofText_of_fault split readable faulty] at failed
      exact ⟨before, setting, after, split, readable, Except.error.inj failed ▸ faulty⟩
  · rintro ⟨before, setting, after, split, readable, faulty⟩
    exact ofText_of_fault split readable faulty

end Texts

section Blanks

variable {depthLimit : Nat} {given : List (String × List Char)} {value : List Char}

theorem readExpr_trim (depthLimit : Nat) (value : List Char) :
    Filter.readExpr depthLimit (trim value) = Filter.readExpr depthLimit value := by
  simp only [Filter.readExpr, Text.trim_trim]

theorem readChain_trim (value : List Char) :
    Order.readChain (trim value) = Order.readChain value := by
  simp only [Order.readChain, Text.trim_trim]

theorem toOption_readCount (option : OptionKey) (value : List Char) :
    (readCount option value).toOption = count? (trim value) := by
  unfold readCount
  cases count? (trim value) with
  | none => rfl
  | some count => rfl

theorem exists_readCount_iff {option : OptionKey} :
    (∃ count, readCount option value = .ok count) ↔ (count? (trim value)).isSome = true := by
  rw [← toOption_readCount option]
  cases readCount option value with
  | error error => simp [Except.toOption]
  | ok count => simp [Except.toOption]

theorem accepts_trim_iff {option : OptionKey} :
    Accepts depthLimit (trim value) option ↔ Accepts depthLimit value option := by
  cases option with
  | filter => simp only [Accepts, readExpr_trim]
  | orderby => simp only [Accepts, readChain_trim]
  | skip => simp only [Accepts, exists_readCount_iff, Text.trim_trim]
  | top => simp only [Accepts, exists_readCount_iff, Text.trim_trim]
  | inlineCount => rfl

theorem lookup_trimmed (given : List (String × List Char)) (key : String) :
    (trimmed given).lookup key = (given.lookup key).map trim := by
  induction given with
  | nil => rfl
  | cons setting given ih =>
      obtain ⟨name, value⟩ := setting
      rw [trimmed] at ih
      simp only [trimmed, List.map_cons, Prod.map, id, List.lookup_cons, ih]
      cases key == name with
      | false => rfl
      | true => rfl

theorem optionsOf_trimmed (given : List (String × List Char)) :
    optionsOf depthLimit (trimmed given) = optionsOf depthLimit given := by
  simp only [optionsOf, lookup_trimmed, Option.bind_map, Option.map_map, Function.comp_def,
    readExpr_trim, readChain_trim, toOption_readCount, Text.trim_trim]

theorem readable_trimmed_iff :
    Readable depthLimit (trimmed given) ↔ Readable depthLimit given := by
  have sameKeys : (trimmed given).map Prod.fst = given.map Prod.fst := by
    simp [trimmed, Function.comp_def]
  constructor
  · intro readable
    refine ⟨sameKeys ▸ readable.distinct, fun option value member => ?_⟩
    have taken : (option.name, trim value) ∈ trimmed given :=
      List.mem_map_of_mem (f := Prod.map id trim) member
    exact accepts_trim_iff.1 (readable.accepted option (trim value) taken)
  · intro readable
    refine ⟨sameKeys.symm ▸ readable.distinct, fun option value member => ?_⟩
    obtain ⟨⟨name, untrimmed⟩, found, same⟩ := List.mem_map.1 member
    obtain ⟨rfl, rfl⟩ := Prod.mk.inj same
    exact accepts_trim_iff.2 (readable.accepted option untrimmed found)

end Blanks

/-! Other orders, and settings that are no options. -/

/-- Settings that are no options, each with a key of its own. -/
structure Unread (given added : List (String × List Char)) : Prop where
  unrecognised : ∀ setting ∈ added, ∀ option : OptionKey, option.name ≠ setting.1
  distinct : (added.map Prod.fst).Nodup
  fresh : ∀ setting ∈ added, setting.1 ∉ given.map Prod.fst

section Orders

variable {depthLimit : Nat} {given given' added : List (String × List Char)} {key : String}
  {value : List Char}

theorem lookup_eq_some_iff (distinct : (given.map Prod.fst).Nodup) :
    given.lookup key = some value ↔ (key, value) ∈ given := by
  constructor
  · intro found
    obtain ⟨before, after, rfl, _⟩ := List.lookup_eq_some_iff.1 found
    simp
  · intro member
    induction given with
    | nil => contradiction
    | cons setting given ih =>
        obtain ⟨absent, others⟩ := List.nodup_cons.1 distinct
        rcases List.mem_cons.1 member with rfl | later
        · simp
        · have different : (key == setting.1) = false := by
            simpa using fun same : key = setting.1 => absent (same ▸ List.mem_map_of_mem later)
          rw [List.lookup_cons, different]
          exact ih others later

theorem lookup_perm (perm : given.Perm given') (distinct : (given.map Prod.fst).Nodup)
    (key : String) : given.lookup key = given'.lookup key := by
  have distinct' := (perm.map Prod.fst).nodup_iff.1 distinct
  ext value
  rw [lookup_eq_some_iff distinct, lookup_eq_some_iff distinct', perm.mem_iff]

theorem Readable.perm (readable : Readable depthLimit given) (perm : given.Perm given') :
    Readable depthLimit given' ∧ optionsOf depthLimit given' = optionsOf depthLimit given := by
  refine ⟨⟨(perm.map Prod.fst).nodup_iff.1 readable.distinct, fun option value member => ?_⟩, ?_⟩
  · exact readable.accepted option value (perm.mem_iff.2 member)
  · exact optionsOf_congr fun option => (lookup_perm perm readable.distinct option.name).symm

theorem Unread.readable_append_iff (unread : Unread given added) :
    Readable depthLimit (given ++ added) ↔ Readable depthLimit given := by
  refine ⟨Readable.of_append, fun readable => ⟨?_, fun option value member => ?_⟩⟩
  · rw [List.map_append]
    refine readable.distinct.append unread.distinct ?_
    rintro key isGiven isAdded
    obtain ⟨setting, member, rfl⟩ := List.mem_map.1 isAdded
    exact unread.fresh setting member isGiven
  · rcases List.mem_append.1 member with isGiven | isAdded
    · exact readable.accepted option value isGiven
    · exact absurd rfl (unread.unrecognised _ isAdded option)

end Orders

section Pieces

variable {depthLimit : Nat} {text text' : String} {pieces pieces' added : List (List Char)}
  {options : QueryOptions}

theorem HasPieces.ofText_eq_ok_iff (whole : HasPieces text pieces) :
    QueryOptions.ofText depthLimit text = .ok options ↔
      Readable depthLimit (pieceSettings pieces) ∧
        options = optionsOf depthLimit (pieceSettings pieces) := by
  rw [Query.ofText_eq_ok_iff, ← readable_trimmed_iff, ← optionsOf_trimmed,
    trimmed_settings_clausesOf whole]

theorem HasPieces.ofText_eq_ok_iff_of_perm (whole : HasPieces text pieces)
    (whole' : HasPieces text' pieces') (perm : pieces'.Perm (pieces ++ added))
    (unread : Unread (pieceSettings pieces) (pieceSettings added)) :
    QueryOptions.ofText depthLimit text' = .ok options ↔
      QueryOptions.ofText depthLimit text = .ok options := by
  have reordered := pieceSettings_perm perm
  rw [pieceSettings_append] at reordered
  rw [whole.ofText_eq_ok_iff, whole'.ofText_eq_ok_iff, ← unread.readable_append_iff,
    ← optionsOf_append_unread (pieceSettings pieces) unread.unrecognised]
  constructor
  · rintro ⟨readable, rfl⟩
    obtain ⟨readable', same⟩ := readable.perm reordered
    exact ⟨readable', same.symm⟩
  · rintro ⟨readable, rfl⟩
    obtain ⟨readable', same⟩ := readable.perm reordered.symm
    exact ⟨readable', same.symm⟩

end Pieces

/-- The options of a query are read independently of each other. They are read if no key is set
twice and every value is accepted, and otherwise the first setting at fault is reported. Pieces in
another order, and others among them that are no options, give the same. -/
theorem ofText_reads_each_option (depthLimit : Nat) (text : String) :
    (∀ options, QueryOptions.ofText depthLimit text = .ok options ↔
      Readable depthLimit (settings (clausesOf text)) ∧
        options = optionsOf depthLimit (settings (clausesOf text))) ∧
    (∀ error, QueryOptions.ofText depthLimit text = .error error ↔
      ∃ before setting after, settings (clausesOf text) = before ++ setting :: after ∧
        Readable depthLimit before ∧ Faulty depthLimit before setting error) ∧
    ∀ text' pieces pieces' added, HasPieces text pieces → HasPieces text' pieces' →
      pieces'.Perm (pieces ++ added) → Unread (pieceSettings pieces) (pieceSettings added) →
        ∀ options, QueryOptions.ofText depthLimit text' = .ok options ↔
          QueryOptions.ofText depthLimit text = .ok options := by
  refine ⟨fun _ => ofText_eq_ok_iff, fun _ => ofText_eq_error_iff, ?_⟩
  intro text' pieces pieces' added whole whole' perm unread options
  exact whole.ofText_eq_ok_iff_of_perm whole' perm unread

theorem ofText_reads_each_option_of_shuffled_pieces :
    HasPieces "$top=5 &$skip=%32" ["$top=5 ".toList, "$skip=%32".toList] ∧
      HasPieces " ?$skip=%32&x=1&$top=5 "
        ["$skip=%32".toList, "x=1".toList, "$top=5 ".toList] ∧
      ["$skip=%32".toList, "x=1".toList, "$top=5 ".toList].Perm
        (["$top=5 ".toList, "$skip=%32".toList] ++ ["x=1".toList]) ∧
      Unread (pieceSettings ["$top=5 ".toList, "$skip=%32".toList])
        (pieceSettings ["x=1".toList]) ∧
      QueryOptions.ofText defaultDepth " ?$skip=%32&x=1&$top=5 " =
        .ok { skip := some 2, top := some 5 } := by
  have whole : HasPieces "$top=5 &$skip=%32" ["$top=5 ".toList, "$skip=%32".toList] :=
    ⟨⟨[], [], rfl, by simp, by decide⟩, by decide, by decide⟩
  have whole' : HasPieces " ?$skip=%32&x=1&$top=5 "
      ["$skip=%32".toList, "x=1".toList, "$top=5 ".toList] :=
    ⟨⟨[' '], ['?'], by decide, by simp, by decide⟩, by decide, by decide⟩
  have perm : ["$skip=%32".toList, "x=1".toList, "$top=5 ".toList].Perm
      (["$top=5 ".toList, "$skip=%32".toList] ++ ["x=1".toList]) := by decide
  have found : settings (clausesOf "$top=5 &$skip=%32") =
      [("$top", "5 ".toList), ("$skip", "2".toList)] := by decide
  have unread : Unread (pieceSettings ["$top=5 ".toList, "$skip=%32".toList])
      (pieceSettings ["x=1".toList]) := by
    have added : pieceSettings ["x=1".toList] = [("x", "1".toList)] := by decide
    have given : pieceSettings ["$top=5 ".toList, "$skip=%32".toList] =
        [("$top", "5".toList), ("$skip", "2".toList)] := by decide
    rw [added, given]
    exact ⟨by simp only [List.forall_mem_singleton]; intro option; cases option <;> decide,
      by decide, by decide⟩
  have skip : readCount .skip "2".toList = .ok 2 := by
    have count : count? (trim "2".toList) = some 2 := by decide
    simp only [readCount, count]
  have top : readCount .top "5 ".toList = .ok 5 := by
    have count : count? (trim "5 ".toList) = some 5 := by decide
    simp only [readCount, count]
  obtain ⟨read, _, alike⟩ := ofText_reads_each_option defaultDepth "$top=5 &$skip=%32"
  have same := alike _ _ _ ["x=1".toList] whole whole' perm unread
  refine ⟨whole, whole', perm, unread, ?_⟩
  rw [same, read, found]
  refine ⟨⟨by decide, fun option value member => ?_⟩, ?_⟩
  · cases option with
    | skip =>
        obtain rfl : value = "2".toList := by simpa [OptionKey.name] using member
        exact ⟨2, skip⟩
    | top =>
        obtain rfl : value = "5 ".toList := by simpa [OptionKey.name] using member
        exact ⟨5, top⟩
    | _ => simp [OptionKey.name] at member
  · simp only [optionsOf, List.lookup_cons, List.lookup_nil, String.reduceBEq, Option.bind_some,
      Option.bind_none, Option.map_none, skip, top, Except.toOption]

end ODataAdapter.Query
