import ODataAdapter.Proofs.Json.Scalars

/-!
Compact JSON text is taken apart to exactly what was printed, when all of its numbers are whole.
How deep arrays and objects nest is no matter here: a decoder counts that as far as it looks.
-/

namespace ODataAdapter

namespace Json

/-- Values without a real number. -/
inductive Whole : Json → Prop
  | null : Whole null
  | bool (value : Bool) : Whole (bool value)
  | number (value : Int) : Whole (number (.integer value))
  | string (value : String) : Whole (string value)
  | array {items : List Json} (each : ∀ item ∈ items, Whole item) : Whole (array items)
  | object {members : List (String × Json)} (each : ∀ member ∈ members, Whole member.2) :
      Whole (object members)

mutual

def toWritten : Json → Written
  | null => .null
  | bool value => .bool value
  | number value => .number (.ofNumber value)
  | string value => .string (.ofString value)
  | array items => .array (toWrittenItems items)
  | object members => .object (toWrittenMembers members)

def toWrittenItems : List Json → List Written
  | [] => []
  | item :: items => item.toWritten :: toWrittenItems items

def toWrittenMembers : List (String × Json) → List (WrittenString × Written)
  | [] => []
  | (name, value) :: members => (.ofString name, value.toWritten) :: toWrittenMembers members

end

theorem toWrittenItems_eq_map (items : List Json) : toWrittenItems items = items.map toWritten := by
  induction items with
  | nil => rfl
  | cons item items ih => rw [toWrittenItems, ih, List.map_cons]

def writtenMember (member : String × Json) : WrittenString × Written :=
  (.ofString member.1, member.2.toWritten)

theorem toWrittenMembers_eq_map (members : List (String × Json)) :
    toWrittenMembers members = members.map writtenMember := by
  induction members with
  | nil => rfl
  | cons member members ih => rw [toWrittenMembers, ih, List.map_cons, writtenMember]

theorem eq_intercalate {α : Type} {join : List α → List Char → List Char}
    {print : α → List Char → List Char} (empty : ∀ rest, join [] rest = rest)
    (single : ∀ item rest, join [item] rest = print item rest)
    (more : ∀ item next items rest,
      join (item :: next :: items) rest = print item (',' :: join (next :: items) rest))
    {items : List α} (each : ∀ item ∈ items, ∀ rest, print item rest = print item [] ++ rest)
    (rest : List Char) :
    join items rest = [','].intercalate (items.map (print · [])) ++ rest := by
  induction items with
  | nil => rw [empty, List.map_nil, List.intercalate_nil, List.nil_append]
  | cons item items ih =>
      have first := each item List.mem_cons_self
      have others := ih fun item member => each item (List.mem_cons_of_mem _ member)
      cases items with
      | nil => simp [single, first rest]
      | cons next items =>
          rw [more, first, others]
          simp

def memberText (member : String × Json) (rest : List Char) : List Char :=
  quotedText member.1 ++ ':' :: member.2.compactText rest

theorem memberText_append {pair : String × Json}
    (printed : ∀ rest, pair.2.compactText rest = pair.2.compactText [] ++ rest)
    (rest : List Char) : memberText pair rest = memberText pair [] ++ rest := by
  simp [memberText, printed rest]

theorem compactItems_eq {items : List Json}
    (each : ∀ item ∈ items, ∀ rest, item.compactText rest = item.compactText [] ++ rest)
    (rest : List Char) :
    compactItems items rest = [','].intercalate (items.map (compactText · [])) ++ rest :=
  eq_intercalate (fun _ => rfl) (fun _ _ => rfl) (fun _ _ _ _ => rfl) each rest

theorem compactMembers_eq {members : List (String × Json)}
    (each : ∀ member ∈ members, ∀ rest, memberText member rest = memberText member [] ++ rest)
    (rest : List Char) :
    compactMembers members rest = [','].intercalate (members.map (memberText · [])) ++ rest :=
  eq_intercalate (fun _ => rfl) (fun _ _ => rfl) (fun _ _ _ _ => rfl) each rest

theorem Whole.compactText_append {value : Json} (whole : value.Whole) :
    ∀ rest, value.compactText rest = value.compactText [] ++ rest := by
  induction whole with
  | null =>
      intro rest
      rfl
  | bool value =>
      intro rest
      cases value <;> rfl
  | number value => simp [compactText]
  | string value => simp [compactText]
  | array each ih =>
      intro rest
      simp only [compactText, compactItems_eq ih, List.cons_append, List.append_assoc,
        List.nil_append]
  | object each ih =>
      have printed := fun pair isMember => memberText_append (ih pair isMember)
      intro rest
      simp only [compactText, compactMembers_eq printed, List.cons_append, List.append_assoc,
        List.nil_append]

end Json

namespace Written

open ODataAdapter.Json (memberText writtenMember)

/-- How a value begins: neither with space nor with the end of an array or object. -/
def StartsValue (text : List Char) : Prop :=
  ∃ char rest, text = char :: rest ∧ isSpace char = false ∧ char ∉ [']', '\x7d']

theorem StartsValue.append {text : List Char} (starts : StartsValue text) (rest : List Char) :
    StartsValue (text ++ rest) := by
  obtain ⟨char, others, rfl, notSpace, opens⟩ := starts
  exact ⟨char, others ++ rest, rfl, notSpace, opens⟩

theorem StartsValue.skipSpace_eq {text : List Char} (starts : StartsValue text) :
    skipSpace text = text := by
  obtain ⟨char, rest, rfl, notSpace, _⟩ := starts
  rw [skipSpace, List.dropWhile_cons_of_neg (by simp [notSpace])]

theorem StartsValue.nonempty {text : List Char} (starts : StartsValue text) : text ≠ [] := by
  obtain ⟨char, rest, rfl, _⟩ := starts
  exact List.cons_ne_nil char rest

theorem skipSpace_mark {char : Char} (mark : char ∈ [',', ':', ']', '\x7d']) (rest : List Char) :
    skipSpace (char :: rest) = char :: rest := by
  have marks : ∀ char ∈ [',', ':', ']', '\x7d'], isSpace char = false :=
    List.all_iff_forall_prop.1 (by decide)
  rw [skipSpace, List.dropWhile_cons_of_neg (by simp [marks char mark])]

section Lists

variable {α β : Type} {element : List Char → Option (β × List Char)} {print : α → List Char}
  {mean : α → β} {bracket : Char} {items : List α}

theorem length_le_intercalate (starts : ∀ item ∈ items, StartsValue (print item)) :
    items.length ≤ ([','].intercalate (items.map print)).length := by
  induction items with
  | nil => exact Nat.zero_le _
  | cons item items ih =>
      have first := List.length_pos_of_ne_nil (starts item List.mem_cons_self).nonempty
      have others := ih fun item member => starts item (List.mem_cons_of_mem _ member)
      cases items with
      | nil => simpa [Nat.succ_le_iff] using first
      | cons next items =>
          simp only [List.map_cons, List.length_cons, List.intercalate_cons_cons,
            List.length_append] at others ⊢
          omega

theorem length_print_le_intercalate {item : α} (member : item ∈ items) :
    (print item).length ≤ ([','].intercalate (items.map print)).length := by
  induction items with
  | nil => simp at member
  | cons first items ih =>
      cases items with
      | nil =>
          obtain rfl : item = first := by simpa using member
          simp
      | cons next items =>
          simp only [List.map_cons, List.intercalate_cons_cons, List.length_append] at ih ⊢
          rcases List.mem_cons.1 member with rfl | later
          · omega
          · have within := ih later
            omega

theorem startsValue_intercalate (starts : ∀ item ∈ items, StartsValue (print item))
    (nonempty : items ≠ []) : StartsValue ([','].intercalate (items.map print)) := by
  cases items with
  | nil => contradiction
  | cons item items =>
      have first := starts item List.mem_cons_self
      cases items with
      | nil => simpa using first
      | cons next items =>
          rw [List.map_cons, List.map_cons, List.intercalate_cons_cons, List.append_assoc]
          exact first.append _

theorem elements_comma {text rest : List Char} {first : β}
    (read : element text = some (first, ',' :: rest)) (fuel : Nat) :
    elements element bracket (fuel + 1) text =
      (elements element bracket fuel (skipSpace rest)).map fun (others, rest) =>
        (first :: others, rest) := by
  have comma := skipSpace_mark (by decide : ',' ∈ [',', ':', ']', '\x7d']) rest
  simp only [elements, read, bind, Option.bind, comma]
  cases elements element bracket fuel (skipSpace rest) <;> rfl

theorem elements_closing (closes : bracket ∈ [']', '\x7d']) {text rest : List Char} {first : β}
    (read : element text = some (first, bracket :: rest)) (fuel : Nat) :
    elements element bracket (fuel + 1) text = some ([first], rest) := by
  have mark : bracket ∈ [',', ':', ']', '\x7d'] :=
    List.mem_cons_of_mem _ (List.mem_cons_of_mem _ closes)
  have notComma : bracket ≠ ',' := by
    rintro rfl
    exact absurd closes (by decide)
  simp [elements, read, skipSpace_mark mark]

theorem elements_intercalate (closes : bracket ∈ [']', '\x7d'])
    (each : ∀ item ∈ items, ∀ rest, FollowsValue rest →
      element (print item ++ rest) = some (mean item, rest))
    (starts : ∀ item ∈ items, StartsValue (print item)) (nonempty : items ≠ []) {fuel : Nat}
    (enough : items.length ≤ fuel) (rest : List Char) :
    elements element bracket fuel ([','].intercalate (items.map print) ++ bracket :: rest) =
      some (items.map mean, rest) := by
  induction items generalizing fuel with
  | nil => contradiction
  | cons item items ih =>
      obtain ⟨fuel, rfl⟩ := Nat.exists_eq_add_of_le' (Nat.le_trans (Nat.succ_pos _) enough)
      have first := each item List.mem_cons_self
      cases items with
      | nil =>
          have behind := followsValue_cons (List.mem_cons_of_mem ',' closes) rest
          simpa using elements_closing closes (first _ behind) fuel
      | cons next items =>
          have later : ∀ item ∈ next :: items, StartsValue (print item) :=
            fun item member => starts item (List.mem_cons_of_mem _ member)
          have others := ih (fun item member => each item (List.mem_cons_of_mem _ member)) later
            (List.cons_ne_nil _ _) (Nat.le_of_succ_le_succ enough)
          have begins := startsValue_intercalate later (List.cons_ne_nil _ _)
          have behind := followsValue_cons (List.mem_cons_self : ',' ∈ [',', ']', '\x7d'])
          have split : [','].intercalate ((item :: next :: items).map print) ++ bracket :: rest =
              print item ++ ',' :: ([','].intercalate ((next :: items).map print) ++
                bracket :: rest) := by simp
          rw [split, elements_comma (first _ (behind _)), (begins.append _).skipSpace_eq, others]
          rfl

theorem bracketed_intercalate (closes : bracket ∈ [']', '\x7d'])
    (each : ∀ item ∈ items, ∀ rest, FollowsValue rest →
      element (print item ++ rest) = some (mean item, rest))
    (starts : ∀ item ∈ items, StartsValue (print item)) (rest : List Char) :
    bracketed element bracket ([','].intercalate (items.map print) ++ bracket :: rest) =
      some (items.map mean, rest) := by
  by_cases empty : items = []
  · have mark := List.mem_cons_of_mem ',' (List.mem_cons_of_mem ':' closes)
    simp [empty, bracketed, skipSpace_mark mark]
  · have whole := startsValue_intercalate starts empty
    have enough := length_le_intercalate starts
    have read (fuel : Nat) (more : items.length ≤ fuel) :=
      elements_intercalate closes each starts empty more rest
    have same := (whole.append (bracket :: rest)).skipSpace_eq
    obtain ⟨char, others, begins, _, opens⟩ := whole
    -- The text of the first item does not close the list.
    have notBracket : char ≠ bracket := by
      rintro rfl
      exact opens closes
    have within : items.length ≤ (char :: others ++ bracket :: rest).length := by
      rw [begins] at enough
      rw [List.length_append]
      omega
    have result := read _ within
    rw [begins] at same result ⊢
    rw [bracketed, same]
    simpa [notBracket] using result

end Lists

theorem ne_of_begins {char : Char} (begins : JsonNumber.Begins char) :
    isSpace char = false ∧
      ∀ mark ∈ ['[', ']', '\x7b', '\x7d', '"', 'n', 't', 'f'], char ≠ mark := by
  have marks : ∀ mark ∈ [' ', '\t', '\n', '\r', '[', ']', '\x7b', '\x7d', '"', 'n', 't', 'f'],
      mark ≠ '-' ∧ mark.isDigit = false := List.all_iff_forall_prop.1 (by decide)
  have other : ∀ mark ∈ [' ', '\t', '\n', '\r', '[', ']', '\x7b', '\x7d', '"', 'n', 't', 'f'],
      char ≠ mark := by
    rintro mark member rfl
    obtain ⟨notMinus, notDigit⟩ := marks char member
    rcases begins with minus | digit
    · exact notMinus minus
    · exact absurd digit (by simp [notDigit])
  simp only [List.forall_mem_cons] at other
  obtain ⟨space, tab, newline, carriage, others⟩ := other
  refine ⟨by simp [isSpace, space, tab, newline, carriage], ?_⟩
  simpa only [List.forall_mem_cons] using others

theorem startsValue_compactText {value : Json} (whole : value.Whole) :
    StartsValue (value.compactText []) := by
  cases whole with
  | null => exact ⟨'n', _, rfl, by decide, by decide⟩
  | bool value => cases value <;> exact ⟨_, _, rfl, by decide, by decide⟩
  | number value =>
      obtain ⟨char, rest, text, begins⟩ := JsonNumber.text_integer_begins value
      obtain ⟨notSpace, others⟩ := ne_of_begins begins
      refine ⟨char, rest, by rw [Json.compactText, text, List.append_nil], notSpace, ?_⟩
      intro closes
      rcases List.mem_pair.1 closes with bracket | brace
      · exact others ']' (by decide) bracket
      · exact others '\x7d' (by decide) brace
  | string value => exact ⟨'"', _, rfl, by decide, by decide⟩
  | array each => exact ⟨'[', _, rfl, by decide, by decide⟩
  | object each => exact ⟨'\x7b', _, rfl, by decide, by decide⟩

theorem startsValue_memberText (pair : String × Json) : StartsValue (memberText pair []) :=
  ⟨'"', _, rfl, by decide, by decide⟩

theorem member_memberText {value : List Char → Option (Written × List Char)}
    {pair : String × Json} {rest : List Char} (starts : StartsValue (pair.2.compactText []))
    (read : value (pair.2.compactText [] ++ rest) = some (pair.2.toWritten, rest)) :
    member value (memberText pair [] ++ rest) = some (writtenMember pair, rest) := by
  have colon := skipSpace_mark (by decide : ':' ∈ [',', ':', ']', '\x7d'])
  have name := stringRest_quoted pair.1 (':' :: (pair.2.compactText [] ++ rest))
  have text : memberText pair [] ++ rest =
      '"' :: (pair.1.toList.flatMap Json.escapedChar ++
        '"' :: ':' :: (pair.2.compactText [] ++ rest)) := by
    simp [memberText, Json.quotedText]
  simp [text, member, name, colon, (starts.append rest).skipSpace_eq, read, writtenMember]

theorem word?_eq_none {word : String} {first char : Char} {letters : List Char}
    (spelled : word.toList = first :: letters) (other : char ≠ first) (value : Written)
    (text : List Char) : word? word value (char :: text) = none := by
  simp [word?, spelled, List.isPrefixOf?, other.symm]

theorem value?_number {char : Char} (begins : JsonNumber.Begins char) (fuel : Nat)
    (text : List Char) :
    value? (fuel + 1) (char :: text) =
      (number? (char :: text)).map fun (written, rest) => (number written, rest) := by
  obtain ⟨_, others⟩ := ne_of_begins begins
  have notNull := word?_eq_none (by rfl : "null".toList = _) (others 'n' (by decide)) null text
  have notTrue :=
    word?_eq_none (by rfl : "true".toList = _) (others 't' (by decide)) (bool true) text
  have notFalse :=
    word?_eq_none (by rfl : "false".toList = _) (others 'f' (by decide)) (bool false) text
  rw [value?, notNull, notTrue, notFalse]
  · rfl
  · rintro rest same
    exact others '[' (by decide) (List.cons.inj same).1
  · rintro rest same
    exact others '\x7b' (by decide) (List.cons.inj same).1
  · rintro rest same
    exact others '"' (by decide) (List.cons.inj same).1

theorem value?_compactText {value : Json} (whole : value.Whole) {fuel : Nat} {rest : List Char}
    (enough : (value.compactText []).length ≤ fuel) (follows : FollowsValue rest) :
    value? (fuel + 1) (value.compactText [] ++ rest) = some (value.toWritten, rest) := by
  induction whole generalizing fuel rest with
  | null => rfl
  | bool value => cases value <;> rfl
  | number value =>
      obtain ⟨char, behind, text, begins⟩ := JsonNumber.text_integer_begins value
      have read := number?_integer value follows
      rw [text, List.cons_append] at read
      rw [Json.compactText, List.append_nil, text, List.cons_append, value?_number begins, read,
        Json.toWritten, WrittenNumber.ofNumber_integer, Option.map_some]
  | string value =>
      have read := stringRest_quoted value rest
      simp [Json.compactText, Json.quotedText, value?, read, Json.toWritten]
  | @array items each ih =>
      have printed := Json.compactItems_eq fun item isItem => (each item isItem).compactText_append
      have starts := fun item isItem => startsValue_compactText (each item isItem)
      rw [Json.compactText, printed] at enough ⊢
      simp only [List.length_cons, List.length_append] at enough
      obtain ⟨fuel, rfl⟩ := Nat.exists_eq_add_of_le' (Nat.le_trans (Nat.succ_pos _) enough)
      have read : ∀ item ∈ items, ∀ rest, FollowsValue rest →
          value? (fuel + 1) (item.compactText [] ++ rest) = some (item.toWritten, rest) := by
        intro item isItem rest follows
        have within := @length_print_le_intercalate Json (·.compactText []) items item isItem
        exact ih item isItem (by omega) follows
      have list := bracketed_intercalate (by decide : ']' ∈ _) read starts rest
      rw [List.cons_append, List.append_assoc, List.singleton_append, value?, list, Json.toWritten,
        Json.toWrittenItems_eq_map, Option.map_some]
  | @object members each ih =>
      have printed := Json.compactMembers_eq fun pair isMember =>
        Json.memberText_append (each pair isMember).compactText_append
      have starts := fun (pair : String × Json) (_ : pair ∈ members) => startsValue_memberText pair
      rw [Json.compactText, printed] at enough ⊢
      simp only [List.length_cons, List.length_append] at enough
      obtain ⟨fuel, rfl⟩ := Nat.exists_eq_add_of_le' (Nat.le_trans (Nat.succ_pos _) enough)
      have read : ∀ pair ∈ members, ∀ rest, FollowsValue rest →
          member (value? (fuel + 1)) (memberText pair [] ++ rest) =
            some (writtenMember pair, rest) := by
        intro pair isMember rest follows
        have within := @length_print_le_intercalate _ (memberText · []) members pair isMember
        have part : (pair.2.compactText []).length ≤ (memberText pair []).length := by
          simp only [memberText, List.length_append, List.length_cons]
          omega
        exact member_memberText (startsValue_compactText (each pair isMember))
          (ih pair isMember (by omega) follows)
      have list := bracketed_intercalate (by decide : '\x7d' ∈ _) read starts rest
      rw [List.cons_append, List.append_assoc, List.singleton_append, value?, list, Json.toWritten,
        Json.toWrittenMembers_eq_map, Option.map_some]

theorem ofText?_compact {value : Json} (whole : value.Whole) :
    Written.ofText? value.compact.toList = some value.toWritten := by
  have read := value?_compactText whole (Nat.le_refl _) followsValue_nil
  rw [List.append_nil] at read
  rw [ofText?, Json.compact, String.toList_ofList, (startsValue_compactText whole).skipSpace_eq,
    read]
  rfl

end Written

end ODataAdapter
