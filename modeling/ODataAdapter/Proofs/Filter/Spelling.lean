import ODataAdapter.Filter.Lexeme
import Mathlib

/-!
How the words of filter text are spelled, and that each scanner takes exactly the words of its
class, as long as they go.
-/

namespace ODataAdapter.Filter

def EndsRun (inRun : Char → Bool) (text : List Char) : Prop :=
  ∀ char ∈ text.head?, inRun char = false

theorem takeWhile_run {inRun : Char → Bool} {word rest : List Char}
    (inside : ∀ char ∈ word, inRun char = true) (ends : EndsRun inRun rest) :
    (word ++ rest).takeWhile inRun = word := by
  rw [List.takeWhile_append_of_pos inside]
  cases rest with
  | nil => simp
  | cons char rest => simp [ends char rfl]

theorem dropWhile_run {inRun : Char → Bool} {word rest : List Char}
    (inside : ∀ char ∈ word, inRun char = true) (ends : EndsRun inRun rest) :
    (word ++ rest).dropWhile inRun = rest := by
  rw [List.dropWhile_append_of_pos inside]
  cases rest with
  | nil => rfl
  | cons char rest => simp [ends char rfl]

theorem endsRun_dropWhile (inRun : Char → Bool) (text : List Char) :
    EndsRun inRun (text.dropWhile inRun) := by
  intro char starts
  have fails := List.head?_dropWhile_not inRun text
  rw [Option.mem_def.1 starts] at fails
  simpa using fails

theorem atNameEnd_iff (text : List Char) : atNameEnd text = true ↔ EndsRun continuesName text := by
  cases text with
  | nil => simp [atNameEnd, EndsRun]
  | cons char rest => simp [atNameEnd, EndsRun]

theorem continuesName_of_startsName {char : Char} (starts : startsName char = true) :
    continuesName char = true := by
  simp only [startsName, continuesName, Bool.or_eq_true, decide_eq_true_eq] at starts ⊢
  rcases starts with letter | underscore
  · exact Or.inl (Or.inl letter)
  · exact Or.inr underscore

theorem continuesName_of_isDigit {char : Char} (digit : char.isDigit = true) :
    continuesName char = true := by
  simp [continuesName, Text.isNumeral_of_isDigit digit]

def IsName : List Char → Prop
  | [] => False
  | first :: rest => startsName first = true ∧ ∀ char ∈ rest, continuesName char = true

theorem IsName.continues {name : List Char} (spelled : IsName name) :
    ∀ char ∈ name, continuesName char = true := by
  cases name with
  | nil => simp
  | cons first rest =>
      intro char member
      rcases List.mem_cons.1 member with same | later
      · exact same ▸ continuesName_of_startsName spelled.1
      · exact spelled.2 char later

theorem isName_of_forall {first : Char} {rest : List Char}
    (starts : ∀ char ∈ first :: rest, startsName char = true) : IsName (first :: rest) :=
  ⟨starts first List.mem_cons_self, fun char member =>
    continuesName_of_startsName (starts char (List.mem_cons_of_mem first member))⟩

theorem IsName.head?_ne {name rest : List Char} (named : IsName name) {char : Char}
    (other : startsName char = false) : (name ++ rest).head? ≠ some char := by
  cases name with
  | nil => exact named.elim
  | cons first name =>
      intro starts
      obtain rfl : first = char := by simpa using starts
      simp [named.1] at other

theorem name?_eq_some_iff {text name rest : List Char} :
    name? text = some (name, rest) ↔
      text = name ++ rest ∧ IsName name ∧ atNameEnd rest = true := by
  constructor
  · intro found
    cases text with
    | nil => simp [name?] at found
    | cons char text =>
        simp only [name?] at found
        split at found
        · rename_i starts
          simp only [Option.some.injEq, Prod.mk.injEq] at found
          obtain ⟨rfl, rfl⟩ := found
          refine ⟨by simp, ⟨starts, fun char member => ?_⟩, ?_⟩
          · exact List.mem_takeWhile_imp member
          · exact (atNameEnd_iff _).2 (endsRun_dropWhile continuesName text)
        · simp at found
  · rintro ⟨rfl, spelled, ends⟩
    cases name with
    | nil => exact spelled.elim
    | cons first name =>
        have endsName := (atNameEnd_iff rest).1 ends
        simp [name?, spelled.1, takeWhile_run spelled.2 endsName, dropWhile_run spelled.2 endsName]

theorem name?_eq_none {char : Char} {rest : List Char} (other : startsName char = false) :
    name? (char :: rest) = none := by
  simp [name?, other]

theorem keyword?_eq_some_iff {word : String} {text rest : List Char} :
    keyword? word text = some rest ↔ text = word.toList ++ rest ∧ atNameEnd rest = true := by
  rw [keyword?, Option.filter_eq_some_iff, List.isPrefixOf?_eq_some_iff_append_eq, eq_comm]

theorem keyword?_of_head {word : String} {first : Char} {more text : List Char}
    (spelled : word.toList = first :: more) (other : text.head? ≠ some first) :
    keyword? word text = none := by
  refine Option.eq_none_iff_forall_ne_some.2 fun behind found => other ?_
  rw [(keyword?_eq_some_iff.1 found).1, spelled]
  rfl

theorem keyword?_eq_none {word : String} {run rest : List Char}
    (continues : ∀ char ∈ run, continuesName char = true)
    (wordContinues : ∀ char ∈ word.toList, continuesName char = true)
    (different : run ≠ word.toList) (ends : atNameEnd rest = true) :
    keyword? word (run ++ rest) = none := by
  refine Option.eq_none_iff_forall_ne_some.2 fun left found => different ?_
  obtain ⟨same, leftEnds⟩ := keyword?_eq_some_iff.1 found
  have first := takeWhile_run continues ((atNameEnd_iff rest).1 ends)
  have second := takeWhile_run wordContinues ((atNameEnd_iff left).1 leftEnds)
  rw [← same, first] at second
  exact second

inductive IsPath : List Char → Prop
  | name {name : List Char} : IsName name → IsPath name
  | step {name rest : List Char} : IsName name → IsPath rest → IsPath (name ++ '/' :: rest)

def EndsPath (text : List Char) : Prop :=
  atNameEnd text = true ∧ ∀ char rest, text = '/' :: char :: rest → startsName char = false

theorem IsPath.head {path : List Char} (spelled : IsPath path) :
    ∃ first rest, path = first :: rest ∧ startsName first = true := by
  cases spelled with
  | name named =>
      cases path with
      | nil => exact named.elim
      | cons first rest => exact ⟨first, rest, rfl, named.1⟩
  | @step name rest named _ =>
      cases name with
      | nil => exact named.elim
      | cons first more => exact ⟨first, more ++ '/' :: rest, rfl, named.1⟩

theorem IsPath.insert {first char : Char} {rest : List Char} (spelled : IsPath (first :: rest))
    (continues : continuesName char = true) : IsPath (first :: char :: rest) := by
  generalize whole : first :: rest = path at spelled
  cases spelled with
  | name named =>
      subst whole
      exact .name ⟨named.1, List.forall_mem_cons.2 ⟨continues, named.2⟩⟩
  | @step name others named pathRest =>
      cases name with
      | nil => exact named.elim
      | cons start more =>
          simp only [List.cons_append, List.cons.injEq] at whole
          obtain ⟨rfl, rfl⟩ := whole
          have longer : IsName (first :: char :: more) :=
            ⟨named.1, List.forall_mem_cons.2 ⟨continues, named.2⟩⟩
          exact IsPath.step longer pathRest

theorem pathRest_cons {char : Char} {rest : List Char} (continues : continuesName char = true) :
    pathRest (char :: rest) = (char :: (pathRest rest).1, (pathRest rest).2) := by
  have noSlash : char ≠ '/' := by
    rintro rfl
    exact absurd continues (by decide)
  cases rest with
  | nil => simp [pathRest, continues]
  | cons next rest => simp [pathRest, continues, noSlash]

theorem pathRest_append {word rest : List Char}
    (continues : ∀ char ∈ word, continuesName char = true) :
    pathRest (word ++ rest) = (word ++ (pathRest rest).1, (pathRest rest).2) := by
  induction word with
  | nil => rfl
  | cons char word ih =>
      have ⟨here, later⟩ := List.forall_mem_cons.1 continues
      simp [pathRest_cons here, ih later]

theorem pathRest_slash {char : Char} {rest : List Char} (starts : startsName char = true) :
    pathRest ('/' :: char :: rest) = ('/' :: char :: (pathRest rest).1, (pathRest rest).2) := by
  simp [pathRest, starts]

theorem pathRest_stop {rest : List Char} (ends : EndsPath rest) : pathRest rest = ([], rest) := by
  obtain ⟨nameEnd, noStep⟩ := ends
  match rest with
  | [] => rfl
  | [char] =>
      have stops : continuesName char = false := by simpa [atNameEnd] using nameEnd
      simp [pathRest, stops]
  | char :: next :: rest =>
      have stops : continuesName char = false := by simpa [atNameEnd] using nameEnd
      by_cases slash : char = '/'
      · subst slash
        simp [pathRest, noStep next rest rfl]
      · simp [pathRest, slash, stops]

theorem pathRest_spec (text : List Char) :
    text = (pathRest text).1 ++ (pathRest text).2 ∧ EndsPath (pathRest text).2 ∧
      ∀ first, startsName first = true → IsPath (first :: (pathRest text).1) := by
  have alone (first : Char) (starts : startsName first = true) : IsPath [first] :=
    .name ⟨starts, by simp⟩
  fun_induction pathRest text with
  | case1 => exact ⟨rfl, ⟨rfl, by simp⟩, alone⟩
  | case2 char continues =>
      exact ⟨rfl, ⟨rfl, by simp⟩, fun first starts => (alone first starts).insert continues⟩
  | case3 char stops =>
      refine ⟨rfl, ⟨by simpa [atNameEnd] using stops, by simp⟩, alone⟩
  | case4 char rest starts read left same ih =>
      simp only [same] at ih
      refine ⟨by simpa using ih.1, ih.2.1, fun first firstStarts => ?_⟩
      have named : IsName [first] := ⟨firstStarts, by simp⟩
      exact IsPath.step named (ih.2.2 char starts)
  | case5 char rest stops =>
      refine ⟨rfl, ⟨rfl, fun next more same => ?_⟩, alone⟩
      simp only [List.cons.injEq, true_and] at same
      simpa [same.1] using stops
  | case6 char rest noSlash noStep continues read left same ih =>
      simp only [same] at ih
      refine ⟨by simpa using ih.1, ih.2.1, fun first starts => ?_⟩
      exact (ih.2.2 first starts).insert continues
  | case7 char rest noSlash noStep stops =>
      refine ⟨rfl, ⟨by simpa [atNameEnd] using stops, fun next more same => ?_⟩, alone⟩
      simp only [List.cons.injEq] at same
      exact (noStep next more same.1 same.2).elim

theorem path?_append {path rest : List Char} (spelled : IsPath path) (ends : EndsPath rest) :
    path? (path ++ rest) = some (path, rest) := by
  have whole : ∀ first more, path = first :: more →
      pathRest (more ++ rest) = (more, rest) := by
    induction spelled with
    | @name name named =>
        rintro first more rfl
        simp [pathRest_append named.2, pathRest_stop ends]
    | @step name others named pathRest ih =>
        intro first more same
        obtain ⟨next, behind, rfl, starts⟩ := pathRest.head
        cases name with
        | nil => exact named.elim
        | cons start inner =>
            simp only [List.cons_append, List.cons.injEq] at same
            obtain ⟨rfl, rfl⟩ := same
            simp [pathRest_append named.2, pathRest_slash starts, ih next behind rfl]
  obtain ⟨first, more, rfl, starts⟩ := spelled.head
  simp [path?, starts, whole first more rfl]

theorem path?_eq_some {text path rest : List Char} (found : path? text = some (path, rest)) :
    text = path ++ rest ∧ IsPath path ∧ EndsPath rest := by
  cases text with
  | nil => simp [path?] at found
  | cons char text =>
      simp only [path?] at found
      split at found
      · rename_i starts
        simp only [Option.some.injEq, Prod.mk.injEq] at found
        obtain ⟨rfl, rfl⟩ := found
        obtain ⟨same, ends, spelled⟩ := pathRest_spec text
        exact ⟨congrArg (char :: ·) same, spelled char starts, ends⟩
      · simp at found

theorem isPath_of_path? {path : List Char} (whole : path? path = some (path, [])) : IsPath path :=
  (path?_eq_some whole).2.1

/-! Quoted strings and typed literals. -/

inductive QuotedBody : List Char → Prop
  | nil : QuotedBody []
  | char {char : Char} {rest : List Char} :
      char ≠ '\'' → QuotedBody rest → QuotedBody (char :: rest)
  | quote {rest : List Char} : QuotedBody rest → QuotedBody ('\'' :: '\'' :: rest)

def IsQuoted (text : List Char) : Prop :=
  ∃ body, QuotedBody body ∧ text = '\'' :: (body ++ ['\''])

theorem quotedRest_append {body rest : List Char} (spelled : QuotedBody body)
    (ends : rest.head? ≠ some '\'') :
    quotedRest (body ++ '\'' :: rest) = some (body ++ ['\''], rest) := by
  induction spelled with
  | nil =>
      cases rest with
      | nil => rfl
      | cons char rest =>
          have other : char ≠ '\'' := fun same => ends (congrArg some same)
          simp [quotedRest, other]
  | @char char body other _ ih => simp [quotedRest, other, ih]
  | quote _ ih => simp [quotedRest, ih]

theorem quotedRest_eq_some {text read rest : List Char}
    (found : quotedRest text = some (read, rest)) :
    text = read ++ rest ∧ rest.head? ≠ some '\'' ∧
      ∃ body, QuotedBody body ∧ read = body ++ ['\''] := by
  fun_induction quotedRest text generalizing read rest with
  | case1 => simp at found
  | case2 =>
      simp only [Option.some.injEq, Prod.mk.injEq] at found
      obtain ⟨rfl, rfl⟩ := found
      exact ⟨rfl, by simp, [], .nil, rfl⟩
  | case3 text ih =>
      obtain ⟨⟨inner, left⟩, foundInner, same⟩ := Option.map_eq_some_iff.1 found
      simp only [Prod.mk.injEq] at same
      obtain ⟨rfl, rfl⟩ := same
      obtain ⟨whole, ends, body, spelled, rfl⟩ := ih foundInner
      exact ⟨by simp [whole], ends, _, .quote spelled, by simp⟩
  | case4 text notEmpty notQuote =>
      simp only [Option.some.injEq, Prod.mk.injEq] at found
      obtain ⟨rfl, rfl⟩ := found
      refine ⟨rfl, fun starts => ?_, [], .nil, rfl⟩
      cases text with
      | nil => simp at starts
      | cons char more =>
          simp only [List.head?_cons, Option.some.injEq] at starts
          subst starts
          exact notQuote more rfl
  | case5 char text alone twice other ih =>
      obtain ⟨⟨inner, left⟩, foundInner, same⟩ := Option.map_eq_some_iff.1 found
      simp only [Prod.mk.injEq] at same
      obtain ⟨rfl, rfl⟩ := same
      obtain ⟨whole, ends, body, spelled, rfl⟩ := ih foundInner
      exact ⟨by simp [whole], ends, _, .char other spelled, by simp⟩

theorem quoted?_append {text rest : List Char} (spelled : IsQuoted text)
    (ends : rest.head? ≠ some '\'') : quoted? (text ++ rest) = some (text, rest) := by
  obtain ⟨body, bodySpelled, rfl⟩ := spelled
  simp [quoted?, quotedRest_append bodySpelled ends]

theorem quoted?_eq_some {text read rest : List Char} (found : quoted? text = some (read, rest)) :
    text = read ++ rest ∧ IsQuoted read ∧ rest.head? ≠ some '\'' := by
  unfold quoted? at found
  split at found
  · obtain ⟨⟨inner, left⟩, foundInner, same⟩ := Option.map_eq_some_iff.1 found
    simp only [Prod.mk.injEq] at same
    obtain ⟨rfl, rfl⟩ := same
    obtain ⟨rfl, ends, body, spelled, rfl⟩ := quotedRest_eq_some foundInner
    exact ⟨rfl, ⟨body, spelled, rfl⟩, ends⟩
  · simp at found

theorem quoted?_eq_none {text : List Char} (other : text.head? ≠ some '\'') :
    quoted? text = none := by
  unfold quoted?
  split
  · simp at other
  · rfl

/-- A name with a quoted string right after it. The name `not` would be read as a mark. -/
def IsTypedLiteral (text : List Char) : Prop :=
  ∃ name value, IsName name ∧ name ≠ "not".toList ∧ IsQuoted value ∧ text = name ++ value

theorem IsQuoted.atNameEnd_append {text rest : List Char} (spelled : IsQuoted text) :
    atNameEnd (text ++ rest) = true := by
  obtain ⟨body, _, rfl⟩ := spelled
  simp only [List.cons_append, atNameEnd]
  decide

theorem typedLiteral?_append {name value rest : List Char} (named : IsName name)
    (spelled : IsQuoted value) (ends : rest.head? ≠ some '\'') :
    typedLiteral? (name ++ value ++ rest) = some (name ++ value, rest) := by
  have nameFound : name? (name ++ (value ++ rest)) = some (name, value ++ rest) :=
    name?_eq_some_iff.2 ⟨rfl, named, spelled.atNameEnd_append⟩
  simp [typedLiteral?, nameFound, quoted?_append spelled ends]

theorem typedLiteral?_eq_some {text read rest : List Char}
    (found : typedLiteral? text = some (read, rest)) :
    text = read ++ rest ∧ rest.head? ≠ some '\'' ∧
      ∃ name value, IsName name ∧ IsQuoted value ∧ read = name ++ value := by
  simp only [typedLiteral?, Option.bind_eq_bind, Option.bind_eq_some_iff, Prod.exists,
    Option.pure_def, Option.some.injEq, Prod.mk.injEq] at found
  obtain ⟨name, middle, foundName, value, left, foundValue, rfl, rfl⟩ := found
  obtain ⟨rfl, named, _⟩ := name?_eq_some_iff.1 foundName
  obtain ⟨rfl, spelled, ends⟩ := quoted?_eq_some foundValue
  exact ⟨by simp, ends, name, value, named, spelled, rfl⟩

end ODataAdapter.Filter
