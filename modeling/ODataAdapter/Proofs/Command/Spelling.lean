import Mathlib.Data.List.TakeWhile
import ODataAdapter.Command.Arguments

/-!
Command lines for what the bare command can be asked to do. Values are attached to the names of
their options, so that they may begin with a dash, and a query stands behind two dashes, so that it
may be the name of a command. Such a command line is read as what it was written for.
-/

namespace ODataAdapter.Command

def Setting.longName : Setting → String
  | entity => "entity"
  | config => "config"
  | map => "map"
  | delete => "delete"
  | ast => "ast"

def Switch.longName : Switch → String
  | noSkip => "no-skip"
  | noTop => "no-top"
  | noCount => "no-count"
  | url => "url"
  | verbose => "verbose"

def settingWord (setting : Setting) (value : String) : String :=
  "--" ++ setting.longName ++ "=" ++ value

def switchWord (switch : Switch) : String :=
  "--" ++ switch.longName

def settingWords (setting : Setting) (values : List String) : List String :=
  values.map (settingWord setting)

def switchWords (switch : Switch) (given : Bool) : List String :=
  if given then [switchWord switch] else []

namespace Source

def words : Source → List String
  | nowhere => []
  | query text => ["--", text]
  | file path => [settingWord .ast path]

def text? : Source → Option String
  | query text => some text
  | _ => none

def path? : Source → Option String
  | file path => some path
  | _ => none

end Source

/-- The command line for a source, with the other options of an invocation. -/
def spelled (invocation : Invocation) (source : Source) : List String :=
  settingWords .entity invocation.entity.toList ++
    (settingWords .config invocation.config.toList ++
      (settingWords .map invocation.maps ++
        (settingWords .delete invocation.deletes ++
          (switchWords .noSkip invocation.noSkip ++
            (switchWords .noTop invocation.noTop ++
              (switchWords .noCount invocation.noCount ++
                (switchWords .url invocation.url ++
                  (switchWords .verbose invocation.verbose ++ source.words))))))))

def IsLong (word : String) : Prop :=
  ∃ letter rest, word.toList = '-' :: '-' :: letter :: rest

theorem IsLong.ofName?_eq_none {word : String} (long : IsLong word) :
    Scope.ofName? word = none := by
  obtain ⟨letter, rest, spelled⟩ := long
  unfold Scope.ofName?
  split
  · exact absurd spelled (by simp)
  · exact absurd spelled (by simp)
  · exact absurd spelled (by simp)
  · rfl

theorem readWords_long {given : Given} {word : String} {words : List String}
    (long : IsLong word) :
    readWords .main given none (word :: words) =
      match readWord .main given word with
      | .ok (given, due) => readWords .main given due words
      | .error stop => .error stop := by
  have noCommand := long.ofName?_eq_none
  obtain ⟨letter, rest, spelled⟩ := long
  have noHelp : word ≠ "help" := by
    rintro rfl
    exact absurd spelled (by simp)
  have notLast : word ≠ "--" := by
    rintro rfl
    exact absurd spelled (by simp)
  rw [readWords.eq_def]
  cases read : readWord .main given word with
  | ok outcome => simp [noCommand, noHelp, notLast, read]
  | error stop => simp [noCommand, noHelp, notLast, read]

section Names

variable {name : String} (plain : '=' ∉ name.toList)

include plain

theorem readLong_attached (given : Given) (value : String) {setting : Setting}
    (named : Scope.main.longOption? name = some (.setting setting)) :
    readLong .main given (name.toList ++ '=' :: value.toList) =
      (given.withSetting setting value).map (·, none) := by
  have others : ∀ char ∈ name.toList, decide (char ≠ '=') = true := by
    intro char member
    simpa using ne_of_mem_of_not_mem member plain
  have taken : (name.toList ++ '=' :: value.toList).takeWhile (· ≠ '=') = name.toList := by
    rw [List.takeWhile_append_of_pos others]
    simp
  have left : (name.toList ++ '=' :: value.toList).dropWhile (· ≠ '=') = '=' :: value.toList := by
    rw [List.dropWhile_append_of_pos others]
    simp
  simp only [readLong, taken, left, String.ofList_toList, named, List.tail?_cons, Option.map_some]

theorem readLong_alone (given : Given) {switch : Switch}
    (named : Scope.main.longOption? name = some (.switch switch)) :
    readLong .main given name.toList = (given.withSwitch switch).map (·, none) := by
  have others : ∀ char ∈ name.toList, decide (char ≠ '=') = true := by
    intro char member
    simpa using ne_of_mem_of_not_mem member plain
  have taken : name.toList.takeWhile (· ≠ '=') = name.toList := List.takeWhile_eq_self_iff.2 others
  have left : name.toList.dropWhile (· ≠ '=') = [] := List.dropWhile_eq_nil_iff.2 others
  simp only [readLong, taken, left, String.ofList_toList, named, List.tail?_nil, Option.map_none]

end Names

theorem longName_spec (setting : Setting) :
    Scope.main.longOption? setting.longName = some (.setting setting) ∧
      '=' ∉ setting.longName.toList ∧ ∃ letter rest, setting.longName.toList = letter :: rest := by
  cases setting
  all_goals exact ⟨by decide, by decide, _, _, rfl⟩

theorem switchName_spec (switch : Switch) :
    Scope.main.longOption? switch.longName = some (.switch switch) ∧
      '=' ∉ switch.longName.toList ∧ ∃ letter rest, switch.longName.toList = letter :: rest := by
  cases switch
  all_goals exact ⟨by decide, by decide, _, _, rfl⟩

theorem readWords_setting {given given' : Given} {setting : Setting} {value : String}
    {words : List String} (accepted : given.withSetting setting value = .ok given') :
    readWords .main given none (settingWord setting value :: words) =
      readWords .main given' none words := by
  obtain ⟨named, plain, letter, rest, begins⟩ := longName_spec setting
  have word : (settingWord setting value).toList =
      '-' :: '-' :: (setting.longName.toList ++ '=' :: value.toList) := by
    simp [settingWord]
  have long : IsLong (settingWord setting value) :=
    ⟨letter, rest ++ '=' :: value.toList, by rw [word, begins]; rfl⟩
  have read : readWord .main given (settingWord setting value) = .ok (given', none) := by
    simp only [readWord, word]
    rw [readLong_attached plain given value named, accepted]
    rfl
  rw [readWords_long long, read]

theorem readWords_switch {given given' : Given} {switch : Switch} {words : List String}
    (accepted : given.withSwitch switch = .ok given') :
    readWords .main given none (switchWord switch :: words) =
      readWords .main given' none words := by
  obtain ⟨named, plain, letter, rest, begins⟩ := switchName_spec switch
  have word : (switchWord switch).toList = '-' :: '-' :: switch.longName.toList := by
    simp [switchWord]
  have long : IsLong (switchWord switch) := ⟨letter, rest, by rw [word, begins]⟩
  have read : readWord .main given (switchWord switch) = .ok (given', none) := by
    simp only [readWord, word]
    rw [readLong_alone plain given named, accepted]
    rfl
  rw [readWords_long long, read]

/-! What is given by the words for one option. -/

namespace Given

def withValues (given : Given) (setting : Setting) (values : List String) : Given :=
  { given with settings := given.settings ++ values.map (setting, ·) }

def withSwitchIf (given : Given) (switch : Switch) (wanted : Bool) : Given :=
  { given with switches := given.switches ++ if wanted then [switch] else [] }

variable (given : Given) (setting other : Setting) (switch : Switch) (values : List String)
  (wanted : Bool)

theorem lookup_map_pair (values : List String) :
    (values.map (setting, ·)).lookup other = if other = setting then values.head? else none := by
  induction values with
  | nil => simp
  | cons value values ih =>
      rw [List.map_cons, List.lookup_cons, ih]
      by_cases same : other = setting
      · simp [same]
      · have different : (other == setting) = false := beq_eq_false_iff_ne.2 same
        simp [same, different]

@[simp] theorem value?_empty : ({} : Given).value? setting = none :=
  rfl

@[simp] theorem values_empty : ({} : Given).values setting = [] :=
  rfl

@[simp] theorem has_empty : ({} : Given).has switch = false :=
  rfl

@[simp] theorem value?_withValues :
    (given.withValues setting values).value? other =
      (given.value? other).or (if other = setting then values.head? else none) := by
  rw [value?, withValues, List.lookup_append, lookup_map_pair, value?]

@[simp] theorem values_withValues :
    (given.withValues setting values).values other =
      given.values other ++ if setting = other then values else [] := by
  by_cases same : setting = other
  · simp [Given.values, withValues, List.filter_map, Function.comp_def, same]
  · simp [Given.values, withValues, List.filter_map, Function.comp_def, same]

@[simp] theorem has_withValues : (given.withValues setting values).has switch = given.has switch :=
  rfl

@[simp] theorem arguments_withValues :
    (given.withValues setting values).arguments = given.arguments :=
  rfl

@[simp] theorem has_withSwitchIf (other : Switch) :
    (given.withSwitchIf switch wanted).has other =
      (given.has other || (wanted && decide (other = switch))) := by
  cases wanted with
  | true => simp [has, withSwitchIf]
  | false => simp [has, withSwitchIf]

@[simp] theorem value?_withSwitchIf :
    (given.withSwitchIf switch wanted).value? setting = given.value? setting :=
  rfl

@[simp] theorem values_withSwitchIf :
    (given.withSwitchIf switch wanted).values setting = given.values setting :=
  rfl

@[simp] theorem arguments_withSwitchIf :
    (given.withSwitchIf switch wanted).arguments = given.arguments :=
  rfl

end Given

section Words

variable {given : Given} {setting : Setting} {words : List String}

theorem readWords_settingWords {values : List String} (repeats : setting.repeats = true) :
    readWords .main given none (settingWords setting values ++ words) =
      readWords .main (given.withValues setting values) none words := by
  have noPath : setting.takesPath = false := by
    cases setting
    all_goals trivial
  induction values generalizing given with
  | nil => simp [settingWords, Given.withValues]
  | cons value values ih =>
      have accepted : given.withSetting setting value =
          .ok (given.withValues setting [value]) := by
        simp [Given.withSetting, Given.withValues, repeats, noPath]
      have first : settingWords setting (value :: values) ++ words =
          settingWord setting value :: (settingWords setting values ++ words) := rfl
      rw [first, readWords_setting accepted, ih]
      simp [Given.withValues]

theorem readWords_optionalWord {value : Option String} (fresh : given.value? setting = none)
    (named : ∀ path, value = some path → setting.takesPath = true → path ≠ "") :
    readWords .main given none (settingWords setting value.toList ++ words) =
      readWords .main (given.withValues setting value.toList) none words := by
  cases value with
  | none => simp [settingWords, Given.withValues]
  | some path =>
      have accepted : given.withSetting setting path =
          .ok (given.withValues setting [path]) := by
        simpa [Given.withSetting, Given.withValues, fresh] using named path rfl
      exact readWords_setting accepted

theorem readWords_switchWords {switch : Switch} {wanted : Bool}
    (fresh : given.has switch = false) :
    readWords .main given none (switchWords switch wanted ++ words) =
      readWords .main (given.withSwitchIf switch wanted) none words := by
  cases wanted with
  | false => simp [switchWords, Given.withSwitchIf]
  | true =>
      have accepted : given.withSwitch switch = .ok (given.withSwitchIf switch true) := by
        simp [Given.withSwitch, Given.withSwitchIf, fresh]
      exact readWords_switch accepted

end Words

def optionsGiven (invocation : Invocation) : Given :=
  let settings : Given :=
    ((Given.withValues {} .entity invocation.entity.toList).withValues .config
      invocation.config.toList).withValues .map invocation.maps
  ((((((settings.withValues .delete invocation.deletes).withSwitchIf .noSkip
    invocation.noSkip).withSwitchIf .noTop invocation.noTop).withSwitchIf .noCount
    invocation.noCount).withSwitchIf .url invocation.url).withSwitchIf .verbose
    invocation.verbose)

theorem readWords_spelled {invocation : Invocation} (source : Source)
    (named : ∀ path, invocation.config = some path → path ≠ "") :
    readWords .main {} none (spelled invocation source) =
      readWords .main (optionsGiven invocation) none source.words := by
  rw [spelled, readWords_optionalWord rfl (by simp [Setting.takesPath]),
    readWords_optionalWord (by simp) fun path given _ => named path given,
    readWords_settingWords rfl, readWords_settingWords rfl, readWords_switchWords (by simp),
    readWords_switchWords (by simp), readWords_switchWords (by simp),
    readWords_switchWords (by simp), readWords_switchWords (by simp)]
  rfl

def Given.withSource (given : Given) (source : Source) : Given :=
  { given.withValues .ast source.path?.toList with
    arguments := given.arguments ++ source.text?.toList }

namespace Given

variable (given : Given) (source : Source) (setting : Setting)

@[simp] theorem value?_withSource :
    (given.withSource source).value? setting =
      (given.value? setting).or (if setting = .ast then source.path? else none) := by
  have value := given.value?_withValues .ast setting source.path?.toList
  rw [Option.head?_toList] at value
  exact value

@[simp] theorem values_withSource :
    (given.withSource source).values setting =
      given.values setting ++ if Setting.ast = setting then source.path?.toList else [] :=
  given.values_withValues .ast setting source.path?.toList

@[simp] theorem has_withSource (switch : Switch) :
    (given.withSource source).has switch = given.has switch :=
  rfl

end Given

theorem readWords_source {given : Given} {source : Source} (noArguments : given.arguments = [])
    (noFile : given.value? .ast = none) (named : ∀ path, source.path? = some path → path ≠ "") :
    readWords .main given none source.words = .ok (given.withSource source, []) := by
  cases source with
  | nowhere => simp [Source.words, readWords, Given.withSource, Given.withValues, Source.path?,
      Source.text?]
  | query text =>
      simp [Source.words, readWords, Scope.ofName?, Given.withArguments, Given.withArgument,
        Given.withSource, Given.withValues, Source.path?, Source.text?, noArguments,
        Scope.capacity, Scope.takesPath, Except.map]
  | file path =>
      have accepted : given.withSetting .ast path = .ok (given.withSource (.file path)) := by
        simp [Given.withSetting, Given.withSource, Given.withValues, Source.path?, Source.text?,
          noFile, named path rfl]
      rw [Source.words, readWords_setting accepted]
      rfl

theorem action?_main {given : Given} {source : Source}
    (text : given.arguments = source.text?.toList) (path : given.value? .ast = source.path?) :
    action? .main given = some (.adapt source) := by
  cases source with
  | nowhere => simp [action?, text, path, Source.text?, Source.path?]
  | query query => simp [action?, text, path, Source.text?, Source.path?]
  | file file => simp [action?, text, path, Source.text?, Source.path?]

theorem invocationOf_main {environment : Option String} {words : List String} {given : Given}
    {source : Source} (read : readWords .main {} none words = .ok (given, []))
    (accepts : acceptsEnvironment environment given = true)
    (action : action? .main given = some (.adapt source)) :
    invocationOf environment words = .ok (invocation (.adapt source) environment given {}) := by
  simp [invocationOf, read, accepts, action, bind, Except.bind, pure, Except.pure]

/-- The command line for an invocation is read as that invocation. The environment names the
configuration where the command line does not. -/
theorem invocationOf_spelled {environment : Option String} {asked : Invocation}
    {source : Source} (action : asked.action = .adapt source)
    (named : ∀ path, source.path? = some path → path ≠ "")
    (configNamed : ∀ path, asked.config = some path → path ≠ "")
    (environmentNamed : environment ≠ some "") :
    invocationOf environment (spelled asked source) =
      .ok { asked with config := asked.config <|> environment } := by
  have read : readWords .main {} none (spelled asked source) =
      .ok ((optionsGiven asked).withSource source, []) := by
    rw [readWords_spelled source configNamed]
    exact readWords_source rfl (by simp [optionsGiven]) named
  have file : ((optionsGiven asked).withSource source).value? .ast = source.path? := by
    simp [optionsGiven]
  have accepts :
      acceptsEnvironment environment ((optionsGiven asked).withSource source) = true := by
    simp [acceptsEnvironment, environmentNamed]
  rw [invocationOf_main read accepts (action?_main rfl file)]
  simp [invocation, lastValue?, lastValues, optionsGiven, ← action]

end ODataAdapter.Command
