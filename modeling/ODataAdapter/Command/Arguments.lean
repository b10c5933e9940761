/-!
The command line: options, which may stand anywhere, a query, and commands with arguments of their
own. Options with a value take it from the same word or from the next one; switches may share a word
behind one dash; after `--` every word is an argument.
-/

namespace ODataAdapter.Command

inductive Setting
  | entity | config | map | delete | ast
  deriving DecidableEq, Repr

inductive Switch
  | noSkip | noTop | noCount | url | verbose
  deriving DecidableEq, Repr

inductive Scope
  | main | explain | fields | reverse
  deriving DecidableEq, Repr

inductive Stop
  | usage
  | help
  | version
  deriving DecidableEq, Repr

inductive Meaning
  | setting (setting : Setting)
  | switch (switch : Switch)
  | help
  | version
  deriving DecidableEq, Repr

namespace Scope

def ofName? : String → Option Scope
  | "explain" => some explain
  | "fields" => some fields
  | "reverse" => some reverse
  | _ => none

def capacity : Scope → Nat
  | fields => 0
  | _ => 1

def takesPath : Scope → Bool
  | reverse => true
  | _ => false

def longOption? (scope : Scope) : String → Option Meaning
  | "entity" => some (.setting .entity)
  | "config" => some (.setting .config)
  | "map" => some (.setting .map)
  | "delete" => some (.setting .delete)
  | "verbose" => some (.switch .verbose)
  | "help" => some .help
  | name =>
      if scope ≠ main then none
      else
        match name with
        | "ast" => some (.setting .ast)
        | "no-skip" => some (.switch .noSkip)
        | "no-top" => some (.switch .noTop)
        | "no-count" => some (.switch .noCount)
        | "url" => some (.switch .url)
        | "version" => some .version
        | _ => none

def shortOption? (scope : Scope) : Char → Option Meaning
  | 'e' => some (.setting .entity)
  | 'c' => some (.setting .config)
  | 'm' => some (.setting .map)
  | 'd' => some (.setting .delete)
  | 'v' => some (.switch .verbose)
  | 'h' => some .help
  | 'u' => if scope = main then some (.switch .url) else none
  | 'V' => if scope = main then some .version else none
  | _ => none

end Scope

namespace Setting

def repeats : Setting → Bool
  | map | delete => true
  | _ => false

def takesPath : Setting → Bool
  | config | ast => true
  | _ => false

end Setting

structure Given where
  settings : List (Setting × String) := []
  switches : List Switch := []
  arguments : List String := []
  deriving DecidableEq, Repr, Inhabited

namespace Given

def values (given : Given) (setting : Setting) : List String :=
  (given.settings.filter (·.1 = setting)).map Prod.snd

def value? (given : Given) (setting : Setting) : Option String :=
  given.settings.lookup setting

def has (given : Given) (switch : Switch) : Bool :=
  given.switches.contains switch

def withSetting (given : Given) (setting : Setting) (value : String) : Except Stop Given :=
  if (setting.takesPath && value.isEmpty) ||
      (!setting.repeats && (given.value? setting).isSome) then .error .usage
  else .ok { given with settings := given.settings ++ [(setting, value)] }

def withSwitch (given : Given) (switch : Switch) : Except Stop Given :=
  if given.has switch then .error .usage
  else .ok { given with switches := given.switches ++ [switch] }

def withArgument (given : Given) (scope : Scope) (value : String) : Except Stop Given :=
  if scope.capacity ≤ given.arguments.length || (scope.takesPath && value.isEmpty) then
    .error .usage
  else .ok { given with arguments := given.arguments ++ [value] }

def withArguments (given : Given) (scope : Scope) (values : List String) : Except Stop Given :=
  values.foldlM (fun given value => given.withArgument scope value) given

end Given

abbrev Progress := Given × Option Setting

def readLong (scope : Scope) (given : Given) (word : List Char) : Except Stop Progress :=
  let name := word.takeWhile (· ≠ '=')
  let attached := (word.dropWhile (· ≠ '=')).tail?.map String.ofList
  match scope.longOption? (String.ofList name), attached with
  | some (.setting setting), some value => (given.withSetting setting value).map (·, none)
  | some (.setting setting), none => .ok (given, some setting)
  | some (.switch switch), none => (given.withSwitch switch).map (·, none)
  | some .help, none => .error .help
  | some .version, none => .error .version
  | _, _ => .error .usage

/-- Read the letters of a word that starts with one dash. A letter of an option with a value takes
the rest of the word for it, with or without an equals sign in front. -/
def readShort (scope : Scope) (given : Given) : List Char → Except Stop Progress
  | [] => .ok (given, none)
  | letter :: rest =>
      match scope.shortOption? letter with
      | some (.setting setting) =>
          match rest with
          | [] => .ok (given, some setting)
          | '=' :: value => (given.withSetting setting (String.ofList value)).map (·, none)
          | value => (given.withSetting setting (String.ofList value)).map (·, none)
      | some (.switch switch) =>
          match given.withSwitch switch with
          | .ok given => readShort scope given rest
          | .error stop => .error stop
      | some .help => .error .help
      | some .version => .error .version
      | none => .error .usage

def readWord (scope : Scope) (given : Given) (word : String) : Except Stop Progress :=
  match word.toList with
  | '-' :: '-' :: rest => readLong scope given rest
  | '-' :: letter :: rest => readShort scope given (letter :: rest)
  | _ => (given.withArgument scope word).map (·, none)

def looksLikeOption (word : String) : Bool :=
  match word.toList with
  | '-' :: _ :: _ => true
  | _ => false

def readWords (scope : Scope) (given : Given) (due : Option Setting) :
    List String → Except Stop (Given × List String)
  | [] => if due.isSome then .error .usage else .ok (given, [])
  | word :: words =>
      match due with
      | some setting =>
          if looksLikeOption word then .error .usage
          else
            match given.withSetting setting word with
            | .ok given => readWords scope given none words
            | .error stop => .error stop
      | none =>
          if scope = .main && ((Scope.ofName? word).isSome || word = "help") then
            .ok (given, word :: words)
          else if word = "--" then
            (given.withArguments scope words).map (·, [])
          else
            match readWord scope given word with
            | .ok (given, due) => readWords scope given due words
            | .error stop => .error stop

def helpFor : List String → Stop
  | [] => .help
  | [name] => if (Scope.ofName? name).isSome || name = "help" then .help else .usage
  | _ => .usage

inductive Source
  | nowhere
  | query (text : String)
  | file (path : String)
  deriving DecidableEq, Repr

inductive Action
  | adapt (source : Source)
  | explain (query : String)
  | fields
  | reverse (file : Option String)
  deriving DecidableEq, Repr

structure Invocation where
  action : Action
  entity : Option String := none
  config : Option String := none
  maps : List String := []
  deletes : List String := []
  noSkip : Bool := false
  noTop : Bool := false
  noCount : Bool := false
  url : Bool := false
  verbose : Bool := false
  deriving DecidableEq, Repr

def lastValue? (outer inner : Given) (setting : Setting) : Option String :=
  inner.value? setting <|> outer.value? setting

def lastValues (outer inner : Given) (setting : Setting) : List String :=
  match inner.values setting with
  | [] => outer.values setting
  | values => values

def invocation (action : Action) (environment : Option String) (outer inner : Given) : Invocation :=
  { action
    entity := lastValue? outer inner .entity
    config := lastValue? outer inner .config <|> environment
    maps := lastValues outer inner .map
    deletes := lastValues outer inner .delete
    noSkip := outer.has .noSkip
    noTop := outer.has .noTop
    noCount := outer.has .noCount
    url := outer.has .url
    verbose := outer.has .verbose || inner.has .verbose }

/-- The file that the environment names for the configuration stands in where none is given, and may
not be empty there. -/
def acceptsEnvironment (environment : Option String) (given : Given) : Bool :=
  (given.value? .config).isSome || environment ≠ some ""

def action? (scope : Scope) (given : Given) : Option Action :=
  match scope, given.arguments, given.value? .ast with
  | .main, [], none => some (.adapt .nowhere)
  | .main, [query], none => some (.adapt (.query query))
  | .main, [], some path => some (.adapt (.file path))
  | .explain, [query], _ => some (.explain query)
  | .fields, [], _ => some .fields
  | .reverse, arguments, _ => some (.reverse arguments.head?)
  | _, _, _ => none

def invocationOf (environment : Option String) (words : List String) : Except Stop Invocation := do
  let (outer, further) ← readWords .main {} none words
  let (scope, inner) ← match further with
    | [] => pure (Scope.main, {})
    | name :: words =>
        match Scope.ofName? name with
        | none => throw (helpFor words)
        | some scope =>
            let (inner, _) ← readWords scope {} none words
            pure (scope, inner)
  if !acceptsEnvironment environment outer ||
      (scope ≠ .main && !acceptsEnvironment environment inner) ||
      (action? .main outer).isNone then throw .usage
  match action? scope (if scope = .main then outer else inner) with
  | some action => return invocation action environment outer inner
  | none => throw .usage

end ODataAdapter.Command
