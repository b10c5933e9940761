import ODataAdapter.Command.Run
import ODataAdapter.Proofs.Backend.Content
import ODataAdapter.Proofs.Command.Precedence
import ODataAdapter.Proofs.Command.Spelling

/-!
The bare command takes its steps in a fixed order: it reads the options, looks up the entity, reads
the renames on the command line, translates, looks whether anything is left, and forms the address.
It prints what it comes to and nothing else, or it prints nothing and ends with the fault of the
first step that has one.
-/

namespace ODataAdapter

namespace Target

open ODataAdapter.Filter (Expr)

variable {target : Target} {allow : Allowance} {options : QueryOptions} {error : AdaptError}

theorem filterText_error_cases {expr : Expr} (failed : target.filterText expr = .error error) :
    error = .tooDeep target.depthLimit ∨ ∃ description, error = .unsupported description := by
  revert failed
  simp only [filterText, renderFilter]
  rcases expr.render target.mapping target.depthLimit with _ | _ | ⟨text, _ | description⟩
  · intro failed
    exact Or.inl (Except.error.inj failed).symm
  · intro failed
    contradiction
  · intro failed
    contradiction
  · intro failed
    exact Or.inr ⟨description, (Except.error.inj failed).symm⟩

theorem query_error_cases (failed : target.query allow options = .error error) :
    error = .tooDeep target.depthLimit ∨ ∃ description, error = .unsupported description := by
  by_cases translated : ∀ expr, options.filter = some expr →
      ∃ text, target.filterText expr = .ok text
  · obtain ⟨filter, translates⟩ := exists_translates translated
    rw [query_of_translates translates] at failed
    contradiction
  · simp only [not_forall] at translated
    obtain ⟨expr, given, refused⟩ := translated
    cases outcome : target.filterText expr with
    | ok text => exact absurd ⟨text, outcome⟩ refused
    | error cause =>
        rw [query_eq_error given outcome] at failed
        obtain rfl := Except.error.inj failed
        exact filterText_error_cases outcome

end Target

namespace Command

/-- What a source comes to where there is something to read: the outcome of reading a query, or the
options that are stored in a file. -/
inductive Gives (config : Config) (files : Files) : Source → Except AdaptError QueryOptions → Prop
  | query (text : String) :
      Gives config files (.query text) (QueryOptions.ofText config.depthLimit text)
  | file {path content : String} {options : QueryOptions} : files path = .text content →
      Exchange.decodeText? Exchange.options content = some options →
        Gives config files (.file path) (.ok options)

theorem sourceOptions_of_gives {config : Config} {files : Files} {source : Source}
    {options : Except AdaptError QueryOptions} (gives : Gives config files source options) :
    sourceOptions config files source = (options.map some).mapError .adapt := by
  cases gives with
  | query text => rfl
  | file stored decoded =>
      simp [sourceOptions, stored, FileState.read, decoded, Except.map, Except.mapError]

structure Request where
  config : Config
  invocation : Invocation
  options : Except AdaptError QueryOptions

inductive Step
  | reading | entity | renames | translation | content | address
  deriving DecidableEq, Repr

def Step.inOrder : List Step :=
  [reading, entity, renames, translation, content, address]

def faultOf {α : Type} : Except AdaptError α → Option CommandError
  | .error error => some (.adapt error)
  | .ok _ => none

namespace Request

variable (request : Request)

def profile? : Option Profile :=
  match request.invocation.entity with
  | none => some {}
  | some name => request.config.profiles.lookup name

def target (profile : Profile) : Target :=
  ⟨profile.mapping.append (givenMapping request.invocation), request.config.depthLimit⟩

def allow (profile : Profile) : Allowance :=
  narrow request.invocation profile.allow

def translated? : Option (Except AdaptError String) := do
  let options ← request.options.toOption
  let profile ← request.profile?
  return (request.target profile).query (request.allow profile) options

/-- What is wrong with a step, whatever the others come to. -/
def fault? : Step → Option CommandError
  | .reading => faultOf request.options
  | .entity =>
      match request.invocation.entity, request.profile? with
      | some name, none => some (.adapt (.unknownEntity name))
      | _, _ => none
  | .renames =>
      (request.invocation.maps.find? fun argument => '=' ∉ argument.toList).map .mapWithoutTarget
  | .translation => request.translated?.bind faultOf
  | .content =>
      (request.translated?.bind Except.toOption).bind fun query => faultOf (sendable query)
  | .address =>
      match request.invocation.url, request.invocation.entity, request.config.baseUrl with
      | true, none, _ => some .urlWithoutEntity
      | true, some _, none => some (.adapt (.config .noBaseUrl))
      | _, _, _ => none

def firstFault? : Option CommandError :=
  Step.inOrder.findSome? request.fault?

def Presents (query text : String) : Prop :=
  if request.invocation.url then
    ∃ name, request.invocation.entity = some name ∧ request.config.url name query = .ok text
  else text = query

def Yields (text : String) : Prop :=
  ∃ options profile query, request.options = .ok options ∧ request.profile? = some profile ∧
    (∀ argument ∈ request.invocation.maps, '=' ∈ argument.toList) ∧
    (request.target profile).query (request.allow profile) options = .ok query ∧
    sendable query = .ok query ∧ request.Presents query text

/-! What each step has to do with the command. -/

variable {request}

theorem profileOf_eq_ok_iff {profile : Profile} :
    profileOf request.config request.invocation.entity = .ok profile ↔
      request.profile? = some profile := by
  cases named : request.invocation.entity with
  | none => simp [profileOf, profile?, named]
  | some name =>
      cases found : request.config.profiles.lookup name with
      | some other => simp [profileOf, Config.profile, profile?, named, found, Except.mapError]
      | none => simp [profileOf, Config.profile, profile?, named, found, Except.mapError]

theorem entity_cases (request : Request) :
    (request.fault? .entity = none ∧ ∃ profile, request.profile? = some profile) ∨
    ∃ error, request.fault? .entity = some error ∧
      profileOf request.config request.invocation.entity = .error error := by
  cases named : request.invocation.entity with
  | none => exact Or.inl ⟨by simp [fault?, named], {}, by simp [profile?, named]⟩
  | some name =>
      cases found : request.config.profiles.lookup name with
      | some profile =>
          refine Or.inl ⟨?_, profile, ?_⟩
          · simp [fault?, profile?, named, found]
          · simp [profile?, named, found]
      | none =>
          refine Or.inr ⟨.adapt (.unknownEntity name), ?_, ?_⟩
          · simp [fault?, profile?, named, found]
          · simp [profileOf, Config.profile, found, Except.mapError]

theorem renames_cases (request : Request) :
    (request.fault? .renames = none ∧
      ∀ argument ∈ request.invocation.maps, '=' ∈ argument.toList) ∨
    ∃ error, request.fault? .renames = some error ∧
      adHocMapping request.invocation = .error error := by
  rcases mapM_renameOf_cases request.invocation.maps with
    ⟨separated, _⟩ | ⟨before, argument, after, whole, separated, absent, failed⟩
  · refine Or.inl ⟨?_, separated⟩
    simpa [fault?] using separated
  · refine Or.inr ⟨.mapWithoutTarget argument, ?_, ?_⟩
    · have skipped : before.find? (fun argument => '=' ∉ argument.toList) = none := by
        simpa using separated
      simp only [fault?, whole, List.find?_append, skipped]
      simp [absent]
    · rw [adHocMapping, failed]
      rfl

theorem content_cases {options : QueryOptions} {profile : Profile}
    (read : request.options = .ok options) (found : request.profile? = some profile) :
    (∃ query, (request.target profile).query (request.allow profile) options = .ok query ∧
      sendable query = .ok query ∧ request.fault? .translation = none ∧
      request.fault? .content = none) ∨
    (∃ error, request.fault? .translation = some (.adapt error) ∧
      (request.target profile).query (request.allow profile) options = .error error) ∨
    (∃ query, (request.target profile).query (request.allow profile) options = .ok query ∧
      sendable query = .error .nothingLeft ∧ request.fault? .translation = none ∧
      request.fault? .content = some (.adapt .nothingLeft)) := by
  have translated : request.translated? =
      some ((request.target profile).query (request.allow profile) options) := by
    simp [translated?, read, found, Except.toOption]
  cases outcome : (request.target profile).query (request.allow profile) options with
  | error error =>
      exact Or.inr (Or.inl ⟨error, by simp [fault?, translated, outcome, faultOf], rfl⟩)
  | ok query =>
      have noFault : request.fault? .translation = none := by
        simp [fault?, translated, outcome, faultOf]
      by_cases empty : ((Text.trim query.toList).dropWhile (· = '?')).isEmpty = true
      · have refused : sendable query = .error .nothingLeft := by rw [sendable, if_pos empty]
        refine Or.inr (Or.inr ⟨query, rfl, refused, noFault, ?_⟩)
        simp [fault?, translated, outcome, Except.toOption, faultOf, refused]
      · have sent : sendable query = .ok query := by rw [sendable, if_neg empty]
        refine Or.inl ⟨query, rfl, sent, noFault, ?_⟩
        simp [fault?, translated, outcome, Except.toOption, faultOf, sent]

theorem exists_of_translated? {outcome : Except AdaptError String}
    (translated : request.translated? = some outcome) :
    ∃ options profile, request.options = .ok options ∧
      outcome = (request.target profile).query (request.allow profile) options := by
  simp only [translated?, Option.bind_eq_bind, Option.bind_eq_some_iff, Option.pure_def,
    Option.some.injEq] at translated
  obtain ⟨options, read, profile, _, rfl⟩ := translated
  cases given : request.options with
  | error error => simp [given, Except.toOption] at read
  | ok found =>
      obtain rfl : found = options := by simpa [given, Except.toOption] using read
      exact ⟨found, profile, rfl, rfl⟩

theorem translation_error_cases {error : CommandError}
    (fault : request.fault? .translation = some error) :
    error = .adapt (.tooDeep request.config.depthLimit) ∨
      ∃ description, error = .adapt (.unsupported description) := by
  obtain ⟨outcome, translated, failed⟩ := Option.bind_eq_some_iff.1 fault
  obtain ⟨options, profile, _, rfl⟩ := exists_of_translated? translated
  cases found : (request.target profile).query (request.allow profile) options with
  | ok query => simp [found, faultOf] at failed
  | error cause =>
      obtain rfl : CommandError.adapt cause = error := by simpa [found, faultOf] using failed
      rcases Target.query_error_cases found with rfl | ⟨description, rfl⟩
      · exact Or.inl rfl
      · exact Or.inr ⟨description, rfl⟩

theorem content_error_eq {error : CommandError}
    (fault : request.fault? .content = some error) : error = .adapt .nothingLeft := by
  obtain ⟨query, _, refused⟩ := Option.bind_eq_some_iff.1 fault
  rw [sendable] at refused
  split at refused
  · exact (Option.some.inj refused).symm
  · cases refused

theorem located_eq_ok_iff {query text : String} :
    located request.config request.invocation query = .ok text ↔ request.Presents query text := by
  unfold located Presents
  split
  next =>
    cases request.invocation.entity with
    | none => simp
    | some name =>
        cases formed : request.config.url name query with
        | ok address => simp [formed, Except.mapError]
        | error error => simp [formed, Except.mapError]
  next => simp [eq_comm]

theorem address_cases (request : Request) (query : String) :
    (request.fault? .address = none ∧
      ∃ text, located request.config request.invocation query = .ok text) ∨
    ∃ error, request.fault? .address = some error ∧
      located request.config request.invocation query = .error error := by
  cases wanted : request.invocation.url with
  | false => exact Or.inl ⟨by simp [fault?, wanted], query, by simp [located, wanted]⟩
  | true =>
      cases named : request.invocation.entity with
      | none =>
          refine Or.inr ⟨.urlWithoutEntity, ?_, ?_⟩
          · simp [fault?, wanted, named]
          · simp [located, wanted, named]
      | some name =>
          cases base : request.config.baseUrl with
          | none =>
              refine Or.inr ⟨.adapt (.config .noBaseUrl), ?_, ?_⟩
              · simp [fault?, wanted, named, base]
              · simp [located, wanted, named, Config.url, base, Except.mapError]
          | some address =>
              refine Or.inl ⟨by simp [fault?, wanted, named, base], ?_⟩
              simp [located, wanted, named, Config.url, base, Except.mapError]

section Options

variable {options : QueryOptions}

theorem adaptOptions_eq {profile : Profile} (options : QueryOptions)
    (found : request.profile? = some profile)
    (separated : ∀ argument ∈ request.invocation.maps, '=' ∈ argument.toList) :
    adaptOptions request.config request.invocation options =
      ((((request.target profile).query (request.allow profile) options).bind
        sendable).mapError .adapt).bind (located request.config request.invocation) := by
  rw [adaptOptions, layered_eq_ok (profileOf_eq_ok_iff.2 found) separated]
  rfl

theorem answer_cases {profile : Profile} (read : request.options = .ok options)
    (found : request.profile? = some profile)
    (separated : ∀ argument ∈ request.invocation.maps, '=' ∈ argument.toList) :
    ([Step.translation, .content, .address].findSome? request.fault? = none ∧
      ∃ text, request.Yields text) ∨
    ∃ error, [Step.translation, .content, .address].findSome? request.fault? = some error ∧
      adaptOptions request.config request.invocation options = .error error := by
  have adapted := adaptOptions_eq options found separated
  rcases content_cases read found with
    ⟨query, translated, sent, noTranslationFault, noContentFault⟩ |
    ⟨error, fault, failed⟩ | ⟨query, translated, refused, noTranslationFault, fault⟩
  · rcases request.address_cases query with
      ⟨noAddressFault, text, formed⟩ | ⟨error, fault, failed⟩
    · refine Or.inl ⟨by simp [noTranslationFault, noContentFault, noAddressFault], text, ?_⟩
      exact ⟨options, profile, query, read, found, separated, translated, sent,
        located_eq_ok_iff.1 formed⟩
    · refine Or.inr ⟨error, by simp [noTranslationFault, noContentFault, fault], ?_⟩
      rw [adapted, translated, Except.bind, sent]
      exact failed
  · refine Or.inr ⟨.adapt error, by simp [fault], ?_⟩
    rw [adapted, failed]
    rfl
  · refine Or.inr ⟨.adapt .nothingLeft, by simp [noTranslationFault, fault], ?_⟩
    rw [adapted, translated, Except.bind, refused]
    rfl

theorem adaptOptions_cases (read : request.options = .ok options) :
    (request.firstFault? = none ∧ ∃ text, request.Yields text) ∨
    ∃ error, request.firstFault? = some error ∧
      adaptOptions request.config request.invocation options = .error error := by
  have noFault : request.fault? .reading = none := by simp [fault?, read, faultOf]
  rcases request.entity_cases with
    ⟨noEntityFault, profile, found⟩ | ⟨error, fault, failed⟩
  · rcases request.renames_cases with
      ⟨noRenamesFault, separated⟩ | ⟨error, fault, failed⟩
    · have left : request.firstFault? =
          [Step.translation, .content, .address].findSome? request.fault? := by
        simp [firstFault?, Step.inOrder, noFault, noEntityFault, noRenamesFault]
      rw [left]
      exact answer_cases read found separated
    · refine Or.inr ⟨error, ?_, ?_⟩
      · simp [firstFault?, Step.inOrder, noFault, noEntityFault, fault]
      · rw [adaptOptions, layered, profileOf_eq_ok_iff.2 found, failed]
        rfl
  · refine Or.inr ⟨error, ?_, ?_⟩
    · simp [firstFault?, Step.inOrder, noFault, fault]
    · rw [adaptOptions, layered, failed]
      rfl

end Options

section Source

variable {files : Files} {source : Source}
  (gives : Gives request.config files source request.options)

include gives

theorem adapt_eq {options : QueryOptions} (read : request.options = .ok options) :
    adapt request.config files request.invocation source =
      (adaptOptions request.config request.invocation options).map (· ++ "\n") := by
  have given := sourceOptions_of_gives gives
  rw [read] at given
  rw [adapt, given]
  rfl

theorem adapt_of_yields {text : String} (yields : request.Yields text) :
    adapt request.config files request.invocation source = .ok (text ++ "\n") := by
  obtain ⟨options, profile, query, read, found, separated, translated, sent, presents⟩ := yields
  have located := located_eq_ok_iff.2 presents
  rw [adapt_eq gives read, adaptOptions_eq options found separated, translated, Except.bind, sent]
  simp [Except.mapError, Except.bind, located, Except.map]

theorem adapt_cases :
    (request.firstFault? = none ∧ ∃ text, request.Yields text) ∨
    ∃ error, request.firstFault? = some error ∧
      adapt request.config files request.invocation source = .error error := by
  cases read : request.options with
  | error error =>
      have given := sourceOptions_of_gives gives
      rw [read] at given
      refine Or.inr ⟨.adapt error, ?_, ?_⟩
      · simp [firstFault?, Step.inOrder, fault?, read, faultOf]
      · rw [adapt, given]
        rfl
  | ok options =>
      rcases adaptOptions_cases read with succeeds | ⟨error, fault, failed⟩
      · exact Or.inl succeeds
      · refine Or.inr ⟨error, fault, ?_⟩
        rw [adapt_eq gives read, failed]
        rfl

theorem exists_yields_iff : (∃ text, request.Yields text) ↔ request.firstFault? = none := by
  rcases adapt_cases gives with ⟨noFault, yields⟩ | ⟨error, fault, failed⟩
  · exact ⟨fun _ => noFault, fun _ => yields⟩
  · constructor
    · rintro ⟨text, yields⟩
      exact absurd ((adapt_of_yields gives yields).symm.trans failed) (by simp)
    · intro noFault
      exact absurd (noFault.symm.trans fault) (by simp)

end Source

end Request

structure Prints (outcome : Outcome) (text : String) : Prop where
  code : outcome.code = 0
  stdout : outcome.stdout = text ++ "\n"

structure FailsWith (outcome : Outcome) (error : CommandError) : Prop where
  code : outcome.code = 1
  stdout : outcome.stdout = ""
  stderr : outcome.stderr.getLast? = some ("Error: " ++ error.message)

section Run

variable {surroundings : Surroundings} {words : List String} {request : Request} {source : Source}
  (asked : invocationOf surroundings.configVariable words = .ok request.invocation)
  (action : request.invocation.action = .adapt source)
  (configured : setupConfig surroundings.userConfigs surroundings.files request.invocation =
    .ok request.config)

include asked action configured

theorem exists_run_eq : ∃ remarks, run surroundings words =
    (Performance.ofResult (adapt request.config surroundings.files request.invocation source)
      remarks).outcome request.invocation.verbose := by
  refine ⟨setupRemarks surroundings.userConfigs surroundings.files request.invocation ++
    adaptRemarks request.config surroundings.files request.invocation source, ?_⟩
  simp only [run, asked, perform, configured, act, action]
  cases adapt request.config surroundings.files request.invocation source with
  | ok printed => rfl
  | error error => rfl

theorem prints_of_adapt {text : String}
    (adapted : adapt request.config surroundings.files request.invocation source =
      .ok (text ++ "\n")) : Prints (run surroundings words) text := by
  obtain ⟨remarks, ran⟩ := exists_run_eq asked action configured
  rw [ran, adapted]
  exact ⟨rfl, rfl⟩

theorem failsWith_of_adapt {error : CommandError}
    (failed : adapt request.config surroundings.files request.invocation source =
      .error error) : FailsWith (run surroundings words) error := by
  obtain ⟨remarks, ran⟩ := exists_run_eq asked action configured
  rw [ran, failed]
  exact ⟨rfl, rfl, by simp [Performance.ofResult, Performance.outcome]⟩

end Run

/-- Of what the bare command is asked for, in whatever words, it prints the text that all steps come
to if none has a fault, and otherwise it prints nothing and ends with the fault of the first step
that has one. Translation fails for depth or for want of backend text, and a translated query only
for want of content. Words can be found for every request. -/
theorem run_prints_result_or_first_fault (surroundings : Surroundings) (request : Request)
    {source : Source} (action : request.invocation.action = .adapt source)
    (configured : setupConfig surroundings.userConfigs surroundings.files request.invocation =
      .ok request.config)
    (gives : Gives request.config surroundings.files source request.options) :
    (∀ words, invocationOf surroundings.configVariable words = .ok request.invocation →
      (∀ text, request.Yields text → Prints (run surroundings words) text) ∧
      ∀ error, request.firstFault? = some error → FailsWith (run surroundings words) error) ∧
    ((∃ text, request.Yields text) ↔ request.firstFault? = none) ∧
    (∀ error, request.fault? .translation = some error →
      error = .adapt (.tooDeep request.config.depthLimit) ∨
        ∃ description, error = .adapt (.unsupported description)) ∧
    (∀ error, request.fault? .content = some error → error = .adapt .nothingLeft) ∧
    ((∀ path, source.path? = some path ∨ request.invocation.config = some path → path ≠ "") →
      surroundings.configVariable ≠ some "" →
      (request.invocation.config = none → surroundings.configVariable = none) →
        ∃ words, invocationOf surroundings.configVariable words = .ok request.invocation) := by
  refine ⟨fun words asked => ⟨fun text yields => ?_, fun error fault => ?_⟩,
    Request.exists_yields_iff gives, fun error => request.translation_error_cases,
    fun error => request.content_error_eq,
    fun named environmentNamed unnamed => ⟨spelled request.invocation source, ?_⟩⟩
  · exact prints_of_adapt asked action configured (Request.adapt_of_yields gives yields)
  · rcases Request.adapt_cases gives with ⟨noFault, _⟩ | ⟨other, fault', failed⟩
    · exact absurd (noFault.symm.trans fault) (by simp)
    · obtain rfl := Option.some.inj (fault.symm.trans fault')
      exact failsWith_of_adapt asked action configured failed
  · have same : (request.invocation.config <|> surroundings.configVariable) =
        request.invocation.config := by
      cases config : request.invocation.config with
      | some path => rfl
      | none => exact unnamed config
    rw [invocationOf_spelled action (fun path given => named path (Or.inl given))
      (fun path given => named path (Or.inr given)) environmentNamed, same]

theorem run_prints_result_or_first_fault_of_narrowed_ordering :
    let source : Source := .query "$orderby=Name desc,Phone&$skip=2&$top=5"
    let invocation : Invocation :=
      { action := .adapt source
        entity := some "Orders"
        maps := ["Name=Other"]
        deletes := ["Phone"]
        noTop := true
        url := true }
    let wrong : Invocation := { invocation with entity := some "Order", maps := ["Name"] }
    let surroundings : Surroundings :=
      { files := fun _ => .text ("[backend]\nbase_url='http://b//'\n[entities.Orders]\n" ++
          "remote='OrderList'\nfields=[['Name','Title']]") }
    Prints (run surroundings (spelled invocation source))
        "http://b/OrderList?$orderby=Title desc&$skip=2&" ∧
      FailsWith (run surroundings (spelled wrong source)) (.adapt (.unknownEntity "Order")) := by
  intro source invocation wrong surroundings
  let profile : Profile :=
    { remote := some "OrderList", mapping := Mapping.empty.withRename "Name" "Title" }
  let config : Config := { baseUrl := some "http://b//", profiles := [("Orders", profile)] }
  let options : QueryOptions :=
    { order := some (.more ⟨"Name", true⟩ (.last ⟨"Phone", false⟩)), skip := some 2, top := some 5 }
  have loaded : loadConfig surroundings.files configName = .ok config := by
    have read : Config.ofText ("[backend]\nbase_url='http://b//'\n[entities.Orders]\n" ++
        "remote='OrderList'\nfields=[['Name','Title']]") = .ok config := by decide +kernel
    simp only [loadConfig, surroundings, FileState.read, read]
  have gives : Gives config surroundings.files source (.ok options) := by
    have read : QueryOptions.ofText config.depthLimit "$orderby=Name desc,Phone&$skip=2&$top=5" =
        .ok options := by rfl
    rw [← read]
    exact .query _
  have asked : invocationOf none (spelled invocation source) = .ok invocation :=
    invocationOf_spelled rfl (by simp [source, Source.path?]) (by simp [invocation]) (by simp)
  have askedWrong : invocationOf none (spelled wrong source) = .ok wrong :=
    invocationOf_spelled rfl (by simp [source, Source.path?]) (by simp [wrong, invocation])
      (by simp)
  have separated : ∀ argument ∈ invocation.maps, '=' ∈ argument.toList := by decide
  have order : (Request.target ⟨config, invocation, .ok options⟩ profile).orderText
      (.more ⟨"Name", true⟩ (.last ⟨"Phone", false⟩)) = "Title desc" := by decide +kernel
  have translated : (Request.target ⟨config, invocation, .ok options⟩ profile).query
      ⟨true, false, true⟩ options = .ok "?$orderby=Title desc&$skip=2&" := by
    rw [Target.query, Target.clauses]
    simp only [options, Option.map_some, Option.getD_some, order]
    rfl
  have sent : sendable "?$orderby=Title desc&$skip=2&" =
      .ok "?$orderby=Title desc&$skip=2&" := by rfl
  have presents : Request.Presents ⟨config, invocation, .ok options⟩
      "?$orderby=Title desc&$skip=2&" "http://b/OrderList?$orderby=Title desc&$skip=2&" := by
    rw [Request.Presents, if_pos rfl]
    exact ⟨"Orders", rfl, rfl⟩
  constructor
  · refine ((run_prints_result_or_first_fault surroundings ⟨config, invocation, .ok options⟩ rfl
      loaded gives).1 _ asked).1 _ ?_
    exact ⟨options, profile, _, rfl, rfl, separated, translated, sent, presents⟩
  · exact ((run_prints_result_or_first_fault surroundings ⟨config, wrong, .ok options⟩ rfl
      loaded gives).1 _ askedWrong).2 _ rfl

end Command

end ODataAdapter
