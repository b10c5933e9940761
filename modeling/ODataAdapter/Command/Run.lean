import ODataAdapter.Command.Explain
import ODataAdapter.Command.Listing
import ODataAdapter.Command.Adapt
import ODataAdapter.Command.Restore

/-!
The command as a function of its words and of what it finds: what it prints, what it reports, and
the code that it ends with.
-/

namespace ODataAdapter.Command

structure Surroundings where
  configVariable : Option String := none
  userConfigs : Option String := none
  files : Files
  stdin : String := ""

structure Outcome where
  code : UInt8
  stdout : String := ""
  stderr : List String := []
  deriving DecidableEq, Repr, Inhabited

def unlines (lines : List String) : String :=
  String.join (lines.map (· ++ "\n"))

structure Performance where
  printed : String
  failure : Option CommandError
  remarks : List Remark

namespace Performance

def ofResult (result : Except CommandError String) (remarks : List Remark) : Performance :=
  match result with
  | .ok printed => ⟨printed, none, remarks⟩
  | .error error => ⟨"", some error, remarks⟩

def remarkLines (verbose : Bool) (remarks : List Remark) : List String :=
  (remarks.filter fun remark => verbose || remark.isWarning).map Remark.text

def outcome (verbose : Bool) (performance : Performance) : Outcome :=
  let lines := remarkLines verbose performance.remarks
  match performance.failure with
  | none => ⟨0, performance.printed, lines⟩
  | some error => ⟨1, performance.printed, lines ++ ["Error: " ++ error.message]⟩

end Performance

def act (config : Config) (files : Files) (stdin : String) (invocation : Invocation) :
    Performance :=
  match invocation.action with
  | .adapt source =>
      .ofResult (adapt config files invocation source)
        (adaptRemarks config files invocation source)
  | .explain query =>
      let report := explain config invocation query
      ⟨unlines report.lines, report.failure, explainRemarks config invocation query⟩
  | .fields => .ofResult ((listing config invocation).map unlines) []
  | .reverse file =>
      .ofResult (restore config files stdin invocation file)
        (restoreRemarks config files stdin invocation file)

def perform (surroundings : Surroundings) (invocation : Invocation) : Performance :=
  let remarks := setupRemarks surroundings.userConfigs surroundings.files invocation
  match setupConfig surroundings.userConfigs surroundings.files invocation with
  | .error error => ⟨"", some error, remarks⟩
  | .ok config =>
      let performance := act config surroundings.files surroundings.stdin invocation
      { performance with remarks := remarks ++ performance.remarks }

def versionText : String := "odata-remap 0.3.0\n"

/-- The wording of help and of the refusal of wrong words is this command's own. What is fixed of
them is the code and the stream they come with. -/
def helpText : String :=
  unlines
    ["Usage: odata-remap [OPTIONS] [QUERY] [COMMAND]", "",
     "Commands: explain <QUERY>, fields, reverse [FILE], help", "",
     "Options: -e, --entity <ENTITY>  -c, --config <CONFIG>  -m, --map <FROM=TO>",
     "         -d, --delete <FIELD>  --no-skip  --no-top  --no-count  --ast <FILE>",
     "         -u, --url  -v, --verbose  -h, --help  -V, --version"]

def usageText : String := "error: invalid arguments; try --help"

def run (surroundings : Surroundings) (words : List String) : Outcome :=
  match invocationOf surroundings.configVariable words with
  | .error .usage => ⟨2, "", [usageText]⟩
  | .error .help => ⟨0, helpText, []⟩
  | .error .version => ⟨0, versionText, []⟩
  | .ok invocation => (perform surroundings invocation).outcome invocation.verbose

def inputPaths (userConfigs : Option String) (invocation : Invocation) : List String :=
  let configs := (invocation.config.map ([·])).getD (defaultConfigs userConfigs)
  match invocation.action with
  | .adapt (.file path) | .reverse (some path) => configs ++ [path]
  | _ => configs

def readsStdin (invocation : Invocation) : Bool :=
  invocation.action = .reverse none

end ODataAdapter.Command
