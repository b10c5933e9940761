import ODataAdapter.Command.Run

/-!
The program: read what the command line asks for, run the command, and print.
-/

namespace ODataAdapter.Command

def fileState (path : String) : IO FileState := do
  try
    return .text (← IO.FS.readFile path)
  catch
    | .noFileOrDirectory .. => return .absent
    | .inappropriateType _ _ "not a directory" => return .notDirectory
    | .inappropriateType .. => return .directory
    | .invalidArgument _ _ "name too long" => return .nameTooLong
    | error => return .unreadable (toString error)

def readFiles (paths : List String) : IO Files := do
  let states ← paths.mapM fun path => return (path, ← fileState path)
  return fun path => (states.lookup path).getD .absent

partial def readLines (stream : IO.FS.Stream) (text : String) : IO String := do
  let line ← stream.getLine
  if line.isEmpty then return text else readLines stream (text ++ line)

def userConfigs : IO (Option String) := do
  match ← IO.getEnv "XDG_CONFIG_HOME", ← IO.getEnv "HOME" with
  | some directory, home =>
      if directory.startsWith "/" then return some directory else return home.map (· ++ "/.config")
  | none, home => return home.map (· ++ "/.config")

def surroundings (words : List String) : IO Surroundings := do
  let configVariable ← IO.getEnv "ODATA_REMAP_CONFIG"
  let userConfigs ← userConfigs
  match invocationOf configVariable words with
  | .error _ => return { configVariable, userConfigs, files := fun _ => .absent }
  | .ok invocation =>
      let files ← readFiles (inputPaths userConfigs invocation)
      let stdin ← if readsStdin invocation then readLines (← IO.getStdin) "" else pure ""
      return { configVariable, userConfigs, files, stdin }

end ODataAdapter.Command

open ODataAdapter.Command in
def main (words : List String) : IO UInt32 := do
  let outcome := run (← surroundings words) words
  for line in outcome.stderr do
    IO.eprintln line
  IO.print outcome.stdout
  return outcome.code.toUInt32
