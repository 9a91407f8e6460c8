import TagListing.Program.Run
import TagListing.Service.App
/-!
The command line program. It reads the variables and the files that the settings may come from,
runs the program on them and shows what was logged. It has no sockets: nothing can be bound, and a
database is out of reach. It reads TOML and JSON only.
-/
namespace TagListing.Program
open TagListing.Text (cutAt? partsOf)

def readIfThere (path : List String) : IO (Option (List String × String)) := do
  try
    let text ← IO.FS.readFile ("/" ++ "/".intercalate path)
    return some (path, text)
  catch _ => return none

def readAll (paths : List (List String)) : IO (List (List String × String)) := do
  let found ← paths.mapM readIfThere
  return found.filterMap id

def splitVariable (s : List Char) : Option (String × String) :=
  (cutAt? '=' s).map fun p => (String.ofList p.1, String.ofList p.2)

def readEnvironment : IO Settings.Environment := do
  let found ← readIfThere ["proc", "self", "environ"]
  let text := (found.map (·.2)).getD ""
  return (partsOf (Char.ofNat 0) text.toList).filterMap splitVariable

/- A path without its ways up, where each of them leaves the component before it. -/
def settle (path : List String) : List String :=
  path.foldl (fun place c => if c = ".." then place.dropLast else place ++ [c]) []

def workingDirectory (here : List String) (files : List (List String × String)) :
    Settings.Directory where
  here := here.filter (· ≠ "..")
  files := files
  settled := by simp

def variablesPaths (here : List String) : List (List String) :=
  (List.range (here.length + 1)).map fun n => here.take n ++ [variablesFile]

/- The paths of all files that the settings may come from. -/
def settingsPaths (w : Surroundings) (file : Option String) : List (List String) :=
  let names := [Settings.defaultsName, Settings.modeName w.variables.mode] ++ file.toList
  names.flatMap fun name => (Settings.candidatePaths (w.directory.path name)).map settle

def surroundings (words : List String) : IO Surroundings := do
  let env ← readEnvironment
  let here := Settings.components (← IO.currentDir).toString
  let own ← readAll (variablesPaths here)
  let machine : Fleet.Machine := ⟨1, Services.warmUp, fun _ => .error (.io .foreignAddress)⟩
  let w : Surroundings :=
    ⟨.plain, workingDirectory here own, env, words, machine, "tag_listing"⟩
  let file := (readLine words).toOption.join
  let files ← readAll (settingsPaths w file)
  return { w with directory := workingDirectory here (own ++ files) }

def usageText : String :=
  "Lists tags over HTTP.\n\n" ++
  "OPTIONS:\n" ++
  "    -c, --config <FILE>    Reads this settings file\n" ++
  "    -h, --help             Shows this text\n" ++
  "    -V, --version          Shows the version"

def versionText : String := "0.1.0"

def LineStop.notice : LineStop → String
  | .help => usageText
  | .version => versionText
  | .emptyValue => "error: the option needs a value"
  | .repeatedOption => "error: the option may be given once"
  | .unknownWord => "error: unknown argument"
  | .needlessValue => "error: the option takes no value"

def showRun (r : Run) : IO Unit := do
  for (name, failure) in r.logged do
    IO.eprintln (failureLine name failure)
  match r.ending with
  | .finished => return ()
  | .failed f => IO.eprintln ("Error: " ++ f.detail)
  | .crashed => IO.eprintln Settings.Fault.overrun.message
  | .stopped why =>
    if why.isFault then IO.eprintln why.notice else IO.println why.notice

end TagListing.Program

def main (words : List String) : IO UInt32 := do
  let w ← TagListing.Program.surroundings words
  let r := w.run
  TagListing.Program.showRun r
  return r.ending.exitCode.toUInt32
