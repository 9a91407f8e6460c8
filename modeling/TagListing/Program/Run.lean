import TagListing.Program.CommandLine
import TagListing.Program.EnvironmentFile
import TagListing.Program.LogFilter
import TagListing.Settings.Layers
import TagListing.Fleet.Execute
/-!
The program as a whole: the variables of the nearest file of variables, the log filter, the command
line, the settings and the fleet, in this order. A server that fails is logged and does not make the
program fail.
-/
namespace TagListing.Program

structure Surroundings where
  formats : Settings.Formats
  directory : Settings.Directory
  environment : Settings.Environment
  words : List String
  machine : Fleet.Machine
  logTarget : String

inductive Ending where
  | finished
  | failed (f : Failure)
  | crashed
  | stopped (why : LineStop)
  deriving Repr

def Ending.exitCode : Ending → Nat
  | .finished => 0
  | .failed _ => 1
  | .crashed => 101
  | .stopped why => if why.isFault then 2 else 0

structure Run where
  ending : Ending
  logged : List (String × Failure)
  deriving Repr

def variablesFile : String := ".env"

def logVariable : String := "RUST_LOG"

def Surroundings.variables (w : Surroundings) : Settings.Environment :=
  match w.directory.nearest? variablesFile with
  | some text => loadVariables w.environment text
  | none => w.environment

def Surroundings.logFilter (w : Surroundings) : LogFilter :=
  .read ((w.variables.lookup? logVariable).getD "")

def failureLine (name : String) (f : Failure) : String :=
  "Error from server(" ++ name ++ "): " ++ f.inspected

def Surroundings.logs (w : Surroundings) (failure : String × Failure) : Bool :=
  w.logFilter.letsThrough w.logTarget .error (failureLine failure.1 failure.2)

def failures (reports : List Fleet.Report) : List (String × Failure) :=
  reports.filterMap fun r => r.failure.map (r.name, ·)

def endingOf : Except Failure Unit → Ending
  | .ok () => .finished
  | .error f => .failed f

def endingBefore : Settings.Fault → Ending
  | .overrun => .crashed
  | f => .failed (.settings f)

def Surroundings.run (w : Surroundings) : Run :=
  match readLine w.words with
  | .error why => ⟨.stopped why, []⟩
  | .ok file =>
    match Settings.load w.formats w.directory w.variables file with
    | .error f => ⟨endingBefore f, []⟩
    | .ok s =>
      let (result, reports) := Fleet.execute w.machine s
      ⟨endingOf result, (failures reports).filter w.logs⟩

end TagListing.Program
