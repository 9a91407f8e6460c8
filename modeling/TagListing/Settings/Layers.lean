import TagListing.Settings.Files
/-!
The layers of the program's settings: the defaults first, then either the one file that was asked
for, or the file of the mode, which need not be there, and the environment. A later layer goes over
the earlier ones, and is read when its turn comes.
-/
namespace TagListing.Settings

def defaultsName : String := "conf/default"

def modeVariable : String := "RUN_MODE"

def defaultMode : String := "development"

def Environment.mode (env : Environment) : String :=
  (env.lookup? modeVariable).getD defaultMode

def modeName (mode : String) : String := "conf/" ++ mode

section
variable (fs : Formats) (d : Directory)

def Directory.read (f : FoundFile) : Except Fault (List (String × Tree)) :=
  fs.read (d.origin f.path) f.text f.format

def Directory.entries (name : String) : Except Fault (List (String × Tree)) := do
  let f ← d.find fs name
  d.read fs f

/- A file that need not be there must still be read if it is there. -/
def Directory.entriesIfFound (name : String) : Except Fault (List (String × Tree)) :=
  match d.find fs name with
  | .ok f => d.read fs f
  | .error _ => .ok []

def layers (env : Environment) : Option String → List (Except Fault (List (String × Tree)))
  | some file => [d.entries fs defaultsName, d.entries fs file]
  | none => [d.entries fs defaultsName, d.entriesIfFound fs (modeName env.mode),
      .ok (environmentEntries env)]

/-- The settings of a working directory, an environment and the file asked for. -/
def load (env : Environment) (file : Option String) : Except Fault Settings :=
  ((layers fs d env file).foldlM Tree.under .emptyTable).map (⟨·⟩)

end
end TagListing.Settings
