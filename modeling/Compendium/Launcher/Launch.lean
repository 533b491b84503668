import Compendium.Launcher.Options
import Compendium.Session.Demo

/-!
# Launching

The launcher stores demo data if asked to, and starts the server and, if there is one, the frontend,
both told which directories to use. A directory on the command line is seen from where the launcher
is started, one in the environment from the root. Then it waits for each process; when it is
interrupted it ends all of them and waits again. Starting a process is left to whoever runs the
launcher: a launch says what to start and what is then done with it.
-/

namespace Compendium.Launcher

/-- What is done with a process. -/
inductive ProcessCall where
  | wait
  | terminate
deriving DecidableEq, Repr

/-- A process: its command, the directory it runs in, the directories it is told of, and what is done
with it. -/
structure Command where
  words : List String
  directory : Path
  data : Option String
  catalog : Option String
  calls : List ProcessCall
deriving DecidableEq, Repr

/-- A launch: the code it ends with, unless it ends by itself, what it prints, and what it starts. -/
structure Launch where
  exitCode : Option Nat
  output : String
  errors : String
  commands : List Command
deriving DecidableEq, Repr

/-! ## Messages -/

/-- How the launcher is called. -/
def usage : String :=
  "usage: main.py [-h] [--data-dir DATA_DIR] [--catalog-dir CATALOG_DIR] [--demo]\n"

/-- What the launcher does and which options it has. -/
def helpText : String :=
  usage ++
  "\nShadow Codex dev launcher\n\noptions:\n" ++
  "  -h, --help            show this help message and exit\n" ++
  "  --data-dir DATA_DIR   Bookmark/settings directory (default: ./data)\n" ++
  "  --catalog-dir CATALOG_DIR\n" ++
  "                        Catalog JSON directory (default: ./presets/catalog)\n" ++
  "  --demo                Reset bookmarks and settings to demo values\n"

def showHelp : Launch := ⟨some 0, helpText, "", []⟩

def showFault (f : OptionFault) : Launch :=
  ⟨some 2, "", usage ++ "main.py: error: " ++ f.message ++ "\n", []⟩

/-! ## Processes -/

abbrev Environment := List (String × String)

/-- The value of a variable, or what is usual. -/
def setting (env : Environment) (name usual : String) : String := (env.lookup name).getD usual

/-- A directory given on the command line, without steps up, or as the environment has it. -/
def told (given : Option String) (env : Environment) (name : String) : Option String :=
  match given with
  | some p => some (Path.ofString p).resolved.text
  | none => env.lookup name

def frontend : Path := ⟨["frontend"]⟩

/-- What is done with the processes, the first of which is waited for first: if an interrupt comes
then, all are ended and waited for. -/
def withCalls (interrupted : Bool) (commands : List Command) : List Command :=
  commands.mapIdx fun i c =>
    { c with
      calls :=
        if !interrupted then [.wait]
        else if i = 0 then [.wait, .terminate, .wait]
        else [.terminate, .wait] }

def serverCommand (o : Options) (env : Environment) : Command where
  words := ["python", "-m", "uvicorn", "codex.app:app", "--reload", "--host",
    setting env "HOST" "0.0.0.0", "--port", setting env "PORT" "13013"]
  directory := ⟨[]⟩
  data := told o.data env "DATA_DIR"
  catalog := told o.catalog env "CATALOG_DIR"
  calls := []

def frontendCommand (o : Options) (env : Environment) : Command :=
  { serverCommand o env with
    words := ["bun", "run", "dev", "--port", setting env "FRONTEND_PORT" "13014"]
    directory := frontend }

def serverLine (env : Environment) : String :=
  "Starting API on http://localhost:" ++ setting env "PORT" "13013" ++ " ...\n"

def frontendLine (env : Environment) : String :=
  "Starting frontend on http://localhost:" ++ setting env "FRONTEND_PORT" "13014" ++ " ...\n"

/-! ## Launches -/

/-- The directory that demo data is stored in. -/
def seedDirectory (o : Options) : Path := .ofString (o.data.getD "data")

/-- The directory of the catalog that demo data is taken from. -/
def seedCatalog (o : Options) : Path := .ofString (o.catalog.getD "presets/catalog")

def seed (o : Options) : Activity Unit := do
  Session.useStorage (seedDirectory o)
  let _ ← Session.useCatalog (.directory (seedCatalog o))
  Session.seedDemo

/-- Starts the server and, if there is one, the frontend. -/
def startProcesses (o : Options) (env : Environment) (interrupted : Bool) : Activity Launch := do
  let hasFrontend := (← Activity.session).tree.isDirectory frontend
  let commands := if hasFrontend then [serverCommand o env, frontendCommand o env]
    else [serverCommand o env]
  return {
    exitCode := if interrupted then some 0 else none
    output := serverLine env ++ (if hasFrontend then frontendLine env else "") ++
      (if interrupted then "\nShutting down...\n" else "")
    errors := ""
    commands := withCalls interrupted commands }

def start (o : Options) (env : Environment) (interrupted : Bool) : Activity Launch := do
  if o.demo then seed o
  startProcesses o env interrupted

/-- The options with their directories as they are seen from the root, when they are given as seen
from another directory. -/
def Options.seenFrom (o : Options) (here : Path) : Options :=
  let seen (p : String) : String := (here.join (.ofString p)).text
  { o with data := o.data.map seen, catalog := o.catalog.map seen }

/-- A launch with that command line from a directory. -/
def launchFrom (here : Path) (args : List String) (env : Environment) (interrupted : Bool) :
    Activity Launch :=
  match read args with
  | .help => return showHelp
  | .fault f => return showFault f
  | .options o => start (o.seenFrom here) env interrupted

def launch (args : List String) (env : Environment) (interrupted : Bool) : Activity Launch :=
  launchFrom ⟨[]⟩ args env interrupted

end Compendium.Launcher
