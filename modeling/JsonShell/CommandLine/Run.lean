import JsonShell.CommandLine.Usage
import JsonShell.Config
import JsonShell.Module.Script
import JsonShell.Prompt
import JsonShell.Session.Execute
import JsonShell.Text.ByteLine

/-!
# Running the program

The program reads its configuration, runs the commands in it, and then does one of three things: it
runs the script it was given, or the command, or a session of the lines of its input.  A line that
fails does not end a session.

The program shares its input with the modules that it calls.  A session reads its lines from blocks
of the input, and modules find what is after the block that the session has come to.

`start` goes up to the point where a session would read its first line, `feed` runs one line, and
`finish` ends the session; `run` is all of this for an input that is known as a whole.  There is no
outcome if lines run each other too deeply.
-/

set_option autoImplicit false

namespace JsonShell.CommandLine

/-- What the program is started with. -/
structure Launch where
  args : List String
  environment : Dictionary String
  files : FileTree
  input : Bytes
  /-- The time that is written into the failure log. -/
  time : String

/-- What the program leaves when it ends. -/
structure Outcome where
  code : Nat
  out : String
  err : String
  files : FileTree

/-- The program while it runs lines: the session, and what has been written. -/
structure Console where
  settings : Settings ScriptModules
  session : Session ScriptModules
  promptTemplate : String
  home : Option Path
  out : String
  err : String

namespace Console

/-- Writes to the output. -/
def write (c : Console) (text : String) : Console :=
  { c with out := c.out ++ text }

/-- Takes over the session of a run and writes what it wrote. -/
def after {α : Type} (c : Console) (run : Run ScriptModules α) : Console :=
  { c with
    session := run.session
    out := c.out ++ run.trace.output
    err := c.err ++ run.trace.allErrors c.settings.colors }

/-- Runs a line.  A failure is told and does no more. -/
def runLine (c : Console) (line : String) : Option Console :=
  (c.session.execute c.settings line).map fun run =>
    let c' := c.after run
    match run.result with
    | .ok () => c'
    | .error failure =>
      { c' with
        err := c'.err ++
          Paint.paint c.settings.colors Paint.red ("× " ++ failure.message) ++ "\n" }

/-- Runs lines one after the other. -/
def runLines (c : Console) (lines : List String) : Option Console :=
  lines.foldlM runLine c

/-- Runs a script, whose failure has been told by its reports. -/
def runScript (c : Console) (path : Path) : Option Console :=
  (c.session.executeFile c.settings path).map c.after

/-- The program as it ends. -/
def outcome (c : Console) (code : Nat) : Outcome :=
  ⟨code, c.out, c.err, c.session.files⟩

/-! ## Sessions -/

/-- A line that ends the session. -/
def isFarewell (line : String) : Bool :=
  line = "exit" || line = "quit"

/-- Takes a line of the session, without the blanks around it; blank lines are passed over.  The
answer tells whether the session goes on. -/
def feed (c : Console) (line : String) : Option (Console × Bool) :=
  let line := Text.trim line
  if line = "" then some (c, true)
  else if isFarewell line then some (c, false)
  else
    let (history, files) := c.session.history.add c.session.files line
    let c := { c with session := { c.session with history := history, files := files } }
    (c.runLine line).map fun c => (c, true)

/-- How the input of a session ended. -/
inductive Farewell where
  /-- By a line that says so. -/
  | said
  /-- At the end of the input. -/
  | endOfInput
  /-- At a line that is not UTF-8. -/
  | unreadable
deriving DecidableEq, Repr

/-- The last words of a session. -/
def goodbye (c : Console) : String :=
  Paint.paint c.settings.colors Paint.green "Goodbye! 👋" ++ "\n"

/-- What is told about input that is not UTF-8. -/
def unreadableText : String :=
  Text.unlines
    ["Error: cannot read input", "", "Caused by:", "    0: " ++ FileFault.notUtf8.message,
      "    1: " ++ FileFault.notUtf8.message]

/-- Ends a session. -/
def finish (c : Console) : Farewell → Outcome
  | .said => (c.write c.goodbye).outcome 0
  | .endOfInput => ((c.write "\n").write c.goodbye).outcome 0
  | .unreadable => { c.outcome 1 with err := c.err ++ unreadableText }

/-- The input that has not been read. -/
def input (c : Console) : Bytes :=
  c.session.modules.input

/-- Leaves so much of the input. -/
def withInput (c : Console) (rest : Bytes) : Console :=
  { c with session := { c.session with modules := { c.session.modules with input := rest } } }

/-- How much of the input is read at once. -/
def blockSize : Nat := 8192

/-- Reads a line with its line break: from what has been read `ahead`, and then block by block.
What is left over of the last block is ahead of the next line. -/
def readLine : Nat → Bytes → Console → Bytes × Bytes × Console
  | 0, ahead, c => ([], ahead, c)
  | fuel + 1, ahead, c =>
    let block := if ahead.isEmpty then c.input.take blockSize else ahead
    let c := if ahead.isEmpty then c.withInput (c.input.drop blockSize) else c
    let start := block.takeWhile (· != 10)
    match block.drop start.length with
    | lineBreak :: ahead => (start ++ [lineBreak], ahead, c)
    | [] =>
      if block.isEmpty then ([], [], c)
      else
        let (line, ahead, c) := readLine fuel [] c
        (start ++ line, ahead, c)

/-- Takes lines of the input until one ends the session. -/
def converse : Nat → Bytes → Console → Option Outcome
  | 0, _, c => some (c.finish .endOfInput)
  | fuel + 1, ahead, c =>
    let (line, ahead, c) := c.readLine (c.input.length + 2) ahead
    match Bytes.textLines line with
    | (_, true) => some (c.finish .unreadable)
    | ([], false) => some (c.finish .endOfInput)
    | (text :: _, false) =>
      match c.feed text with
      | none => none
      | some (c, false) => some (c.finish .said)
      | some (c, true) => converse fuel ahead c

/-- The prompt before a line. -/
def prompt (c : Console) (user host : String) (directory : Path) : String :=
  Paint.paint c.settings.colors Paint.cyan
    (Prompt.expand c.promptTemplate ⟨user, host, directory, c.home⟩) ++ " "

end Console

/-! ## Starting -/

/-- The configuration of a start: the options, the files after they were read, and what is told
about them. -/
structure Configured where
  config : Config
  files : FileTree
  warning : String

/-- The report of a configuration that could not be read. -/
def configWarning (fault : Config.Fault) : Diagnostic :=
  { Diagnostic.titled .warning "config" "cannot load configuration" with
    message := some fault.message
    hint := some "continuing with the built-in defaults" }

/-- Reads the configuration in a user's directory. -/
def readConfig (files : FileTree) (home : Option Path) : Configured :=
  match home with
  | none => ⟨Config.default, files, ""⟩
  | some h =>
    match Config.loadOrCreate files ((Config.directory h).join ".trexrc") home with
    | (files, .ok config) => ⟨config, files, ""⟩
    | (files, .error fault) => ⟨Config.default, files, (configWarning fault).render true⟩

/-- The options with the user's own directory of modules if they name none. -/
def withModulePaths (config : Config) (home : Option Path) : Config :=
  match config.modulePaths, home with
  | [], some h => { config with modulePaths := [(Config.directory h).join "modules"] }
  | _, _ => config

/-- The report of a directory of modules that is none. -/
def pathReport (path : String) : Diagnostic :=
  { Diagnostic.titled .error "err_invalid_path" "invalid module path" with
    message := some (path ++ " is not a directory")
    hint := some "pass an existing directory to --path" }

/-- The program before its first line, with the paths at which it finds its modules. -/
def openConsole (l : Launch) (c : Configured) (config : Config) (home : Option Path)
    (verbose : Bool) : Console :=
  let own (name : String) : Option Path := home.map fun h => (Config.directory h).join name
  let history := match own "history" with
    | some path => History.load c.files path config.historySize
    | none => History.new config.historySize
  let modules : ScriptModules :=
    ⟨⟨config.modulePaths, config.moduleExtension⟩, config.interpreter, l.environment, l.input⟩
  { settings :=
      { runner := ScriptModules.runner
        colors := config.useColors
        verbose := verbose
        log := own "error.log"
        time := l.time }
    session := Session.new modules c.files history
    promptTemplate := config.promptTemplate
    home := home
    out := ""
    err := c.warning }

/-- The program at the end or at the first line of a session. -/
inductive Start where
  | ended (o : Outcome)
  | reading (c : Console)

/-- Runs what comes before a session: the configured commands, then a script or a command that was
given. -/
def proceed (a : Arguments) (config : Config) (c : Console) : Option Start := do
  let c ← c.runLines config.startup
  match (a.first?.map Path.mk).filter c.session.files.isFile with
  | some script => return .ended ((← c.runScript script).outcome 0)
  | none =>
    match a.option? "--exec" with
    | some command => return .ended ((← c.runLine command).outcome 0)
    | none => return .reading (c.write (banner c.settings.colors))

/-- Configures the program and runs what comes before a session. -/
def startConfigured (l : Launch) (a : Arguments) : Option Start :=
  let home := Config.homeDirectory? (Dictionary.find? "HOME" l.environment)
  let c := readConfig l.files home
  let config := withModulePaths c.config home
  let verbose := a.hasSwitch "--vv"
  match a.option? "--path" with
  | none => proceed a config (openConsole l c config home verbose)
  | some path =>
    if c.files.isDirectory ⟨path⟩ then
      let config := { config with modulePaths := [⟨path⟩] }
      proceed a config (openConsole l c config home verbose)
    else
      some (.ended ⟨1, "", c.warning ++ (pathReport path).render config.useColors, c.files⟩)

/-- What the program prints if its arguments alone decide it, and the status with which it ends. -/
structure Answer where
  code : Nat
  out : String
  err : String

/-- Reads the arguments, some of which the program answers at once. -/
def readArguments (args : List String) : Except Answer Arguments :=
  match Arguments.read signature args with
  | .error fault => .error ⟨1, "", complaint fault⟩
  | .ok a =>
    if a.helpAsked then .error ⟨0, usage ++ "\n", ""⟩
    else if a.hasSwitch "--version" then .error ⟨0, programName ++ " " ++ version ++ "\n", ""⟩
    else if a.hasSwitch "--banner" then .error ⟨0, banner true, ""⟩
    else .ok a

/-- Starts the program. -/
def start (l : Launch) : Option Start :=
  match readArguments l.args with
  | .error answer => some (.ended ⟨answer.code, answer.out, answer.err, l.files⟩)
  | .ok a => startConfigured l a

/-- Runs the program. -/
def run (l : Launch) : Option Outcome :=
  match start l with
  | none => none
  | some (.ended o) => some o
  | some (.reading c) => c.converse (l.input.length + 1) []

end JsonShell.CommandLine
