import JsonShell.File.Tree
import JsonShell.History
import JsonShell.Text.Blank
import JsonShell.Text.Numeral
import JsonShell.Text.Split

/-!
# Configuration

The configuration file has one option a line, as `key=value`; a line that starts with `#` is a
comment.  Any other line is a command that is run when the shell starts.  Unknown keys are passed
over, a value that an option does not accept leaves it as it was, and of several lines for one
option the last one counts.
-/

set_option autoImplicit false

namespace JsonShell

/-- The options of a shell. -/
structure Config where
  modulePaths : List Path
  useColors : Bool
  promptTemplate : String
  historySize : Nat
  interpreter : String
  moduleExtension : String
  /-- The commands to run at the start. -/
  startup : List String
deriving DecidableEq, Repr

namespace Config

/-- The options when nothing is configured. -/
def default : Config :=
  { modulePaths := []
    useColors := true
    promptTemplate := "❯"
    historySize := History.defaultCapacity
    interpreter := "python3"
    moduleExtension := "py"
    startup := [] }

/-- The configuration that is written where there is none. -/
def defaultText : String :=
  Text.unlines
    ["# T-Rex Shell Configuration",
      "module_paths=~/.t-rex/modules",
      "use_colors=true",
      "history_size=1000",
      "",
      "# Prompt customization, e.g. prompt_template=%u@%h:%D❯",
      "# %u = username",
      "# %h = hostname",
      "# %w = full working directory",
      "# %d = full working directory (same as %w)",
      "# %D = working directory basename only",
      "# %~ = home directory relative path",
      "",
      "prompt_template=❯",
      "python_executable=python3",
      "module_extension=py"]

/-- The home directory, from the value of `HOME`; an empty value is none. -/
def homeDirectory? (value : Option String) : Option Path :=
  match value with
  | some home => if home = "" then none else some ⟨home⟩
  | none => none

/-- The directory of a user's configuration, history, log and modules. -/
def directory (home : Path) : Path :=
  home.join ".t-rex"

/-- A path with the home directory for a tilde in front.  Without a home, and before a user's name,
the tilde stands for itself. -/
def expandTilde (text : String) (home : Option Path) : Path :=
  match text.toList, home with
  | ['~'], some home => home
  | '~' :: '/' :: rest, some home => home.join (String.ofList rest)
  | _, _ => ⟨text⟩

/-- The paths in a list separated by colons. -/
def readPaths (value : String) (home : Option Path) : List Path :=
  (((Text.splitString ':' value).map Text.trim).filter (· ≠ "")).map (expandTilde · home)

/-- The options after a line `key=value`. -/
def setOption (home : Option Path) (c : Config) (key value : String) : Config :=
  if key = "module_paths" then { c with modulePaths := readPaths value home }
  else if key = "use_colors" then { c with useColors := value ≠ "false" }
  else if key = "prompt_symbol" ∨ key = "prompt_template" then { c with promptTemplate := value }
  else if key = "history_size" then
    match Numeral.natural value with
    | .ok n => { c with historySize := n }
    | .error _ => c
  else if key = "python_executable" then
    if value = "" then c else { c with interpreter := value }
  else if key = "module_extension" then
    if value = "" then c
    else { c with moduleExtension := String.ofList (value.toList.dropWhile (· == '.')) }
  else c

/-- The options after a line without the blanks around it. -/
def readLine (home : Option Path) (c : Config) (line : String) : Config :=
  if line = "" ∨ line.toList.head? = some '#' then c
  else
    match Text.splitStringFirst "=" line with
    | some (key, value) => setOption home c (Text.trim key) (Text.trim value)
    | none => { c with startup := c.startup ++ [line] }

/-- The options that a text configures. -/
def parse (text : String) (home : Option Path) : Config :=
  ((Text.lines text).map Text.trim).foldl (readLine home) default

/-! ## The file -/

/-- What could not be done with the configuration file. -/
inductive Fault where
  | create (directory : Path) (fault : FileFault)
  | write (path : Path) (fault : FileFault)
  | read (path : Path) (fault : FileFault)
deriving DecidableEq, Repr

/-- The text of a fault. -/
def Fault.message : Fault → String
  | .create directory fault => "cannot create " ++ directory.text ++ ": " ++ fault.message
  | .write path fault =>
    "cannot write default config to " ++ path.text ++ ": " ++ fault.message
  | .read path fault => "cannot read config " ++ path.text ++ ": " ++ fault.message

/-- The options in the file at a path. -/
def load (t : FileTree) (path : Path) (home : Option Path) : Except Fault Config :=
  match t.readText path with
  | .ok text => .ok (parse text home)
  | .error fault => .error (.read path fault)

/-- The options in the file at a path, after writing the default configuration there if there is
nothing yet, and the files after that. -/
def loadOrCreate (t : FileTree) (path : Path) (home : Option Path) :
    FileTree × Except Fault Config :=
  if t.isPresent path then (t, load t path home)
  else
    match t.makeParent path with
    | .error fault => (t, .error (.create (path.parent?.getD path) fault))
    | .ok t =>
      match t.write path (Utf8.encode defaultText) with
      | .error fault => (t, .error (.write path fault))
      | .ok t => (t, load t path home)

example : (parse "module_paths = ~/m:/opt::\nuse_colors=false\n# c\nset a 1\n" (some ⟨"/h"⟩)) =
    { default with modulePaths := [⟨"/h/m"⟩, ⟨"/opt"⟩], useColors := false, startup := ["set a 1"] }
    := by decide +kernel

end Config

end JsonShell
