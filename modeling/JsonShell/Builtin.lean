import JsonShell.Arguments
import JsonShell.File.Path
import JsonShell.History
import JsonShell.Text.Blank
import JsonShell.Text.Numeral
import JsonShell.Text.Split
import JsonShell.Variable.Store

/-!
# Built-in commands

A few commands are run by the shell itself, ahead of any module of the same name.  They only look at
the session and print a text.  `help` also describes what the shell has beside commands: the stages
of pipelines, the loops, assignments and the end of a session.
-/

set_option autoImplicit false

namespace JsonShell

/-- The built-in commands. -/
inductive Builtin where
  | help
  | history
  | modules
  | vars
  | clear
deriving DecidableEq, Repr

/-- What a built-in command sees of a session. -/
structure View where
  store : Store
  history : History
  /-- The path of a module. -/
  find? : String → Option Path
  available : List String
  searchPaths : List Path

namespace Builtin

/-- All built-in commands, in the order in which they are listed. -/
def all : List Builtin := [.help, .history, .modules, .vars, .clear]

/-- The name by which a command is called. -/
def name : Builtin → String
  | .help => "help"
  | .history => "history"
  | .modules => "modules"
  | .vars => "vars"
  | .clear => "clear"

/-- One line about a command. -/
def summary : Builtin → String
  | .help => "show help, or help for one command"
  | .history => "show command history; 'history 10' shows the last 10"
  | .modules => "list available modules"
  | .vars => "list variables"
  | .clear => "clear the terminal screen"

/-- The command of a name. -/
def ofName? (name : String) : Option Builtin :=
  all.find? fun b => b.name == name

/-! ## Usage -/

/-- What a command takes. -/
def signature : Builtin → Signature
  | .help => ⟨[], [], [⟨"command", fun _ => none⟩]⟩
  | .history => ⟨[], [], [⟨"count", fun value =>
      match Numeral.natural value with
      | .ok _ => none
      | .error fault => some fault.message⟩]⟩
  | .modules | .vars | .clear => ⟨[], [], []⟩

/-- The end of every usage. -/
def optionLines : List String :=
  ["Options:", "  --help, help      display usage information"]

/-- The usage of a command. -/
def usage (b : Builtin) : String :=
  let described (about : String) : List String := ["Usage: " ++ b.name, "", about, ""]
  let lines : List String := match b with
    | .help =>
      ["Usage: help [--] [<command>]", "",
        "Display help for built-in commands, pipeline operators and loops.", "",
        "Positional Arguments:",
        "  command           command or operator to describe; lists everything when",
        "                    omitted.", ""]
    | .history =>
      ["Usage: history [--] [<count>]", "", "Show the command history, oldest first.", "",
        "Positional Arguments:", "  count             only show the last N entries.", ""]
    | .modules => described "List the modules found in the search path."
    | .vars => described "Print all variables as NAME=VALUE, sorted by name."
    | .clear => described "Clear the terminal screen."
  Text.unlines (lines ++ optionLines)

/-- A thing that is no command but has a description. -/
structure Topic where
  name : String
  /-- How it is written. -/
  form : String
  /-- What it does, in one line. -/
  about : String
  /-- Further lines. -/
  more : List String
deriving DecidableEq, Repr

/-- The topics beside the commands. -/
def topics : List Topic :=
  [⟨"select", "select <field1>,<field2>,...",
      "Keep only the named fields of a map output (pipe operation).",
      ["Example: sysinfo | select os,arch"]⟩,
    ⟨"pp", "pp",
      "Pretty print the output as an indented key/value listing (pipe operation).",
      ["Example: ls | pp"]⟩,
    ⟨"tt", "tt", "Print the output as a table (pipe operation).", ["Example: ls | tt"]⟩,
    ⟨"forloop", "forloop <range> as $<var> do \x7b <cmd>; <cmd> \x7d",
      "Run the body once per value. Ranges: A..B, a,b,c or N (0..N-1).",
      ["Example: forloop 1..3 as $n do \x7b echo $n \x7d"]⟩,
    ⟨"foreach", "foreach <list> as $<var> do \x7b <cmd>; <cmd> \x7d",
      "Run the body once per item. Lists: [a b \"c d\"] or \"a\"|\"b\".",
      ["Example: foreach [md5 sha256] as $h do \x7b $h hello \x7d"]⟩,
    ⟨"set", "set <name> [=] <value...>",
      "Set a variable. Also: let, NAME=VALUE, export NAME=VALUE, $NAME value.",
      ["Reference it later as $name or $\x7bname\x7d."]⟩,
    ⟨"exit", "exit", "Exit the shell. Same as quit or Ctrl-D.", []⟩]

/-- The description of a topic. -/
def Topic.text (t : Topic) : String :=
  Text.unlines (t.form :: (t.about :: t.more).map ("  " ++ ·))

/-! ## What commands print -/

/-- A text with spaces up to a width. -/
def padRight (width : Nat) (s : String) : String :=
  s ++ String.ofList (List.replicate (width - s.length) ' ')

/-- A text after spaces up to a width. -/
def padLeft (width : Nat) (s : String) : String :=
  String.ofList (List.replicate (width - s.length) ' ') ++ s

/-- A name and a line about it. -/
def entry (name about : String) : String :=
  "  " ++ padRight 10 name ++ " " ++ about

/-- The overview of everything there is. -/
def overview : String :=
  Text.unlines
    (["T-REX SHELL - Built-in Commands", ""] ++ all.map (fun b => entry b.name b.summary) ++
      ["", "Operators and constructs", ""] ++ topics.map (fun t => entry t.name t.about) ++
      ["", "Anything else runs a module. Use 'help <command>' for details."])

/-- The description of a command, a topic or a module. -/
def describe (view : View) (subject : String) : String :=
  match ofName? subject with
  | some b => b.usage
  | none =>
    match topics.find? fun t => t.name == subject with
    | some t => t.text
    | none =>
      match view.find? subject with
      | some path => subject ++ ": module at " ++ path.text ++ "\n"
      | none => "No help available for: " ++ subject ++ "\n"

/-- The last lines of the history with their positions. -/
def listHistory (view : View) (count : Option Nat) : String :=
  let shown := view.history.last (count.getD view.history.entries.length)
  Text.unlines (shown.map fun (n, line) => padLeft 5 (toString n) ++ "  " ++ line)

/-- The names of the modules, or where none was found. -/
def listModules (view : View) : String :=
  if view.available.isEmpty then
    "no modules found in: " ++ Text.join ":" (view.searchPaths.map Path.text) ++ "\n"
  else Text.unlines view.available

/-- The variables and their values. -/
def listVars (view : View) : String :=
  Text.unlines (view.store.toList.map fun (name, value) => name ++ "=" ++ value)

/-- The text of a command with arguments that are in order. -/
def output (b : Builtin) (view : View) (a : Arguments) : String :=
  match b with
  | .help =>
    match a.first? with
    | none => overview
    | some subject => describe view subject
  | .history => listHistory view (a.first?.bind fun count => (Numeral.natural count).toOption)
  | .modules => listModules view
  | .vars => listVars view
  | .clear => "\x1b[2J\x1b[H"

/-- What a command prints, or what is wrong with its arguments. -/
def run (b : Builtin) (view : View) (arguments : List String) : Except String String :=
  match Arguments.read b.signature arguments with
  | .error fault => .error (Text.trimEnd fault.message)
  | .ok a => .ok (if a.helpAsked then b.usage else b.output view a)

example : (clear.run ⟨Store.empty, History.new 1, fun _ => none, [], []⟩ ["x"]) =
    .error "Unrecognized argument: x" := by rfl
example : describe ⟨Store.empty, History.new 1, fun _ => none, [], []⟩ "nmap" =
    "No help available for: nmap\n" := by decide +kernel

end Builtin

end JsonShell
