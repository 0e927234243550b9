import JsonShell.Interpreter.Execute

/-!
# Running programs

`run` starts a program as a process of its own, with arguments, an environment, files and an input,
and takes the process to its end and all jobs that it leaves behind.  What is left is what has been
printed on the two channels, the way in which the process ended, the files, and the rest of the
input.

The interpreter only stands in for programs outside of the shell: for the one that runs module
scripts, and for those that such scripts call.  The shell reaches it through a `Runner` and in no
other way (`ScriptModules.runner`).  What is proved of the shell holds for every runner, and nothing
is proved of these programs.
-/

set_option autoImplicit false

namespace JsonShell.Interpreter

/-- What a program is started with. -/
structure Setting where
  files : FileTree
  environment : Dictionary String
  input : Bytes

/-- What a program leaves when it has ended. -/
structure Finished where
  out : Bytes
  err : Bytes
  ending : Ending
  files : FileTree
  /-- The input that nobody has read. -/
  input : Bytes

/-- The program of a name or of a path in one of the directories for programs. -/
def program? (name : String) : Option Shell.Program :=
  let text := Octets.ofString name
  let last := (text.reverse.takeWhile (· != '/')).reverse
  let start := text.take (text.length - last.length - 1)
  let isPlace :=
    last = text || (Shell.programDirectories.contains start && last.length < text.length)
  if isPlace && Shell.isUtility (Octets.key last) then
    some (.utility (Octets.key last) (if last = text then "/usr/bin/".toList ++ text else text))
  else none

/-- What every script can count on to be there. -/
def standardNodes : List (Place × Node) :=
  (["bin", "dev", "etc", "home", "proc", "root", "tmp", "usr", "var"].map fun name =>
    ([name.toList], .directory)) ++
  [(["usr".toList, "bin".toList], .directory), (["usr".toList, "lib".toList], .directory),
    (["var".toList, "tmp".toList], .directory), (["dev".toList, "null".toList], .file [])]

/-- The standard nodes that are not among the files of somebody. -/
def addedNodes (t : FileTree) : List (Place × Node) :=
  standardNodes.filter fun node => (t.lookup node.1).isNone

/-- The files with some nodes added. -/
def withNodes (t : FileTree) (nodes : List (Place × Node)) : FileTree :=
  { t with nodes := t.nodes ++ nodes }

/-- The files without the nodes that have been added. -/
def withoutNodes (t : FileTree) (nodes : List (Place × Node)) (current : Place) : FileTree :=
  { nodes := t.nodes.filter fun node => !nodes.contains node, current := current }

/-- What is at a path, among files to which the standard nodes are added. -/
def findStandard (t : FileTree) (path : Path) : Except FileFault (Place × Node) :=
  (withNodes t (addedNodes t)).find path

/-- The number of the process that starts programs. -/
def firstNumber : Nat := 100

/-- The process that starts a program: its descriptors stand for the input and the two channels. -/
def firstProcess (s : Setting) : Process :=
  { number := firstNumber
    shell := firstNumber
    ancestors := []
    name := []
    args := []
    bindings := s.environment.map fun (name, value) =>
      (name, ⟨some (Octets.ofString value), true, false⟩)
    functions := []
    aliases := []
    options := []
    descriptors := [(0, 0), (1, 1), (2, 2)]
    directory := s.files.current
    traps := []
    status := 0
    outputStatus := 0
    lastJob := none
    line := 0
    commandName := none
    loopDepth := 0
    functionDepth := 0
    saved := []
    optionOffset := 0
    endStatus := none }

/-- The world in which a program starts. -/
def firstWorld (s : Setting) : World :=
  { files := withNodes s.files (addedNodes s.files)
    streams := #[.reading (Octets.ofBytes s.input), .writing false [], .writing false []]
    jobs := []
    ended := []
    signals := []
    lastNumber := firstNumber
    programs := [] }

/-- What has been written to a stream. -/
def World.written (w : World) (stream : Nat) : Bytes :=
  match w.streams[stream]? with
  | some (.writing _ text) => Octets.toBytes text.reverse
  | _ => []

/-- What is left to be read from a stream. -/
def World.unread (w : World) (stream : Nat) : Bytes :=
  match w.streams[stream]? with
  | some (.reading rest) => Octets.toBytes rest
  | _ => []

/-- Runs a program with arguments, of which the first one is the name that it goes by. -/
def run (s : Setting) (program : Shell.Program) (args : List String) : Finished :=
  let course := Shell.runApart (Shell.engine Shell.depthLimit) program (args.map Octets.ofString)
  let (ending, m) : Ending × Machine := match course ⟨firstWorld s, firstProcess s⟩ with
    | .ok ending m => (ending, m)
    | .error _ m => (.status 2, m)
  { out := m.world.written 1
    err := m.world.written 2
    ending := ending
    files := withoutNodes m.world.files (addedNodes s.files) s.files.current
    input := m.world.unread 0 }

end JsonShell.Interpreter
