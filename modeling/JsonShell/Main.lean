import JsonShell.CommandLine.Run
import Std.Time.Format

/-!
# The program

Everything that the program does is decided by `CommandLine`.  What is left for this module is to
get the files that a session may look at, to print what is to be printed, and to write back the
files that have changed.  At a terminal the lines of a session are read one by one, after a prompt;
other input is taken as a whole.
-/

set_option autoImplicit false

namespace JsonShell

/-- The time, to the second. -/
def currentTime : IO String := do
  let now ← Std.Time.Timestamp.now
  return (Std.Time.DateTime.ofTimestamp now Std.Time.TimeZone.ZoneRules.UTC).toISO8601String

/-- The variables of the environment that modules are given. -/
def currentEnvironment : IO (Dictionary String) := do
  let mut found : Dictionary String := []
  for name in ["HOME", "USER", "PATH", "LANG", "TERM"] do
    if let some value ← IO.getEnv name then
      found := Dictionary.insert name value found
  return found

/-- The path of a place. -/
def pathOfPlace (place : Place) : String :=
  "/" ++ Text.join "/" (place.map String.ofList)

/-- The place of an absolute path. -/
def placeOfPath (path : String) : Place :=
  (Text.splitOn '/' path.toList).filter (!·.isEmpty)

/-- Takes in what is at a place, as many levels down as given.  What cannot be read is left out. -/
def takeIn : Nat → FileTree → Place → IO FileTree
  | 0, t, _ => return t
  | levels + 1, t, place => do
    try
      let real ← IO.FS.realPath (pathOfPlace place)
      if ← real.isDir then
        let mut t := t.put place .directory
        for entry in ← real.readDir do
          t ← takeIn levels t (place ++ [entry.fileName.toList])
        return t
      else if (← real.metadata).type == .file then
        return t.put place (.file (← IO.FS.readBinFile real).toList)
      else
        return t
    catch _ =>
      return t

/-- How many levels of directories below the current directory are looked at. -/
def levels : Nat := 6

/-- The files with the directories that lead to a place. -/
def leadingTo (place : Place) (t : FileTree) : FileTree :=
  { t with nodes := t.nodes ++ (FileTree.empty place.dropLast).nodes }

/-- The files at the start: those below the current directory, the user's own, and those in the
directories that the configuration names. -/
def currentFiles (home : Option String) : IO FileTree := do
  let directory := placeOfPath (← IO.currentDir).toString
  let mut t ← takeIn levels (FileTree.empty directory) directory
  match home with
  | none => return t
  | some home =>
    let own := placeOfPath (Config.directory ⟨home⟩).text
    t ← takeIn levels (leadingTo own t) own
    for path in (CommandLine.readConfig t (some ⟨home⟩)).config.modulePaths do
      if path.text.toList.head? = some '/' then
        let place := placeOfPath path.text
        t ← takeIn levels (leadingTo place t) place
    return t

/-- Takes away what is no longer there, the deepest places first. -/
def takeAway (before after : FileTree) : IO Unit := do
  let gone := (before.nodes.map Prod.fst).filter fun place => (after.lookup place).isNone
  for place in gone.mergeSort fun a b => b.length ≤ a.length do
    let path := pathOfPlace place
    if before.lookup place = some .directory then IO.FS.removeDir path else IO.FS.removeFile path

/-- Writes back what has changed, directories before what is in them. -/
def writeBack (before after : FileTree) : IO Unit := do
  takeAway before after
  for (place, node) in after.nodes.mergeSort fun a b => a.1.length ≤ b.1.length do
    if before.lookup place ≠ some node then
      match node with
      | .directory => IO.FS.createDirAll (pathOfPlace place)
      | .file content => IO.FS.writeBinFile (pathOfPlace place) ⟨content.toArray⟩

/-- Prints on both channels. -/
def printBoth (out err : String) : IO Unit := do
  let stdout ← IO.getStdout
  let stderr ← IO.getStderr
  stdout.putStr out
  stdout.flush
  stderr.putStr err
  stderr.flush

/-- Prints what the program leaves and writes back its files. -/
def leave (before : FileTree) (o : CommandLine.Outcome) : IO UInt32 := do
  printBoth o.out o.err
  writeBack before o.files
  return UInt32.ofNat o.code

/-- What is told when lines run each other too deeply. -/
def giveUp : IO UInt32 := do
  printBoth "" "Error: lines run each other too deeply\n"
  return 1

/-- All bytes of an input. -/
partial def readAll (input : IO.FS.Stream) (read : ByteArray) : IO ByteArray := do
  let chunk ← input.read 65536
  if chunk.isEmpty then return read else readAll input (read ++ chunk)

/-- The host, as far as it is known. -/
def currentHost : IO String := do
  try
    return Text.trim (← IO.FS.readFile "/etc/hostname")
  catch _ =>
    return "localhost"

/-- Reads the lines of a session at a terminal. -/
partial def converse (input : IO.FS.Stream) (user host : String) (before : FileTree)
    (c : CommandLine.Console) : IO UInt32 := do
  writeBack before c.session.files
  let before := c.session.files
  let directory : Path := ⟨(← IO.currentDir).toString⟩
  printBoth (c.out ++ c.prompt user host directory) c.err
  let c := { c with out := "", err := "" }
  let line ← input.getLine
  if line.isEmpty then leave before (c.finish .endOfInput)
  else
    let c := { c with settings := { c.settings with time := ← currentTime } }
    match c.feed line with
    | none => giveUp
    | some (c, true) => converse input user host before c
    | some (c, false) => leave before (c.finish .said)

/-- Runs the program when the input is a terminal. -/
def programAtTerminal (launch : CommandLine.Launch) (input : IO.FS.Stream) : IO UInt32 := do
  match CommandLine.start launch with
  | none => giveUp
  | some (.ended o) => leave launch.files o
  | some (.reading c) =>
    let user := (Dictionary.find? "USER" launch.environment).getD "user"
    converse input user (← currentHost) launch.files c

/-- Runs the program. -/
def program (args : List String) : IO UInt32 := do
  match CommandLine.readArguments args with
  | .error answer =>
    printBoth answer.out answer.err
    return UInt32.ofNat answer.code
  | .ok _ =>
    let environment ← currentEnvironment
    let files ← currentFiles (Dictionary.find? "HOME" environment)
    let input ← IO.getStdin
    if ← input.isTty then
      programAtTerminal ⟨args, environment, files, [], ← currentTime⟩ input
    else
      let read := (← readAll input .empty).toList
      match CommandLine.run ⟨args, environment, files, read, ← currentTime⟩ with
      | none => giveUp
      | some o => leave files o

end JsonShell

def main (args : List String) : IO UInt32 :=
  JsonShell.program args
