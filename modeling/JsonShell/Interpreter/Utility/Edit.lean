import JsonShell.Interpreter.Utility.Basic
import JsonShell.Interpreter.Utility.Edit.Run

/-!
# The line editor

`sed` runs a script on the lines of its operands, which count as one text unless they are edited in
place or apart.
-/

set_option autoImplicit false

namespace JsonShell.Interpreter.Utility

open Shell

/-- The options of `sed`. -/
def sedGrammar : Grammar :=
  ⟨"bsnrzuEe:f:l:i",
    [("expression", 'e'), ("file", 'f'), ("quiet", 'n'), ("silent", 'n'),
      ("regexp-extended", 'E'), ("separate", 's'), ("in-place", 'i'), ("line-length", 'l'),
      ("null-data", 'z'), ("unbuffered", 'u'), ("posix", 'b'), ("debug", 'b')]⟩

/-- Takes what stands directly after the option for editing in place off the arguments: the ending
of the names of copies, and the other arguments. -/
def takeSuffix : List Octets → Option Octets × List Octets
  | [] => (none, [])
  | ['-', '-'] :: rest => (none, ['-', '-'] :: rest)
  | arg :: rest =>
    let (found, others) := takeSuffix rest
    match arg with
    | '-' :: 'i' :: suffix =>
      if suffix.isEmpty then (found, arg :: others) else (some suffix, ['-', 'i'] :: others)
    | _ =>
      if "--in-place=".toList.isPrefixOf arg then
        (some (arg.drop 11), ['-', 'i'] :: others)
      else (found, arg :: others)

/-- The lines of a text for editing. -/
def editLines (text : Octets) : List Edit.Line :=
  let l := linesOf text
  let last := l.lines.length - 1
  l.lines.zipIdx.map fun (line, i) => ⟨line, l.isWhole || i ≠ last⟩

/-- The lines of several texts as one: only the last line may have no line break. -/
def joinLines : List (List Edit.Line) → List Edit.Line
  | [] => []
  | [last] => last
  | lines :: rest =>
    if rest.all List.isEmpty then lines
    else lines.map (fun l => { l with isBroken := true }) ++ joinLines rest

/-- The script that options and operands give, and the operands that are files. -/
def editScript (c : Call) : Shell (Option Octets × List Octets) := do
  let pieces ← (c.options.filter fun o => o.1 == 'e' || o.1 == 'f').mapM fun (letter, value) => do
    if letter == 'e' then return value
    else
      let text := (← textAt? "sed" value).getD []
      return if text.getLast? == some '\n' then text.dropLast else text
  if pieces.isEmpty then return (c.operands.head?, c.operands.drop 1)
  else return (some ((['\n'] : Octets).intercalate pieces), c.operands)

/-- The text of a file that is read on the way. -/
def contentIn (t : FileTree) (input : Octets) (path : Octets) : Octets :=
  if path = "/dev/stdin".toList then input
  else (textIn t path).toOption.getD []

/-- Writes what a run has written to files, each of which it has emptied before. -/
def writeEdited (script : List Edit.Instruction) (written : List (Octets × Octets)) :
    Shell Unit := do
  let paths := script.filterMap fun i => match i.action with
    | .writeFile path | .writeFirst path => some path
    | .substitute s => s.file
    | _ => none
  for path in paths.eraseDups do
    let text := (written.filter fun w => w.1 == path).flatMap Prod.snd
    if path = "/dev/stderr".toList then write 2 text
    else if path ≠ "/dev/stdout".toList then
      let _ ← changeFiles fun t => t.write (pathOf path) (Octets.toBytes text)

/-- The text of a file to be edited. -/
def editedText? (path : Octets) : Shell (Option Octets) := do
  if isInput path then readAll? 0
  else
    match textIn (← files) path with
    | .ok text => return some text
    | .error .isDirectory =>
      say "sed" ("couldn't edit ".toList ++ path ++ ": not a regular file".toList)
      return none
    | .error fault =>
      say "sed" ("can't read ".toList ++ path ++ ": ".toList ++ (faultText fault).toList)
      return none

/-- Edits files in place, or one after the other. -/
def editEach (script : List Edit.Instruction) (isQuiet inPlace : Bool) (suffix : Octets) :
    List Octets → Shell Nat
  | [] => return 0
  | path :: rest => do
    match ← editedText? path with
    | none =>
      let _ ← editEach script isQuiet inPlace suffix rest
      return if inPlace then 4 else 2
    | some text =>
      let t ← files
      let edited := Edit.Run.edit ⟨contentIn t [], path, isQuiet⟩ script (editLines text)
      if inPlace then
        if !suffix.isEmpty then
          let _ ← changeFiles fun t => t.write (pathOf (path ++ suffix)) (Octets.toBytes text)
        let _ ← changeFiles fun t => t.write (pathOf path) (Octets.toBytes edited.printed)
      else write 1 edited.printed
      writeEdited script edited.written
      if edited.hasQuit then return edited.status
      else
        let status ← editEach script isQuiet inPlace suffix rest
        return max edited.status status

/-- Edits all operands as one text. -/
def editAll (script : List Edit.Instruction) (isQuiet : Bool) (paths : List Octets) :
    Shell Nat := do
  let texts ← paths.mapM editedText?
  let lines := joinLines ((texts.filterMap id).map editLines)
  let t ← files
  let edited := Edit.Run.edit ⟨contentIn t [], (paths.head?).getD ['-'], isQuiet⟩ script lines
  write 1 edited.printed
  writeEdited script edited.written
  return if edited.status ≠ 0 then edited.status else if texts.any Option.isNone then 2 else 0

/-- `sed`. -/
def sed : Utility := fun _ args =>
  let (suffix, args) := takeSuffix args
  withCall "sed" sedGrammar 1 false args fun c => do
    match ← editScript c with
    | (none, _) =>
      write 2 "Usage: sed [OPTION]... [script] [input-file]...\n".toList
      return 1
    | (some text, operands) =>
      let isQuiet := c.has 'n' || "#n\n".toList.isPrefixOf text
      match Edit.read (c.has 'E' || c.has 'r') text with
      | .error fault =>
        say "sed" (fault.text text.length)
        return 1
      | .ok script =>
        let paths := if operands.isEmpty then [['-']] else operands
        if c.has 'i' || c.has 's' then
          editEach script isQuiet (c.has 'i') (suffix.getD []) paths
        else editAll script isQuiet paths

end JsonShell.Interpreter.Utility
