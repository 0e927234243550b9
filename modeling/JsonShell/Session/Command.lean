import JsonShell.Builtin
import JsonShell.File.Tree
import JsonShell.Line.Pipe
import JsonShell.Line.Token
import JsonShell.Loop.Basic
import JsonShell.Variable.Assignment

/-!
# What a line is

A line, without the blanks around it, is the first of these that fits: nothing, the path of a
script, an assignment, a loop, a pipeline, a built-in command, or a call of a module.  Variables
play no part in this.
-/

set_option autoImplicit false

namespace JsonShell

/-- What a line is. -/
inductive Command where
  | nothing
  | script (path : Path)
  | assignment (a : Assignment)
  | loop (l : Loop)
  | pipeline (line : String)
  /-- A built-in command and its arguments, not expanded. -/
  | builtin (b : Builtin) (args : List String)
  /-- A module and its arguments, not expanded. -/
  | call (name : String) (args : List String)
deriving DecidableEq, Repr

namespace Command

/-- The command that words make. -/
def ofWords : List String → Command
  | [] => .nothing
  | name :: args =>
    match Builtin.ofName? name with
    | some b => .builtin b args
    | none => .call name args

/-- The command that a line is; it depends on the files which texts are scripts. -/
def ofLine (files : FileTree) (line : String) : Command :=
  let line := Text.trim line
  if line = "" then .nothing
  else if files.isFile ⟨line⟩ then .script ⟨line⟩
  else
    match Assignment.parse? line with
    | some a => .assignment a
    | none =>
      match Loop.parse? line with
      | some l => .loop l
      | none => if hasPipe line then .pipeline line else ofWords (tokenize line)

example : ofLine (FileTree.empty []) "  help me " = .builtin .help ["me"] := by decide +kernel
example : ofLine (FileTree.empty []) "x = a | b" = .assignment ⟨"x", "a | b"⟩ := by decide +kernel
example : ofLine (FileTree.empty []) "help | pp" = .pipeline "help | pp" := by decide +kernel
example : ofLine (FileTree.empty []) "\"\"" = .nothing := by decide +kernel

end Command

end JsonShell
