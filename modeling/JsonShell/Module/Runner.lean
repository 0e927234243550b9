import JsonShell.Failure
import JsonShell.File.Tree
import JsonShell.Record

/-!
# Runners

The shell knows modules only through a *runner*: something that finds modules by name and calls
them.  A runner has a state of its own, and a call may change that state and the files.
-/

set_option autoImplicit false

namespace JsonShell

/-- What a call came to: the runner and the files after it, the lines that the module wrote beside
its answer, and the answer, which may be that there is no record. -/
structure Invocation (ρ : Type) where
  runner : ρ
  files : FileTree
  chatter : List String
  answer : Except Failure (Option Record)

/-- The ways to find and call modules from a state of type `ρ`. -/
structure Runner (ρ : Type) where
  /-- The path of a module. -/
  find? : ρ → FileTree → String → Option Path
  /-- Calls a module with arguments. -/
  invoke : ρ → FileTree → String → List String → Invocation ρ
  /-- The names of all modules that can be called, in order. -/
  available : ρ → FileTree → List String
  /-- The directories that modules are looked for in. -/
  searchPaths : ρ → List Path
  /-- The file name that a module of some name would have. -/
  fileName : ρ → String → String

end JsonShell
