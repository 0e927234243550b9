import JsonShell.Interpreter.Utility.Basic

/-!
# Names of files

`basename` and `dirname` cut paths apart as texts, without a look at the files.
-/

set_option autoImplicit false

namespace JsonShell.Interpreter.Utility

open Shell

/-- A path without slashes at its end, unless it is nothing else. -/
def dropFinalSlashes (path : Octets) : Octets :=
  match path.reverse.dropWhile (· == '/') with
  | [] => if path.isEmpty then [] else ['/']
  | rest => rest.reverse

/-- The last component of a path. -/
def lastComponent (path : Octets) : Octets :=
  let path := dropFinalSlashes path
  if path = ['/'] then path else (path.reverse.takeWhile (· != '/')).reverse

/-- A name without an ending that is not all of it. -/
def dropEnding (ending name : Octets) : Octets :=
  if ending.isSuffixOf name && ending ≠ name then name.take (name.length - ending.length) else name

/-- The path of the directory that a path is in. -/
def directoryPart (path : Octets) : Octets :=
  let path := dropFinalSlashes path
  if path = ['/'] then path
  else
    match path.reverse.dropWhile (· != '/') with
    | [] => ['.']
    | rest => dropFinalSlashes rest.reverse

/-- `basename`. -/
def basename : Utility := fun _ args =>
  let g : Grammar := ⟨"as:z", [("multiple", 'a'), ("suffix", 's'), ("zero", 'z')]⟩
  withCall "basename" g 1 true args fun c => do
    let ending := if c.has 'z' then ['\x00'] else ['\n']
    let isMultiple := c.has 'a' || c.has 's'
    match c.operands with
    | [] => misuse "basename" "missing operand".toList 1
    | paths =>
      if isMultiple then
        for path in paths do
          write 1 (dropEnding ((c.value? 's').getD []) (lastComponent path) ++ ending)
        return 0
      else
        match paths with
        | path :: rest =>
          match rest with
          | _ :: extra :: _ => misuse "basename" ("extra operand ".toList ++ quoted extra) 1
          | rest =>
            write 1 (dropEnding (rest.headD []) (lastComponent path) ++ ending)
            return 0
        | [] => return 0

/-- `dirname`. -/
def dirname : Utility := fun _ args =>
  withCall "dirname" ⟨"z", [("zero", 'z')]⟩ 1 true args fun c => do
    match c.operands with
    | [] => misuse "dirname" "missing operand".toList 1
    | paths =>
      for path in paths do
        write 1 (directoryPart path ++ (if c.has 'z' then ['\x00'] else ['\n']))
      return 0

example : lastComponent "a/b.c/".toList = "b.c".toList ∧ directoryPart "a//b/".toList = ['a'] := by
  decide +kernel
example : directoryPart "/x".toList = ['/'] ∧ directoryPart "x".toList = ['.'] := by decide +kernel

end JsonShell.Interpreter.Utility
