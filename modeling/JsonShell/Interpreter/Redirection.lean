import JsonShell.Interpreter.Expansion

/-!
# Redirections

A redirection makes a descriptor stand for a file, for what another descriptor stands for, or for a
text of the script.  A few paths name streams and not files.  A redirection that cannot be made is a
failure of the command that it belongs to.
-/

set_option autoImplicit false

namespace JsonShell.Interpreter

namespace Shell

/-- What is told about a file that cannot be opened. -/
def openFault (creates : Bool) : FileFault → String
  | .notFound | .notDirectory => if creates then "Directory nonexistent" else "No such file"
  | .isDirectory => "Is a directory"
  | .alreadyExists => "File exists"
  | .nameTooLong => "File name too long"
  | _ => "Permission denied"

/-- The descriptor that a path names. -/
def namedDescriptor? (path : Octets) : Option Nat :=
  match String.ofList path with
  | "/dev/stdin" => some 0
  | "/dev/stdout" => some 1
  | "/dev/stderr" => some 2
  | _ => if "/dev/fd/".toList.isPrefixOf path then natural? (path.drop 8) else none

/-- Opens a file as it is, or an empty one if there is none. -/
def openExisting (path : Octets) (reads writes appends : Bool) :
    Shell (Except FileFault Stream) := do
  match (← files).find (pathOf path) with
  | .ok (place, .file _) => return .ok (.file place 0 reads writes appends)
  | .ok (place, .directory) =>
    return if writes then .error .isDirectory else .ok (.file place 0 reads writes appends)
  | .error fault => return .error fault

/-- Opens a file for writing, which is made if there is none; `clears` takes its content away. -/
def openWritable (path : Octets) (clears reads appends : Bool) :
    Shell (Except FileFault Stream) := do
  let change (t : FileTree) : Except FileFault FileTree :=
    if clears then t.write (pathOf path) [] else t.append (pathOf path) []
  match ← changeFiles change with
  | some fault => return .error fault
  | none => openExisting path reads true appends

/-- Opens the stream that a path leads to. -/
def openPath (path : Octets) (mode : OpenMode) : Shell (Except FileFault Nat) := do
  match namedDescriptor? path with
  | some d =>
    match ← streamOf? d with
    | some n => return .ok n
    | none => return .error .notFound
  | none =>
    let opened ←
      if path = "/dev/null".toList then pure (Except.ok Stream.nowhere)
      else if path = "/dev/zero".toList then
        pure (Except.ok (if mode = .reading then Stream.reading zeros else Stream.nowhere))
      else
        match mode with
        | .reading => openExisting path true false false
        | .writing => do
          let keeps ← hasOption 'C'
          if keeps && (← files).isFile (pathOf path) then pure (Except.error .alreadyExists)
          else openWritable path true false false
        | .overwriting => openWritable path true false false
        | .appending => openWritable path false false true
        | .both => openWritable path false true false
    match opened with
    | .ok stream => return .ok (← newStream stream)
    | .error fault => return .error fault

/-- A file is made if there is none. -/
def creates : OpenMode → Bool
  | .reading => false
  | _ => true

/-- Makes a redirection. -/
def redirect (engine : Engine) : Redirection → Shell Unit
  | .file descriptor mode w => do
    let path ← wholeText engine w
    match ← openPath path mode with
    | .ok n => setDescriptor descriptor (some n)
    | .error fault =>
      failWith ((if creates mode then "cannot create " else "cannot open ").toList ++ path ++
        ": ".toList ++ (openFault (creates mode) fault).toList)
  | .copy descriptor w => do
    let source ← wholeText engine w
    match source with
    | ['-'] => setDescriptor descriptor none
    | [d] =>
      if d.isDigit then
        match ← streamOf? (d.toNat - 48) with
        | some n => setDescriptor descriptor (some n)
        | none => failWith (d :: ": Bad file descriptor".toList)
      else failWith "Syntax error: Bad fd number".toList
    | _ => failWith "Syntax error: Bad fd number".toList
  | .text descriptor w => do
    let text ← textOf engine .quoted w
    setDescriptor descriptor (some (← newStream (.reading text)))

/-- The descriptor that a redirection changes. -/
def redirected : Redirection → Nat
  | .file descriptor _ _ => descriptor
  | .copy descriptor _ => descriptor
  | .text descriptor _ => descriptor

/-- Makes redirections; the answer tells whether they could be made. -/
def redirectAll (engine : Engine) (rs : List Redirection) : Shell Bool := do
  match ← catching (rs.forM (redirect engine)) with
  | .ok () => return true
  | .error (.failed status) =>
    setStatus status
    return false
  | .error jump => throw jump

/-- Gives descriptors the streams back that they stood for. -/
def restore (rs : List Redirection) (old : List (Nat × Nat)) : Shell Unit :=
  rs.forM fun r => setDescriptor (redirected r) (old.lookup (redirected r))

/-- Runs an action under redirections, and another one if these cannot be made. -/
def withRedirections (engine : Engine) (rs : List Redirection) (action failing : Shell Unit) :
    Shell Unit := do
  let old := (← process).descriptors
  finally'
    (do
      if ← redirectAll engine rs then action else failing)
    (restore rs old)

end Shell

end JsonShell.Interpreter
