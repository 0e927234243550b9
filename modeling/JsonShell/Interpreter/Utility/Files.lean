import JsonShell.Interpreter.Integer
import JsonShell.Interpreter.Utility.Names

/-!
# Changing files

Utilities that make, copy, move and remove files and directories.  A file may be run as a program if
its place is among the programs of the world; that goes with it when it is copied or moved.
-/

set_option autoImplicit false

namespace JsonShell.Interpreter.Utility

open Shell

/-- A path in a directory. -/
def within (directory name : Octets) : Octets :=
  if directory.getLast? == some '/' then directory ++ name else directory ++ '/' :: name

/-- What is at a path. -/
def nodeAt (path : Octets) : Shell (Except FileFault (Place × Node)) := do
  return (← files).find (pathOf path)

/-- There is a directory at a path. -/
def hasDirectory (path : Octets) : Shell Bool := do
  return (← files).isDirectory (pathOf path)

/-- Says why something could not be done to a path. -/
def sayCannot (name deed : String) (path : Octets) (fault : FileFault) : Shell Unit :=
  say name (deed.toList ++ ' ' :: quoted path ++ ": ".toList ++ (faultText fault).toList)

/-- Changes the places of programs. -/
def modifyPrograms (f : List Place → List Place) : Shell Unit :=
  modifyWorld fun w => { w with programs := f w.programs }

/-! ## Removing -/

/-- The path ends with the name of a directory itself. -/
def isDotPath (path : Octets) : Bool :=
  let last := lastComponent path
  last = ['.'] || last = ['.', '.']

/-- Removes what is at a path. -/
def removePath (c : Call) (path : Octets) : Shell Bool := do
  let isDeep := c.has 'r' || c.has 'R'
  let tell (text : String) : Shell Unit := do
    if c.has 'v' then write 1 (text.toList ++ ' ' :: quoted path ++ ['\n'])
  match ← nodeAt path with
  | .error .notFound =>
    if !c.has 'f' then sayCannot "rm" "cannot remove" path .notFound
    return c.has 'f'
  | .error fault =>
    if fault = .notDirectory && c.has 'f' then return true
    else
      sayCannot "rm" "cannot remove" path fault
      return false
  | .ok (place, .file _) =>
    setFiles ((← files).erase place)
    modifyPrograms fun ps => ps.filter (· ≠ place)
    tell "removed"
    return true
  | .ok (place, .directory) =>
    if isDotPath path && (isDeep || c.has 'd') then
      say "rm" ("refusing to remove '.' or '..' directory: skipping ".toList ++ quoted path)
      return false
    else if isDeep then
      setFiles ((← files).erase place)
      modifyPrograms fun ps => ps.filter fun p => !FileTree.isWithin p place
      tell "removed directory"
      return true
    else if c.has 'd' then
      match ← changeFiles fun t => t.removeDirectory (pathOf path) with
      | none => return true
      | some fault =>
        sayCannot "rm" "cannot remove" path fault
        return false
    else
      sayCannot "rm" "cannot remove" path .isDirectory
      return false

/-- `rm`. -/
def rm : Utility := fun _ args =>
  let g : Grammar := ⟨"dfiIrRv", [("recursive", 'r'), ("force", 'f'), ("verbose", 'v'),
    ("dir", 'd')]⟩
  withCall "rm" g 1 false args fun c => do
    if c.operands.isEmpty && !c.has 'f' then misuse "rm" "missing operand".toList 1
    else statusOf <$> forAll c.operands (removePath c)

/-- The directories that lead to a path, the path itself first. -/
def ancestorsOf : Nat → Octets → List Octets
  | 0, path => [path]
  | fuel + 1, path =>
    let parent := directoryPart path
    if parent = ['.'] || parent = ['/'] || parent = path then [path]
    else path :: ancestorsOf fuel parent

/-- Removes directories, up to the first one that cannot be removed. -/
def removeEmpty (c : Call) : List Octets → Shell Bool
  | [] => return true
  | path :: rest => do
    match ← changeFiles fun t => t.removeDirectory (pathOf path) with
    | none => removeEmpty c rest
    | some fault =>
      if fault = .notEmpty && c.has 'i' then return true
      else
        sayCannot "rmdir" "failed to remove" path fault
        return false

/-- `rmdir`. -/
def rmdir : Utility := fun _ args =>
  let g : Grammar := ⟨"pvi", [("parents", 'p'), ("verbose", 'v'),
    ("ignore-fail-on-non-empty", 'i')]⟩
  withCall "rmdir" g 1 false args fun c => do
    if c.operands.isEmpty then misuse "rmdir" "missing operand".toList 1
    else
      statusOf <$> forAll c.operands fun path =>
        removeEmpty c (if c.has 'p' then ancestorsOf path.length path else [path])

/-! ## Making -/

/-- `mkdir`. -/
def mkdir : Utility := fun _ args =>
  let g : Grammar := ⟨"m:pv", [("mode", 'm'), ("parents", 'p'), ("verbose", 'v')]⟩
  withCall "mkdir" g 1 false args fun c => do
    if c.operands.isEmpty then misuse "mkdir" "missing operand".toList 1
    else
      statusOf <$> forAll c.operands fun path => do
        let make (t : FileTree) : Except FileFault FileTree :=
          if c.has 'p' then t.makeDirectories (pathOf path) else t.makeDirectory (pathOf path)
        match ← changeFiles make with
        | none =>
          if c.has 'v' then write 1 ("mkdir: created directory ".toList ++ quoted path ++ ['\n'])
          return true
        | some fault =>
          sayCannot "mkdir" "cannot create directory" path fault
          return false

/-- `touch`. -/
def touch : Utility := fun _ args =>
  let g : Grammar := ⟨"acd:fhmr:t:", [("no-create", 'c'), ("date", 'd'), ("reference", 'r')]⟩
  withCall "touch" g 1 false args fun c => do
    if c.operands.isEmpty then misuse "touch" "missing file operand".toList 1
    else
      statusOf <$> forAll c.operands fun path => do
        let t ← files
        if t.isDirectory (pathOf path) || (c.has 'c' && !t.isPresent (pathOf path)) then return true
        else
          match ← changeFiles fun t => t.append (pathOf path) [] with
          | none => return true
          | some fault =>
            sayCannot "touch" "cannot touch" path fault
            return false

/-! ## Copying and moving -/

/-- Where copies go: operands and options say a directory, or one target. -/
inductive Target where
  | directory (path : Octets)
  | path (path : Octets)

/-- The sources and the target of a call, or the complaint about them. -/
def sourcesAndTarget (name : String) (c : Call) :
    Shell (Except (Shell Nat) (List Octets × Target)) := do
  match c.value? 't' with
  | some directory =>
    if c.operands.isEmpty then return .error (misuse name "missing file operand".toList 1)
    else return .ok (c.operands, .directory directory)
  | none =>
    match c.operands, c.operands.getLast? with
    | [only], _ =>
      return .error
        (misuse name ("missing destination file operand after ".toList ++ quoted only) 1)
    | _ :: _ :: _, some last =>
      let isDirectory ← hasDirectory last
      let sources := c.operands.dropLast
      if isDirectory && !c.has 'T' then return .ok (sources, .directory last)
      else if sources.length = 1 then return .ok (sources, .path last)
      else
        return .error do
          say name ("target ".toList ++ quoted last ++ ": ".toList ++
            (if (← files).isPresent (pathOf last) then "Not a directory"
              else "No such file or directory").toList)
          return 1
    | _, _ => return .error (misuse name "missing file operand".toList 1)

/-- The path at which a source arrives. -/
def arrival (source : Octets) : Target → Octets
  | .directory path => within path (lastComponent source)
  | .path path => path

/-- Copies what is at a place, with all that is below it. -/
def copyTree (t : FileTree) (source destination : Place) : FileTree :=
  let copies := (t.nodes.filter fun e => FileTree.isWithin e.1 source).map fun e =>
    (destination ++ e.1.drop source.length, e.2)
  copies.reverse.foldl (fun t e => t.put e.1 e.2) t

/-- The place that a path would have, if its directory is there. -/
def placeFor (path : Octets) : Shell (Except FileFault Place) := do
  let t ← files
  match t.target (FileTree.dropSlashes (pathOf path)) with
  | .ok (place, name) =>
    if FileTree.isSpecial name then
      return (t.find (pathOf path)).map Prod.fst
    else return .ok (place ++ [name])
  | .error fault => return .error fault

/-- Tells of a copy or a move. -/
def tellMove (c : Call) (word : String) (source destination : Octets) : Shell Unit := do
  if c.has 'v' then
    write 1 (word.toList ++ quoted source ++ " -> ".toList ++ quoted destination ++ ['\n'])

/-- Copies a source. -/
def copyOne (c : Call) (target : Target) (source : Octets) : Shell Bool := do
  let destination := arrival source target
  let isDeep := c.has 'r' || c.has 'R' || c.has 'a'
  match ← nodeAt source with
  | .error fault =>
    sayCannot "cp" "cannot stat" source fault
    return false
  | .ok (place, node) =>
    if node = .directory && !isDeep then
      say "cp" ("-r not specified; omitting directory ".toList ++ quoted source)
      return false
    match ← placeFor destination with
    | .error fault =>
      let deed := if fault = .notDirectory then "cannot stat"
        else if node = .directory then "cannot create directory" else "cannot create regular file"
      sayCannot "cp" deed destination fault
      return false
    | .ok goal =>
      let old := (← files).lookup goal
      match node, old with
      | .file _, some .directory =>
        say "cp" ("cannot overwrite directory ".toList ++ quoted destination ++
          " with non-directory".toList)
        return false
      | .file content, _ =>
        if goal = place then
          say "cp" (quoted source ++ " and ".toList ++ quoted destination ++
            " are the same file".toList)
          return false
        else if c.has 'n' && old.isSome then return true
        else if destination.getLast? == some '/' then
          sayCannot "cp" "cannot create regular file" destination .notDirectory
          return false
        else
          setFiles ((← files).put goal (.file content))
          if old.isNone then
            modifyPrograms fun ps => if ps.contains place then goal :: ps else ps
          tellMove c "" source destination
          return true
      | .directory, some (.file _) =>
        say "cp" ("cannot overwrite non-directory ".toList ++ quoted destination ++
          " with directory ".toList ++ quoted source)
        return false
      | .directory, _ =>
        setFiles (copyTree (← files) place goal)
        modifyPrograms fun ps =>
          ps ++ (ps.filter fun p => FileTree.isWithin p place).map fun p =>
            goal ++ p.drop place.length
        if FileTree.isWithin goal place then
          say "cp" ("cannot copy a directory, ".toList ++ quoted source ++
            ", into itself, ".toList ++ quoted destination)
          return false
        else
          tellMove c "" source destination
          return true

/-- `cp`. -/
def cp : Utility := fun _ args =>
  let g : Grammar := ⟨"abdfHilLnpPrRst:Tuvx", [("recursive", 'r'), ("archive", 'a'), ("force", 'f'),
    ("no-clobber", 'n'), ("verbose", 'v'), ("target-directory", 't'), ("no-target-directory", 'T')]⟩
  withCall "cp" g 1 false args fun c => do
    match ← sourcesAndTarget "cp" c with
    | .error complaint => complaint
    | .ok (sources, target) => statusOf <$> forAll sources (copyOne c target)

/-- Moves a source. -/
def moveOne (c : Call) (target : Target) (source : Octets) : Shell Bool := do
  let destination := arrival source target
  match ← nodeAt source with
  | .error fault =>
    sayCannot "mv" "cannot stat" source fault
    return false
  | .ok (place, node) =>
    match ← placeFor destination with
    | .error fault =>
      say "mv" ("cannot move ".toList ++ quoted source ++ " to ".toList ++ quoted destination ++
        ": ".toList ++ (faultText fault).toList)
      return false
    | .ok goal =>
      let t ← files
      let refuse (text : Octets) : Shell Bool := do
        say "mv" text
        return false
      if goal = place then
        refuse (quoted source ++ " and ".toList ++ quoted destination ++
          " are the same file".toList)
      else if node = .directory && FileTree.isWithin goal place then
        refuse ("cannot move ".toList ++ quoted source ++ " to a subdirectory of itself, ".toList ++
          quoted destination)
      else
        match node, t.lookup goal with
        | .file _, some .directory =>
          refuse ("cannot overwrite directory ".toList ++ quoted destination ++
            " with non-directory".toList)
        | .directory, some (.file _) =>
          refuse ("cannot overwrite non-directory ".toList ++ quoted destination ++
            " with directory ".toList ++ quoted source)
        | node, old =>
          if old.isSome && c.has 'n' then return true
          else if old = some .directory && !(t.childrenOf goal).isEmpty then
            refuse ("cannot move ".toList ++ quoted source ++ " to ".toList ++ quoted destination ++
              ": Directory not empty".toList)
          else if node ≠ .directory && destination.getLast? == some '/' then
            refuse ("cannot move ".toList ++ quoted source ++ " to ".toList ++ quoted destination ++
              ": Not a directory".toList)
          else
            setFiles (t.move place goal)
            modifyPrograms fun ps => (ps.filter (· ≠ goal)).map fun p =>
              if FileTree.isWithin p place then goal ++ p.drop place.length else p
            tellMove c "renamed " source destination
            return true

/-- `mv`. -/
def mv : Utility := fun _ args =>
  let g : Grammar := ⟨"bfint:Tuv", [("force", 'f'), ("no-clobber", 'n'), ("verbose", 'v'),
    ("target-directory", 't'), ("no-target-directory", 'T')]⟩
  withCall "mv" g 1 false args fun c => do
    match ← sourcesAndTarget "mv" c with
    | .error complaint => complaint
    | .ok (sources, target) => statusOf <$> forAll sources (moveOne c target)

/-- `ln`, which makes a copy that is as good as the file itself. -/
def ln : Utility := fun _ args =>
  withCall "ln" ⟨"bdfFinrst:Tv", [("symbolic", 's'), ("force", 'f')]⟩ 1 false args fun c => do
    let c := match c.operands with
      | [only] => { c with operands := [only, lastComponent only] }
      | _ => c
    match ← sourcesAndTarget "ln" c with
    | .error complaint => complaint
    | .ok (sources, target) => statusOf <$> forAll sources fun source => do
      let destination := arrival source target
      match ← nodeAt source, ← placeFor destination with
      | .error fault, _ =>
        sayCannot "ln" "failed to access" source fault
        return false
      | _, .error fault =>
        sayCannot "ln" "failed to create link" destination fault
        return false
      | .ok (place, _), .ok goal =>
        if ((← files).lookup goal).isSome && !c.has 'f' then
          let kind := if c.has 's' then "symbolic" else "hard"
          sayCannot "ln" ("failed to create " ++ kind ++ " link") destination .alreadyExists
          return false
        else
          setFiles (copyTree (← files) place goal)
          modifyPrograms fun ps => if ps.contains place then goal :: ps else ps
          return true

/-! ## Permissions -/

/-- A file may be run as a program after a change of its mode; `none` is a mode that cannot be
read. -/
def runsAfter? (mode : Octets) (runs : Bool) : Option Bool :=
  if mode.all (isDigitOf 8) && !mode.isEmpty then
    some (digitsValue 8 mode % 2 = 1 || digitsValue 8 mode / 8 % 2 = 1 ||
      digitsValue 8 mode / 64 % 2 = 1)
  else
    (Text.splitOn ',' mode).foldlM
      (fun runs clause =>
        let who := clause.takeWhile fun c => "ugoa".toList.contains c
        match clause.drop who.length with
        | op :: what =>
          let hasX := what.contains 'x'
          if !(what.all fun c => "rwxXstugo".toList.contains c) then none
          else if op == '+' then some (runs || hasX)
          else if op == '-' then some (runs && !hasX)
          else if op == '=' then some hasX
          else none
        | [] => none)
      runs

/-- `chmod`. -/
def chmod : Utility := fun _ args =>
  let first := args.headD []
  let isMode := first.head? == some '-' &&
    !(first.drop 1).any fun c => "RcfvhP-".toList.contains c
  let args := if isMode then ['-', '-'] :: args else args
  withCall "chmod" ⟨"Rcfv", [("recursive", 'R')]⟩ 1 false args fun c => do
    match c.operands with
    | [] => misuse "chmod" "missing operand".toList 1
    | [mode] => misuse "chmod" ("missing operand after ".toList ++ quoted mode) 1
    | mode :: paths =>
      if (runsAfter? mode false).isNone then
        misuse "chmod" ("invalid mode: ".toList ++ quoted mode) 1
      else
        statusOf <$> forAll paths fun path => do
          match ← nodeAt path with
          | .error fault =>
            sayCannot "chmod" "cannot access" path fault
            return false
          | .ok (place, _) =>
            let t ← files
            let places := if c.has 'R' then
              (t.nodes.filter fun e => FileTree.isWithin e.1 place).map Prod.fst else [place]
            modifyPrograms fun ps =>
              places.foldl
                (fun ps p =>
                  let runs := (runsAfter? mode (ps.contains p)).getD false
                  let others := ps.filter (· ≠ p)
                  if runs then p :: others else others)
                ps
            return true

/-! ## Temporary files -/

/-- The letters that take the place of those of a template. -/
def templateLetters (number count : Nat) : Octets :=
  let digits := Nat.toDigits 16 (number * 7919 + 104729)
  let letters := digits ++ List.replicate (count - digits.length) 'q'
  letters.take count

/-- `mktemp`. -/
def mktemp : Utility := fun _ args =>
  let g : Grammar := ⟨"dp:qtu", [("directory", 'd'), ("tmpdir", 'p'), ("dry-run", 'u'),
    ("quiet", 'q')]⟩
  withCall "mktemp" g 1 false args fun c => do
    let template := (c.operands.head?).getD "tmp.XXXXXXXXXX".toList
    let count := (template.reverse.takeWhile (· == 'X')).length
    if count < 3 then
      say "mktemp" ("too few X's in template ".toList ++ quoted template)
      return 1
    else
      let w ← world
      modifyWorld fun w => { w with lastNumber := w.lastNumber + 1 }
      let name := template.take (template.length - count) ++ templateLetters w.lastNumber count
      let inDirectory := c.operands.isEmpty || c.has 't' || c.has 'p'
      let directory := (c.value? 'p').getD ((← valueOf? "TMPDIR").getD "/tmp".toList)
      let path := if inDirectory then within directory name else name
      let make (t : FileTree) : Except FileFault FileTree :=
        if c.has 'u' then .ok t
        else if c.has 'd' then t.makeDirectory (pathOf path) else t.write (pathOf path) []
      match ← changeFiles make with
      | none =>
        write 1 (path ++ ['\n'])
        return 0
      | some fault =>
        let kind := if c.has 'd' then "failed to create directory via template"
          else "failed to create file via template"
        sayCannot "mktemp" kind template fault
        return 1

end JsonShell.Interpreter.Utility
