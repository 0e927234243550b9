import JsonShell.Module.Prepared
import JsonShell.Session.Execute

/-!
# A session to try things out

A few prepared modules and two scripts, one of which runs the other.  General statements about runs
are tried out in this session.
-/

set_option autoImplicit false

namespace JsonShell.Sample

/-- Modules that echo, list their arguments, give a map, give nothing, and fail. -/
def modules : Prepared where
  modules :=
    [("args", .listsArgs), ("boom", .fails "no"), ("echo", .joinsArgs),
      ("info", .prints (Utf8.encode "\x7b\"output\":\x7b\"a\":1,\"b\":2\x7d\x7d")),
      ("nothing", .nothing)]
  directory := ⟨"/m"⟩
  paths := [⟨"/m"⟩]
  extension := "py"

/-- The script `inner` fails in its fourth line, and `outer` runs it in its second one. -/
def files : FileTree :=
  let inner := "# a script\n\nset x 1\nforloop 2 as $i do \x7b echo $i; boom $i \x7d"
  let outer := "$y 2\ninner\necho never"
  ((FileTree.empty []).put ["inner".toList] (.file (Utf8.encode inner))).put ["outer".toList]
    (.file (Utf8.encode outer))

/-- The failure log is on, and nothing else is special. -/
def settings : Settings Prepared where
  runner := Prepared.runner
  colors := false
  verbose := false
  log := some ⟨"log"⟩
  time := "now"

/-- A new session. -/
def session : Session Prepared :=
  Session.new modules files (History.new 10)

/-- Lines of scripts are shown before they are run. -/
def verbose : Settings Prepared :=
  { settings with verbose := true }

/-- An output that takes three characters of its seventh text, and all of the others. -/
def full : Output :=
  ⟨[], fun offered _ =>
    if offered.length = 6 then some ⟨3, .other "No space left on device (os error 28)"⟩ else none⟩

/-- A session in which the script `main` runs `detour`, and `broken` is no text. -/
def detours : Session Prepared :=
  let main := "# none\nforloop 2 as $i do \x7b detour; nope $i \x7d"
  { Session.new modules
      ((((FileTree.empty []).put ["detour".toList] (.file (Utf8.encode "\necho there"))).put
        ["main".toList] (.file (Utf8.encode main))).put ["broken".toList] (.file [255]))
      (History.new 10) with
    output := full }

/-- Any module answers with the list of its arguments. -/
def obliging : Settings Unit where
  runner :=
    { find? := fun _ _ name => some ⟨name⟩
      invoke := fun _ files _ args =>
        ⟨(), files, [], .ok (some (.success (.list (args.map .string))))⟩
      available := fun _ _ => []
      searchPaths := fun _ => []
      fileName := fun _ name => name }
  colors := false
  verbose := false
  log := none
  time := "now"

/-- A session without files in which a variable is bound. -/
def bare : Session Unit :=
  { Session.new () (FileTree.empty []) (History.new 10) with store := Store.empty.set "i" "old" }

end JsonShell.Sample
