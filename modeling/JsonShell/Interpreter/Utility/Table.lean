import JsonShell.Interpreter.Utility.Calculate
import JsonShell.Interpreter.Utility.Columns
import JsonShell.Interpreter.Utility.Edit
import JsonShell.Interpreter.Utility.Find
import JsonShell.Interpreter.Utility.Listing
import JsonShell.Interpreter.Utility.Order
import JsonShell.Interpreter.Utility.Search
import JsonShell.Interpreter.Utility.Series
import JsonShell.Interpreter.Utility.Show
import JsonShell.Interpreter.Utility.Simple
import JsonShell.Interpreter.Utility.Translate

/-!
# All utilities

The table of the programs that scripts can count on.
-/

set_option autoImplicit false

namespace JsonShell.Interpreter.Utility

open Shell

/-- The utilities by their names. -/
def all : List (String × Utility) :=
  [("true", fun _ _ => pure 0), ("false", fun _ _ => pure 1), ("echo", echo), ("printf", printf),
    ("test", test), ("[", bracket), ("yes", yes), ("cat", cat), ("tac", tac), ("rev", rev),
    ("tee", tee), ("head", head), ("tail", tail), ("nl", nl), ("wc", wc), ("cut", cut),
    ("paste", paste), ("comm", comm), ("fold", fold), ("sort", sort), ("uniq", uniq), ("tr", tr),
    ("grep", grep), ("egrep", egrep), ("fgrep", fgrep), ("sed", sed), ("expr", expr), ("seq", seq),
    ("basename", basename), ("dirname", dirname), ("rm", rm), ("rmdir", rmdir), ("mkdir", mkdir),
    ("touch", touch), ("cp", cp), ("mv", mv), ("ln", ln), ("chmod", chmod), ("mktemp", mktemp),
    ("ls", ls), ("find", find), ("cmp", cmp), ("env", env), ("printenv", printenv),
    ("sleep", sleep), ("timeout", timeout), ("xargs", xargs), ("nohup", justStart "nohup" ""),
    ("nice", justStart "nice" "n:"), ("setsid", justStart "setsid" "cfw"), ("pwd", pwd),
    ("whoami", telling "root"), ("id", idOf), ("uname", uname), ("arch", telling "x86_64"),
    ("nproc", telling "1"), ("realpath", realPath "realpath" true),
    ("readlink", realPath "readlink" false), ("sync", fun _ _ => pure 0)]

/-- `which`. -/
def which : Utility := fun _ args => do
  statusOf <$> forAll args fun name => do
    if (all.lookup (Octets.key name)).isSome || name = "sh".toList then
      write 1 ("/usr/bin/".toList ++ name ++ ['\n'])
      return true
    else return false

/-- The program of a name. -/
def find? (name : String) : Option Utility :=
  if name = "which" then some which else all.lookup name

end JsonShell.Interpreter.Utility
