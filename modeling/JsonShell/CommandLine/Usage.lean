import JsonShell.Arguments
import JsonShell.Render.Paint
import JsonShell.Text.Split

/-!
# The command line of the program

What the program is called, what arguments it takes, and the texts that it prints about itself.
-/

set_option autoImplicit false

namespace JsonShell.CommandLine

/-- The name of the program. -/
def programName : String := "trex"

/-- Its version. -/
def version : String := "0.1.0"

/-- What the program takes: a directory of modules, a command to run instead of a session, and the
path of a script. -/
def signature : Signature :=
  ⟨["--banner", "--version", "--vv"], ["--path", "--exec"], [⟨"script", fun _ => none⟩]⟩

/-- The usage of the program. -/
def usage : String :=
  Text.unlines
    ["Usage: trex [--path <path>] [--banner] [--exec <exec>] [--version] [--vv] [--] [<script>]",
      "",
      "T-Rex: an interactive shell for JSON-speaking modules.",
      "",
      "Positional Arguments:",
      "  script            script file to run, one command per line.",
      "",
      "Options:",
      "  --path            directory to load modules from, instead of the configured",
      "                    paths.",
      "  --banner          show the banner and exit.",
      "  --exec            execute a command and exit.",
      "  --version         show version information and exit.",
      "  --vv              verbose: echo script lines and log at debug level.",
      "  --help, help      display usage information"]

/-- The text printed for arguments that are out of order. -/
def complaint (fault : ArgumentFault) : String :=
  fault.message ++ "\nRun " ++ programName ++ " --help for more information.\n"

/-- The lettering at the start of a session. -/
def lettering : String :=
  Text.unlines
    ["",
      "  dP",
      "  88",
      "d8888P          88d888b. .d8888b. dP.  .dP",
      "  88   88888888 88'  '88 88ooood8  '8bd8'",
      "  88            88       88.  ...  .d88b.",
      "  dP            dP       '88888P' dP'  'dP"]

/-- The lettering and the version. -/
def banner (colors : Bool) : String :=
  Text.unlines [Paint.paint colors Paint.cyan lettering, "  version " ++ version, ""]

end JsonShell.CommandLine
