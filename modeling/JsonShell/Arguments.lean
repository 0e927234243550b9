/-!
# Arguments of commands

The shell itself and its built-in commands take their arguments in the same way, from left to right.
`--help` and `help` ask for the usage of the command, which is given once all arguments are in
order.  Two dashes alone end the options.  Any other argument that starts with a dash is a switch,
or an option that takes the next argument as its value, whatever that is; all else is positional.
The first argument that is out of order is the one reported.
-/

set_option autoImplicit false

namespace JsonShell

/-- What is wrong with the arguments of a command. -/
inductive ArgumentFault where
  | unrecognized (argument : String)
  | afterHelp
  | missingValue (option : String)
  | repeated (option value : String)
  | badPositional (name value reason : String)
deriving DecidableEq, Repr

/-- The text of a fault. -/
def ArgumentFault.message : ArgumentFault → String
  | .unrecognized argument => "Unrecognized argument: " ++ argument ++ "\n"
  | .afterHelp => "Trailing arguments are not allowed after `help`."
  | .missingValue option => "No value provided for option '" ++ option ++ "'.\n"
  | .repeated option value =>
    "Error parsing option '" ++ option ++ "' with value '" ++ value ++
      "': duplicate values provided\n"
  | .badPositional name value reason =>
    "Error parsing positional argument '" ++ name ++ "' with value '" ++ value ++ "': " ++ reason ++
      "\n"

/-- A positional argument that a command takes: its name, and why a value is refused. -/
structure Positional where
  name : String
  refusal? : String → Option String

/-- What a command takes. -/
structure Signature where
  switches : List String
  options : List String
  positionals : List Positional

/-- The arguments that a command was given. -/
structure Arguments where
  switches : List String
  options : List (String × String)
  positionals : List String
  helpAsked : Bool
deriving DecidableEq, Repr

namespace Arguments

/-- No arguments. -/
def none : Arguments := ⟨[], [], [], false⟩

/-- The value of an option. -/
def option? (a : Arguments) (name : String) : Option String :=
  a.options.lookup name

/-- A switch was given. -/
def hasSwitch (a : Arguments) (name : String) : Bool :=
  a.switches.contains name

/-- The first positional argument. -/
def first? (a : Arguments) : Option String :=
  a.positionals.head?

/-- The arguments with a further positional one, if the command takes it. -/
def addPositional (a : Arguments) (s : Signature) (value : String) :
    Except ArgumentFault Arguments :=
  match s.positionals[a.positionals.length]? with
  | .none => .error (.unrecognized value)
  | some p =>
    match p.refusal? value with
    | some reason => .error (.badPositional p.name value reason)
    | .none => .ok { a with positionals := a.positionals ++ [value] }

/-- The argument asks for the usage. -/
def asksHelp (argument : String) : Bool :=
  argument = "--help" || argument = "help"

/-- Reads arguments onto those already given; `ended` tells that there are no more options. -/
def readOnto (s : Signature) (ended : Bool) (a : Arguments) :
    List String → Except ArgumentFault Arguments
  | [] => .ok a
  | argument :: rest =>
    if !ended && asksHelp argument then readOnto s ended { a with helpAsked := true } rest
    else if !ended && argument.toList.head? = some '-' then
      if argument = "--" then readOnto s true a rest
      else if a.helpAsked then .error .afterHelp
      else if s.switches.contains argument then
        readOnto s ended { a with switches := a.switches ++ [argument] } rest
      else if s.options.contains argument then
        match rest with
        | [] => .error (.missingValue argument)
        | value :: rest =>
          if (a.option? argument).isSome then .error (.repeated argument value)
          else readOnto s ended { a with options := a.options ++ [(argument, value)] } rest
      else .error (.unrecognized argument)
    else
      match a.addPositional s argument with
      | .ok a => readOnto s ended a rest
      | .error fault => .error fault

/-- The arguments of a command that takes those of the signature. -/
def read (s : Signature) (arguments : List String) : Except ArgumentFault Arguments :=
  readOnto s false none arguments

end Arguments

example : Arguments.read ⟨["-v"], ["-o"], []⟩ ["-o", "-v", "-v"] =
    .ok ⟨["-v"], [("-o", "-v")], [], false⟩ := by rfl
example : Arguments.read ⟨["-v"], [], []⟩ ["help", "-v"] = .error .afterHelp := by rfl
example : Arguments.read ⟨["-v"], [], [⟨"file", fun _ => none⟩]⟩ ["--", "-v", "b"] =
    .error (.unrecognized "b") := by rfl

end JsonShell
