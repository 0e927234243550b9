import JsonShell.File.Path

/-!
# Prompts

A prompt is a template with codes of two characters.  The codes are replaced one after the other,
each throughout the text as the codes before it have left it: `%u` by the user, `%h` by the host,
`%w` and `%d` by the working directory, `%D` by its last component, and `%~` by its path from the
home directory.
-/

set_option autoImplicit false

namespace JsonShell.Prompt

/-- The text with `replacement` for every `%` that `code` follows, from left to right. -/
def replaceCode (code : Char) (replacement : List Char) : List Char → List Char
  | [] => []
  | [c] => [c]
  | a :: b :: rest =>
    if a = '%' ∧ b = code then replacement ++ replaceCode code replacement rest
    else a :: replaceCode code replacement (b :: rest)

/-- What a prompt tells. -/
structure Facts where
  user : String
  host : String
  directory : Path
  home : Option Path
deriving DecidableEq, Repr

/-- The last component of the working directory, or all of it if that is no name. -/
def Facts.base (f : Facts) : String :=
  f.directory.fileName?.getD f.directory.text

/-- The working directory, with a tilde for the home directory in front of it. -/
def Facts.relative (f : Facts) : String :=
  match f.home.bind f.directory.stripPrefix? with
  | some rest => if rest.text = "" then "~" else "~/" ++ rest.text
  | none => f.directory.text

/-- The codes and their replacements, in the order in which they are replaced. -/
def Facts.codes (f : Facts) : List (Char × String) :=
  [('u', f.user), ('h', f.host), ('w', f.directory.text), ('d', f.directory.text),
    ('D', f.base), ('~', f.relative)]

/-- The prompt of a template. -/
def expand (template : String) (f : Facts) : String :=
  String.ofList
    (f.codes.foldl (fun text (code, s) => replaceCode code s.toList text) template.toList)

example : expand "%u@%h:%D %~❯" ⟨"rex", "box", ⟨"/home/rex/src"⟩, some ⟨"/home/rex"⟩⟩ =
    "rex@box:src ~/src❯" := by decide +kernel

end JsonShell.Prompt
