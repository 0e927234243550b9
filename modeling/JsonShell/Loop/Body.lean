import JsonShell.Text.Blank
import JsonShell.Text.Split

/-!
# Bodies of loops

The body of a loop ends at the brace that closes the one of its header, and its commands are
separated by semicolons.  Inside double quotes neither braces nor semicolons count, and a semicolon
inside inner braces belongs to an inner loop.
-/

set_option autoImplicit false

namespace JsonShell

namespace Body

/-- The text up to the brace that closes the body, and the text after that brace.  `depth` inner
braces are open, and `quoted` tells whether a quote is. -/
def close? (depth : Nat) (quoted : Bool) : List Char → Option (List Char × List Char)
  | [] => none
  | c :: rest =>
    let keep (found : Option (List Char × List Char)) := found.map fun (body, after) =>
      (c :: body, after)
    if c = '"' then keep (close? depth (!quoted) rest)
    else if quoted then keep (close? depth quoted rest)
    else if c = '{' then keep (close? (depth + 1) quoted rest)
    else if c = '}' then
      match depth with
      | 0 => some ([], rest)
      | depth + 1 => keep (close? depth quoted rest)
    else keep (close? depth quoted rest)

/-- The texts between the semicolons that count. -/
def pieces (depth : Nat) (quoted : Bool) : List Char → List (List Char)
  | [] => [[]]
  | c :: rest =>
    if c = '"' then Text.consFirst c (pieces depth (!quoted) rest)
    else if quoted then Text.consFirst c (pieces depth quoted rest)
    else if c = '{' then Text.consFirst c (pieces (depth + 1) quoted rest)
    else if c = '}' then Text.consFirst c (pieces (depth - 1) quoted rest)
    else if c = ';' ∧ depth = 0 then [] :: pieces depth quoted rest
    else Text.consFirst c (pieces depth quoted rest)

/-- The commands of a body: its pieces without the blanks around them, blank ones left out. -/
def commands (body : List Char) : List (List Char) :=
  ((pieces 0 false body).map Text.trimChars).filter (!·.isEmpty)

end Body

end JsonShell
