import JsonShell.Json.Value

/-!
# Writing JSON

`Value.compact` writes a value on one line without spaces, `Value.indented` writes one entry a line
with two spaces for each level, and `Value.text` is the plain form: a string as it is, a container
as compact JSON.
-/

set_option autoImplicit false

namespace JsonShell.Value

/-- A lower case hexadecimal digit. -/
def hexDigit (n : Nat) : Char :=
  Nat.digitChar (n % 16)

/-- A character inside a JSON string.  Quotes, backslashes and the characters below U+0020 are
escaped; all others stand for themselves. -/
def escapeChar (c : Char) : List Char :=
  if c = '"' then ['\\', '"']
  else if c = '\\' then ['\\', '\\']
  else if c.toNat = 8 then ['\\', 'b']
  else if c.toNat = 12 then ['\\', 'f']
  else if c = '\n' then ['\\', 'n']
  else if c = '\r' then ['\\', 'r']
  else if c = '\t' then ['\\', 't']
  else if c.toNat < 0x20 then ['\\', 'u', '0', '0', hexDigit (c.toNat / 16), hexDigit c.toNat]
  else [c]

/-- A JSON string with its quotes. -/
def quote (s : String) : List Char :=
  '"' :: s.toList.flatMap escapeChar ++ ['"']

/-- The text of a truth value. -/
def boolText (b : Bool) : String :=
  if b then "true" else "false"

/-! ## One line -/

mutual

/-- Compact JSON. -/
def compactChars : Value → List Char
  | .string s => quote s
  | .number n => n.text.toList
  | .bool b => (boolText b).toList
  | .null => "null".toList
  | .list items => '[' :: compactItems items ++ [']']
  | .map entries => '{' :: compactEntries entries ++ ['}']

/-- Elements with commas between them. -/
def compactItems : List Value → List Char
  | [] => []
  | [v] => compactChars v
  | v :: w :: rest => compactChars v ++ ',' :: compactItems (w :: rest)

/-- Entries with commas between them. -/
def compactEntries : List (String × Value) → List Char
  | [] => []
  | [(k, v)] => quote k ++ ':' :: compactChars v
  | (k, v) :: p :: rest => quote k ++ ':' :: compactChars v ++ ',' :: compactEntries (p :: rest)

end

/-- The value on one line, without spaces. -/
def compact (v : Value) : String :=
  String.ofList v.compactChars

/-! ## One entry a line -/

/-- A newline and two spaces for each level. -/
def newLine (level : Nat) : List Char :=
  '\n' :: List.replicate (2 * level) ' '

mutual

/-- Indented JSON of a value that stands at a level. -/
def indentedChars (level : Nat) : Value → List Char
  | .list items =>
    if items.isEmpty then ['[', ']']
    else '[' :: newLine (level + 1) ++ indentedItems (level + 1) items ++ newLine level ++ [']']
  | .map entries =>
    if entries.isEmpty then ['{', '}']
    else '{' :: newLine (level + 1) ++ indentedEntries (level + 1) entries ++ newLine level ++ ['}']
  | .string s => quote s
  | .number n => n.text.toList
  | .bool b => (boolText b).toList
  | .null => "null".toList

/-- Elements, each on lines of its own. -/
def indentedItems (level : Nat) : List Value → List Char
  | [] => []
  | [v] => indentedChars level v
  | v :: w :: rest =>
    indentedChars level v ++ ',' :: newLine level ++ indentedItems level (w :: rest)

/-- Entries, each on lines of its own. -/
def indentedEntries (level : Nat) : List (String × Value) → List Char
  | [] => []
  | [(k, v)] => quote k ++ ':' :: ' ' :: indentedChars level v
  | (k, v) :: p :: rest =>
    quote k ++ ':' :: ' ' :: indentedChars level v ++
      ',' :: newLine level ++ indentedEntries level (p :: rest)

end

/-- The value with one entry a line. -/
def indented (v : Value) : String :=
  String.ofList (v.indentedChars 0)

/-! ## Plain text -/

/-- The plain form of a value: strings without quotes, containers as compact JSON. -/
def text : Value → String
  | .string s => s
  | .number n => n.text
  | .bool b => boolText b
  | .null => "null"
  | .list items => compact (.list items)
  | .map entries => compact (.map entries)

example : compact (.map [("a", .list [ofInt 1, .null]), ("b", .string "\n\x07/")]) =
    "\x7b\"a\":[1,null],\"b\":\"\\n\\u0007/\"\x7d" := by decide +kernel
example : indented (.map [("a", .list [ofInt 1]), ("b", .map [])]) =
    "\x7b\n  \"a\": [\n    1\n  ],\n  \"b\": \x7b\x7d\n\x7d" := by decide +kernel

end JsonShell.Value
