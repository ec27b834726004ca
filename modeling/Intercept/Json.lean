/-!
# JSON values and their two layouts

A value is written compactly, without a blank, or spread over lines with two blanks of indentation
for each level. Both layouts write strings the same way: a quote, a backslash and the control
characters are escaped, and every other character stands for itself.
-/

namespace Intercept

/-- A JSON value. The fields of an object keep their order. -/
inductive Json where
  | null
  | bool (b : Bool)
  | str (s : String)
  | arr (items : List Json)
  | obj (fields : List (String × Json))

namespace Json

/-- One hexadecimal digit, in lower case. -/
def hexDigit (n : Nat) : Char :=
  if n < 10 then Char.ofNat (48 + n) else Char.ofNat (87 + n)

/-- A character as it stands between the quotes of a string. -/
def escapeChar (c : Char) : List Char :=
  if c = '"' then ['\\', '"']
  else if c = '\\' then ['\\', '\\']
  else if c = '\x08' then ['\\', 'b']
  else if c = '\t' then ['\\', 't']
  else if c = '\n' then ['\\', 'n']
  else if c = '\x0c' then ['\\', 'f']
  else if c = '\r' then ['\\', 'r']
  else if c.toNat < 0x20 then
    ['\\', 'u', '0', '0', hexDigit (c.toNat / 16), hexDigit (c.toNat % 16)]
  else [c]

/-- A string with its quotes. -/
def quoted (s : String) : List Char := '"' :: s.toList.flatMap escapeChar ++ ['"']

def boolText (b : Bool) : List Char :=
  if b then ['t', 'r', 'u', 'e'] else ['f', 'a', 'l', 's', 'e']

mutual

/-- The characters of the compact layout. -/
def compactChars : Json → List Char
  | null => ['n', 'u', 'l', 'l']
  | bool b => boolText b
  | str s => quoted s
  | arr items => '[' :: compactItems items ++ [']']
  | obj fields => '\x7b' :: compactFields fields ++ ['\x7d']

def compactItems : List Json → List Char
  | [] => []
  | item :: [] => compactChars item
  | item :: next :: rest => compactChars item ++ ',' :: compactItems (next :: rest)

def compactFields : List (String × Json) → List Char
  | [] => []
  | (name, value) :: [] => quoted name ++ ':' :: compactChars value
  | (name, value) :: next :: rest =>
    quoted name ++ ':' :: compactChars value ++ ',' :: compactFields (next :: rest)

end

/-- A new line at a level of nesting. -/
def lineAt (level : Nat) : List Char := '\n' :: List.replicate (2 * level) ' '

mutual

/-- The characters of the layout over lines, for a value that stands at a level of nesting. -/
def spreadChars (level : Nat) : Json → List Char
  | null => ['n', 'u', 'l', 'l']
  | bool b => boolText b
  | str s => quoted s
  | arr [] => ['[', ']']
  | arr (item :: rest) =>
    '[' :: spreadItems (level + 1) (item :: rest) ++ lineAt level ++ [']']
  | obj [] => ['\x7b', '\x7d']
  | obj (field :: rest) =>
    '\x7b' :: spreadFields (level + 1) (field :: rest) ++ lineAt level ++ ['\x7d']

def spreadItems (level : Nat) : List Json → List Char
  | [] => []
  | item :: [] => lineAt level ++ spreadChars level item
  | item :: next :: rest =>
    lineAt level ++ spreadChars level item ++ ',' :: spreadItems level (next :: rest)

def spreadFields (level : Nat) : List (String × Json) → List Char
  | [] => []
  | (name, value) :: [] => lineAt level ++ quoted name ++ ':' :: ' ' :: spreadChars level value
  | (name, value) :: next :: rest =>
    lineAt level ++ quoted name ++ ':' :: ' ' :: spreadChars level value ++
      ',' :: spreadFields level (next :: rest)

end

/-- The value on one line, without blanks. -/
def compact (value : Json) : String := String.ofList value.compactChars

/-- The value over lines, indented by two blanks a level. -/
def spread (value : Json) : String := String.ofList (value.spreadChars 0)

end Json

end Intercept
