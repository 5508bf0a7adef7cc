import ProxyGate.Text.Digits

/-!
# JSON

Values as the reports hold them, and their two written forms: `compact` on one line without blanks,
and `pretty` with one member or item a line.  Members are written in their own order; `sorted` puts
them in the order of their names first.  A text is escaped only where the format demands it:
quote, backslash and control characters.
-/

namespace ProxyGate

/-- A JSON value.  Members keep their order. -/
inductive Json where
  | null
  | bool (value : Bool)
  | nat (value : Nat)
  | text (value : String)
  | list (items : List Json)
  | object (members : List (String × Json))
deriving Repr

namespace Json

/-- A character inside a JSON text. -/
def escapedChar (c : Char) : List Char :=
  if c = '"' then ['\\', '"']
  else if c = '\\' then ['\\', '\\']
  else if c = '\n' then ['\\', 'n']
  else if c = '\r' then ['\\', 'r']
  else if c = '\t' then ['\\', 't']
  else if c.toNat = 8 then ['\\', 'b']
  else if c.toNat = 12 then ['\\', 'f']
  else if c.toNat < 0x20 then
    ['\\', 'u', '0', '0', Nat.digitChar (c.toNat / 16), Nat.digitChar (c.toNat % 16)]
  else [c]

/-- A text with its quotes. -/
def textChars (value : String) : List Char :=
  '"' :: value.toList.flatMap escapedChar ++ ['"']

/-- The spelling of a truth value. -/
def boolChars (value : Bool) : List Char :=
  if value then "true".toList else "false".toList

mutual

/-- A value on one line without blanks. -/
def compactChars : Json → List Char
  | .null => "null".toList
  | .bool value => boolChars value
  | .nat value => Text.decimal value
  | .text value => textChars value
  | .list items => '[' :: compactItems items ++ [']']
  | .object members => '{' :: compactMembers members ++ ['}']

/-- Items with commas between them. -/
def compactItems : List Json → List Char
  | [] => []
  | [item] => compactChars item
  | item :: rest => compactChars item ++ ',' :: compactItems rest

/-- Members with commas between them. -/
def compactMembers : List (String × Json) → List Char
  | [] => []
  | [(name, value)] => textChars name ++ ':' :: compactChars value
  | (name, value) :: rest =>
    textChars name ++ ':' :: compactChars value ++ ',' :: compactMembers rest

end

/-- A value on one line without blanks, as a string. -/
def compact (value : Json) : String :=
  String.ofList value.compactChars

mutual

/-- A value with the members of every object in the order of their names. -/
def sorted : Json → Json
  | .list items => .list (sortedItems items)
  | .object members =>
    .object ((sortedMembers members).mergeSort fun first second => first.1 ≤ second.1)
  | value => value

/-- Items, each with its members in order. -/
def sortedItems : List Json → List Json
  | [] => []
  | item :: rest => sorted item :: sortedItems rest

/-- Members, each value with its own members in order. -/
def sortedMembers : List (String × Json) → List (String × Json)
  | [] => []
  | (name, value) :: rest => (name, sorted value) :: sortedMembers rest

end

/-- A new line at a depth of indentation. -/
def newLine (depth : Nat) : List Char :=
  '\n' :: List.replicate (2 * depth) ' '

mutual

/-- A value over several lines, two blanks deeper at each level. -/
def prettyChars (depth : Nat) : Json → List Char
  | .null => "null".toList
  | .bool value => boolChars value
  | .nat value => Text.decimal value
  | .text value => textChars value
  | .list [] => "[]".toList
  | .list items => '[' :: prettyItems (depth + 1) items ++ newLine depth ++ [']']
  | .object [] => ['{', '}']
  | .object members => '{' :: prettyMembers (depth + 1) members ++ newLine depth ++ ['}']

/-- Items, each on a line of its own. -/
def prettyItems (depth : Nat) : List Json → List Char
  | [] => []
  | [item] => newLine depth ++ prettyChars depth item
  | item :: rest => newLine depth ++ prettyChars depth item ++ ',' :: prettyItems depth rest

/-- Members, each on a line of its own. -/
def prettyMembers (depth : Nat) : List (String × Json) → List Char
  | [] => []
  | [(name, value)] => newLine depth ++ textChars name ++ ':' :: ' ' :: prettyChars depth value
  | (name, value) :: rest =>
    newLine depth ++ textChars name ++ ':' :: ' ' :: prettyChars depth value ++
      ',' :: prettyMembers depth rest

end

/-- A value over several lines, as a string. -/
def pretty (value : Json) : String :=
  String.ofList (value.prettyChars 0)

end Json

end ProxyGate
