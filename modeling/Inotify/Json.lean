/- # JSON values and their compact text

The values of an event line and their one compact text: no blanks, members in the order given. In a
string the quote, the backslash and the control characters below U+0020 are escaped, five of the
latter by a letter and the others by four lower-case hexadecimal digits; every other character stands
for itself. So the text of a value holds no control character.
-/

import Inotify.Text.Numeral

namespace Inotify

/-- A JSON value whose numbers are integers. -/
inductive Json where
  | null
  | integer (n : Int)
  | text (s : String)
  | list (items : List Json)
  | object (members : List (String × Json))

namespace Json

/-- How a character is written inside a string. -/
def escape (c : Char) : List Char :=
  if c = '"' then ['\\', '"']
  else if c = '\\' then ['\\', '\\']
  else if c = '\x08' then ['\\', 'b']
  else if c = '\x0c' then ['\\', 'f']
  else if c = '\n' then ['\\', 'n']
  else if c = '\r' then ['\\', 'r']
  else if c = '\t' then ['\\', 't']
  else if c.toNat < 0x20 then
    ['\\', 'u', '0', '0', Nat.digitChar (c.toNat / 16), Nat.digitChar (c.toNat % 16)]
  else [c]

/-- A string between quotes. -/
def quoted (s : String) : List Char := '"' :: s.toList.flatMap escape ++ ['"']

mutual

/-- **The compact text of a value.** -/
def chars : Json → List Char
  | null => "null".toList
  | integer n => (Numeral.signed n).toList
  | text s => quoted s
  | list items => '[' :: charsOfItems items ++ [']']
  | object members => '\x7b' :: charsOfMembers members ++ ['\x7d']

/-- The texts of the items of a list, with commas between them. -/
def charsOfItems : List Json → List Char
  | [] => []
  | [v] => chars v
  | v :: rest => chars v ++ ',' :: charsOfItems rest

/-- The texts of the members of an object, with commas between them. -/
def charsOfMembers : List (String × Json) → List Char
  | [] => []
  | [(key, v)] => quoted key ++ ':' :: chars v
  | (key, v) :: rest => quoted key ++ ':' :: chars v ++ ',' :: charsOfMembers rest

end

/-- The compact text of a value as a string. -/
def compact (v : Json) : String := String.ofList v.chars

end Json
end Inotify
