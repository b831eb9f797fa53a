/- # Event lines

Each event is printed as one line, in one of two formats:

| format | line |
| --- | --- |
| text | `Inotify event: wd = 0x1; cookie = 0x2a; mask = IN_MOVED_FROM; name = a.txt` |
| json | an object with the members `cookie`, `kinds`, `mask`, `name` and `wd`, in that order |

The text line leaves out a zero cookie and an absent name, and copies the name byte for byte. The
JSON line shows every field and the whole mask; in it a name that is not UTF-8 has U+FFFD for what
does not decode. Both list the kinds of the mask by name in printing order.
-/

import Inotify.Json
import Inotify.Record

namespace Inotify

namespace Record

/-- **The text line of an event**, without its line end. -/
def textLine (r : Record) : Bytes :=
  Utf8.encode ("Inotify event: wd = 0x" ++ r.watch.hex)
    ++ (if r.cookie = 0 then [] else Utf8.encode ("; cookie = 0x" ++ Numeral.hex r.cookie.toNat))
    ++ Utf8.encode ("; mask = " ++ " ".intercalate r.mask.names)
    ++ (match r.name with
        | none => []
        | some name => Utf8.encode "; name = " ++ name)

/-- An event as a JSON object. -/
def toJson (r : Record) : Json :=
  .object
    [("cookie", .integer r.cookie.toNat),
     ("kinds", .list (r.mask.names.map .text)),
     ("mask", .integer r.mask.bits.toNat),
     ("name", match r.name with
        | none => .null
        | some name => .text (Utf8.lossy name)),
     ("wd", .integer r.watch.number.toInt)]

/-- **The JSON line of an event**, without its line end. -/
def jsonLine (r : Record) : String := r.toJson.compact

end Record

/-- The format of event lines. -/
inductive Format where
  | text
  | json
deriving DecidableEq, Repr

namespace Format

/-- The line of an event in a format, without its line end. -/
def render : Format → Record → Bytes
  | text, r => r.textLine
  | json, r => Utf8.encode r.jsonLine

/-- The word for a format. -/
def name : Format → String
  | text => "text"
  | json => "json"

/-- The diagnostic word for a format. -/
def describe : Format → String
  | text => "Text"
  | json => "Json"

/-- The format that a word names exactly. -/
def ofName? (s : String) : Option Format :=
  if s = "text" then some text else if s = "json" then some json else none

/-- **The name of a format names it.** -/
@[simp] theorem ofName?_name (f : Format) : ofName? f.name = some f := by cases f <;> decide

/-- A word that names no format, with its ASCII letters in lower case. -/
structure Unknown where
  /-- The word. -/
  word : String
deriving DecidableEq, Repr

/-- The wording for a word that names no format. -/
def Unknown.message (u : Unknown) : String :=
  "unknown output format '" ++ u.word ++ "' (expected text or json)"

/-- **Reads a format, in ASCII letters of either case.** -/
def parse (s : String) : Except Unknown Format :=
  let word := s.map Char.toLower
  match ofName? word with
  | some f => .ok f
  | none => .error ⟨word⟩

end Format
end Inotify
