/- # Configuration texts

A configuration is written as a TOML document with up to four members. They are looked at in the order
in which they stand, and the first that is wrong decides:

| member | wrong if |
| --- | --- |
| `format` | it is not the word for a format |
| `buffer_records` | it is no integer, or a negative one |
| `log_level` | it is no string |
| `log_file` | it is no string |
| any other | always |

A format may also be written as a table with the word as its only member, if the member is empty.
-/

import Inotify.Config
import Inotify.Text.Diagnostic
import Inotify.Toml.Document

namespace Inotify

open Toml (Value Members)

/-- What stands in the place of a value, as far as messages tell. -/
inductive Found where
  | text (s : String)
  | integer (n : Int)
  | real (x : Binary64)
  | boolean (b : Bool)
  /-- An array, or the tables of headers in double brackets. -/
  | sequence
  /-- A table or a moment. -/
  | map
deriving DecidableEq, Repr

/-- What a value is. -/
def Found.ofValue : Value → Found
  | .text s => text s
  | .integer n => integer n
  | .real x => real x
  | .boolean b => boolean b
  | .moment => map
  | .array _ => sequence
  | .table _ _ => map
  | .tables _ => sequence

/-- The wording for what was found. -/
def Found.describe : Found → String
  | text s => "string " ++ Diagnostic.quoted s
  | integer n => "integer `" ++ Numeral.signed n ++ "`"
  | real x => "floating point `" ++ x.text ++ "`"
  | boolean b => "boolean `" ++ (if b then "true" else "false") ++ "`"
  | sequence => "sequence"
  | map => "map"

/-- What a member has to be. -/
inductive Wanted where
  /-- A number that is not negative. -/
  | count
  /-- A text. -/
  | text
  /-- A path. -/
  | path
deriving DecidableEq, Repr

/-- The wording for what a member has to be. -/
def Wanted.describe : Wanted → String
  | count => "usize"
  | text => "a string"
  | path => "path string"

/-- Why a text is no configuration. -/
inductive SourceFault where
  /-- The text is no document, or the shape of a format is wrong. -/
  | malformed
  /-- There is no member of this name. -/
  | unknownField (name : String)
  /-- There is no format of this name. -/
  | unknownFormat (word : String)
  /-- The member is something else. -/
  | wrongType (found : Found) (wanted : Wanted)
  /-- The member is of the right type and out of its range. -/
  | wrongValue (found : Found) (wanted : Wanted)
deriving DecidableEq, Repr

namespace SourceFault

/-- The wording of a fault, without the place where it is. -/
def message : SourceFault → String
  | malformed => "toml error"
  | unknownField name =>
    "unknown field `" ++ name
      ++ "`, expected one of `format`, `buffer_records`, `log_level`, `log_file`"
  | unknownFormat word => "unknown variant `" ++ word ++ "`, expected `text` or `json`"
  | wrongType found wanted =>
    "invalid type: " ++ found.describe ++ ", expected " ++ wanted.describe
  | wrongValue found wanted =>
    "invalid value: " ++ found.describe ++ ", expected " ++ wanted.describe

/-- The wording of a fault on its own. -/
def diagnostic (f : SourceFault) : String := "TOML parse error: " ++ f.message

end SourceFault

namespace Config

/-- Whether a value is a table or an array without anything in it. -/
def isEmptyValue : Value → Bool
  | .array items => items.isEmpty
  | .table _ members => members.isEmpty
  | _ => false

/-- The format that a word names. -/
def formatNamed (word : String) : Except SourceFault Format :=
  match Format.ofName? word with
  | some f => .ok f
  | none => .error (.unknownFormat word)

/-- The format that a value names. -/
def readFormat : Value → Except SourceFault Format
  | .text word => formatNamed word
  | .table _ [(word, v)] => do
    let f ← formatNamed word
    if isEmptyValue v then .ok f else .error .malformed
  | _ => .error .malformed

/-- A number that is not negative. -/
def readCount : Value → Except SourceFault UInt64
  | .integer n => if n < 0 then .error (.wrongValue (.integer n) .count) else .ok (.ofNat n.toNat)
  | v => .error (.wrongType (.ofValue v) .count)

/-- A text. -/
def readText (wanted : Wanted) : Value → Except SourceFault String
  | .text s => .ok s
  | v => .error (.wrongType (.ofValue v) wanted)

/-- **A configuration with one member of a document taken over.** -/
def set (c : Config) (name : String) (v : Value) : Except SourceFault Config :=
  if name = "format" then return { c with format := ← readFormat v }
  else if name = "buffer_records" then return { c with bufferRecords := ← readCount v }
  else if name = "log_level" then return { c with logLevel := ← readText .text v }
  else if name = "log_file" then
    return { c with logFile := some (Utf8.encode (← readText .path v)) }
  else .error (.unknownField name)

/-- The configuration that the members of a document make. -/
def ofMembers (m : Members) : Except SourceFault Config :=
  m.foldlM (fun c (name, v) => set c name v) {}

/-- **The configuration that a text writes.** -/
def parse (s : String) : Except SourceFault Config :=
  match Toml.parse? s with
  | none => .error .malformed
  | some m => ofMembers m

end Config
end Inotify
