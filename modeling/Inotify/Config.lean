/- # Configuration

Four things can be chosen; each has a default:

| name | meaning | default |
| --- | --- | --- |
| `format` | the format of event lines | `text` |
| `buffer_records` | the size of the read buffer in records, from 1 to 1024 | 10 |
| `log_level` | the log filter | `warn` |
| `log_file` | the path of the log file | none: logs go to the error output |

A choice comes from a configuration file or from the command line; the command line wins. A value is
checked only when all choices are made, so that a bad one does no harm if another replaces it.
-/

import Inotify.Filter
import Inotify.Monitor

namespace Inotify

/-- What has been chosen. -/
structure Config where
  /-- The format of event lines. -/
  format : Format := .text
  /-- The size of the read buffer in records. -/
  bufferRecords : UInt64 := ({} : Options).bufferRecords
  /-- The log filter. -/
  logLevel : String := "warn"
  /-- The path of the log file. -/
  logFile : Option Bytes := none
deriving DecidableEq, Repr

/-- Choices that take precedence over others. -/
structure Overrides where
  /-- The format of event lines. -/
  format : Option Format := none
  /-- The size of the read buffer in records. -/
  bufferRecords : Option UInt64 := none
  /-- The log filter. -/
  logLevel : Option String := none
  /-- The path of the log file. -/
  logFile : Option Bytes := none
deriving DecidableEq, Repr

/-- **Choices made one after the other**: where both are made, the later one counts. -/
def Overrides.merge (earlier later : Overrides) : Overrides where
  format := later.format <|> earlier.format
  bufferRecords := later.bufferRecords <|> earlier.bufferRecords
  logLevel := later.logLevel <|> earlier.logLevel
  logFile := later.logFile <|> earlier.logFile

/-- A value that cannot be used. -/
inductive Unusable where
  /-- The size of the read buffer is out of its range. -/
  | bufferRecords (n : UInt64)
  /-- The text is no log filter. -/
  | logLevel (level : String)
deriving DecidableEq, Repr

namespace Config

/-- The smallest size of the read buffer in records. -/
def minRecords : UInt64 := 1

/-- The largest size of the read buffer in records. -/
def maxRecords : UInt64 := 1024

/-- **A configuration with other choices made over it.** -/
def apply (c : Config) (o : Overrides) : Config where
  format := o.format.getD c.format
  bufferRecords := o.bufferRecords.getD c.bufferRecords
  logLevel := o.logLevel.getD c.logLevel
  logFile := o.logFile <|> c.logFile

/-- **Two rounds of choices are one round of their merge.** -/
theorem apply_apply (c : Config) (o p : Overrides) :
    (c.apply o).apply p = c.apply (o.merge p) := by
  obtain ⟨f, b, l, g⟩ := p
  cases f <;> cases b <;> cases l <;> cases g <;> rfl

/-- **Checks the values**, the size of the buffer first. -/
def check (c : Config) : Except Unusable Unit :=
  if c.bufferRecords < minRecords ∨ maxRecords < c.bufferRecords then
    .error (.bufferRecords c.bufferRecords)
  else if Filter.isValid c.logLevel then .ok ()
  else .error (.logLevel c.logLevel)

/-- What a configuration says about a run. -/
def options (c : Config) : Options where
  bufferRecords := c.bufferRecords
  format := c.format

end Config

/-- The wording for a value that cannot be used. -/
def Unusable.message : Unusable → String
  | bufferRecords n =>
    "buffer_records must be between " ++ Numeral.decimal Config.minRecords.toNat ++ " and "
      ++ Numeral.decimal Config.maxRecords.toNat ++ ", got " ++ Numeral.decimal n.toNat
  | logLevel level => "log_level '" ++ level ++ "' is not a valid filter"

end Inotify
