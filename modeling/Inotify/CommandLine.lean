/- # The command line

The command line names a path to watch and options; each of them takes one value and may be given
once:

| written as | taken for |
| --- | --- |
| `--name value`, `--name=value` | an option with its value |
| `--help`, `-h`, `--version`, `-V` | a request that ends the program |
| `--` | nothing; all that follows are paths |
| other arguments that begin with a minus, except `-` | a fault |
| anything else | the value of the option before it, or else the path |

An option or a path is *settled* — checked and taken over — when the next one is met or the line
ends; an option with its value attached is settled at once. So of two faults the one that is met
first decides, and a name that is not known decides over an unsettled value before it.
-/

import Inotify.Config
import Inotify.Text.Unsigned

namespace Inotify

/-- What takes a value. -/
inductive Slot where
  | path
  | config
  | format
  | bufferRecords
  | logLevel
  | logFile
deriving DecidableEq, Repr

namespace Slot

/-- The options by their names. -/
def options : List (String × Slot) :=
  [("config", config), ("format", format), ("buffer-records", bufferRecords),
   ("log-level", logLevel), ("log-file", logFile)]

/-- How messages show what takes a value. -/
def usage : Slot → String
  | path => "[PATH]"
  | config => "--config <FILE>"
  | format => "--format <FORMAT>"
  | bufferRecords => "--buffer-records <N>"
  | logLevel => "--log-level <LEVEL>"
  | logFile => "--log-file <FILE>"

end Slot

/-- What the command line says. -/
structure CommandLine where
  /-- The path to watch. -/
  path : Option Bytes := none
  /-- The path of the configuration file. -/
  config : Option Bytes := none
  /-- The choices. -/
  overrides : Overrides := {}
deriving DecidableEq, Repr

/-- A fault of the command line. -/
inductive UsageFault where
  /-- The argument is not known, or one path too many. -/
  | unexpected (argument : String)
  /-- A request came with a value. -/
  | unexpectedValue (value : String) (request : String)
  /-- The value is missing. -/
  | missing (slot : Slot)
  /-- The option is given twice. -/
  | repeated (slot : Slot)
  /-- A value that has to be UTF-8 is not. -/
  | notText
  /-- The value is no format. -/
  | badFormat (value : String) (fault : Format.Unknown)
  /-- The value is no number. -/
  | badCount (value : String) (fault : Unsigned.Fault)
deriving DecidableEq, Repr

namespace UsageFault

/-- The wording for a value that cannot be used. -/
def invalidValue (value : String) (slot : Slot) (reason : String) : String :=
  "invalid value '" ++ value ++ "' for '" ++ slot.usage ++ "': " ++ reason

/-- **The wording of a fault.** -/
def message : UsageFault → String
  | unexpected argument => "unexpected argument '" ++ argument ++ "' found"
  | unexpectedValue value request =>
    "unexpected value '" ++ value ++ "' for '" ++ request ++ "' found; no more were expected"
  | missing slot => "a value is required for '" ++ slot.usage ++ "' but none was supplied"
  | repeated slot => "the argument '" ++ slot.usage ++ "' cannot be used multiple times"
  | notText => "invalid UTF-8 was detected in one or more arguments"
  | badFormat value fault => invalidValue value .format fault.message
  | badCount value fault => invalidValue value .bufferRecords fault.message

end UsageFault

/-- A request that is answered instead of a run. -/
inductive Request where
  | help
  | version
deriving DecidableEq, Repr

namespace Request

/-- The name of a request. -/
def name : Request → String
  | help => "help"
  | version => "version"

/-- The requests by their names. -/
def named : List (String × Request) := [(help.name, help), (version.name, version)]

/-- The requests by their letters. -/
def lettered : List (Char × Request) := [('h', help), ('V', version)]

end Request

/-- Why a command line does not lead to a run. -/
inductive Stop where
  | request (r : Request)
  | fault (f : UsageFault)
deriving DecidableEq, Repr

namespace CommandLine

/-- Whether something has its value. -/
def has (c : CommandLine) : Slot → Bool
  | .path => c.path.isSome
  | .config => c.config.isSome
  | .format => c.overrides.format.isSome
  | .bufferRecords => c.overrides.bufferRecords.isSome
  | .logLevel => c.overrides.logLevel.isSome
  | .logFile => c.overrides.logFile.isSome

/-- A value that is a path. -/
def pathValue (slot : Slot) (value : Bytes) : Except UsageFault Bytes :=
  if value = [] then .error (.missing slot) else .ok value

/-- A value that is a text. -/
def textValue (value : Bytes) : Except UsageFault String :=
  match Utf8.decode? value with
  | some s => .ok s
  | none => .error .notText

/-- **Takes a value over.** -/
def put (c : CommandLine) (slot : Slot) (value : Bytes) : Except UsageFault CommandLine :=
  match slot with
  | .path => return { c with path := some (← pathValue .path value) }
  | .config => return { c with config := some (← pathValue .config value) }
  | .format => do
    let s ← textValue value
    let f ← (Format.parse s).mapError (.badFormat s)
    return { c with overrides.format := some f }
  | .bufferRecords => do
    let s ← textValue value
    let n ← (Unsigned.read s).mapError (.badCount s)
    return { c with overrides.bufferRecords := some n }
  | .logLevel => return { c with overrides.logLevel := some (← textValue value) }
  | .logFile => return { c with overrides.logFile := some (← pathValue .logFile value) }

/-- The command line as far as it has been read. -/
structure Draft where
  /-- What has been settled. -/
  line : CommandLine := {}
  /-- What has not been settled, with its value if that is known. -/
  pending : Option (Slot × Option Bytes) := none
  /-- Whether all that follows are paths. -/
  literal : Bool := false
deriving DecidableEq, Repr

namespace Draft

/-- Settles a value. -/
def settleValue (d : Draft) (slot : Slot) (value : Bytes) : Except Stop Draft :=
  if d.line.has slot then .error (.fault (.repeated slot))
  else match d.line.put slot value with
    | .ok line => .ok { d with line, pending := none }
    | .error f => .error (.fault f)

/-- **Settles what is pending**, if anything is. -/
def settle (d : Draft) : Except Stop Draft :=
  match d.pending with
  | none => .ok d
  | some (slot, none) => .error (.fault (.missing slot))
  | some (slot, some value) => d.settleValue slot value

/-- Answers a request, if what is pending can be settled. -/
def request (d : Draft) (r : Request) : Except Stop Draft := do
  let _ ← d.settle
  .error (.request r)

/-- Takes a path. -/
def positional (d : Draft) (arg : Bytes) : Except Stop Draft :=
  if d.line.path.isSome ∨ d.pending.any (·.1 = .path) then
    .error (.fault (.unexpected (Utf8.lossy arg)))
  else do
    let d ← d.settle
    .ok { d with pending := some (.path, some arg) }

/-- Takes an argument that begins with two minus signs, without them: a name, and a value behind an
equals sign. -/
def long (d : Draft) (arg : Bytes) : Except Stop Draft :=
  let name := arg.takeWhile (· ≠ 0x3d)
  let value := (arg.drop name.length).tail?
  let unknown : Except Stop Draft := .error (.fault (.unexpected ("--" ++ Utf8.lossy name)))
  match Utf8.decode? name with
  | none => unknown
  | some s =>
    match Request.named.lookup s, Slot.options.lookup s, value with
    | some r, _, none => d.request r
    | some r, _, some v => .error (.fault (.unexpectedValue (Utf8.lossy v) ("--" ++ r.name)))
    | none, some slot, some v => do (← d.settle).settleValue slot v
    | none, some slot, none => do .ok { (← d.settle) with pending := some (slot, none) }
    | none, none, _ => unknown

/-- Takes an argument that begins with one minus sign, without it. All letters that are known are
requests, so the first one decides. -/
def short (d : Draft) (arg : Bytes) : Except Stop Draft :=
  match (Utf8.scan arg).head?.join with
  | none => .error (.fault (.unexpected ("-" ++ Utf8.lossy arg)))
  | some c =>
    match Request.lettered.lookup c with
    | some r => d.request r
    | none => .error (.fault (.unexpected ("-" ++ String.singleton c)))

/-- Takes an argument that stands for itself: the value of an option that waits for one, or a
path. -/
def plain (d : Draft) (arg : Bytes) : Except Stop Draft :=
  match d.pending with
  | some (slot, none) => .ok { d with pending := some (slot, some arg) }
  | _ => d.positional arg

/-- **Takes one argument.** -/
def take (d : Draft) (arg : Bytes) : Except Stop Draft :=
  if d.literal then d.positional arg
  else match arg with
    | [0x2d, 0x2d] => .ok { d with literal := true }
    | 0x2d :: 0x2d :: rest => d.long rest
    | [0x2d] => d.plain arg
    | 0x2d :: rest => d.short rest
    | _ => d.plain arg

end Draft

/-- **What a command line says**, or why it does not lead to a run. -/
def parse (args : List Bytes) : Except Stop CommandLine := do
  let d ← args.foldlM Draft.take {}
  return (← d.settle).line

end CommandLine
end Inotify
