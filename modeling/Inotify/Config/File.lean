/- # Settling the configuration

The configuration of a run is the one of the file, if one is named, and the default one otherwise, with
the choices of the command line over it. A fault is told by a chain of causes, the nearest last:

| fault | chain |
| --- | --- |
| the file cannot be read | `Failed to read config file …`, the fault of the system |
| the file is no configuration | `Failed to parse config file …`, what is wrong with it |
| a value cannot be used | `Invalid configuration value`, which value |
-/

import Inotify.Config.Source
import Inotify.Path

namespace Inotify

/-- Why there is no configuration. -/
inductive ConfigFault where
  | unreadable (path : Bytes) (fault : IoFault)
  | unparsable (path : Bytes) (fault : SourceFault)
  | unusable (value : Unusable)
deriving DecidableEq, Repr

namespace ConfigFault

/-- **The causes of a fault**, the outermost first. -/
def chain : ConfigFault → List String
  | unreadable path fault => ["Failed to read config file " ++ Path.display path, fault.message]
  | unparsable path fault => ["Failed to parse config file " ++ Path.display path, fault.message]
  | unusable value => ["Invalid configuration value", value.message]

/-- A fault on one line. -/
def line : ConfigFault → String
  | unparsable path fault =>
    "Failed to parse config file " ++ Path.display path ++ ": " ++ fault.diagnostic
  | fault => ": ".intercalate fault.chain

end ConfigFault

/-- A configuration file: its path and what reading it gives. -/
structure ConfigFile where
  /-- The path. -/
  path : Bytes
  /-- The bytes in it, or why there are none. -/
  content : Except IoFault Bytes

namespace ConfigFile

/-- The fault of a text that is not UTF-8. -/
def notText : IoFault := .text "stream did not contain valid UTF-8"

/-- The text in a file. -/
def text (f : ConfigFile) : Except IoFault String := do
  match Utf8.decode? (← f.content) with
  | some s => .ok s
  | none => .error notText

/-- **The configuration in a file.** -/
def config (f : ConfigFile) : Except ConfigFault Config := do
  let s ← f.text.mapError (.unreadable f.path)
  (Config.parse s).mapError (.unparsable f.path)

end ConfigFile

/-- **The configuration of a run**, checked. -/
def Config.settle (file : Option ConfigFile) (o : Overrides) : Except ConfigFault Config := do
  let base ← match file with
    | some f => f.config
    | none => .ok {}
  let c := base.apply o
  c.check.mapError .unusable
  return c

end Inotify
