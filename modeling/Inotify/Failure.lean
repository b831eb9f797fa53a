/- # Failures of a watch

What can end a run early, by the part of the run that failed:

| failure | message | exit code |
| --- | --- | --- |
| setup | operation, error | the error's number |
| decode | `decode error: ` and the fault | 5 |
| read | `read`, error | the error's number |
| cleanup | operation, error | the error's number |
| output | `write stdout: ` and the fault | the fault's number, or 1 |

A failure of the system keeps the operation that failed, so its message tells what was tried.
-/

import Inotify.Errno
import Inotify.Record.Decode

namespace Inotify

/-- A signal that asks for a clean stop. -/
inductive Signal where
  | interrupt
  | terminate
deriving DecidableEq, Repr

/-- The name of a signal. -/
def Signal.name : Signal → String
  | interrupt => "SIGINT"
  | terminate => "SIGTERM"

/-- The signals that ask for a clean stop. -/
def Signal.all : List Signal := [.interrupt, .terminate]

/-- What was tried when a call failed. -/
inductive Operation where
  /-- Opening a channel. -/
  | initialise
  /-- Attaching a path to a channel. -/
  | addWatch (path : Bytes)
  /-- Detaching a watch. -/
  | removeWatch (watch : Watch)
  /-- Closing a channel. -/
  | close (descriptor : Int32)
  /-- Installing a signal handler. -/
  | handle (signal : Signal)
  /-- Asking for the working directory. -/
  | workingDirectory
  /-- An operation known by its name. -/
  | named (name : String)
deriving DecidableEq, Repr

/-- The name of an operation. -/
def Operation.name : Operation → String
  | initialise => "inotify_init"
  | addWatch path => "inotify_add_watch \"" ++ Utf8.lossy path ++ "\""
  | removeWatch watch => "inotify_rm_watch 0x" ++ watch.hex
  | close descriptor => "close 0x" ++ Numeral.hexWord descriptor
  | handle signal => "sigaction " ++ signal.name
  | workingDirectory => "getcwd"
  | named name => name

/-- Why a run ended early. -/
inductive Failure where
  /-- Nothing was watched yet. -/
  | setup (operation : Operation) (errno : Errno)
  /-- A read delivered something that is no sequence of records. -/
  | decode (fault : DecodeFault)
  /-- A read failed. -/
  | read (errno : Errno)
  /-- Something could not be released. -/
  | cleanup (operation : Operation) (errno : Errno)
  /-- A line could not be written. -/
  | output (fault : IoFault)
deriving DecidableEq, Repr

namespace Failure

/-- The wording of a failure. -/
def message : Failure → String
  | setup operation errno => operation.name ++ ": " ++ errno.describe
  | decode fault => "decode error: " ++ fault.message
  | read errno => "read: " ++ errno.describe
  | cleanup operation errno => operation.name ++ ": " ++ errno.describe
  | output fault => "write stdout: " ++ fault.message

/-- **The exit code for a failure.** A decode fault has no number of its own and exits like a failed
input. -/
def exitCode : Failure → Int32
  | setup _ errno => errno.code
  | decode _ => Errno.inputOutput.code
  | read errno => errno.code
  | cleanup _ errno => errno.code
  | output fault => fault.code?.getD 1

/-- The wording of the fault that a failure wraps, if it wraps one. -/
def source? : Failure → Option String
  | decode fault => some fault.message
  | output fault => some fault.message
  | _ => none

end Failure

/-- How a run ended. -/
structure Report where
  /-- What ended the run, unless it stopped cleanly. -/
  failure : Option Failure := none
  /-- What could not be released, in the order in which it was tried. -/
  cleanup : List Failure := []
deriving DecidableEq, Repr

namespace Report

/-- Every failure of a run, that of the run itself first. -/
def failures (r : Report) : List Failure := r.failure.toList ++ r.cleanup

/-- **The exit code of a run**: that of its first failure, zero if there is none. -/
def exitCode (r : Report) : Int32 := (r.failures.head?.map Failure.exitCode).getD 0

end Report
end Inotify
