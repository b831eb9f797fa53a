/- # The program

The host is the system. The kernel's notification interface cannot be reached from here, so attaching
a path that is there is reported as not implemented; everything before it is done as described.
-/

import Inotify.Launch

namespace Inotify

/-- The path that some bytes write. -/
def pathText (bs : Bytes) : String := Utf8.lossy bs

/-- The fault of a raw number; some calls give it with a minus sign. -/
def faultOfNumber (n : UInt32) : IoFault :=
  .system (if n.toInt32 < 0 then -n.toInt32 else n.toInt32)

/-- The fault behind an error of the system. -/
def faultOfError : IO.Error → IoFault
  | .alreadyExists _ n _ | .otherError n _ | .resourceBusy n _ | .resourceVanished n _
  | .unsupportedOperation n _ | .hardwareFault n _ | .unsatisfiedConstraints n _
  | .illegalOperation n _ | .protocolError n _ | .timeExpired n _ | .interrupted _ n _
  | .noFileOrDirectory _ n _ | .invalidArgument _ n _ | .permissionDenied _ n _
  | .resourceExhausted _ n _ | .inappropriateType _ n _ | .noSuchThing _ n _ =>
    faultOfNumber n
  | .unexpectedEof => .text "failed to fill whole buffer"
  | .userError wording => .text wording

/-- What an action gives, or why it fails. -/
def attempt {α : Type} (action : IO α) : IO (Except IoFault α) := do
  try
    return .ok (← action)
  catch e =>
    return .error (faultOfError e)

/-- The host that is the system. -/
def systemHost : Host IO where
  readFile path := attempt do return (← IO.FS.readBinFile (pathText path)).toList
  makeFolders path := attempt (IO.FS.createDirAll (pathText path))
  openLog path := attempt do
    let _ ← IO.FS.Handle.mk (pathText path) .append
  workingDirectory := attempt do return Utf8.encode (← IO.currentDir).toString
  surroundings target := do
    let found ← attempt (IO.FS.Handle.mk (pathText target) .read)
    let e := match found with
      | .ok _ => Errno.notImplemented
      | .error fault => fault.errno
    return { opening := .ok { adds := [.error e] }, pid := 1 }

end Inotify

open Inotify in
/-- Runs the program and passes on what it printed. -/
def main (args : List String) : IO UInt32 := do
  let ending ← systemHost.launch (args.map Utf8.encode)
  let out ← IO.getStdout
  out.write (ByteArray.mk ending.output.toArray)
  out.flush
  (← IO.getStderr).putStr ending.errors
  return ending.code.toUInt32
