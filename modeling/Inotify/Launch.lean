/- # From the command line to the end of a run

What the program does, as far as it can be told without saying how files and the kernel are reached:
that is left to a *host*. The steps come in this order, and the first that fails ends the program:

| step | ends the program with |
| --- | --- |
| read the command line | 2 for a fault, 0 for a request |
| look for a path to watch | 1, if there is none |
| settle the configuration | 1 |
| open the log file, if there is one | 1; 101 if the file itself cannot be opened |
| settle what to watch, and watch | the exit code of the run |
-/

import Inotify.CommandLine.Help
import Inotify.Config.File
import Inotify.FileTree

namespace Inotify

/-- How the program reaches what is outside of it. -/
structure Host (m : Type → Type) where
  /-- Reads a file. -/
  readFile : Bytes → m (Except IoFault Bytes)
  /-- Makes a folder and all that are missing above it. -/
  makeFolders : Bytes → m (Except IoFault Unit)
  /-- Opens a file for logs, which is made if it is not there. -/
  openLog : Bytes → m (Except IoFault Unit)
  /-- The working directory. -/
  workingDirectory : m (Except IoFault Bytes)
  /-- What a run that watches a path meets. -/
  surroundings : Bytes → m Monitor.Surroundings

/-- How the program ends. -/
structure Ending where
  /-- The exit code. -/
  code : Int32
  /-- What went to the standard output. -/
  output : Bytes := []
  /-- What went to the error output. -/
  errors : String := ""
deriving DecidableEq, Repr

/-- Why no run was started. -/
inductive LaunchFault where
  | config (fault : ConfigFault)
  /-- The path of the log file ends in no name. -/
  | noLogName (path : Bytes)
  /-- The folder for the log file cannot be made. -/
  | logFolder (fault : IoFault)
  /-- The log file cannot be opened. -/
  | logFile (fault : IoFault)
deriving DecidableEq, Repr

namespace LaunchFault

/-- The wording of a fault. -/
def message : LaunchFault → String
  | config fault => fault.line
  | noLogName path => "Log file path " ++ Path.display path ++ " has no file name"
  | logFolder fault => "Failed to create log directory: " ++ fault.message
  | logFile fault => "Failed to open log file: " ++ fault.message

/-- The exit code for a fault. -/
def exitCode : LaunchFault → Int32
  | logFile _ => 101
  | _ => 1

/-- How the program ends with a fault. -/
def ending (f : LaunchFault) : Ending where
  code := f.exitCode
  errors := CommandLine.program ++ ": " ++ f.message ++ "\n"

end LaunchFault

/-- How the program ends with a command line that does not lead to a run. -/
def Stop.ending : Stop → Ending
  | request r => { code := 0, output := Utf8.encode r.answer }
  | fault f => { code := 2, errors := f.report }

namespace Host

variable {m : Type → Type} [Monad m]

/-- The configuration that a command line asks for. -/
def settle (host : Host m) (line : CommandLine) : m (Except ConfigFault Config) :=
  match line.config with
  | none => pure (Config.settle none line.overrides)
  | some path => do
    let content ← host.readFile path
    pure (Config.settle (some ⟨path, content⟩) line.overrides)

/-- **Opens the log file.** Its name has to be UTF-8. -/
def startLog (host : Host m) (path : Bytes) : m (Except LaunchFault Unit) :=
  match Path.fileName? path with
  | none => pure (.error (.noLogName path))
  | some name => do
    match ← host.makeFolders (Path.directory path) with
    | .error fault => pure (.error (.logFolder fault))
    | .ok () =>
      if (Utf8.decode? name).isNone then pure (.error (.logFile ConfigFile.notText))
      else do
        let opened ← host.openLog (Path.ofComponents (Path.components path))
        pure (opened.mapError .logFile)

/-- The configuration, with the log file open. -/
def prepare (host : Host m) (line : CommandLine) : m (Except LaunchFault Config) := do
  match ← host.settle line with
  | .error fault => pure (.error (.config fault))
  | .ok c =>
    match c.logFile with
    | none => pure (.ok c)
    | some path => do
      let started ← host.startLog path
      pure (started.map fun () => c)

/-- **Watches a path**, from settling what it is to the end of the run. -/
def watch (host : Host m) (path : Bytes) (c : Config) : m Ending := do
  match settleTarget path (← host.workingDirectory) with
  | .error failure => pure { code := failure.exitCode, errors := failure.message ++ "\n" }
  | .ok target => do
    let outcome := Monitor.run ⟨target, c.options⟩ (← host.surroundings target)
    pure {
      code := outcome.report.exitCode
      output := outcome.sink.output
      errors := String.join (outcome.report.failures.map fun f => f.message ++ "\n") }

/-- **The whole program.** -/
def launch (host : Host m) (args : List Bytes) : m Ending :=
  match CommandLine.parse args with
  | .error stop => pure stop.ending
  | .ok line =>
    match line.path with
    | none => pure { code := 1, output := Utf8.encode CommandLine.usage }
    | some path => do
      match ← host.prepare line with
      | .error fault => pure fault.ending
      | .ok c => host.watch path c

end Host

namespace FileTree

/-- What a run meets in a tree: attaching a path fails if it leads nowhere, and all reads are
interrupted. -/
def surroundings (t : FileTree) (target : Bytes) : Monitor.Surroundings where
  opening := .ok { adds := match t.walk target with
    | .ok _ => []
    | .error fault => [.error fault.errno] }
  pid := 1

/-- **A host that is a tree** and nothing else. -/
def host : Host (StateM FileTree) where
  readFile path := do return (← get).read path
  makeFolders path := modifyGet fun t => t.makeFolders (Path.components path).reverse
  openLog path := modifyGet fun t =>
    match t.makeFile path with
    | .ok t => (.ok (), t)
    | .error fault => (.error fault, t)
  workingDirectory := pure (.ok [Path.dot])
  surroundings target := do return (← get).surroundings target

end FileTree
end Inotify
