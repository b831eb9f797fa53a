/- # What the program says about itself

The lines that answer a request, and those that go with a fault of the command line.
-/

import Inotify.CommandLine

namespace Inotify

namespace CommandLine

/-- The name of the program. -/
def program : String := "pathwatch"

/-- The version of the program. -/
def version : String := "0.1.0"

/-- How the program is called. -/
def usage : String := "Usage: " ++ program ++ " [OPTIONS] [PATH]\n"

/-- The help text. -/
def help : String :=
  "Watch a file or directory and print every inotify event it produces\n\n" ++ usage ++ "\n" ++
  "Arguments:\n" ++
  "  [PATH]  Path to watch (\".\" for the current directory)\n\n" ++
  "Options:\n" ++
  "      --config <FILE>       TOML configuration file\n" ++
  "      --format <FORMAT>     Event output format (text or json)\n" ++
  "      --buffer-records <N>  Read buffer capacity in maximum-size records (1-1024)\n" ++
  "      --log-level <LEVEL>   Log filter, e.g. \"debug\" or \"watcher=trace\" (RUST_LOG wins if set)\n" ++
  "      --log-file <FILE>     Write logs to this file instead of stderr\n" ++
  "  -h, --help                Print help\n" ++
  "  -V, --version             Print version\n"

end CommandLine

/-- The answer to a request. -/
def Request.answer : Request → String
  | help => CommandLine.help
  | version => CommandLine.program ++ " " ++ CommandLine.version ++ "\n"

/-- The lines that tell of a fault. -/
def UsageFault.report (f : UsageFault) : String :=
  "error: " ++ f.message ++ "\n\nFor more information, try '--help'.\n"

end Inotify
