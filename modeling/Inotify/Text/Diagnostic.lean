/- # Quoted text in diagnostics

A text is quoted in a diagnostic so that it can be told apart from the words around it: between
double quotes, with a backslash before quotes and backslashes, a letter for the usual control
characters, and the number in braces for any other character that does not show by itself.
-/

import Inotify.Text.Hidden
import Inotify.Text.Numeral

namespace Inotify
namespace Diagnostic

/-- How a character is written between the quotes. -/
def escape (c : Char) : String :=
  if c = '"' then "\\\""
  else if c = '\\' then "\\\\"
  else if c = '\x00' then "\\0"
  else if c = '\t' then "\\t"
  else if c = '\n' then "\\n"
  else if c = '\r' then "\\r"
  else if Hidden.isHidden c then "\\u\x7b" ++ Numeral.hex c.toNat ++ "\x7d"
  else String.singleton c

/-- A text between quotes. -/
def quoted (s : String) : String := "\"" ++ String.join (s.toList.map escape) ++ "\""

end Diagnostic
end Inotify
