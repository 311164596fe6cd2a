import Noticeboard.Text.Hex
import Noticeboard.Text.Printable

/-!
# Quoted text

A quoted text stands between double quotes.  Quotes, backslashes, tabs, line ends and the null
character have short escapes; every other character that does not show by itself is spelled out
by its code.
-/

namespace Noticeboard.Text

def quoteChar (c : Char) : String :=
  if c = '"' then "\\\""
  else if c = '\\' then "\\\\"
  else if c = '\n' then "\\n"
  else if c = '\r' then "\\r"
  else if c = '\t' then "\\t"
  else if c.toNat = 0 then "\\0"
  else if isPrintable c then String.singleton c
  else "\\u\x7b" ++ hexDigits c.toNat ++ "\x7d"

def quoted (text : String) : String :=
  "\"" ++ String.join (text.toList.map quoteChar) ++ "\""

end Noticeboard.Text
