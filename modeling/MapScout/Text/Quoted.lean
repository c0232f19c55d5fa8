import MapScout.Text.Printable
/-!
# Quoted text

Names and headers inside diagnostics stand between double quotes.  The quote, the backslash and a few
control characters have short escapes; every other character that does not show is written by its
code point.
-/

namespace MapScout.Quoted

/-- The hexadecimal digits of a code point, none in front that are zero. -/
def codePoint (c : Char) : List Char := Nat.toDigits 16 c.toNat

/-- How one character is written inside quotes. -/
def escape (c : Char) : List Char :=
  if c = '"' then ['\\', '"']
  else if c = '\\' then ['\\', '\\']
  else if c = '\n' then ['\\', 'n']
  else if c = '\r' then ['\\', 'r']
  else if c = '\t' then ['\\', 't']
  else if c = '\x00' then ['\\', '0']
  else if Printable.isPrintable c then [c]
  else ['\\', 'u', '\x7b'] ++ codePoint c ++ ['\x7d']

/-- The text between double quotes. -/
def quote (s : String) : String :=
  String.ofList ('"' :: s.toList.flatMap escape ++ ['"'])

end MapScout.Quoted
