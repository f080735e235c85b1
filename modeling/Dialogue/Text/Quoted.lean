import Dialogue.Text.Printable

/-!
# Quoting a text for a reader

A text inside a message stands between double quotes. Quotes, backslashes and the usual controls are
escaped, and so is every character that would not show by itself.
-/
namespace Dialogue.Text

/-- The lower-case hexadecimal digits of a code point. -/
def hexText (n : Nat) : List Char := Nat.toDigits 16 n

/-- How one character stands inside a quoted text. -/
def quoteChar (c : Char) : List Char :=
  if c = '"' then ['\\', '"']
  else if c = '\\' then ['\\', '\\']
  else if c = '\n' then ['\\', 'n']
  else if c = '\r' then ['\\', 'r']
  else if c = '\t' then ['\\', 't']
  else if c.toNat = 0 then ['\\', '0']
  else if isExtender c || !isPrintable c then '\\' :: 'u' :: '\x7b' :: hexText c.toNat ++ ['\x7d']
  else [c]

def quoted (s : String) : String :=
  String.ofList ('"' :: s.toList.flatMap quoteChar ++ ['"'])

end Dialogue.Text
