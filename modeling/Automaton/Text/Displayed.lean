import Automaton.Text.Shown

/-!
# Paths in messages

A message that names a file puts the path between double quotes, in a spelling from which the
reader can tell what the path really holds.  Quotes, backslashes and the usual control characters
have short escapes; every other character that could not be seen (see `Text.isShown`) is written by
its number, as in `\u{7f}`.
-/

namespace Automaton.Text

/-- The number of a character in hexadecimal digits, without leading zeros. -/
def hexDigits (n : Nat) : List Char :=
  Nat.toDigits 16 n

/-- One character as it appears in a displayed path. -/
def displayChar (c : Char) : List Char :=
  if c = '"' then ['\\', '"']
  else if c = '\\' then ['\\', '\\']
  else if c = '\n' then ['\\', 'n']
  else if c = '\r' then ['\\', 'r']
  else if c = '\t' then ['\\', 't']
  else if c.toNat = 0 then ['\\', '0']
  else if isShown c then [c]
  else ['\\', 'u', '\x7b'] ++ hexDigits c.toNat ++ ['\x7d']

/-- **A displayed path**: between double quotes, with everything invisible spelled out. -/
def displayed (path : String) : String :=
  String.ofList ('"' :: (path.toList.flatMap displayChar ++ ['"']))

end Automaton.Text
