import Stencil.Text.Printable

/-!
# Quoted text

A text between double quotes. A quote and a backslash get a backslash, the usual controls are
written as `\t`, `\r`, `\n` and `\0`, and a character that cannot be printed as `\u{..}` with its
code point.
-/

namespace Stencil.Text

/-- A number in hexadecimal digits without leading zeros. -/
def hexDigits (n : Nat) : List Char :=
  Nat.toDigits 16 n

/-- How a character is written between quotes. -/
def quoteChar (c : Char) : List Char :=
  if c = '\x00' then ['\\', '0']
  else if c = '\t' then ['\\', 't']
  else if c = '\r' then ['\\', 'r']
  else if c = '\n' then ['\\', 'n']
  else if c = '"' || c = '\\' then ['\\', c]
  else if isPrintable c then [c]
  else ['\\', 'u', '\x7b'] ++ hexDigits c.toNat ++ ['\x7d']

/-- A text between double quotes. -/
def quote (cs : List Char) : List Char :=
  '"' :: (cs.flatMap quoteChar ++ ['"'])

end Stencil.Text
