import Stencil.Text.Printable

/-!
# Quoted text

The written form of a string inside double quotes. The quote and the backslash are escaped by a
backslash, five control characters have short names, and every other character that could not be
read on its own is given by its code point. A single quote stands for itself.
-/

namespace Stencil.Text.Quoted

/-- The escape that names a character by its code point, in hexadecimal. -/
def byCodePoint (c : Char) : List Char :=
  '\\' :: 'u' :: '\x7b' :: Nat.toDigits 16 c.toNat ++ ['\x7d']

/-- The written form of one character. -/
def escape (c : Char) : List Char :=
  if c = '\x00' then ['\\', '0']
  else if c = '\t' then ['\\', 't']
  else if c = '\r' then ['\\', 'r']
  else if c = '\n' then ['\\', 'n']
  else if c = '\\' then ['\\', '\\']
  else if c = '"' then ['\\', '"']
  else if isGraphemeExtender c || !isPrintable c then byCodePoint c
  else [c]

/-- The written form of a text, quotes included. -/
def encode (cs : List Char) : List Char := '"' :: cs.flatMap escape ++ ['"']

end Stencil.Text.Quoted
