import Stencil.Decimal.Reading
import Stencil.Expr
import Stencil.Script.Cursor

/-!
# Numbers and strings in embedded code

A number is a row of digits, in which underscores may stand, and a second one after a point if it
is a float. A string stands between two equal quotes; a backslash in it starts an escape. An error
in either is reported where the literal starts, one in an escape where the escape is.
-/

namespace Stencil.Script

variable {σ : Type} [Moves σ]

/-- Whether a character may stand in a row of digits that has begun. -/
def isDigitOrUnderscore (c : Char) : Bool := c.isDigit || c == '_'

/-- Passes a row of digits, and yields it without its underscores. -/
def digitRow : Scan σ (List Char) := return (← passWhile isDigitOrUnderscore).filter (· != '_')

/-- Whether the text goes on with a point and a digit. -/
def startsFraction : List Char → Bool
  | '.' :: c :: _ => c.isDigit
  | _ => false

def number : Scan σ Literal := do
  let start ← look
  let whole ← digitRow
  if startsFraction (← look).rest then
    unseen "."
    let fraction ← digitRow
    return .float (Decimal.ofDecimal false (whole ++ fraction) (-fraction.length))
  else
    let n := Decimal.digitsValue whole
    if Int64.maxValue.toInt < n then throw (start.error (.intOutOfRange (String.ofList whole)))
    return .int (Int64.ofNat n)

def isHexDigit (c : Char) : Bool :=
  c.isDigit || ('a' ≤ c && c ≤ 'f') || ('A' ≤ c && c ≤ 'F')

def hexDigitValue (c : Char) : Nat :=
  if c.isDigit then c.toNat - '0'.toNat
  else if 'a' ≤ c then c.toNat - 'a'.toNat + 10
  else c.toNat - 'A'.toNat + 10

/-- The number written by a row of hexadecimal digits. -/
def hexValue (cs : List Char) : Nat := cs.foldl (fun n c => 16 * n + hexDigitValue c) 0

/-- Reads the braces of an escape by code point, and the digits between them. -/
def codePoint : Scan σ Char := do
  let start ← look
  let invalid := start.error .invalidUnicodeEscape
  unless ← accept "\x7b" do throw invalid
  let digits ← passWhile isHexDigit
  let n := hexValue digits
  if digits.isEmpty || !decide n.isValidChar then throw invalid
  unless ← accept "\x7d" do throw invalid
  return Char.ofNat n

/-- What an escape stands for, after its backslash. -/
def escaped (atEnd : Error) : Scan σ Char := do
  let start ← look
  match ← nextChar? with
  | none => throw atEnd
  | some 'n' => return '\n'
  | some 't' => return '\t'
  | some 'r' => return '\r'
  | some '0' => return '\x00'
  | some 'u' => codePoint
  | some c =>
    if c == '\\' || c == '"' || c == '\'' then return c
    throw (start.error (.unknownEscape c))

/-- Reads the characters of a string and the quote that ends it. Every step passes a character, so
the length of the text bounds their number. -/
def stringBody (quote : Char) (atEnd : Error) : Nat → Scan σ (List Char)
  | 0 => throw atEnd
  | fuel + 1 => do
    match ← nextChar? with
    | none => throw atEnd
    | some c =>
      if c == quote then return []
      let c ← if c == '\\' then escaped atEnd else pure c
      return c :: (← stringBody quote atEnd fuel)

/-- Reads a string, from the quote that starts it. -/
def quoted (quote : Char) : Scan σ String := do
  let start ← look
  char quote
  let body ← stringBody quote (start.error .unterminatedString) (start.rest.length + 1)
  return String.ofList body

end Stencil.Script
