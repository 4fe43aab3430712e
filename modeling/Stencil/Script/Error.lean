/-!
# Errors in embedded code

What a reader of embedded code met instead of what it needed, and where. Places are relative to the
start of the code.
-/

namespace Stencil.Script

inductive Found where
  | endOfInput
  | endOfLine
  /-- The next few characters of the line. -/
  | text (snippet : String)
deriving DecidableEq

/-- What is wrong with a piece of code. -/
inductive Defect where
  | nestedTooDeeply
  | expectedToken (token : String) (found : Found)
  | expectedIdentifier (found : Found)
  | keywordAsIdentifier (word : String)
  | expectedExpression (found : Found)
  | expectedStatementEnd (found : Found)
  /-- Something follows the code that does not belong to it. -/
  | unexpected (found : Found)
  /-- Something other than a name is called. -/
  | notCallable
  | intOutOfRange (digits : String)
  | unterminatedString
  | unknownEscape (c : Char)
  | invalidUnicodeEscape
  /-- A header starts with a word that opens no block. -/
  | unknownHeader (word : String)
deriving DecidableEq

structure Error where
  line : Nat
  column : Nat
  defect : Defect
deriving DecidableEq

def Found.message : Found → String
  | endOfInput => "end of input"
  | endOfLine => "end of line"
  | text snippet => "'" ++ snippet ++ "'"

def Defect.message : Defect → String
  | nestedTooDeeply => "expression nested too deeply"
  | expectedToken token found => "expected '" ++ token ++ "', found " ++ found.message
  | expectedIdentifier found => "expected identifier, found " ++ found.message
  | keywordAsIdentifier word => "expected identifier, found keyword '" ++ word ++ "'"
  | expectedExpression found => "expected expression, found " ++ found.message
  | expectedStatementEnd found => "expected end of statement, found " ++ found.message
  | unexpected found => "unexpected " ++ found.message
  | notCallable => "only named functions can be called"
  | intOutOfRange digits => "integer literal '" ++ digits ++ "' is out of range"
  | unterminatedString => "unterminated string literal"
  | unknownEscape c => "unknown escape sequence '\\" ++ String.singleton c ++ "'"
  | invalidUnicodeEscape => "invalid unicode escape"
  | unknownHeader word =>
    "expected 'for', 'if', 'elif', 'else' or 'while', found '" ++ word ++ "'"

end Stencil.Script
