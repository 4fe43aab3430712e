import Stencil.Flaw
import Stencil.Markers

/-!
# Tokens

A template is cut into markers and the text between them. Quotes toggle between plain text and
strings all through the source, so a string that is opened in one piece of code and closed in
another swallows what lies between; a quote belongs to the text, and nothing escapes it. Text is
never split where no marker is.
-/

namespace Stencil

/-- What a token is. -/
inductive TokenKind where
  | text
  | marker (m : Marker)
deriving DecidableEq

/-- A piece of a template. -/
structure Token where
  kind : TokenKind
  text : List Char
  /-- Where it starts. -/
  start : Location
deriving DecidableEq

/-- Text that has been read but not yet made a token. -/
structure PendingText where
  start : Location
  /-- The characters, last first. -/
  chars : List Char

namespace Token

/-- Adds a character that stands at `place` to the pending text. -/
def hold (pending : Option PendingText) (place : Location) (c : Char) : Option PendingText :=
  match pending with
  | some p => some ⟨p.start, c :: p.chars⟩
  | none => some ⟨place, [c]⟩

/-- The token of the pending text, if there is any. -/
def flush : Option PendingText → List Token
  | some p => [⟨.text, p.chars.reverse, p.start⟩]
  | none => []

/-- Goes on cutting at `place`. The next `skip` characters belong to a marker that has been found;
`opened` is where the current string starts, if one is open. -/
def scanFrom (m : Markers) (skip : Nat) (opened : Option Location) (pending : Option PendingText)
    (place : Location) : List Char → Except Flaw (List Token)
  | [] =>
    match opened with
    | some quote => .error ⟨quote.toPlace, .unterminatedString⟩
    | none => .ok (flush pending)
  | c :: cs =>
    match skip with
    | skip + 1 => scanFrom m skip opened pending (place.advance c) cs
    | 0 =>
      if c = m.quote then
        let opened := if opened.isSome then none else some place
        scanFrom m 0 opened (hold pending place c) (place.advance c) cs
      else
        match if opened.isSome then none else m.match? (c :: cs) with
        | some (marker, text) => do
          let rest ← scanFrom m (text.length - 1) none none (place.advance c) cs
          return flush pending ++ ⟨.marker marker, text, place⟩ :: rest
        | none => scanFrom m 0 opened (hold pending place c) (place.advance c) cs

def scan (m : Markers) (source : List Char) : Except Flaw (List Token) :=
  scanFrom m 0 none none .start source

end Token

end Stencil
