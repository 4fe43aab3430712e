import Stencil.Text.CharSet

/-!
# Blanks

The characters with the Unicode property `White_Space`, and what is cut along them: a text trimmed
at both ends, and its words.
-/

namespace Stencil.Text

/-- Unicode `White_Space`. -/
def blanks : CharSet := ⟨[
  0x9, 0xE, 0x20, 0x21, 0x85, 0x86, 0xA0, 0xA1, 0x1680, 0x1681, 0x2000, 0x200B, 0x2028, 0x202A,
  0x202F, 0x2030, 0x205F, 0x2060, 0x3000, 0x3001]⟩

def isBlank (c : Char) : Bool := blanks.contains c

def trim (cs : List Char) : List Char :=
  ((cs.dropWhile isBlank).reverse.dropWhile isBlank).reverse

/-- Puts a finished word, written backwards, before the words found so far, themselves last first.
An empty run of characters is no word. -/
def closeWord (word : List Char) (words : List (List Char)) : List (List Char) :=
  if word.isEmpty then words else word.reverse :: words

/-- Goes on cutting words, with the current word and the finished words kept backwards. -/
def wordsFrom (word : List Char) (words : List (List Char)) : List Char → List (List Char)
  | [] => (closeWord word words).reverse
  | c :: cs =>
    if isBlank c then wordsFrom [] (closeWord word words) cs
    else wordsFrom (c :: word) words cs

/-- The longest runs of characters that are not blank, in order. -/
def words (cs : List Char) : List (List Char) := wordsFrom [] [] cs

end Stencil.Text
