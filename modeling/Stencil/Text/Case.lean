import Stencil.Text.CaseTable

/-!
# Upper and lower case

Each letter is replaced by its full case mapping, which may be several characters long. The one
letter that looks around is the capital sigma: at the end of a word its lower case is the final
form, everywhere else the plain one.
-/

namespace Stencil.Text

/-- The case mapping given by `runs` and `sequences`: a letter that neither lists stays as it is. -/
def recase (runs : List CaseRun) (sequences : List (Nat × List Nat)) (c : Char) : List Char :=
  match sequences.lookup c.toNat with
  | some codes => codes.map Char.ofNat
  | none =>
    match runs.find? (·.covers c.toNat) with
    | some run => [Char.ofNat (c.toNat + run.shift).toNat]
    | none => [c]

def upperChar (c : Char) : List Char :=
  if c.val < 0x80 then [c.toUpper] else recase upperRuns upperSequences c

/-- The lower case of one letter, wherever it stands. -/
def lowerChar (c : Char) : List Char :=
  if c.val < 0x80 then [c.toLower] else recase lowerRuns lowerSequences c

def upper (cs : List Char) : List Char := cs.flatMap upperChar

/-- Whether the first character that case rules do not ignore is a cased one. -/
def meetsCased (cs : List Char) : Bool :=
  match cs.dropWhile caseIgnorable.contains with
  | [] => false
  | c :: _ => cased.contains c

/-- Goes on lowering, with the text already read and the text already written kept backwards. A
sigma is final when a cased letter comes before it and none after it. -/
def lowerFrom (before out : List Char) : List Char → List Char
  | [] => out.reverse
  | c :: cs =>
    let lowered :=
      if c = 'Σ' then [if meetsCased before && !meetsCased cs then 'ς' else 'σ'] else lowerChar c
    lowerFrom (c :: before) (lowered.reverse ++ out) cs

def lower (cs : List Char) : List Char := lowerFrom [] [] cs

end Stencil.Text
