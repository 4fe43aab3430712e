import Stencil.Text.Window

/-!
# Occurrences of one text in another

Occurrences are found from left to right and do not overlap. A text is cut at all of them, or all of
them are replaced. The pattern is not empty.

What is found depends on the texts alone and not on the window that is moved along: `occurs_cons` and
`cutFrom_cons` say so in terms of prefixes.
-/

namespace Stencil.Text

/-- Goes on searching at the place where the window starts. -/
def occursFrom (pattern : Pattern) (w : Window) : List Char → Bool
  | [] => pattern.chars.isEmpty
  | c :: cs => w.isHere pattern (c :: cs) || occursFrom pattern (w.slide pattern c) cs

def occurs (pattern cs : List Char) : Bool :=
  let p := Pattern.ofChars pattern
  occursFrom p (.start p cs) cs

/-- Goes on cutting at the place where the window starts: the next `skip` characters belong to an
occurrence already found, `piece` is the piece being read, backwards, and `pieces` are the finished
ones, last first. -/
def cutFrom (pattern : Pattern) (w : Window) (skip : Nat) (piece : List Char)
    (pieces : List (List Char)) : List Char → List (List Char)
  | [] => (piece.reverse :: pieces).reverse
  | c :: cs =>
    let w' := w.slide pattern c
    match skip with
    | skip + 1 => cutFrom pattern w' skip piece pieces cs
    | 0 =>
      if w.isHere pattern (c :: cs) then
        cutFrom pattern w' (pattern.chars.length - 1) [] (piece.reverse :: pieces) cs
      else cutFrom pattern w' 0 (c :: piece) pieces cs

/-- The pieces of the text between the occurrences of `pattern`: one more than there are. -/
def cut (pattern cs : List Char) : List (List Char) :=
  let p := Pattern.ofChars pattern
  cutFrom p (.start p cs) 0 [] [] cs

/-- The pieces one after another, with `separator` between. -/
def joinWith (separator : List Char) (pieces : List (List Char)) : List Char :=
  List.intercalate separator pieces

/-- Goes on replacing at the place where the window starts: the next `skip` characters belong to an
occurrence already replaced, and `done` is the text so far, backwards. -/
def replaceFrom (pattern : Pattern) (replacement : List Char) (w : Window) (skip : Nat)
    (done : List Char) : List Char → List Char
  | [] => done.reverse
  | c :: cs =>
    let w' := w.slide pattern c
    match skip with
    | skip + 1 => replaceFrom pattern replacement w' skip done cs
    | 0 =>
      if w.isHere pattern (c :: cs) then
        replaceFrom pattern replacement w' (pattern.chars.length - 1) (replacement.reverseAux done)
          cs
      else replaceFrom pattern replacement w' 0 (c :: done) cs

def replaceAll (pattern replacement cs : List Char) : List Char :=
  let p := Pattern.ofChars pattern
  replaceFrom p replacement (.start p cs) 0 [] cs

theorem occursFrom_eq {w : Window} {pattern cs : List Char} (nonempty : pattern ≠ [])
    (h : w.Describes pattern cs) : occursFrom (.ofChars pattern) w cs = occurs pattern cs := by
  suffices agree : ∀ v : Window, v.Describes pattern cs →
      occursFrom (.ofChars pattern) w cs = occursFrom (.ofChars pattern) v cs from
    agree _ (Window.describes_start pattern cs)
  induction cs generalizing w with
  | nil => exact fun _ _ => rfl
  | cons c cs ih =>
    intro v hv
    rw [occursFrom, occursFrom, Window.isHere_eq h, Window.isHere_eq hv,
      ih (h.slide nonempty) _ (hv.slide nonempty)]

/-- A pattern occurs in a text if it starts the text or occurs further on. -/
theorem occurs_cons (pattern : List Char) (c : Char) (cs : List Char) :
    occurs pattern (c :: cs) = (pattern.isPrefixOf (c :: cs) || occurs pattern cs) := by
  have start := Window.describes_start pattern (c :: cs)
  change occursFrom (.ofChars pattern) _ _ = _
  rw [occursFrom, Window.isHere_eq start]
  by_cases empty : pattern = []
  · simp [empty]
  · rw [occursFrom_eq empty (start.slide empty)]

/-- At a place that belongs to no occurrence yet, a text is cut exactly if the pattern is there. -/
theorem cutFrom_cons {w : Window} {pattern cs : List Char} {c : Char}
    (h : w.Describes pattern (c :: cs)) (piece : List Char) (pieces : List (List Char)) :
    cutFrom (.ofChars pattern) w 0 piece pieces (c :: cs) =
      if pattern.isPrefixOf (c :: cs) then
        cutFrom (.ofChars pattern) (w.slide (.ofChars pattern) c) (pattern.length - 1) []
          (piece.reverse :: pieces) cs
      else cutFrom (.ofChars pattern) (w.slide (.ofChars pattern) c) 0 (c :: piece) pieces cs := by
  rw [cutFrom, Window.isHere_eq h]
  rfl

end Stencil.Text
