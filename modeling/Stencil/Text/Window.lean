/-!
# Windows on a text

A search for a pattern moves a window of the pattern's length along the text. The window has a hash
that changes by one character at a time, so most places are ruled out without comparing characters.
A hash alone decides nothing, and it never rules out a place where the pattern is: `isHere_eq`.
-/

namespace Stencil.Text

/-- What a hash is multiplied by for each further character. -/
def hashBase : UInt64 := 1099511628211

/-- The share of one character in a hash. -/
def charHash (c : Char) : UInt64 := c.val.toUInt64

def hashFrom (h : UInt64) (cs : List Char) : UInt64 :=
  cs.foldl (fun h c => h * hashBase + charHash c) h

def hash (cs : List Char) : UInt64 := hashFrom 0 cs

theorem hashFrom_cons (h : UInt64) (c : Char) (cs : List Char) :
    hashFrom h (c :: cs) = hashFrom (h * hashBase + charHash c) cs := rfl

theorem hashFrom_eq (h : UInt64) (cs : List Char) :
    hashFrom h cs = h * hashBase ^ cs.length + hash cs := by
  induction cs generalizing h with
  | nil => simp [hashFrom, hash]
  | cons c cs ih =>
    rw [hash, hashFrom_cons, hashFrom_cons, ih, ih (0 * hashBase + charHash c), List.length_cons,
      UInt64.pow_succ]
    grind

/-- The first character of a text has the greatest weight in its hash. -/
theorem hash_cons (c : Char) (cs : List Char) :
    hash (c :: cs) = charHash c * hashBase ^ cs.length + hash cs := by
  rw [hash, hashFrom_cons, hashFrom_eq]
  simp

theorem hash_concat (cs : List Char) (c : Char) :
    hash (cs ++ [c]) = hash cs * hashBase + charHash c := by
  simp [hash, hashFrom]

structure Pattern where
  chars : List Char
  hash : UInt64
  /-- What the first character of a window contributes to its hash is multiplied by this. -/
  weight : UInt64

def Pattern.ofChars (cs : List Char) : Pattern := ⟨cs, Text.hash cs, hashBase ^ (cs.length - 1)⟩

/-- A window that starts at some place of a text. -/
structure Window where
  hash : UInt64
  /-- The text behind the window. -/
  ahead : List Char

namespace Window

def start (pattern : Pattern) (cs : List Char) : Window :=
  ⟨Text.hash (cs.take pattern.chars.length), cs.drop pattern.chars.length⟩

/-- Moves the window over the character that it starts with. At the end of the text it stays. -/
def slide (w : Window) (pattern : Pattern) (c : Char) : Window :=
  match w.ahead with
  | [] => w
  | d :: ahead => ⟨(w.hash - charHash c * pattern.weight) * hashBase + charHash d, ahead⟩

/-- Whether the pattern is where the window starts, in a text of which that place is the start. -/
def isHere (w : Window) (pattern : Pattern) (cs : List Char) : Bool :=
  w.hash == pattern.hash && pattern.chars.isPrefixOf cs

/-- A window describes the text it starts at, unless that is shorter than the pattern. -/
def Describes (w : Window) (pattern : List Char) (cs : List Char) : Prop :=
  w.ahead = cs.drop pattern.length ∧
    (pattern.length ≤ cs.length → w.hash = Text.hash (cs.take pattern.length))

theorem describes_start (pattern cs : List Char) :
    (start (.ofChars pattern) cs).Describes pattern cs :=
  ⟨rfl, fun _ => rfl⟩

/-- Where a window describes the text, it finds the pattern exactly where it is. -/
theorem isHere_eq {w : Window} {pattern cs : List Char} (h : w.Describes pattern cs) :
    w.isHere (.ofChars pattern) cs = pattern.isPrefixOf cs := by
  cases hp : pattern.isPrefixOf cs with
  | false => simp [isHere, Pattern.ofChars, hp]
  | true =>
    obtain ⟨rest, rfl⟩ := List.isPrefixOf_iff_prefix.1 hp
    have same := h.2 (by simp)
    simp_all [isHere, Pattern.ofChars]

theorem Describes.slide {w : Window} {pattern cs : List Char} {c : Char}
    (h : w.Describes pattern (c :: cs)) (nonempty : pattern ≠ []) :
    (w.slide (.ofChars pattern) c).Describes pattern cs := by
  obtain ⟨p, ps, rfl⟩ := List.exists_cons_of_ne_nil nonempty
  obtain ⟨ahead, hash⟩ := h
  simp only [List.length_cons, List.drop_succ_cons, List.take_succ_cons] at ahead hash
  rw [Window.slide]
  split
  · next atEnd =>
    rw [atEnd] at ahead
    have short := List.drop_eq_nil_iff.1 ahead.symm
    refine ⟨?_, fun long => ?_⟩
    · rw [atEnd, List.length_cons]
      exact (List.drop_eq_nil_iff.2 (Nat.le_succ_of_le short)).symm
    · rw [List.length_cons] at long
      omega
  · next d rest more =>
    rw [more] at ahead
    have parts : cs = cs.take ps.length ++ d :: rest := by
      rw [ahead, List.take_append_drop]
    have length : (cs.take ps.length).length = ps.length := by
      have := congrArg List.length ahead
      simp at this
      simp
      omega
    generalize cs.take ps.length = window at parts length hash
    subst parts
    refine ⟨?_, fun _ => ?_⟩
    · simp [List.drop_append, length]
    · have before := hash (by simp [length])
      have next : (window ++ d :: rest).take (ps.length + 1) = window ++ [d] := by
        rw [← length, List.take_length_add_append]
        rfl
      rw [List.length_cons, next, hash_concat, before, hash_cons, length]
      simp only [Pattern.ofChars, List.length_cons, Nat.add_sub_cancel]
      grind

end Window

end Stencil.Text
