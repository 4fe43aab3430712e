import Stencil.Proofs.Script.Keeps
import Stencil.Proofs.Script.Opening
import Stencil.Proofs.Script.Yields

/-!
# Seams

Two texts may be the same up to some place and go on in different ways from there. A reader whose
cursor has not passed that place cannot tell the one from the other, as long as they both stop it
there: all signs and words that it looks for stand in one line and are no closing brackets.

A `Seam` says which cursors in two such texts stand at the same place. Two readers are `Alike` at a
seam if whatever the first one yields, the second one yields in the other text, at the same place
again. There are two exceptions: the first one may have passed the seam, and at a loose seam, where
the depths differ, the second one may have too few levels left.
-/

namespace Stencil.Script

/-! ### Blanks -/

theorem gapLength_drop (blank : Char → Bool) : ∀ (comment : Bool) (text : List Char),
    gapLength blank false (text.drop (gapLength blank comment text)) = 0
  | _, [] => rfl
  | comment, x :: text => by
    rw [gapLength]
    split
    · exact gapLength_drop blank true text
    · next inText =>
      split
      · exact gapLength_drop blank false text
      · next solid =>
        have start : ¬(x == '#') = true := fun sign => inText (by simp [sign])
        simp [gapLength, solid, start]

/-- Blanks are skipped at once. -/
@[simp] theorem Cursor.skipped_skipped (c : Cursor) : c.skipped.skipped = c.skipped := by
  have gone : Solid c.skipped.brackets c.skipped.rest := gapLength_drop _ false c.rest
  exact skipped_solid gone

/-- Where fewer characters are blanks and a gap ends at one that is none for either kind, it is the
same gap. -/
theorem gapLength_widen {blank blank' : Char → Bool} (wider : ∀ x, blank x → blank' x) {x : Char}
    (solid : blank' x = false) : ∀ (comment : Bool) (text : List Char),
      (text.drop (gapLength blank comment text)).head? = some x →
        gapLength blank' comment text = gapLength blank comment text
  | _, [], _ => rfl
  | comment, y :: text, stops => by
    rw [gapLength] at stops ⊢
    rw [gapLength]
    split
    · next commented =>
      rw [if_pos commented] at stops
      rw [gapLength_widen wider solid true text stops]
    · next inText =>
      rw [if_neg inText] at stops
      by_cases space : blank y
      · rw [if_pos space] at stops ⊢
        rw [if_pos (wider y space), gapLength_widen wider solid false text stops]
      · rw [if_neg space] at stops ⊢
        obtain rfl : y = x := by simpa using stops
        rw [if_neg (by simp [solid])]

/-- Two cursors at the same text are at the same character behind blanks, whether they are inside
brackets or not, if it is no blank for either. -/
theorem skipped_same {c d : Cursor} {x y : Char} (rest : c.rest = d.rest)
    (stops : c.skipped.rest.head? = some x) (solid : isSpaceOrBreak x = false)
    (stops' : d.skipped.rest.head? = some y) (solid' : isSpaceOrBreak y = false) :
    c.skipped.rest = d.skipped.rest := by
  have wider (x : Char) (space : isSpace x) : isSpaceOrBreak x := by
    rw [isSpaceOrBreak, space, Bool.true_or]
  rw [Cursor.skipped, Cursor.rest_pass] at stops stops' ⊢
  rw [Cursor.skipped, Cursor.rest_pass, ← rest] at *
  by_cases inside : 0 < c.brackets <;> by_cases inside' : 0 < d.brackets
  · rw [if_pos inside, if_pos inside']
  · rw [if_neg inside'] at stops' ⊢
    rw [if_pos inside, gapLength_widen wider solid' false _ stops']
  · rw [if_neg inside] at stops ⊢
    rw [if_pos inside', gapLength_widen wider solid false _ stops]
  · rw [if_neg inside, if_neg inside']

/-! ### Two texts -/

/-- Whether a character neither ends a line nor closes a bracket. -/
def isInner (x : Char) : Bool := x != '\n' && x != ')' && x != ']'

/-- The error for which an expression has no levels left. -/
def TooDeep (e : Error) : Prop := e.defect = .nestedTooDeeply

/-- Which cursors stand at the same place in two texts, in front of the seam where these part. -/
structure Seam where
  Meets : Cursor → Cursor → Prop
  /-- How much of the first text there is behind the seam. -/
  floor : Nat
  /-- Whether the second text may be read at another depth than the first. -/
  loose : Prop
  level : ∀ {c d : Cursor}, Meets c d → loose ∨ c.depth = d.depth
  depth : ∀ {c d : Cursor}, Meets c d → ∀ {m n}, (loose ∨ m = n) →
    Meets { c with depth := m } { d with depth := n }
  pass : ∀ {c d : Cursor}, Meets c d → ∀ {n}, n + floor ≤ c.rest.length →
    Meets (c.pass n) (d.pass n)
  skipped : ∀ {c d : Cursor}, Meets c d → floor ≤ c.skipped.rest.length →
    Meets c.skipped d.skipped
  length : ∀ {c d : Cursor}, Meets c d → floor ≤ c.rest.length ∧ c.rest.length ≤ d.rest.length
  head : ∀ {c d : Cursor}, Meets c d → floor < c.rest.length → c.rest.head? = d.rest.head?
  /-- Both texts go on in the same way up to the seam or the end of the line or of the brackets. -/
  line : ∀ {c d : Cursor}, Meets c d → c.rest.takeWhile isInner = d.rest.takeWhile isInner ∧
    (c.rest.takeWhile isInner).length + floor ≤ c.rest.length

/-- A seam inside brackets, where more brackets may be opened and closed again. -/
structure Seam.Nests (S : Seam) : Prop where
  inside : ∀ {c d : Cursor}, S.Meets c d → 0 < c.brackets
  enter : ∀ {c d : Cursor}, S.Meets c d →
    S.Meets { c with brackets := c.brackets + 1 } { d with brackets := d.brackets + 1 }
  leave : ∀ {c d c' d' : Cursor}, S.Meets c d → S.Meets c' d' →
    S.Meets { c' with brackets := c.brackets } { d' with brackets := d.brackets }

/-! ### What is found in a line -/

section Lines

variable {kind : Char → Bool} {text : List Char}

/-- A kind of characters that neither end a line nor close a bracket. -/
def Inner (kind : Char → Bool) : Prop :=
  kind '\n' = false ∧ kind ')' = false ∧ kind ']' = false

theorem isInner_of {x : Char} (inner : Inner kind) (h : kind x) : isInner x := by
  have ne (y : Char) (h' : kind y = false) : x ≠ y := by
    rintro rfl
    rw [h] at h'
    cases h'
  simp [isInner, ne '\n' inner.1, ne ')' inner.2.1, ne ']' inner.2.2]

theorem inner_digit : Inner Char.isDigit := ⟨by decide, by decide, by decide⟩

theorem inner_wordChar : Inner isWordChar := ⟨by decide, by decide, by decide⟩

theorem newline_not_mem_of_inner {cs : List Char} (inner : cs.all isInner) : '\n' ∉ cs :=
  fun inside => absurd (List.all_eq_true.1 inner _ inside) (by decide)

theorem inner_digitOrUnderscore : Inner isDigitOrUnderscore := ⟨by decide, by decide, by decide⟩

theorem inner_hexDigit : Inner isHexDigit := ⟨by decide, by decide, by decide⟩

theorem takeWhile_line (inner : Inner kind) :
    (text.takeWhile isInner).takeWhile kind = text.takeWhile kind := by
  rw [List.takeWhile_takeWhile]
  congr 1
  funext x
  cases found : kind x with
  | false => simp
  | true => simp [isInner_of inner found]

theorem head?_line (inner : Inner kind) :
    (text.takeWhile isInner).head?.any kind = text.head?.any kind := by
  cases text with
  | nil => rfl
  | cons x text =>
      cases found : kind x with
      | true => simp [isInner_of inner found, found]
      | false => cases more : isInner x <;> simp [more, found]

theorem isPrefixOf_line : ∀ {sign text : List Char}, sign.all isInner →
    sign.isPrefixOf (text.takeWhile isInner) = sign.isPrefixOf text
  | [], _, _ => by simp
  | _ :: _, [], _ => rfl
  | x :: sign, y :: text, inner => by
    rw [List.all_cons, Bool.and_eq_true] at inner
    by_cases same : x = y
    · subst same
      simp [inner.1, isPrefixOf_line inner.2]
    · have differs : (x == y) = false := beq_eq_false_iff_ne.2 same
      cases more : isInner y <;> simp [more, differs, List.isPrefixOf]

theorem startsFraction_line : startsFraction (text.takeWhile isInner) = startsFraction text := by
  cases text with
  | nil => rfl
  | cons x text =>
      cases more : isInner x with
      | true => simp [more, startsFraction_cons, head?_line inner_digit]
      | false =>
          have noPoint : x ≠ '.' := by
            rintro rfl
            cases more
          simp [more, noPoint, startsFraction]

end Lines

/-! ### What the cursors have in common -/

namespace Seam

variable {S : Seam} {c d : Cursor}

namespace Meets

variable (h : S.Meets c d)

include h

theorem takeWhile {kind : Char → Bool} (inner : Inner kind) :
    c.rest.takeWhile kind = d.rest.takeWhile kind ∧
      (c.rest.takeWhile kind).length + S.floor ≤ c.rest.length := by
  obtain ⟨line, fits⟩ := S.line h
  have run : c.rest.takeWhile kind = (c.rest.takeWhile isInner).takeWhile kind :=
    (takeWhile_line inner).symm
  have shorter : (c.rest.takeWhile kind).length ≤ (c.rest.takeWhile isInner).length := by
    rw [run]
    exact (List.takeWhile_prefix kind).length_le
  refine ⟨?_, by omega⟩
  rw [run, line, takeWhile_line inner]

theorem startsWithChar {kind : Char → Bool} (inner : Inner kind) :
    c.startsWithChar kind = d.startsWithChar kind := by
  rw [Cursor.startsWithChar, Cursor.startsWithChar, ← head?_line inner, (S.line h).1,
    head?_line inner]

theorem startsWith {sign : String} (inner : sign.toList.all isInner) :
    c.startsWith sign = d.startsWith sign := by
  rw [Cursor.startsWith, Cursor.startsWith, ← isPrefixOf_line inner, (S.line h).1,
    isPrefixOf_line inner]

/-- What is found in a line can be passed. -/
theorem fits {sign : String} (inner : sign.toList.all isInner) (found : c.startsWith sign) :
    sign.length + S.floor ≤ c.rest.length := by
  rw [Cursor.startsWith, ← isPrefixOf_line inner, List.isPrefixOf_iff_prefix] at found
  have shorter := found.length_le
  rw [String.length_toList] at shorter
  have line := (S.line h).2
  omega

theorem word : c.word = d.word ∧ c.word.length + S.floor ≤ c.rest.length := by
  have run := h.takeWhile inner_wordChar
  rw [Cursor.word, Cursor.word, ← h.startsWithChar inner_digit, ← run.1]
  split
  · exact ⟨rfl, by simpa using (S.length h).1⟩
  · exact ⟨rfl, run.2⟩

theorem fraction : Script.startsFraction c.rest = Script.startsFraction d.rest := by
  rw [← startsFraction_line, (S.line h).1, startsFraction_line]

end Meets

/-! ### Readers at a seam -/

/-- The cursor has not passed the seam. -/
def InFront (S : Seam) (c : Cursor) : Prop := S.floor ≤ c.rest.length

theorem inFront_of_pass {n : Nat} (S : Seam) (h : S.InFront (c.pass n)) : S.InFront c := by
  rw [InFront, Cursor.rest_pass, List.length_drop] at h
  exact h.trans (Nat.sub_le _ _)

/-- The cursor has passed the seam. -/
def Lost (S : Seam) (c : Cursor) : Prop := c.rest.length < S.floor

theorem lasting_lost (S : Seam) : Lasts S.Lost := by
  refine .of_place ?_ ?_ fun _ _ => trivial
  · intro c c' lost rest _
    rwa [Lost, rest]
  · intro c lost n
    rw [Lost, Cursor.rest_pass, List.length_drop]
    exact Nat.lt_of_le_of_lt (Nat.sub_le _ _) lost

/-- The errors that the second text may be refused with. -/
def Excuses (S : Seam) (e : Error) : Prop := S.loose ∧ TooDeep e

variable {α β : Type} {p q : Parse α} {f g : α → Parse β} {G : Cursor → Prop}

/-- Whatever the one reader yields from its cursor with another one of some kind, the other reader
yields from its own. -/
def Tracks (S : Seam) (G : Cursor → Prop) (p q : Parse α) (c d : Cursor) : Prop :=
  Yields p c fun a c' => G c' → Ends q d (fun b d' => b = a ∧ S.Meets c' d') S.Excuses

/-- The one reader does in the second text what the other one does in the first. -/
structure Alike (S : Seam) (p q : Parse α) : Prop where
  keeps : KeepsTo S.Lost p
  tracks : ∀ {c d : Cursor}, S.Meets c d → S.Tracks S.InFront p q c d

namespace Tracks

theorem of_refused (h : Yields p c fun _ _ => False) : S.Tracks G p q c d :=
  h.mono fun _ _ => False.elim

theorem pure (h : S.Meets c d) (a : α) : S.Tracks G (Pure.pure a) (Pure.pure a) c d := by
  simpa [Tracks] using fun _ => h

theorem of_tooDeep (loose : S.loose) : S.Tracks G p (Script.fail .nestedTooDeeply) c d := by
  intro a c' _ _
  rw [Ends.fail_iff]
  exact ⟨loose, rfl⟩

theorem of_lost (inFront : ∀ c, G c → S.InFront c) (lost : S.Lost c)
    (keeps : KeepsTo S.Lost p) : S.Tracks G p q c d :=
  (keeps.yields lost).mono fun _ c' lost' there =>
    absurd (inFront c' there) (Nat.not_le.2 lost')

theorem bind (inFront : ∀ c, G c → S.InFront c) (h : S.Tracks S.InFront p q c d)
    (keeps : ∀ a, KeepsTo S.Lost (f a))
    (next : ∀ a c' d', S.Meets c' d' → S.Tracks G (f a) (g a) c' d') :
    S.Tracks G (p >>= f) (q >>= g) c d := by
  rw [Tracks, Yields.bind_iff]
  refine Yields.mono h fun a c' ends => ?_
  rcases Nat.lt_or_ge c'.rest.length S.floor with lost | there
  · exact of_lost inFront lost (keeps a)
  · intro b c'' ran goal
    rw [Ends.bind_iff]
    refine (ends there).imp ?_
    rintro a' d' ⟨rfl, meets⟩
    exact next a' c' d' meets b c'' ran goal

/-- What is yielded is changed in the same way. -/
theorem map (h : S.Tracks G p q c d) (change : α → β) :
    S.Tracks G (do return change (← p)) (do return change (← q)) c d := by
  simp only [Tracks, bind_pure_comp, Yields.map_iff, Ends.map_iff]
  refine Yields.mono h fun a c' ends goal => (ends goal).imp ?_
  rintro _ d' ⟨rfl, meets⟩
  exact ⟨rfl, meets⟩

theorem ite {b : Prop} [Decidable b] {p' q' : Parse α} (h : b → S.Tracks G p q c d)
    (h' : ¬b → S.Tracks G p' q' c d) :
    S.Tracks G (if b then p else p') (if b then q else q') c d := by
  split
  · next holds => exact h holds
  · next fails => exact h' fails

/-- What is done at a cursor that is looked at. -/
theorem looking {f g : Cursor → Parse β} (next : S.Tracks G (f c) (g d) c d) :
    S.Tracks G (look >>= f) (look >>= g) c d := by
  simpa [Tracks] using next

theorem peeking {f g : Bool → Parse β} {s s' : String}
    (next : S.Tracks G (f (c.startsWith s)) (g (d.startsWith s')) c d) :
    S.Tracks G (peek s >>= f) (peek s' >>= g) c d := by
  simpa [Tracks] using next

theorem ending {f g : Bool → Parse β}
    (next : S.Tracks G (f c.rest.isEmpty) (g d.rest.isEmpty) c d) :
    S.Tracks G (atEnd >>= f) (atEnd >>= g) c d := by
  simpa [Tracks] using next

theorem peekingWord {f g : String → Parse β}
    (next : S.Tracks G (f (String.ofList c.word)) (g (String.ofList d.word)) c d) :
    S.Tracks G (peekWord >>= f) (peekWord >>= g) c d := by
  simpa [Tracks] using next

theorem passingBlanks {blank : Char → Bool} {f g : Unit → Parse β}
    (next : S.Tracks G (f ()) (g ()) (c.pass (gapLength blank false c.rest))
      (d.pass (gapLength blank false d.rest))) :
    S.Tracks G (skip blank >>= f) (skip blank >>= g) c d := by
  simpa [Tracks] using next

/-- What is done behind blanks, unless these have run over the seam. -/
theorem skipping {f g : Unit → Parse β} (meets : S.Meets c d)
    (inFront : ∀ c, G c → S.InFront c)
    (keeps : KeepsTo S.Lost (skipSpace >>= f))
    (next : S.Meets c.skipped d.skipped → S.Tracks G (f ()) (g ()) c.skipped d.skipped) :
    S.Tracks G (skipSpace >>= f) (skipSpace >>= g) c d := by
  have read : S.Tracks G (f ()) (g ()) c.skipped d.skipped := by
    rcases Nat.lt_or_ge c.skipped.rest.length S.floor with lost | there
    · have passed : Yields (f ()) c.skipped fun _ c' => S.Lost c' := by
        simpa using keeps.yields (c := c.skipped) lost
      exact passed.mono fun _ c' lost' there =>
        absurd (inFront c' there) (Nat.not_le.2 lost')
    · exact next (S.skipped meets there)
  simpa [Tracks] using read

theorem passing {f g : Unit → Parse β} {x : Char}
    (next : S.Tracks G (f ()) (g ()) (c.pass 1) (d.pass 1)) :
    S.Tracks G (char x >>= f) (char x >>= g) c d := by
  simpa [Tracks] using next

theorem passingUnseen {f g : Unit → Parse β} {piece : String}
    (next : S.Tracks G (f ()) (g ()) (c.pass piece.length) (d.pass piece.length)) :
    S.Tracks G (unseen piece >>= f) (unseen piece >>= g) c d := by
  simpa [Tracks] using next

theorem descending {f g : Unit → Parse β} (meets : S.Meets c d)
    (next : ∀ {m n}, S.Meets { c with depth := m } { d with depth := n } →
      S.Tracks G (f ()) (g ()) { c with depth := m } { d with depth := n }) :
    S.Tracks G (descend >>= f) (descend >>= g) c d := by
  have level := S.level meets
  have deeper := S.depth meets (level.imp_right fun same => congrArg (· + 1) same)
  simp only [Tracks, Yields.bind_iff, Yields.descend_iff, Ends.bind_iff, Ends.descend_iff]
  intro within
  refine (next deeper).mono fun a c' ends goal => ⟨fun full => ?_, fun _ => ends goal⟩
  rcases level with loose | same
  · exact ⟨loose, rfl⟩
  · omega

end Tracks

namespace Alike

theorem pure (a : α) : S.Alike (Pure.pure a) (Pure.pure a) where
  keeps := .pure a
  tracks h := .pure h a

theorem bind (h : S.Alike p q) (next : ∀ a, S.Alike (f a) (g a)) : S.Alike (p >>= f) (q >>= g) where
  keeps := h.keeps.bind fun a => (next a).keeps
  tracks meets :=
    .bind (fun _ => id) (h.tracks meets) (fun a => (next a).keeps) fun a _ _ => (next a).tracks

theorem ite {b : Prop} [Decidable b] {p' q' : Parse α} (h : S.Alike p q) (h' : S.Alike p' q') :
    S.Alike (if b then p else p') (if b then q else q') := by
  split
  · exact h
  · exact h'

/-- One of two readers, as a third one tells. -/
theorem whether {x y : Parse Bool} {p' q' : Parse α} (test : S.Alike x y) (h : S.Alike p q)
    (h' : S.Alike p' q') : S.Alike (do if ← x then p else p') (do if ← y then q else q') :=
  test.bind fun _ => .ite h h'

/-- A reader that yields nothing. -/
theorem of_refused (keeps : KeepsTo S.Lost p)
    (h : ∀ c, Yields p c fun _ _ => False) : S.Alike p q where
  keeps := keeps
  tracks _ := .of_refused (h _)

theorem fail {d : Defect} : S.Alike (fail d : Parse α) q :=
  .of_refused (fail_keeps S.lasting_lost d) fun _ => by simp

theorem failFound {d : Found → Defect} : S.Alike (failFound d : Parse α) q :=
  .of_refused (failFound_keeps S.lasting_lost d) fun _ => by simp

theorem throw {e : Error} : S.Alike (MonadExcept.throw e : Parse α) q :=
  .of_refused (.throw trivial) fun _ => by simp

/-- A cursor that is kept for an error only. -/
theorem lookingAny {f g : Cursor → Parse β} (next : ∀ c d, S.Alike (f c) (g d)) :
    S.Alike (look >>= f) (look >>= g) where
  keeps := S.lasting_lost.seeing fun c _ => (next c c).keeps
  tracks h := .looking ((next _ _).tracks h)

/-- What is done at a cursor that is looked at. -/
theorem looking {f g : Cursor → Parse β} (keeps : ∀ c, KeepsTo S.Lost (f c))
    (next : ∀ {c d}, S.Meets c d → S.Tracks S.InFront (f c) (g d) c d) :
    S.Alike (look >>= f) (look >>= g) where
  keeps := S.lasting_lost.seeing fun c _ => keeps c
  tracks h := .looking (next h)

/-- A reader that fails unless a first one has found something. -/
theorem orStop {x y : Parse Bool} {stop stop' : Parse Unit} {f g : Unit → Parse β}
    (test : S.Alike x y) (h : S.Alike stop stop') (next : ∀ u, S.Alike (f u) (g u)) :
    S.Alike (do if ← x then f () else (stop >>= f)) (do if ← y then g () else (stop' >>= g)) :=
  test.whether (next ()) (h.bind next)

/-- A reader that fails if something is wrong. -/
theorem unlessStopped {b : Prop} [Decidable b] {stop stop' : Parse Unit} {f g : Unit → Parse β}
    (h : S.Alike stop stop') (next : ∀ u, S.Alike (f u) (g u)) :
    S.Alike (if b then (stop >>= f) else f ()) (if b then (stop' >>= g) else g ()) :=
  .ite (h.bind next) (next ())

end Alike

/-! ### The primitives -/

section Primitives

theorem peek_alike {s : String} (inner : s.toList.all isInner) : S.Alike (peek s) (peek s) where
  keeps := peek_keeps S.lasting_lost s
  tracks h := by simpa [Tracks, h.startsWith inner] using fun _ => h

theorem accept_alike {s : String} (inner : s.toList.all isInner) :
    S.Alike (accept s) (accept s) where
  keeps := accept_keeps S.lasting_lost (newline_not_mem_of_inner inner)
  tracks {c d} h := by
    have same := h.startsWith inner
    cases found : c.startsWith s with
    | false =>
        rw [found] at same
        simpa [Tracks, found, ← same] using fun _ => h
    | true =>
        rw [found] at same
        simpa [Tracks, found, ← same] using fun _ => (S.pass h (h.fits inner found))

theorem expect_alike {s : String} (inner : s.toList.all isInner) :
    S.Alike (expect s) (expect s) :=
  (accept_alike inner).whether (.pure ()) .failFound

theorem skipSpace_alike : S.Alike skipSpace skipSpace where
  keeps := skipSpace_keeps S.lasting_lost
  tracks h := by simpa [Tracks, InFront] using S.skipped h

theorem peekWord_alike : S.Alike peekWord peekWord where
  keeps := peekWord_keeps S.lasting_lost
  tracks h := by simpa [Tracks, h.word.1] using fun _ => h

theorem acceptKeyword_alike (keyword : String) :
    S.Alike (acceptKeyword keyword) (acceptKeyword keyword) where
  keeps := acceptKeyword_keeps S.lasting_lost keyword
  tracks {c d} h := by
    obtain ⟨same, fits⟩ := h.word
    by_cases found : c.word = keyword.toList
    · rw [found, String.length_toList] at fits
      simpa [Tracks, found, ← same] using fun _ => (S.pass h fits)
    · simpa [Tracks, found, ← same] using fun _ => h

theorem identifier_alike : S.Alike identifier identifier where
  keeps := identifier_keeps S.lasting_lost
  tracks {c d} h := by
    simp only [Tracks, Yields.identifier_iff, Ends.identifier_iff]
    intro word free inFront
    have meets := S.skipped h (S.inFront_of_pass inFront)
    obtain ⟨same, fits⟩ := meets.word
    rw [← same]
    exact ⟨fun none => absurd none word, fun _ => ⟨fun used => absurd used free,
      fun _ => ⟨rfl, S.pass meets fits⟩⟩⟩

theorem descend_alike : S.Alike descend descend where
  keeps := descend_keeps S.lasting_lost
  tracks {c d} h := by
    have read := Tracks.descending (G := S.InFront) h fun meets => .pure meets ()
    simpa using read

theorem keepingDepth_alike (h : S.Alike p q) : S.Alike (keepingDepth p) (keepingDepth q) where
  keeps := keepingDepth_keeps S.lasting_lost h.keeps
  tracks {c d} meets := by
    simp only [Tracks, Yields.keepingDepth_iff, Ends.keepingDepth_iff]
    refine (h.tracks meets).mono fun a c' ends inFront => ?_
    exact (ends inFront).imp fun _ _ found => ⟨found.1, S.depth found.2 (S.level meets)⟩

theorem extend_alike {step step' : α → Parse (Option α)} (h : ∀ a, S.Alike (step a) (step' a)) :
    ∀ (fuel : Nat) (a : α), S.Alike (extend step fuel a) (extend step' fuel a)
  | 0, _ => .fail
  | fuel + 1, a => by
    rw [extend, extend]
    refine (h a).bind fun r => ?_
    cases r with
    | some b => exact extend_alike h fuel b
    | none => exact .pure a

end Primitives

/-! ### Literals -/

theorem passWhile_alike {kind : Char → Bool} (inner : Inner kind) (small : IsSmall kind) :
    S.Alike (passWhile kind) (passWhile kind) where
  keeps := passWhile_keeps S.lasting_lost small
  tracks {c d} h := by
    obtain ⟨same, fits⟩ := h.takeWhile inner
    simpa [Tracks, Yields.iff_ends, ← same] using fun _ => (S.pass h fits)

theorem digitRow_alike : S.Alike digitRow digitRow :=
  (passWhile_alike inner_digitOrUnderscore isSmall_digitOrUnderscore).bind fun _ => .pure _

theorem number_alike : S.Alike number number := by
  unfold number
  refine .lookingAny fun start start' => digitRow_alike.bind fun whole => ?_
  have fraction : S.Alike (digitRow >>= fun fraction => Pure.pure (Literal.float
      (Decimal.ofDecimal false (whole ++ fraction) (-fraction.length)))) _ :=
    digitRow_alike.bind fun _ => .pure _
  refine .looking (fun c => ?_) fun {c d} h => ?_
  · exact .ite ((unseen_keeps S.lasting_lost _).bind fun _ => fraction.keeps)
      (.unlessStopped (.throw trivial) fun _ => .pure _)
  · rw [← h.fraction]
    split
    · next found =>
      have point := Cursor.startsWith_point found
      exact .passingUnseen (fraction.tracks (S.pass h (h.fits (by decide) point)))
    · exact (Alike.unlessStopped .throw fun _ => .pure _).tracks h

/-- A reader of a next character, which has to be there. -/
theorem nextChar?_alike {f g : Option Char → Parse β} (stops : ∃ e, f none = MonadExcept.throw e)
    (next : ∀ x, S.Alike (f (some x)) (g (some x))) :
    S.Alike (nextChar? >>= f) (nextChar? >>= g) where
  keeps := by
    obtain ⟨e, stops⟩ := stops
    refine (nextChar?_keeps S.lasting_lost).bind fun x => ?_
    cases x with
    | none => exact stops ▸ .throw trivial
    | some x => exact (next x).keeps
  tracks {c d} h := by
    obtain ⟨e, stops⟩ := stops
    have read : S.Tracks S.InFront (f c.rest.head?) (g d.rest.head?) (c.pass 1) (d.pass 1) := by
      cases rest : c.rest with
      | nil =>
          rw [List.head?_nil, stops]
          exact .of_refused (by simp)
      | cons x text =>
          rcases Nat.lt_or_eq_of_le (S.length h).1 with inFront | seam
          · rw [← S.head h inFront, rest]
            exact (next x).tracks (S.pass h (by omega))
          · refine .of_lost (fun _ => id) ?_ (next x).keeps
            rw [Lost, Cursor.rest_pass, List.length_drop, seam, rest, List.length_cons]
            omega
    simpa [Tracks] using read

theorem codePoint_alike : S.Alike codePoint codePoint := by
  unfold codePoint
  refine .lookingAny fun start start' => (accept_alike (by decide)).orStop .throw fun _ => ?_
  refine (passWhile_alike inner_hexDigit isSmall_hexDigit).bind fun digits => ?_
  refine .unlessStopped .throw fun _ => ?_
  exact (accept_alike (by decide)).orStop .throw fun _ => .pure _

theorem escaped_alike (atEnd atEnd' : Error) : S.Alike (escaped atEnd) (escaped atEnd') := by
  unfold escaped
  refine .lookingAny fun start start' => nextChar?_alike ⟨_, rfl⟩ fun x => ?_
  split
  · exact .throw
  · exact .pure _
  · exact .pure _
  · exact .pure _
  · exact .pure _
  · exact codePoint_alike
  · exact .ite (.pure _) .throw

/-- The second text is at least as long as the first, so its characters suffice. -/
theorem stringBody_alike (quote : Char) (atEnd atEnd' : Error) :
    ∀ {fuel fuel' : Nat}, fuel ≤ fuel' →
      S.Alike (stringBody quote atEnd fuel) (stringBody quote atEnd' fuel')
  | 0, _, _ => .throw
  | fuel + 1, fuel' + 1, le => by
    rw [stringBody, stringBody]
    refine nextChar?_alike ⟨_, rfl⟩ fun x => ?_
    have more (x : Char) : S.Alike (do return x :: (← stringBody quote atEnd fuel))
        (do return x :: (← stringBody quote atEnd' fuel')) :=
      (stringBody_alike quote atEnd atEnd' (by omega)).bind fun _ => .pure _
    exact .ite (.pure _) (.ite ((escaped_alike _ _).bind more) (more x))

theorem quoted_tracks {c d : Cursor} (h : S.Meets c d) (quote : Char)
    (fits : 1 + S.floor ≤ c.rest.length) :
    S.Tracks S.InFront (quoted quote) (quoted quote) c d := by
  unfold quoted
  refine .looking (.passing ?_)
  have enough : c.rest.length + 1 ≤ d.rest.length + 1 := Nat.succ_le_succ (S.length h).2
  exact ((stringBody_alike quote _ _ enough).bind fun _ => .pure _).tracks (S.pass h fits)

end Seam

end Stencil.Script
