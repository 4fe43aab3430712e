import Stencil.Proofs.Script.Opening
import Stencil.Proofs.Script.Seams

/-!
# Expressions at a seam

The reader of expressions is alike to itself at every seam, and at a loose one however many levels
it has in the two texts. Closing brackets may be the seam; the readers that look for them see it, so
they are taken together with the rest of the construct that is closed. Where nothing stands but a
closing bracket no expression is read (`Refuses`), so neither text has an item there that the other
one lacks.

One reader looks beyond what it passes: it looks for a second word behind `not`, and goes back to
the first if there is none. The blanks between the two may run over the seam, where the texts
differ. But nothing goes on at the `not` then, so no construct is completed there (`Seam.Stuck`).
-/

namespace Stencil.Script

/-! ### Where the rest is known -/

theorem Cursor.startsWith_of_rest {c : Cursor} {text : List Char} (rest : c.rest = text)
    (sign : String) : c.startsWith sign = sign.toList.isPrefixOf text := by
  rw [Cursor.startsWith, rest]

/-- A sign of one character. -/
theorem Cursor.startsWith_one {sign : String} {x : Char} (chars : sign.toList = [x]) (c : Cursor) :
    c.startsWith sign = (c.rest.head? == some x) := by
  rw [Cursor.startsWith, chars]
  cases c.rest with
  | nil => rfl
  | cons y text => simp [List.isPrefixOf, eq_comm]

theorem Cursor.rest_of_startsWith_one {c : Cursor} {sign : String} {x : Char}
    (chars : sign.toList = [x]) (found : c.startsWith sign) : ∃ text, c.rest = x :: text := by
  rw [Cursor.startsWith_one chars, beq_iff_eq] at found
  exact List.head?_eq_some_iff.1 found

/-- A word stands in front of the rest. -/
theorem Cursor.rest_of_word {c : Cursor} (nonempty : c.word ≠ []) :
    ∃ text, c.rest = c.word ++ text := by
  rw [Cursor.word] at nonempty ⊢
  split
  · next digit =>
    rw [if_pos digit] at nonempty
    exact absurd rfl nonempty
  · obtain ⟨text, rest⟩ := List.takeWhile_prefix (l := c.rest) isWordChar
    exact ⟨text, rest.symm⟩

/-! ### Where no line goes on -/

/-- Nothing but the end of a line or of brackets stands at the cursor. -/
def Blocked (c : Cursor) : Prop := c.rest.takeWhile isInner = []

section Blocked

variable {c : Cursor}

theorem Blocked.startsWith (h : Blocked c) (sign : String) (nonempty : sign.toList ≠ [])
    (inner : sign.toList.all isInner) : c.startsWith sign = false := by
  obtain ⟨x, xs, chars⟩ := List.exists_cons_of_ne_nil nonempty
  rw [Cursor.startsWith, ← isPrefixOf_line inner, h, chars]
  rfl

theorem Blocked.word (h : Blocked c) : c.word = [] := by
  rw [Cursor.word, ← takeWhile_line inner_wordChar, h]
  simp

theorem Blocked.head (h : Blocked c) {x : Char} (first : c.rest.head? = some x) :
    isInner x = false := by
  rw [Blocked] at h
  cases rest : c.rest with
  | nil =>
      rw [rest] at first
      cases first
  | cons y text =>
      rw [rest] at h first
      cases first
      cases inner : isInner x with
      | false => rfl
      | true => simp [inner] at h

theorem isInner_closer {x : Char} (closer : x = ')' ∨ x = ']') : isInner x = false := by
  rcases closer with rfl | rfl <;> rfl

/-- A closing bracket stands where no line goes on. -/
theorem blocked_one {x : Char} {sign : String} (chars : sign.toList = [x])
    (closer : isInner x = false) (found : c.startsWith sign) : Blocked c := by
  obtain ⟨text, rest⟩ := Cursor.rest_of_startsWith_one chars found
  rw [Blocked, rest, List.takeWhile_cons, closer]
  rfl

end Blocked

/-- No expression starts at the cursor, whatever its depth. -/
structure Barred (c : Cursor) : Prop where
  minus : c.startsWith "-" = false
  sign : c.startsWith "!" = false
  word : c.word ≠ "not".toList
  primary : ∀ whole depth, Yields (primary whole) { c with depth } fun _ _ => False

/-- No expression starts where no line goes on. -/
theorem Blocked.barred {c : Cursor} (h : Blocked c) (solid : c.skipped = c) : Barred c where
  minus := h.startsWith "-" (by decide) (by decide)
  sign := h.startsWith "!" (by decide) (by decide)
  word := by
    rw [h.word]
    decide
  primary whole depth := by
    have blocked : Blocked { c with depth } := h
    have solid : Cursor.skipped { c with depth } = { c with depth } :=
      congrArg (fun c : Cursor => { c with depth }) solid
    unfold Script.primary
    simp only [Yields.bind_iff, Yields.skipSpace_iff, Yields.look_iff, solid]
    split
    · simp
    · next x first =>
      have other (y : Char) (inner : isInner y = true) : (x == y) = false := by
        rw [beq_eq_false_iff_ne]
        rintro rfl
        rw [blocked.head first] at inner
        cases inner
      have noDigit : x.isDigit = false := by
        by_contra digit
        have inner := isInner_of inner_digit (by simpa using digit)
        rw [blocked.head first] at inner
        cases inner
      simp [noDigit, other '"' (by decide), other '\'' (by decide), other '[' (by decide),
        other '(' (by decide), blocked.word]

/-- Behind blanks, the reader yields nothing where no expression starts. -/
def Refuses {α : Type} (p : Parse α) : Prop :=
  ∀ c, Barred c.skipped → Yields p c fun _ _ => False

namespace Refuses

variable {α β : Type} {p : Parse α} {whole : Parse Expr}

theorem bind {f : α → Parse β} (h : Refuses p) : Refuses (p >>= f) := by
  intro c barred
  rw [Yields.bind_iff]
  exact (h c barred).mono fun _ _ => False.elim

theorem primary : Refuses (primary whole) := by
  intro c barred
  have refused : Yields (Script.primary whole) c.skipped fun _ _ => False :=
    barred.primary whole c.depth
  simpa [Script.primary] using refused

theorem negated : ∀ fuel : Nat, Refuses (negated whole fuel)
  | 0 => by simp [Refuses, Script.negated]
  | fuel + 1 => by
    intro c barred
    have refused : Yields (trailed whole) c.skipped fun _ _ => False :=
      primary.bind _ (by simpa using barred)
    simpa [Script.negated, barred.minus] using refused

theorem comparison : Refuses (comparison whole) := (((negated _).bind).bind).bind

theorem denied : ∀ fuel : Nat, Refuses (denied whole fuel)
  | 0 => by simp [Refuses, Script.denied]
  | fuel + 1 => by
    intro c barred
    have word : c.skipped.word ≠ ['n', 'o', 't'] := barred.word
    have refused : Yields (Script.comparison whole) c.skipped fun _ _ => False :=
      comparison _ (by simpa using barred)
    simpa [Script.denied, acceptNot, barred.sign, word] using refused

theorem filtered : Refuses (filtered whole) := (((denied _).bind).bind).bind

theorem expressionWithin : ∀ levels : Nat, Refuses (expressionWithin levels)
  | 0 => by simp [Refuses, Script.expressionWithin]
  | levels + 1 => by
    intro c barred
    simp only [Script.expressionWithin, Yields.keepingDepth_iff, Yields.bind_iff,
      Yields.descend_iff]
    intro _
    have deeper : Barred (Cursor.skipped { c with depth := c.depth + 1 }) :=
      ⟨barred.minus, barred.sign, barred.word, barred.primary⟩
    exact (filtered { c with depth := c.depth + 1 } deeper).mono fun _ _ => False.elim

end Refuses

/-! ### Brackets -/

namespace Seam

variable {S : Seam} {whole whole' operand operand' : Parse Expr} {c d : Cursor}

theorem inFront_of_skipped (S : Seam) (h : S.floor ≤ c.skipped.rest.length) : S.InFront c :=
  S.inFront_of_pass h

/-- At the seam itself no line goes on. -/
theorem blocked_of_seam (h : S.Meets c d) (seam : S.floor = c.rest.length) : Blocked c := by
  have line := (S.line h).2
  exact List.eq_nil_of_length_eq_zero (by omega)

section Signs

variable {x : Char} {sign : String} (chars : sign.toList = [x])

include chars

/-- A sign of one character in front of the seam is found in both texts. -/
theorem startsWith_one (h : S.Meets c d) (more : S.floor < c.rest.length) :
    c.startsWith sign = d.startsWith sign := by
  rw [Cursor.startsWith_one chars, Cursor.startsWith_one chars, S.head h more]

/-- A sign that is passed without reaching behind the seam is in front of it. -/
theorem fits_one (found : c.startsWith sign) (inFront : S.InFront (c.pass sign.length)) :
    S.floor < c.rest.length ∧ sign.length + S.floor ≤ c.rest.length := by
  obtain ⟨text, rest⟩ := Cursor.rest_of_startsWith_one chars found
  have one : sign.length = 1 := by
    rw [← String.length_toList, chars]
    rfl
  rw [InFront, Cursor.rest_pass, rest, one] at inFront
  rw [rest, one, List.length_cons]
  have behind : S.floor ≤ text.length := inFront
  omega

end Signs

/-! ### Where a negation runs over the seam -/

section Stuck

variable {α β : Type} {p q : Parse α} {f g : α → Parse β} {G : Cursor → Prop}

/-- The word behind the `not` at the cursor would be looked for behind the seam. -/
def Stuck (S : Seam) (c : Cursor) : Prop :=
  c.skipped.word = "not".toList ∧ S.Lost (c.skipped.pass "not".length).skipped

/-- The cursor has not passed the seam, and no word is looked for behind it. -/
def Clear (S : Seam) (c : Cursor) : Prop := S.InFront c ∧ ¬S.Stuck c

theorem clear_of_floor (none : S.floor = 0) (c : Cursor) : S.Clear c := by
  simp [Clear, InFront, Stuck, Lost, none]

theorem Stuck.skipped (h : S.Stuck c) : S.Stuck c.skipped := by
  rwa [Stuck, Cursor.skipped_skipped]

theorem Stuck.rest (h : S.Stuck c) : ∃ cs, c.skipped.rest = 'n' :: 'o' :: 't' :: cs := by
  have nonempty : c.skipped.word ≠ [] := by
    rw [h.1]
    decide
  obtain ⟨cs, rest⟩ := Cursor.rest_of_word nonempty
  exact ⟨cs, by rw [rest, h.1]; rfl⟩

/-- No sign stands at a word. -/
theorem Stuck.startsWith (h : S.Stuck c) {sign : String}
    (other : sign.toList.head?.any (· != 'n')) : c.skipped.startsWith sign = false := by
  obtain ⟨cs, rest⟩ := h.rest
  rw [Cursor.startsWith_of_rest rest]
  cases chars : sign.toList with
  | nil =>
      rw [chars] at other
      cases other
  | cons x xs =>
      rw [chars] at other
      have differs : x ≠ 'n' := by simpa using other
      simp [List.isPrefixOf, differs]

/-- The one reader does in the second text what the other one does in the first, except in front of
a negation that runs over the seam. -/
structure Agree (S : Seam) (p q : Parse α) : Prop where
  keeps : KeepsTo S.Lost p
  tracks : ∀ {c d : Cursor}, S.Meets c d → S.Tracks S.Clear p q c d

theorem Alike.agree (h : S.Alike p q) : S.Agree p q where
  keeps := h.keeps
  tracks meets := (h.tracks meets).mono fun _ _ ends clear => ends clear.1

/-- What is done where an expression has been read, if no construct is completed in front of a
negation that runs over the seam. -/
theorem Tracks.completing (h : S.Tracks S.Clear p q c d) (inFront : ∀ c, G c → S.InFront c)
    (keeps : ∀ a, KeepsTo S.Lost (f a))
    (stuck : ∀ a c', S.Stuck c' → Yields (f a) c' fun _ c'' => ¬G c'')
    (next : ∀ a c' d', S.Meets c' d' → S.Tracks G (f a) (g a) c' d') :
    S.Tracks G (p >>= f) (q >>= g) c d := by
  rw [Tracks, Yields.bind_iff]
  refine Yields.mono h fun a c' ends => ?_
  rcases Nat.lt_or_ge c'.rest.length S.floor with lost | there
  · exact Tracks.of_lost inFront lost (keeps a)
  by_cases stops : S.Stuck c'
  · exact (stuck a c' stops).mono fun _ _ fails goal => absurd goal fails
  · intro b c'' ran goal
    rw [Ends.bind_iff]
    refine (ends ⟨there, stops⟩).imp ?_
    rintro a' d' ⟨rfl, meets⟩
    exact next a' c' d' meets b c'' ran goal

namespace Agree

theorem bind (h : S.Alike p q) (next : ∀ a, S.Agree (f a) (g a)) : S.Agree (p >>= f) (q >>= g) where
  keeps := h.keeps.bind fun a => (next a).keeps
  tracks meets :=
    .bind (fun _ clear => clear.1) (h.tracks meets) (fun a => (next a).keeps)
      fun a _ _ => (next a).tracks

/-- One of two readers, as a third one tells. -/
theorem whether {x y : Parse Bool} {p' q' : Parse α} (test : S.Alike x y) (h : S.Agree p q)
    (h' : S.Agree p' q') : S.Agree (do if ← x then p else p') (do if ← y then q else q') := by
  refine .bind test fun found => ?_
  cases found with
  | true => exact h
  | false => exact h'

/-- What is yielded is changed in the same way. -/
theorem map (h : S.Agree p q) (change : α → β) :
    S.Agree (do return change (← p)) (do return change (← q)) where
  keeps := h.keeps.bind fun _ => .pure _
  tracks meets := (h.tracks meets).map change

/-- What builds on an expression stays where a negation runs over the seam. -/
theorem extend {step step' : Expr → Parse (Option Expr)} {first first' : Parse Expr}
    (h : S.Agree first first') (steps : ∀ e, S.Agree (step e) (step' e))
    (stays : ∀ e c, S.Stuck c → Yields (step e) c fun r c' => r = none ∧ S.Stuck c')
    (fuel : Nat) :
    S.Agree (do Script.extend step fuel (← first)) (do Script.extend step' fuel (← first')) := by
  have keeps (fuel : Nat) (e : Expr) : KeepsTo S.Lost (Script.extend step fuel e) :=
    extend_keeps S.lasting_lost (fun e => (steps e).keeps) fuel e
  have stuck (fuel : Nat) (e : Expr) (c : Cursor) (stops : S.Stuck c) :
      Yields (Script.extend step fuel e) c fun _ c' => ¬S.Clear c' := by
    cases fuel with
    | zero => simp [Script.extend]
    | succ fuel =>
        rw [Script.extend, Yields.bind_iff]
        refine (stays e c stops).mono ?_
        rintro _ c' ⟨rfl, stops'⟩
        exact fun _ _ => by rintro ⟨⟩ clear; exact clear.2 stops'
  have more : ∀ (fuel : Nat) (e : Expr) {c d : Cursor}, S.Meets c d →
      S.Tracks S.Clear (Script.extend step fuel e) (Script.extend step' fuel e) c d := by
    intro fuel
    induction fuel with
    | zero => exact fun e _ _ _ => .of_refused (by simp [Script.extend])
    | succ fuel ih =>
        intro e c d meets
        rw [Script.extend, Script.extend]
        refine ((steps e).tracks meets).completing (fun _ clear => clear.1) ?_ ?_ ?_
        · rintro (_ | e')
          · exact .pure e
          · exact keeps fuel e'
        · rintro (_ | e') c' stops
          · simpa using fun clear : S.Clear c' => clear.2 stops
          · exact stuck fuel e' c' stops
        · rintro (_ | e') c' d' meets
          · exact .pure meets e
          · exact ih e' meets
  exact {
    keeps := h.keeps.bind fun e => keeps fuel e
    tracks := fun meets => (h.tracks meets).completing (fun _ clear => clear.1) (keeps fuel)
      (stuck fuel) fun e _ _ => more fuel e }

end Agree

end Stuck

/-! ### What stands in brackets -/

/-- The readers of what stands in brackets, and of the brackets behind it, are alike. -/
structure Brackets (S : Seam) (whole whole' : Parse Expr) : Prop where
  keeps : KeepsTo S.Lost whole
  sequence : ∀ {x : Char} {close : String}, close.toList = [x] → (x = ')' ∨ x = ']') →
    S.Alike (Script.sequence whole close) (Script.sequence whole' close)
  enclosed : ∀ {x : Char} {close : String}, close.toList = [x] → (x = ')' ∨ x = ']') →
    S.Alike (Script.enclosed whole close) (Script.enclosed whole' close)

section Nested

variable (h : S.Agree whole whole') (refuses : Refuses whole)

include h

section Items

include refuses

/-- Items that are read up to a cursor of some kind are items in the second text as well, if the
brackets that close them are found there. -/
theorem items_tracks {close close' : String} {G : Cursor → Prop}
    (clear : ∀ c, G c.skipped → S.Clear c)
    (closes : ∀ {c d}, S.Meets c d → G c → c.startsWith close → d.startsWith close')
    (closer : ∀ {d}, d.startsWith close' → Blocked d) :
    ∀ (fuel fuel' : Nat), (S.loose ∨ fuel ≤ fuel') → ∀ {c d : Cursor}, S.Meets c d →
      S.Tracks (fun c' => G c'.skipped) (items whole close fuel) (items whole' close' fuel') c d
  | 0, _, _, _, _, _ => .of_refused (by simp [items])
  | fuel + 1, 0, enough, _, _, _ => .of_tooDeep (enough.resolve_right (Nat.not_succ_le_zero _))
  | fuel + 1, fuel' + 1, enough, c, d, meets => by
    have inFront (c : Cursor) (goal : G c.skipped) : S.InFront c := (clear c goal).1
    have more : KeepsTo S.Lost (items whole close fuel) :=
      items_keeps S.lasting_lost h.keeps close fuel
    rw [items, items]
    have kept := items_keeps S.lasting_lost h.keeps close (fuel + 1)
    refine .skipping meets inFront kept fun meets => .peeking ?_
    cases found : c.skipped.startsWith close with
    | true =>
        rw [if_pos rfl, Tracks, Yields.pure_iff, Cursor.skipped_skipped]
        intro goal
        rw [closes meets goal found, if_pos rfl, Ends.pure_iff]
        exact ⟨rfl, meets⟩
    | false =>
        cases found' : d.skipped.startsWith close' with
        | true =>
            have blocked : Blocked c.skipped := (S.line meets).1.trans (closer found')
            have barred := blocked.barred c.skipped_skipped
            exact .of_refused (refuses.bind _ (by rwa [Cursor.skipped_skipped]))
        | false =>
            simp only [Bool.false_eq_true, if_false]
            have behind (e : Expr) : KeepsTo S.Lost (do
                skipSpace
                if ← accept "," then return e :: (← items whole close fuel)
                return [e]) :=
              (skipSpace_keeps S.lasting_lost).bind fun _ =>
                (accept_keeps S.lasting_lost (by decide)).whether
                  (more.bind fun _ => .pure _) (.pure [e])
            refine (h.tracks meets).completing inFront behind (fun e c' stuck => ?_)
              fun e c' d' meets => ?_
            · have noComma : c'.skipped.startsWith "," = false := stuck.startsWith (by decide)
              simpa [noComma] using fun goal => (clear c' goal).2 stuck
            refine .skipping meets inFront (behind e) fun meets => ?_
            refine .bind inFront ((accept_alike (by decide)).tracks meets)
              (fun _ => .ite (more.bind fun _ => .pure _) (.pure [e])) fun again c' d' meets => ?_
            cases again with
            | true =>
                exact (items_tracks clear closes closer fuel fuel'
                  (enough.imp_right Nat.le_of_succ_le_succ) meets).map fun es => e :: es
            | false => exact .pure meets [e]

end Items

variable (nests : S.Nests) {x : Char} {close : String} (chars : close.toList = [x])
variable (closer : x = ')' ∨ x = ']')

include chars closer

omit h in
theorem plain_of_closer : '\n' ∉ close.toList := by
  rw [chars, List.mem_singleton]
  rintro rfl
  rcases closer with other | other <;> cases other

omit h in
/-- In front of a closing bracket, no word is looked for behind the seam. -/
theorem clear_of_closer {c d : Cursor} (inFront : S.InFront c) (rest : c.rest = d.rest)
    (found : d.skipped.startsWith close) : S.Clear c := by
  refine ⟨inFront, fun stuck => ?_⟩
  rw [Cursor.startsWith_one chars, beq_iff_eq] at found
  obtain ⟨cs, word⟩ := stuck.rest
  have same := skipped_same rest (congrArg List.head? word) (by decide) found
    (by rcases closer with rfl | rfl <;> decide)
  rw [← same, word] at found
  rcases closer with rfl | rfl <;> cases found

include h nests

theorem sequence_alike (refuses : Refuses whole) :
    S.Alike (sequence whole close) (sequence whole' close) where
  keeps := sequence_keeps S.lasting_lost h.keeps (plain_of_closer chars closer)
  tracks {c d} meets := by
    have closes {c d : Cursor} (meets : S.Meets c d) (more : S.floor < c.rest.length)
        (found : c.startsWith close) : d.startsWith close :=
      (startsWith_one chars meets more).symm.trans found
    have enough : c.rest.length + 1 ≤ d.rest.length + 1 := Nat.succ_le_succ (S.length meets).2
    have read : S.Tracks
        (fun c' => S.floor < c'.skipped.rest.length ∧ c'.skipped.startsWith close)
        (items whole close (c.rest.length + 1)) (items whole' close (d.rest.length + 1))
        { c with brackets := c.brackets + 1 } { d with brackets := d.brackets + 1 } :=
      items_tracks h refuses (G := fun c => S.floor < c.rest.length ∧ c.startsWith close)
        (fun c goal => clear_of_closer chars closer (S.inFront_of_skipped goal.1.le) rfl goal.2)
        (fun meets goal found => closes meets goal.1 found)
        (blocked_one chars (isInner_closer closer)) _ _ (.inr enough) (nests.enter meets)
    simp only [Tracks, sequence, Yields.bind_iff, Yields.bracketed_iff, Yields.look_iff,
      Yields.skipSpace_iff, Yields.pure_iff, Yields.expect_iff, Ends.bind_iff, Ends.bracketed_iff,
      Ends.look_iff, Ends.skipSpace_iff, Ends.pure_iff, Ends.expect_iff]
    refine Yields.mono read fun es c' ends found inFront => ?_
    obtain ⟨more, fits⟩ : S.floor < c'.skipped.rest.length ∧ _ := fits_one chars found inFront
    refine (ends ⟨more, found⟩).imp ?_
    rintro _ d' ⟨rfl, meets'⟩
    have meets' := nests.leave meets (S.skipped meets' more.le)
    refine ⟨fun _ => ⟨rfl, S.pass meets' fits⟩, fun missing => ?_⟩
    have found' := closes meets' more found
    rw [missing] at found'
    cases found'

theorem enclosed_alike : S.Alike (enclosed whole close) (enclosed whole' close) where
  keeps := enclosed_keeps S.lasting_lost h.keeps (plain_of_closer chars closer)
  tracks {c d} meets := by
    simp only [Tracks, enclosed, Yields.bind_iff, Yields.bracketed_iff, Yields.skipSpace_iff,
      Yields.pure_iff, Yields.expect_iff, Ends.bind_iff, Ends.bracketed_iff, Ends.skipSpace_iff,
      Ends.pure_iff, Ends.expect_iff]
    refine Yields.mono (h.tracks (nests.enter meets)) fun e c' ends found inFront => ?_
    obtain ⟨more, fits⟩ := fits_one chars found inFront
    have clear : S.Clear c' :=
      clear_of_closer (d := { c' with brackets := c.brackets }) chars closer
        (S.inFront_of_skipped (c := { c' with brackets := c.brackets }) more.le) rfl found
    refine (ends clear).imp ?_
    rintro _ d' ⟨rfl, meets'⟩
    have meets' := S.skipped (nests.leave meets meets') more.le
    rw [← startsWith_one chars meets' more, found]
    exact ⟨fun _ => ⟨rfl, S.pass meets' fits⟩, fun missing => by cases missing⟩

omit chars closer in
theorem brackets_of_agree (refuses : Refuses whole) : S.Brackets whole whole' where
  keeps := h.keeps
  sequence chars closer := sequence_alike h nests chars closer refuses
  enclosed chars closer := enclosed_alike h nests chars closer

end Nested

/-! ### Expressions -/

section Expressions

variable (h : S.Brackets whole whole')

include h

theorem arguments_alike : S.Alike (arguments whole) (arguments whole') :=
  (expect_alike (by decide)).bind fun _ => h.sequence rfl (.inl rfl)

theorem primary_alike : S.Alike (primary whole) (primary whole') where
  keeps := primary_keeps S.lasting_lost h.keeps
  tracks {c d} meets := by
    unfold primary
    refine .skipping meets (fun _ => id) (primary_keeps S.lasting_lost h.keeps) fun meets => ?_
    rcases Nat.lt_or_eq_of_le (S.length meets).1 with inFront | seam
    case inr =>
      have barred := (blocked_of_seam meets seam).barred c.skipped_skipped
      exact .of_refused (by simpa [primary] using
        (Refuses.primary c barred : Yields (primary whole) c fun _ _ => False))
    have fits : 1 + S.floor ≤ c.skipped.rest.length := by omega
    refine .looking ?_
    rw [← S.head meets inFront]
    split
    · exact .of_refused (by simp)
    · next x first =>
      refine .ite (fun _ => (number_alike.bind fun _ => .pure _).tracks meets) fun _ => ?_
      refine .ite (fun _ => (quoted_tracks meets x fits).map _) fun _ => ?_
      refine .ite (fun _ => .passing ?_) fun _ => .ite (fun _ => .passing ?_) fun _ => ?_
      · exact ((h.sequence rfl (.inr rfl)).bind fun _ => .pure _).tracks (S.pass meets fits)
      · exact (h.enclosed rfl (.inl rfl)).tracks (S.pass meets fits)
      · refine (Alike.whether (acceptKeyword_alike _) (.pure _) ?_).tracks meets
        refine (acceptKeyword_alike _).whether (.pure _) ?_
        refine (acceptKeyword_alike _).whether (.pure _) ?_
        refine peekWord_alike.bind fun _ => .unlessStopped .failFound fun _ => ?_
        exact identifier_alike.bind fun _ => .pure _

theorem afterPoint_alike (e : Expr) : S.Alike (afterPoint whole e) (afterPoint whole' e) := by
  have position : S.Alike (do return Expr.index e (.literal (← number)))
      (do return Expr.index e (.literal (← number))) :=
    number_alike.bind fun _ => .pure _
  have named : S.Alike (do
      let name ← identifier
      if ← peek "(" then return Expr.call name (e :: (← arguments whole))
      return Expr.member e name) (do
      let name ← identifier
      if ← peek "(" then return Expr.call name (e :: (← arguments whole'))
      return Expr.member e name) :=
    identifier_alike.bind fun name => (peek_alike (by decide)).whether
      ((arguments_alike h).bind fun _ => .pure _) (.pure _)
  unfold afterPoint
  refine .looking (fun c => .ite position.keeps named.keeps) fun {c d} meets => ?_
  rw [← meets.startsWithChar inner_digit]
  exact (Alike.ite position named).tracks meets

theorem trailer_alike (e : Expr) : S.Alike (trailer whole e) (trailer whole' e) where
  keeps := trailer_keeps S.lasting_lost h.keeps e
  tracks {c d} meets := by
    unfold trailer
    refine .peeking ?_
    rw [← meets.startsWith (by decide)]
    refine .ite (fun _ => .descending meets fun deeper => ?_) fun _ => .peeking ?_
    · split
      · exact ((arguments_alike h).bind fun _ => .pure _).tracks deeper
      · exact .of_refused (by simp)
    rw [← meets.startsWith (by decide)]
    refine .ite (fun found => .descending meets fun deeper => .passingUnseen ?_) fun _ =>
      .peeking ?_
    · exact ((h.enclosed rfl (.inr rfl)).bind fun _ => .pure _).tracks
        (S.pass deeper (meets.fits (by decide) found))
    rw [← meets.startsWith (by decide)]
    refine .ite (fun found => .descending meets fun deeper => .passingUnseen ?_) fun _ =>
      .pure meets none
    exact ((afterPoint_alike h e).bind fun _ => .pure _).tracks
      (S.pass deeper (meets.fits (by decide) found))

theorem trailed_alike : S.Alike (trailed whole) (trailed whole') :=
  (primary_alike h).bind fun e => extend_alike (trailer_alike h) _ e

theorem negated_alike : ∀ fuel : Nat, S.Alike (negated whole fuel) (negated whole' fuel)
  | 0 => .fail
  | fuel + 1 => by
    rw [negated, negated]
    refine skipSpace_alike.bind fun _ => (accept_alike (by decide)).whether ?_ (trailed_alike h)
    exact descend_alike.bind fun _ => (negated_alike fuel).bind fun _ => .pure _

omit h in
theorem rightOperand_alike (h : S.Alike operand operand') (combine : Expr → Expr) :
    S.Alike (rightOperand operand combine) (rightOperand operand' combine) :=
  descend_alike.bind fun _ => h.bind fun _ => .pure _

theorem moreFactors_alike (left : Expr) :
    S.Alike (moreFactors whole left) (moreFactors whole' left) := by
  have operand (combine : Expr → Expr) :
      S.Alike (rightOperand (factor whole) combine) (rightOperand (factor whole') combine) :=
    rightOperand_alike (negated_alike h _) combine
  unfold moreFactors
  refine skipSpace_alike.bind fun _ => ?_
  refine (accept_alike (by decide)).whether (operand _) ?_
  refine (accept_alike (by decide)).whether (operand _) ?_
  exact (accept_alike (by decide)).whether (operand _) (.pure none)

theorem product_alike : S.Alike (product whole) (product whole') :=
  (negated_alike h _).bind fun e => extend_alike (moreFactors_alike h) _ e

theorem moreTerms_alike (left : Expr) :
    S.Alike (moreTerms whole left) (moreTerms whole' left) := by
  have operand (combine : Expr → Expr) :
      S.Alike (rightOperand (product whole) combine) (rightOperand (product whole') combine) :=
    rightOperand_alike (product_alike h) combine
  unfold moreTerms
  refine skipSpace_alike.bind fun _ => (peek_alike (by decide)).bind fun _ => ?_
  refine (peek_alike (by decide)).bind fun _ => .ite (.pure none) ?_
  refine (accept_alike (by decide)).whether (operand _) ?_
  exact (accept_alike (by decide)).whether (operand _) (.pure none)

theorem sum_alike : S.Alike (sum whole) (sum whole') :=
  (product_alike h).bind fun e => extend_alike (moreTerms_alike h) _ e

omit h in
theorem relation?_alike : S.Alike relation? relation? := by
  unfold relation?
  refine (accept_alike (by decide)).whether (.pure _) ?_
  refine (accept_alike (by decide)).whether (.pure _) ?_
  refine (accept_alike (by decide)).whether (.pure _) ?_
  refine (accept_alike (by decide)).whether (.pure _) ?_
  refine (accept_alike (by decide)).whether (.pure _) ?_
  refine (accept_alike (by decide)).whether (.pure _) ?_
  exact (acceptKeyword_alike _).whether (.pure _) (.pure none)

omit h in
/-- Where no membership test is negated, the cursor stays. -/
theorem acceptNotIn_tracks {f g : Bool → Parse Expr} (meets : S.Meets c d)
    (solid : c.skipped = c) (negated : S.Alike (f true) (g true))
    (other : S.Alike (f false) (g false))
    (stays : S.Stuck c → Yields (f false) c fun _ c' => S.Stuck c') :
    S.Tracks S.Clear (acceptNotIn >>= f) (acceptNotIn >>= g) c d := by
  obtain ⟨same, fits⟩ := meets.word
  have otherwise := other.agree.tracks meets
  by_cases isNot : c.word = "not".toList
  · rw [isNot, String.length_toList] at fits
    rw [isNot] at same
    rcases Nat.lt_or_ge (c.pass "not".length).skipped.rest.length S.floor with lost | there
    · have stuck : S.Stuck c := by
        rw [Stuck, solid]
        exact ⟨isNot, lost⟩
      have stays : Yields (f false) c fun _ c' => ¬S.Clear c' :=
        (stays stuck).mono fun _ _ stuck clear => clear.2 stuck
      have passes : Yields (f true) ((c.pass "not".length).skipped.pass "in".length)
          fun _ c' => ¬S.Clear c' :=
        (negated.keeps.yields (S.lasting_lost.pass lost _)).mono
          fun _ _ lost clear => absurd clear.1 (Nat.not_le.2 lost)
      have fails : Yields (acceptNotIn >>= f) c fun _ c' => ¬S.Clear c' := by
        simp only [acceptNotIn, Yields.bind_iff, Yields.get_iff, Yields.acceptKeyword_iff,
          Yields.skipSpace_iff, Yields.ite_iff, Yields.pure_iff, Yields.restore_iff, isNot]
        simp [stays, passes]
      exact fails.mono fun _ _ fails clear => absurd clear fails
    · have behind := S.skipped (S.pass meets fits) there
      obtain ⟨same', fits'⟩ := behind.word
      by_cases isIn : (c.pass "not".length).skipped.word = "in".toList
      · rw [isIn, String.length_toList] at fits'
        rw [isIn] at same'
        have read := negated.agree.tracks (S.pass behind fits')
        simpa [Tracks, acceptNotIn, isNot, ← same, isIn, ← same'] using read
      · have other : (c.pass "not".length).skipped.word ≠ ['i', 'n'] := isIn
        simpa [Tracks, acceptNotIn, isNot, ← same, other, ← same'] using otherwise
  · have other : c.word ≠ ['n', 'o', 't'] := isNot
    simpa [Tracks, acceptNotIn, other, ← same] using otherwise

theorem compared_agree (left : Expr) : S.Agree (compared whole left) (compared whole' left) where
  keeps := compared_keeps S.lasting_lost h.keeps left
  tracks {c d} meets := by
    have right (combine : Expr → Expr) :
        S.Alike (do return combine (← sum whole)) (do return combine (← sum whole')) :=
      (sum_alike h).bind fun _ => .pure _
    unfold compared
    refine .skipping meets (fun _ clear => clear.1) (compared_keeps S.lasting_lost h.keeps left)
      fun meets => ?_
    refine acceptNotIn_tracks meets c.skipped_skipped (right _) ?_ fun stuck => ?_
    · refine relation?_alike.bind fun op => ?_
      cases op with
      | some op => exact right _
      | none => exact .pure left
    · have word : c.skipped.word = ['n', 'o', 't'] := by simpa using stuck.1
      have noSign (sign : String) (other : sign.toList.head?.any (· != 'n')) :
          c.skipped.startsWith sign = false := by
        simpa using stuck.startsWith other
      simp [relation?, word, noSign "==" (by decide), noSign "!=" (by decide),
        noSign "<=" (by decide), noSign ">=" (by decide), noSign "<" (by decide),
        noSign ">" (by decide), stuck]

theorem comparison_agree : S.Agree (comparison whole) (comparison whole') :=
  .bind (sum_alike h) fun e => compared_agree h e

omit h in
theorem acceptNot_alike : S.Alike acceptNot acceptNot where
  keeps := acceptNot_keeps S.lasting_lost
  tracks {c d} meets := by
    unfold acceptNot
    refine .peeking (.peeking ?_)
    rw [← meets.startsWith (by decide), ← meets.startsWith (by decide)]
    refine .ite (fun found => .passingUnseen (.pure (S.pass meets ?_) true)) fun _ =>
      (acceptKeyword_alike _).tracks meets
    have sign : c.startsWith "!" := by simp_all
    exact meets.fits (by decide) sign

theorem denied_agree : ∀ fuel : Nat, S.Agree (denied whole fuel) (denied whole' fuel)
  | 0 => Alike.fail.agree
  | fuel + 1 => by
    rw [denied, denied]
    refine .bind skipSpace_alike fun _ => .whether acceptNot_alike ?_ (comparison_agree h)
    exact .bind descend_alike fun _ => (denied_agree fuel).map _

omit h in
theorem rightOperand_agree (h : S.Agree operand operand') (combine : Expr → Expr) :
    S.Agree (rightOperand operand combine) (rightOperand operand' combine) :=
  .bind descend_alike fun _ => h.map fun e => some (combine e)

omit h in
theorem acceptEither_alike {sign : String} (word : String) (inner : sign.toList.all isInner) :
    S.Alike (acceptEither sign word) (acceptEither sign word) :=
  (accept_alike inner).whether (.pure true) (acceptKeyword_alike word)

omit h in
/-- Neither spelling of an operator stands at a negation. -/
theorem Stuck.more {sign word : String} {more : Parse (Option Expr)} (stuck : S.Stuck c)
    (other : sign.toList.head?.any (· != 'n')) (other' : word.toList ≠ "not".toList) :
    Yields (do
      skipSpace
      if ← acceptEither sign word then more
      else return none) c fun r c' => r = none ∧ S.Stuck c' := by
  have noWord : c.skipped.word ≠ word.toList := fun same => other' (same.symm.trans stuck.1)
  simp [acceptEither, stuck.startsWith other, noWord, stuck.skipped]

theorem moreConjuncts_agree (left : Expr) :
    S.Agree (moreConjuncts whole left) (moreConjuncts whole' left) :=
  .bind skipSpace_alike fun _ => .whether (acceptEither_alike _ (by decide))
    (rightOperand_agree (denied_agree h _) _) (Alike.pure none).agree

theorem conjunction_agree : S.Agree (conjunction whole) (conjunction whole') :=
  (denied_agree h _).extend (moreConjuncts_agree h)
    (fun _ _ stuck => stuck.more (by decide) (by decide)) _

theorem moreDisjuncts_agree (left : Expr) :
    S.Agree (moreDisjuncts whole left) (moreDisjuncts whole' left) :=
  .bind skipSpace_alike fun _ => .whether (acceptEither_alike _ (by decide))
    (rightOperand_agree (conjunction_agree h) _) (Alike.pure none).agree

theorem disjunction_agree : S.Agree (disjunction whole) (disjunction whole') :=
  (conjunction_agree h).extend (moreDisjuncts_agree h)
    (fun _ _ stuck => stuck.more (by decide) (by decide)) _

theorem moreFilters_alike (e : Expr) : S.Alike (moreFilters whole e) (moreFilters whole' e) where
  keeps := moreFilters_keeps S.lasting_lost h.keeps e
  tracks {c d} meets := by
    unfold moreFilters
    refine .skipping meets (fun _ => id) (moreFilters_keeps S.lasting_lost h.keeps e) fun meets =>
      .peeking (.peeking ?_)
    rw [← meets.startsWith (by decide), ← meets.startsWith (by decide)]
    refine .ite (fun found => ?_) fun _ => .pure meets none
    have sign : c.skipped.startsWith "|" := by simp_all
    have passed := S.pass meets (meets.fits (by decide) sign)
    refine .passingUnseen (.descending passed fun deeper => ?_)
    refine Alike.tracks ?_ deeper
    refine identifier_alike.bind fun function => (peek_alike (by decide)).bind fun _ => ?_
    exact .ite ((arguments_alike h).bind fun _ => .pure _) (.pure _)

theorem filtered_agree : S.Agree (filtered whole) (filtered whole') := by
  refine (disjunction_agree h).extend (fun e => (moreFilters_alike h e).agree) ?_ _
  intro e c stuck
  have noBar : c.skipped.startsWith "|" = false := stuck.startsWith (by decide)
  simp [moreFilters, noBar, stuck.skipped]

omit h in
/-- One level more. -/
theorem expressionWithin_succ_agree {levels levels' : Nat}
    (h : S.Brackets (expressionWithin levels) (expressionWithin levels')) :
    S.Agree (expressionWithin (levels + 1)) (expressionWithin (levels' + 1)) where
  keeps := expressionWithin_keeps S.lasting_lost _
  tracks {c d} meets := by
    have inside : S.Agree (do descend; filtered (expressionWithin levels))
        (do descend; filtered (expressionWithin levels')) :=
      .bind descend_alike fun _ => filtered_agree h
    simp only [expressionWithin, Tracks, Yields.keepingDepth_iff, Ends.keepingDepth_iff]
    refine (inside.tracks meets).mono fun e c' ends clear => ?_
    exact (ends clear).imp fun _ _ found => ⟨found.1, S.depth found.2 (S.level meets)⟩

end Expressions

/-- Inside brackets, the levels that are left do not matter, as long as there are enough. -/
theorem expressionWithin_agree (nests : S.Nests) :
    ∀ levels levels' : Nat, (S.loose ∨ levels ≤ levels') →
      S.Agree (expressionWithin levels) (expressionWithin levels')
  | 0, _, _ => Alike.fail.agree
  | _ + 1, 0, enough => ⟨expressionWithin_keeps S.lasting_lost _,
      fun _ => .of_tooDeep (enough.resolve_right (Nat.not_succ_le_zero _))⟩
  | levels + 1, levels' + 1, enough =>
    expressionWithin_succ_agree <| brackets_of_agree
      (expressionWithin_agree nests levels levels' (enough.imp_right Nat.le_of_succ_le_succ)) nests
      (.expressionWithin levels)

end Seam

end Stencil.Script
