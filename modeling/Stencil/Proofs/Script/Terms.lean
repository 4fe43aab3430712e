import Stencil.Proofs.Script.Continued
import Stencil.Proofs.Script.Height
import Stencil.Proofs.Script.Idle

/-!
# Terms that go on

A point or an opening bracket behind a term goes on with it. What stands in front of it is read as
it is at the end of a text: words and numbers end there, and strings and brackets have been closed.
The exception is a point with a digit behind it, which a whole number takes for its own.
-/

namespace Stencil

/-- Whether an expression is a whole number, or the last of it is one. -/
def Expr.EndsWhole : Expr → Prop
  | .literal (.int _) => True
  | .index _ (.literal (.int _)) => True
  | _ => False

namespace Script

/-- What goes on with a term: a point or an opening bracket. -/
inductive Onward : List Char → Prop
  | point (cs : List Char) : Onward ('.' :: cs)
  | bracket (cs : List Char) : Onward ('[' :: cs)

section Onward

variable {α : Type} {tail : List Char} {c d : Cursor} {kind : Char → Bool}

/-- Runs end in front of it. -/
theorem Onward.stops (onward : Onward tail) (point : kind '.' = false)
    (bracket : kind '[' = false) : tail.takeWhile kind = [] := by
  cases onward <;> simp [point, bracket]

theorem Extended.head (h : Extended tail c d) (more : c.rest ≠ []) :
    d.rest.head? = c.rest.head? := by
  rw [h.rest, List.head?_append_of_ne_nil _ more]

theorem Extended.takeWhile (h : Extended tail c d) (stops : tail.takeWhile kind = []) :
    d.rest.takeWhile kind = c.rest.takeWhile kind := by
  rw [h.rest, takeWhile_cut stops]

namespace Continues

variable {G : α → Cursor → Prop} {s : String}

/-- A sign that has to be there. -/
theorem accepting {f g : Bool → Parse α} (h : Extended tail c d)
    (refuses : Yields (f false) c fun _ _ => False)
    (next : Extended tail (c.pass s.length) (d.pass s.length) →
      Continues tail G (f true) (g true) (c.pass s.length) (d.pass s.length)) :
    Continues tail G (accept s >>= f) (accept s >>= g) c d := by
  cases found : c.startsWith s with
  | false => exact .of_refused (by simp [found, refuses])
  | true => simpa [Continues, found, h.startsWith found] using next (h.pass_sign found)

theorem running {f g : List Char → Parse α} (h : Extended tail c d)
    (stops : tail.takeWhile kind = [])
    (next : ∀ run, c.rest.takeWhile kind = run →
      Extended tail (c.pass run.length) (d.pass run.length) →
        Continues tail G (f run) (g run) (c.pass run.length) (d.pass run.length)) :
    Continues tail G (passWhile kind >>= f) (passWhile kind >>= g) c d := by
  have passed := h.pass (List.takeWhile_prefix (l := c.rest) kind).length_le
  simpa [Continues, Yields.iff_ends, h.takeWhile stops] using next _ rfl passed

/-- A next character, which has to be there. -/
theorem nextChar? {f g : Option Char → Parse α} (h : Extended tail c d)
    (stops : ∃ e, f none = throw e)
    (next : ∀ x, Extended tail (c.pass 1) (d.pass 1) →
      Continues tail G (f (some x)) (g (some x)) (c.pass 1) (d.pass 1)) :
    Continues tail G (nextChar? >>= f) (nextChar? >>= g) c d := by
  have read : Continues tail G (f c.rest.head?) (g d.rest.head?) (c.pass 1) (d.pass 1) := by
    cases rest : c.rest with
    | nil =>
        obtain ⟨e, stops⟩ := stops
        rw [List.head?_nil, stops]
        exact .of_refused (by simp)
    | cons x text =>
        have fits : 1 ≤ c.rest.length := by
          rw [rest]
          exact Nat.succ_pos _
        rw [h.head (List.ne_nil_of_length_pos fits), rest]
        exact next x (h.pass fits)
  simpa [Continues] using read

end Continues

end Onward

/-! ### Strings -/

section Strings

variable {tail : List Char} {c d : Cursor}

theorem codePoint_continues {G : Char → Cursor → Prop} (onward : Onward tail)
    (h : Extended tail c d) : Continues tail G codePoint codePoint c d := by
  unfold codePoint
  refine .looking (.accepting h (by simp) fun h => .running h (onward.stops rfl rfl) ?_)
  intro run _ h
  refine .ite (fun _ => .of_refused (by simp)) fun _ => .accepting h (by simp) fun h => ?_
  exact .pure h _

theorem escaped_continues {G : Char → Cursor → Prop} {atEnd atEnd' : Error} (onward : Onward tail)
    (h : Extended tail c d) : Continues tail G (escaped atEnd) (escaped atEnd') c d := by
  unfold escaped
  refine .looking (.nextChar? h ⟨_, rfl⟩ fun x h => ?_)
  split
  · exact .of_refused (by simp)
  · exact .pure h _
  · exact .pure h _
  · exact .pure h _
  · exact .pure h _
  · exact codePoint_continues onward h
  · exact .ite (fun _ => .pure h _) fun _ => .of_refused (by simp)

/-- The text that goes on is longer, so its characters suffice. -/
theorem stringBody_continues {G : List Char → Cursor → Prop} {quote : Char} {atEnd atEnd' : Error}
    (onward : Onward tail) : ∀ {fuel fuel' : Nat}, fuel ≤ fuel' → ∀ {c d : Cursor},
      Extended tail c d →
      Continues tail G (stringBody quote atEnd fuel) (stringBody quote atEnd' fuel') c d
  | 0, _, _, _, _, _ => .of_refused (by simp [stringBody])
  | fuel + 1, fuel' + 1, enough, c, d, h => by
    have more {G : List Char → Cursor → Prop} (x : Char) {c d : Cursor} (h : Extended tail c d) :
        Continues tail G (do return x :: (← stringBody quote atEnd fuel))
          (do return x :: (← stringBody quote atEnd' fuel')) c d :=
      .map (stringBody_continues onward (Nat.le_of_succ_le_succ enough) h)
    rw [stringBody, stringBody]
    refine .nextChar? h ⟨_, rfl⟩ fun x h => .ite (fun _ => .pure h _) fun _ => ?_
    refine .ite (fun _ => .bind (escaped_continues onward h) fun x _ _ h => more x h) fun _ => ?_
    exact more x h

/-- A string, whose first quote is in front of the cursor. -/
theorem quoted_continues {G : String → Cursor → Prop} {quote : Char} (onward : Onward tail)
    (h : Extended tail c d) (more : c.rest ≠ []) :
    Continues tail G (quoted quote) (quoted quote) c d := by
  unfold quoted
  have enough : c.rest.length + 1 ≤ d.rest.length + 1 := by
    rw [h.rest, List.length_append]
    omega
  refine .looking (.passing (.map ?_))
  exact stringBody_continues onward enough (h.pass (List.length_pos_of_ne_nil more))

end Strings

/-! ### Numbers -/

/-- The text of the expression ends in a whole number. -/
structure EndsOpen (text : List Char) (e : Expr) : Prop where
  digit : text.getLast?.any isDigitOrUnderscore
  whole : e.EndsWhole

/-- What stands behind the cursor, where the text of the expression ends, is not taken for a part of
a whole number. -/
def Apart (tail text : List Char) (e : Expr) (c : Cursor) : Prop :=
  c.rest = [] → startsFraction tail = true → ¬EndsOpen text e

section Numbers

variable {tail text : List Char} {c d : Cursor} {e : Expr} {l : Literal}

theorem EndsOpen.suffix {text' : List Char} (h : EndsOpen text e) (suffix : text <:+ text') :
    EndsOpen text' e := by
  obtain ⟨front, rfl⟩ := suffix
  refine ⟨?_, h.whole⟩
  have digit := h.digit
  cases last : text.getLast? with
  | none =>
      rw [last] at digit
      cases digit
  | some x =>
      rw [last] at digit
      rw [List.getLast?_append, last]
      exact digit

theorem Apart.suffix {text' : List Char} (h : Apart tail text' e c) (suffix : text <:+ text') :
    Apart tail text e c :=
  fun ended fraction openEnd => h ended fraction (openEnd.suffix suffix)

theorem startsFraction_append (onward : Onward tail) (more : text ≠ []) :
    startsFraction (text ++ tail) = startsFraction text := by
  obtain ⟨x, xs, rfl⟩ := List.exists_cons_of_ne_nil more
  rw [List.cons_append, startsFraction_cons, startsFraction_cons]
  cases xs with
  | nil => cases onward <;> simp
  | cons y ys => rfl

theorem number_continues (onward : Onward tail) (h : Extended tail c d) (more : c.rest ≠ []) :
    Continues tail (fun l => Apart tail c.rest (.literal l)) number number c d := by
  have stops : tail.takeWhile isDigitOrUnderscore = [] := onward.stops rfl rfl
  simp only [number, digitRow, bind_assoc, pure_bind]
  refine .looking (.running h stops ?_)
  intro run all h
  refine .looking ?_
  by_cases goesOn : (c.pass run.length).rest = [] ∧ startsFraction tail = true
  · have whole : c.rest.takeWhile isDigitOrUnderscore = c.rest := by
      refine (List.takeWhile_prefix _).eq_of_length_le ?_
      rw [all]
      exact List.drop_eq_nil_iff.1 goesOn.1
    have digit : c.rest.getLast?.any isDigitOrUnderscore := by
      rw [List.getLast?_eq_some_getLast more]
      exact List.takeWhile_eq_self_iff.1 whole _ (List.getLast_mem more)
    have none : startsFraction (c.pass run.length).rest = false := by
      rw [goesOn.1]
      rfl
    rw [none, if_neg Bool.false_ne_true]
    refine .of_excluded (Yields.ite_iff.2 ⟨fun _ => by simp, fun _ => Yields.pure_iff.2 ?_⟩)
    exact fun apart => apart goesOn.1 goesOn.2 ⟨digit, trivial⟩
  · have same : startsFraction (d.pass run.length).rest =
        startsFraction (c.pass run.length).rest := by
      rw [h.rest]
      rcases eq_or_ne (c.pass run.length).rest [] with ended | more
      · rw [ended, List.nil_append]
        simpa [startsFraction] using not_and.1 goesOn ended
      · exact startsFraction_append onward more
    rw [same]
    refine .ite (fun fraction => .passingUnseen (.running (h.pass ?_) stops ?_)) fun _ => ?_
    · refine List.length_pos_of_ne_nil fun none => ?_
      rw [none] at fraction
      cases fraction
    · exact fun fraction _ h => .pure h _
    · exact .ite (fun _ => .of_refused (by simp)) fun _ => .pure h _

end Numbers

/-! ### Words -/

section Words

variable {α : Type} {tail : List Char} {c d : Cursor} {G : α → Cursor → Prop}

theorem Extended.startsWithChar {kind : Char → Bool} (onward : Onward tail) (h : Extended tail c d)
    (point : kind '.' = false) (bracket : kind '[' = false) :
    d.startsWithChar kind = c.startsWithChar kind := by
  rw [Cursor.startsWithChar, Cursor.startsWithChar]
  rcases eq_or_ne c.rest [] with none | more
  · rw [h.rest, none]
    cases onward <;> simp [point, bracket]
  · rw [h.head more]

theorem Extended.word (onward : Onward tail) (h : Extended tail c d) : d.word = c.word := by
  rw [Cursor.word, Cursor.word, h.startsWithChar onward (by decide) (by decide),
    h.takeWhile (onward.stops (by decide) (by decide))]

theorem word_length_le (c : Cursor) : c.word.length ≤ c.rest.length := by
  rw [Cursor.word]
  split
  · exact Nat.zero_le _
  · exact (List.takeWhile_prefix isWordChar).length_le

theorem Extended.startsWith_one {x : Char} {sign : String} (onward : Onward tail)
    (h : Extended tail c d) (chars : sign.toList = [x]) (other : x ≠ '.' ∧ x ≠ '[') :
    d.startsWith sign = c.startsWith sign := by
  rw [Cursor.startsWith_one chars, Cursor.startsWith_one chars]
  rcases eq_or_ne c.rest [] with none | more
  · rw [h.rest, none]
    cases onward <;> simp [other.1.symm, other.2.symm]
  · rw [h.head more]

namespace Continues

theorem skipping {f g : Unit → Parse α} (h : Extended tail c d) (more : c.skipped.rest ≠ [])
    (next : Extended tail c.skipped d.skipped →
      Continues tail G (f ()) (g ()) c.skipped d.skipped) :
    Continues tail G (skipSpace >>= f) (skipSpace >>= g) c d := by
  simpa [Continues] using next (h.skipped more)

theorem keyword {f g : Bool → Parse α} {keyword : String} (onward : Onward tail)
    (h : Extended tail c d)
    (found : Extended tail (c.pass keyword.length) (d.pass keyword.length) →
      Continues tail G (f true) (g true) (c.pass keyword.length) (d.pass keyword.length))
    (missing : Continues tail G (f false) (g false) c d) :
    Continues tail G (acceptKeyword keyword >>= f) (acceptKeyword keyword >>= g) c d := by
  by_cases isWord : c.word = keyword.toList
  · have fits : keyword.length ≤ c.rest.length := by
      rw [← String.length_toList, ← isWord]
      exact word_length_le c
    simpa [Continues, isWord, h.word onward] using found (h.pass fits)
  · simpa [Continues, isWord, h.word onward] using missing

theorem peeking {f g : Bool → Parse α} {sign : String}
    (same : d.startsWith sign = c.startsWith sign)
    (next : Continues tail G (f (c.startsWith sign)) (g (c.startsWith sign)) c d) :
    Continues tail G (peek sign >>= f) (peek sign >>= g) c d := by
  simpa [Continues, same] using next

theorem peekingWord {f g : String → Parse α} (onward : Onward tail) (h : Extended tail c d)
    (next : Continues tail G (f (String.ofList c.word)) (g (String.ofList c.word)) c d) :
    Continues tail G (peekWord >>= f) (peekWord >>= g) c d := by
  simpa [Continues, h.word onward] using next

theorem descending {f g : Unit → Parse α} (h : Extended tail c d)
    (next : Extended tail { c with depth := c.depth + 1 } { d with depth := d.depth + 1 } →
      Continues tail G (f ()) (g ()) { c with depth := c.depth + 1 }
        { d with depth := d.depth + 1 }) :
    Continues tail G (descend >>= f) (descend >>= g) c d := by
  simp only [Continues, Yields.bind_iff, Yields.descend_iff, Ends.bind_iff, Ends.descend_iff]
  intro within
  have deeper := next ⟨h.rest, h.brackets, congrArg (· + 1) h.depth⟩
  refine Yields.mono deeper fun a c' ends ok => ⟨fun full => ?_, fun _ => ends ok⟩
  rw [← h.depth] at full
  omega

end Continues

theorem identifier_continues {G : String → Cursor → Prop} (onward : Onward tail)
    (h : Extended tail c d) : Continues tail G identifier identifier c d := by
  simp only [Continues, Yields.identifier_iff, Ends.identifier_iff]
  intro word free _
  have more : c.skipped.rest ≠ [] := by
    intro none
    exact word (by simp [Cursor.word, none])
  have extended := h.skipped more
  rw [extended.word onward]
  exact ⟨fun none => absurd none word, fun _ => ⟨fun used => absurd used free,
    fun _ => ⟨rfl, extended.pass (word_length_le _), rfl⟩⟩⟩

end Words

/-! ### Terms -/

section Terms

variable {tail : List Char} {c d : Cursor} {levels : Nat} {e : Expr}

theorem expect_continues {G : Unit → Cursor → Prop} {s : String} (h : Extended tail c d) :
    Continues tail G (expect s) (expect s) c d := by
  unfold expect
  exact .accepting h (by simp) fun h => .pure h ()

theorem arguments_continues {G : List Expr → Cursor → Prop} (h : Extended tail c d) :
    Continues tail G (arguments (expressionWithin levels)) (arguments (expressionWithin levels))
      c d := by
  unfold arguments
  exact .bind (expect_continues h) fun _ _ _ h => sequence_continues rfl (.inl rfl) levels h

theorem primary_continues (onward : Onward tail) (h : Extended tail c d) :
    Continues tail (fun e => Apart tail c.rest e) (primary (expressionWithin levels))
      (primary (expressionWithin levels)) c d := by
  rcases eq_or_ne c.skipped.rest [] with none | more
  · exact .of_refused (by simp [primary, none])
  unfold primary
  refine .skipping h more fun h => .looking ?_
  rw [h.head more]
  split
  · exact .of_refused (by simp)
  · refine .ite (fun _ => .map ?_) fun _ => ?_
    · exact (number_continues onward h more).weaken fun l c' apart =>
        apart.suffix (List.drop_suffix _ _)
    refine .ite (fun _ => .map (quoted_continues onward h more)) fun _ => ?_
    have passed := h.pass (List.length_pos_of_ne_nil more)
    refine .ite (fun _ => .passing (.map (sequence_continues rfl (.inr rfl) levels passed)))
      fun _ => ?_
    refine .ite (fun _ => .passing (enclosed_continues rfl (.inl rfl) levels passed)) fun _ => ?_
    refine .keyword onward h (fun h => .pure h _) (.keyword onward h (fun h => .pure h _) ?_)
    refine .keyword onward h (fun h => .pure h _) (.peekingWord onward h ?_)
    refine .ite (fun _ => .of_refused (by simp)) fun _ => .map (identifier_continues onward h)

theorem endsWhole_index {l : Literal} (h : (Expr.literal l).EndsWhole) :
    (Expr.index e (.literal l)).EndsWhole := by
  cases l with
  | int i => trivial
  | none | bool _ | float _ | string _ => cases h

theorem afterPoint_refused {whole : Parse Expr} (ended : c.rest = []) :
    Yields (afterPoint whole e) c fun _ _ => False := by
  have noDigit : c.startsWithChar Char.isDigit = false := by simp [Cursor.startsWithChar, ended]
  have noWord : c.skipped.word = [] := by simp [Cursor.word, Cursor.skipped, ended]
  simp [afterPoint, noDigit, noWord]

theorem afterPoint_continues (onward : Onward tail) (h : Extended tail c d) (more : c.rest ≠ []) :
    Continues tail (fun e => Apart tail c.rest e) (afterPoint (expressionWithin levels) e)
      (afterPoint (expressionWithin levels) e) c d := by
  unfold afterPoint
  refine .looking ?_
  rw [h.startsWithChar onward (by decide) (by decide)]
  refine .ite (fun _ => .map ?_) fun _ => ?_
  · refine (number_continues onward h more).weaken fun l c' apart ended fraction openEnd => ?_
    exact apart ended fraction ⟨openEnd.digit, endsWhole_index openEnd.whole⟩
  · refine .bind (identifier_continues onward h) fun name c' d' h => ?_
    refine .peeking (h.startsWith_one onward rfl (by decide)) ?_
    exact .ite (fun _ => .map (arguments_continues h)) fun _ => .pure h _

/-- The first step of the text that goes on, if the other text goes on as well. -/
theorem trailer_continues (onward : Onward tail) (h : Extended tail c d) (more : c.rest ≠ []) :
    Continues tail (fun r c' => ∀ e', r = some e' → Apart tail c.rest e' c')
      (trailer (expressionWithin levels) e) (trailer (expressionWithin levels) e) c d := by
  have one {x : Char} {sign : String} (chars : sign.toList = [x]) :
      d.startsWith sign = c.startsWith sign := by
    rw [Cursor.startsWith_one chars, Cursor.startsWith_one chars, h.head more]
  have fits : 1 ≤ c.rest.length := List.length_pos_of_ne_nil more
  unfold trailer
  refine .peeking (one rfl) (.ite (fun _ => .descending h fun h => ?_) fun _ => ?_)
  · split
    · exact .map (arguments_continues h)
    · exact .of_refused (by simp)
  refine .peeking (one rfl) (.ite (fun _ => .descending h fun h => .passingUnseen ?_) fun _ => ?_)
  · exact .map (enclosed_continues rfl (.inr rfl) levels (h.pass fits))
  refine .peeking (one rfl) (.ite (fun _ => .descending h fun h => .passingUnseen ?_) fun _ => ?_)
  case refine_2 => exact .pure h _
  refine .map ?_
  rcases eq_or_ne (c.pass 1).rest [] with none | more
  · exact .of_refused (afterPoint_refused none)
  · refine (afterPoint_continues onward (h.pass fits) more).weaken fun e' c' apart => ?_
    exact (apart e' rfl).suffix (List.drop_suffix _ _)

/-- A step stands in front of the cursor and needs a level. -/
theorem trailer_steps {whole : Parse Expr} (h : Fits whole) :
    Yields (trailer whole e) c fun r c' => match r with
      | some _ => c.rest ≠ [] ∧ c'.room < c.room
      | none => c' = c := by
  have more {x : Char} {sign : String} (chars : sign.toList = [x]) (found : c.startsWith sign) :
      c.rest ≠ [] := by
    obtain ⟨text, rest⟩ := Cursor.rest_of_startsWith_one chars found
    simp [rest]
  have below {c' : Cursor} (deep : c.depth < maxDepth)
      (same : c'.room = Cursor.room { c with depth := c.depth + 1 }) : c'.room < c.room := by
    have room := Cursor.room_descend deep
    rw [same]
    exact room ▸ Nat.lt_succ_self _
  simp only [trailer, Yields.bind_iff, Yields.peek_iff, Yields.ite_iff, Yields.descend_iff,
    Yields.unseen_iff, Yields.pure_iff]
  refine ⟨fun found deep => ?_, fun _ => ⟨fun found deep => ?_, fun _ =>
    ⟨fun found deep => ?_, fun _ => trivial⟩⟩⟩
  · cases e with
    | var function =>
        simp only [Yields.bind_iff, Yields.pure_iff]
        exact (arguments_fit h).mono fun _ _ fits => ⟨more rfl found, below deep fits.1⟩
    | _ => simp
  · exact (enclosed_fits h _).mono fun _ _ fits => ⟨more rfl found, below deep fits.1⟩
  · simp only [afterPoint, Yields.bind_iff, Yields.look_iff, Yields.ite_iff, Yields.pure_iff,
      Yields.identifier_iff, Yields.peek_iff]
    refine ⟨fun _ => ?_, fun _ _ _ => ⟨fun _ => ?_, fun _ => ⟨more rfl found, below deep rfl⟩⟩⟩
    · exact (number_level _).mono fun _ _ same => ⟨more rfl found, below deep same⟩
    · exact (arguments_fit h).mono fun _ _ fits => ⟨more rfl found, below deep fits.1⟩

/-- Nothing goes on with a term at the end of a text. -/
theorem extend_ended {whole : Parse Expr} (ended : c.rest = []) (fuel : Nat) :
    Yields (extend (trailer whole) fuel e) c fun e' _ => e' = e := by
  cases fuel with
  | zero => simp [extend]
  | succ fuel => simp [extend, trailer, Cursor.startsWith, ended]

variable {Q : Expr → Cursor → Prop} {E : Error → Prop}

/-- The steps at the end of a text are made in the text that goes on as well, and then others. -/
theorem extend_continues (onward : Onward tail) : ∀ (fuel : Nat) {e : Expr} {c d : Cursor},
    Extended tail c d → c.room < fuel →
      Yields (extend (trailer (expressionWithin levels)) fuel e) c fun e' c' =>
        c'.rest = [] → Apart tail c.rest e' c' →
        (∀ fuel' d', c'.room < fuel' → Extended tail c' d' → d'.brackets = d.brackets →
          Ends (extend (trailer (expressionWithin levels)) fuel' e') d' Q E) →
        Ends (extend (trailer (expressionWithin levels)) fuel e) d Q E
  | 0, _, _, _, _, enough => absurd enough (Nat.not_lt_zero _)
  | fuel + 1, e, c, d, h, enough => by
    have steps := trailer_steps (e := e) (c := c) (expressionWithin_fits levels)
    rw [extend, Yields.bind_iff]
    intro r c₁ ran
    have step := steps r c₁ ran
    cases r with
    | none =>
        obtain rfl : c₁ = c := step
        rw [Yields.pure_iff]
        exact fun _ _ next => next (fuel + 1) d enough h rfl
    | some b =>
        obtain ⟨more, room⟩ := step
        intro e' c' ran' ended apart next
        have apart₁ : Apart tail c.rest b c₁ := by
          intro ended₁ fraction openEnd
          obtain rfl := extend_ended ended₁ fuel e' c' ran'
          exact apart ended fraction openEnd
        have suffix : c₁.rest <:+ c.rest := by
          have keeps := trailer_keeps (lasting_suffix c.rest)
            (expressionWithin_keeps (lasting_suffix c.rest) levels) e
          exact keeps.yields List.suffix_rfl (some b) c₁ ran
        rw [Ends.bind_iff]
        refine (trailer_continues onward h more (some b) c₁ ran ?_).mono ?_ fun _ => False.elim
        · rintro _ ⟨⟩
          exact apart₁
        · rintro _ d₁ ⟨rfl, h₁, same⟩
          refine extend_continues onward fuel h₁ (by omega) e' c' ran' ended ?_ ?_
          · exact apart.suffix suffix
          · exact fun fuel' d' enough h' same' => next fuel' d' enough h' (same'.trans same)

/-- What stands behind a term that is a whole text is read on from the term. -/
theorem trailed_continues (onward : Onward tail) (h : Extended tail c d) :
    Yields (trailed (expressionWithin levels)) c fun e c' =>
      c'.rest = [] → Apart tail c.rest e c' →
      (∀ fuel d', c'.room < fuel → Extended tail c' d' → d'.brackets = d.brackets →
        Ends (extend (trailer (expressionWithin levels)) fuel e) d' Q E) →
      Ends (trailed (expressionWithin levels)) d Q E := by
  rw [trailed, Yields.bind_iff]
  intro e₁ c₁ ran e c' ran' ended apart next
  have apart₁ : Apart tail c.rest e₁ c₁ := by
    intro ended₁ fraction openEnd
    obtain rfl := extend_ended ended₁ _ e c' ran'
    exact apart ended fraction openEnd
  have suffix : c₁.rest <:+ c.rest := by
    have keeps := primary_keeps (lasting_suffix c.rest)
      (expressionWithin_keeps (lasting_suffix c.rest) levels)
    exact keeps.yields List.suffix_rfl e₁ c₁ ran
  have enough : c₁.room < maxDepth + 1 := by
    have grown := (primary_grows (expressionWithin_fits levels) c e₁ c₁ ran).room
    exact Nat.lt_succ_of_le (grown.trans (Nat.sub_le _ _))
  rw [Ends.bind_iff]
  refine (primary_continues onward h e₁ c₁ ran apart₁).mono ?_ fun _ => False.elim
  rintro _ d₁ ⟨rfl, h₁, same⟩
  refine extend_continues onward _ h₁ enough e c' ran' ended (apart.suffix suffix) ?_
  exact fun fuel' d' enough h' same' => next fuel' d' enough h' (same'.trans same)

end Terms

end Script

end Stencil
