import Stencil.Proofs.Script.Ends

/-!
# What a reader yields

`Yields p c Q` says of a reader that `Q` holds of whatever it yields from `c`, and of the cursor
then; a reader that fails satisfies it for every `Q`. The rewriting rules are those of `Ends` for
errors of any kind.
-/

namespace Stencil.Script

/-- Whatever a reader yields satisfies `Q`, together with the cursor it is left with. -/
def Yields {α : Type} (p : Parse α) (c : Cursor) (Q : α → Cursor → Prop) : Prop :=
  ∀ a c', p.run.run c = (.ok a, c') → Q a c'

namespace Yields

variable {α β : Type} {p : Parse α} {c : Cursor} {Q R : α → Cursor → Prop}

theorem iff_ends : Yields p c Q ↔ Ends p c Q fun _ => True := by
  unfold Yields Ends
  rcases p.run.run c with ⟨e | a, c'⟩
  · refine ⟨fun _ => trivial, ?_⟩
    rintro - a c'' ⟨⟩
  · constructor
    · intro h
      exact h a c' rfl
    · rintro h b c'' ⟨⟩
      exact h

theorem mono (h : Yields p c Q) (imp : ∀ a c', Q a c' → R a c') : Yields p c R :=
  fun a c' ran => imp a c' (h a c' ran)

@[simp] theorem pure_iff {a : α} : Yields (pure a) c Q ↔ Q a c := by
  simp [iff_ends]

@[simp] theorem bind_iff {f : α → Parse β} {Q : β → Cursor → Prop} :
    Yields (p >>= f) c Q ↔ Yields p c fun a c' => Yields (f a) c' Q := by
  simp [iff_ends]

@[simp] theorem map_iff {f : α → β} {Q : β → Cursor → Prop} :
    Yields (f <$> p) c Q ↔ Yields p c fun a c' => Q (f a) c' := by
  simp [iff_ends]

@[simp] theorem throw_iff {e : Error} : Yields (α := α) (throw e) c Q ↔ True := by
  simp [iff_ends]

@[simp] theorem get_iff {Q : Cursor → Cursor → Prop} : Yields get c Q ↔ Q c c := by
  simp [iff_ends]

@[simp] theorem modify_iff {f : Cursor → Cursor} {Q : PUnit → Cursor → Prop} :
    Yields (modify f) c Q ↔ Q () (f c) := by
  simp [iff_ends]

@[simp] theorem look_iff {Q : Cursor → Cursor → Prop} : Yields look c Q ↔ Q c c := by
  simp [iff_ends]

@[simp] theorem fail_iff {d : Defect} : Yields (α := α) (fail d) c Q ↔ True := by
  simp [iff_ends]

@[simp] theorem failFound_iff {d : Found → Defect} :
    Yields (α := α) (failFound d) c Q ↔ True := by
  simp [iff_ends]

@[simp] theorem ite_iff {b : Prop} [Decidable b] {q : Parse α} :
    Yields (if b then p else q) c Q ↔ (b → Yields p c Q) ∧ (¬b → Yields q c Q) := by
  simp [iff_ends]

/-! ### The primitives -/

@[simp] theorem char_iff {x : Char} {Q : Unit → Cursor → Prop} :
    Yields (char x) c Q ↔ Q () (c.pass 1) := by
  simp [iff_ends]

@[simp] theorem unseen_iff {s : String} {Q : Unit → Cursor → Prop} :
    Yields (unseen s) c Q ↔ Q () (c.pass s.length) := by
  simp [iff_ends]

@[simp] theorem passWhile_iff {kind : Char → Bool} {Q : List Char → Cursor → Prop} :
    Yields (passWhile kind) c Q ↔
      Q (c.rest.takeWhile kind) (c.pass (c.rest.takeWhile kind).length) := by
  simp [iff_ends]

@[simp] theorem nextChar?_iff {Q : Option Char → Cursor → Prop} :
    Yields nextChar? c Q ↔ Q c.rest.head? (c.pass 1) := by
  simp [iff_ends]

@[simp] theorem restore_iff {start : Cursor} {Q : Unit → Cursor → Prop} :
    Yields (restore start) c Q ↔ Q () (c.back start) := by
  simp [iff_ends]

@[simp] theorem atEnd_iff {Q : Bool → Cursor → Prop} :
    Yields atEnd c Q ↔ Q c.rest.isEmpty c := by
  simp [iff_ends]

@[simp] theorem peek_iff {s : String} {Q : Bool → Cursor → Prop} :
    Yields (peek s) c Q ↔ Q (c.startsWith s) c := by
  simp [iff_ends]

@[simp] theorem accept_iff {s : String} {Q : Bool → Cursor → Prop} :
    Yields (accept s) c Q ↔
      (c.startsWith s = true → Q true (c.pass s.length)) ∧
        (c.startsWith s = false → Q false c) := by
  simp [iff_ends]

@[simp] theorem expect_iff {s : String} {Q : Unit → Cursor → Prop} :
    Yields (expect s) c Q ↔ (c.startsWith s = true → Q () (c.pass s.length)) := by
  simp [iff_ends]

@[simp] theorem skip_iff {blank : Char → Bool} {Q : Unit → Cursor → Prop} :
    Yields (skip blank) c Q ↔ Q () (c.pass (gapLength blank false c.rest)) := by
  simp [iff_ends]

@[simp] theorem skipSpace_iff {Q : Unit → Cursor → Prop} :
    Yields skipSpace c Q ↔ Q () c.skipped := by
  simp [iff_ends]

@[simp] theorem expectEnd_iff {Q : Unit → Cursor → Prop} :
    Yields expectEnd c Q ↔
      (c.rest.drop (gapLength isSpaceOrBreak false c.rest) = [] →
        Q () (c.pass (gapLength isSpaceOrBreak false c.rest))) := by
  simp [iff_ends]

@[simp] theorem peekWord_iff {Q : String → Cursor → Prop} :
    Yields peekWord c Q ↔ Q (String.ofList c.word) c := by
  simp [iff_ends]

@[simp] theorem acceptKeyword_iff {keyword : String} {Q : Bool → Cursor → Prop} :
    Yields (acceptKeyword keyword) c Q ↔
      (c.word = keyword.toList → Q true (c.pass keyword.length)) ∧
        (c.word ≠ keyword.toList → Q false c) := by
  simp [iff_ends]

@[simp] theorem expectKeyword_iff {keyword : String} {Q : Unit → Cursor → Prop} :
    Yields (expectKeyword keyword) c Q ↔
      (c.skipped.word = keyword.toList → Q () (c.skipped.pass keyword.length)) := by
  simp [iff_ends]

@[simp] theorem identifier_iff {Q : String → Cursor → Prop} :
    Yields identifier c Q ↔
      (c.skipped.word ≠ [] → String.ofList c.skipped.word ∉ keywords →
        Q (String.ofList c.skipped.word) (c.skipped.pass c.skipped.word.length)) := by
  simp [iff_ends]

@[simp] theorem descend_iff {Q : Unit → Cursor → Prop} :
    Yields descend c Q ↔ (c.depth < maxDepth → Q () { c with depth := c.depth + 1 }) := by
  simp [iff_ends]

@[simp] theorem keepingDepth_iff :
    Yields (keepingDepth p) c Q ↔ Yields p c fun a c' => Q a { c' with depth := c.depth } := by
  simp [iff_ends]

@[simp] theorem bracketed_iff :
    Yields (bracketed p) c Q ↔
      Yields p { c with brackets := c.brackets + 1 } fun a c' =>
        Q a { c' with brackets := c.brackets } := by
  simp [iff_ends]

@[simp] theorem unbracketed_iff :
    Yields (unbracketed p) c Q ↔
      Yields p { c with brackets := 0 } fun a c' => Q a { c' with brackets := c.brackets } := by
  simp [iff_ends]

/-- What builds on an expression keeps what each of its steps keeps. -/
theorem of_steps {α : Type} {step : α → Parse (Option α)} {I : α → Cursor → Prop}
    {Q : α → Cursor → Prop}
    (h : ∀ a c, I a c →
      Yields (step a) c fun r c' => match r with
        | some b => I b c'
        | none => Q a c') :
    ∀ (fuel : Nat) (a : α) (c : Cursor), I a c → Yields (extend step fuel a) c Q
  | 0, _, _, _ => by simp [extend]
  | fuel + 1, a, c, holds => by
    rw [extend, Yields.bind_iff]
    refine (h a c holds).mono ?_
    intro r c' next
    cases r with
    | some b => exact of_steps h fuel b c' next
    | none => simpa using next

/-- What a whole text is read as satisfies what its reader yields. -/
theorem of_run {text : List Char} {a : α} {P : α → Prop}
    (h : Yields p (.start text) fun a _ => P a) (ran : run p text = .ok a) : P a := by
  rcases (iff_ends.1 h).of_run with ⟨b, ran', holds⟩ | ⟨e, ran', -⟩
  · rw [ran] at ran'
    cases ran'
    exact holds
  · rw [ran] at ran'
    cases ran'

end Yields

end Stencil.Script
