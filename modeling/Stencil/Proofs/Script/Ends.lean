import Mathlib
import Stencil.Script.Cursor

/-!
# How a reader ends

`Ends p c Q E` says of a reader that it ends from `c` with something that satisfies `Q`, together
with the cursor it is left with, or with an error that satisfies `E`. The rewriting rules below
execute a reader step by step: each primitive has one that says what is left to be shown, with the
same `E` all through. Readers that recurse have no such rule, but lemmas of their own.
-/

namespace Stencil.Script

namespace Cursor

/-- The cursor behind blanks and comments. -/
def skipped (c : Cursor) : Cursor :=
  c.pass (gapLength (if 0 < c.brackets then isSpaceOrBreak else isSpace) false c.rest)

@[simp] theorem rest_pass (c : Cursor) (n : Nat) : (c.pass n).rest = c.rest.drop n := rfl

@[simp] theorem brackets_pass (c : Cursor) (n : Nat) : (c.pass n).brackets = c.brackets := rfl

@[simp] theorem depth_pass (c : Cursor) (n : Nat) : (c.pass n).depth = c.depth := rfl

@[simp] theorem brackets_skipped (c : Cursor) : c.skipped.brackets = c.brackets := rfl

@[simp] theorem depth_skipped (c : Cursor) : c.skipped.depth = c.depth := rfl

/-- At the end nothing is passed any more. -/
theorem pass_of_nil {c : Cursor} (ended : c.rest = []) (n : Nat) : c.pass n = c := by
  cases c
  cases ended
  simp [pass]

theorem rest_pass_one {c : Cursor} {x : Char} {text : List Char}
    (rest : c.rest = x :: text) : (c.pass 1).rest = text :=
  congrArg (List.drop 1) rest

@[simp] theorem back_self (c : Cursor) : c.back c = c := rfl

@[simp] theorem back_pass (c start : Cursor) (n : Nat) : (c.pass n).back start = c.back start := rfl

@[simp] theorem back_skipped (c start : Cursor) : c.skipped.back start = c.back start := rfl

@[simp] theorem setDepth_eq (c : Cursor) (depth : Nat) :
    Moves.setDepth depth c = { c with depth } := rfl

@[simp] theorem defect_error (c : Cursor) (d : Defect) : (c.error d).defect = d := rfl

end Cursor

/-- How two readers run one after the other. -/
theorem run_bind {σ α β : Type} (p : Scan σ α) (f : α → Scan σ β) (s : σ) :
    (p >>= f).run.run s =
      match p.run.run s with
      | (.ok a, s') => (f a).run.run s'
      | (.error e, s') => (.error e, s') := by
  change ExceptT.bind p f s = _
  simp only [ExceptT.bind, ExceptT.mk, bind, StateT.bind]
  cases h : p s with
  | mk result s' =>
      have h' : p.run.run s = (result, s') := h
      rw [h']
      cases result <;> rfl

/-- What a reader yields satisfies `Q`, together with the cursor it is left with, and what it fails
with satisfies `E`. -/
def Ends {α : Type} (p : Parse α) (c : Cursor) (Q : α → Cursor → Prop) (E : Error → Prop) : Prop :=
  match p.run.run c with
  | (.ok a, c') => Q a c'
  | (.error e, _) => E e

namespace Ends

variable {α β : Type} {p : Parse α} {c : Cursor} {Q R : α → Cursor → Prop} {E F : Error → Prop}

theorem mono (h : Ends p c Q E) (imp : ∀ a c', Q a c' → R a c') (fails : ∀ e, E e → F e) :
    Ends p c R F := by
  unfold Ends at h ⊢
  split at h
  · next a c' ran => exact imp a c' h
  · next e c' ran => exact fails e h

theorem imp (h : Ends p c Q E) (imp : ∀ a c', Q a c' → R a c') : Ends p c R E :=
  h.mono imp fun _ failed => failed

@[simp] theorem pure_iff {a : α} : Ends (pure a) c Q E ↔ Q a c := Iff.rfl

@[simp] theorem bind_iff {f : α → Parse β} {Q : β → Cursor → Prop} :
    Ends (p >>= f) c Q E ↔ Ends p c (fun a c' => Ends (f a) c' Q E) E := by
  unfold Ends
  rw [run_bind]
  rcases p.run.run c with ⟨_ | _, _⟩ <;> exact Iff.rfl

@[simp] theorem map_iff {f : α → β} {Q : β → Cursor → Prop} :
    Ends (f <$> p) c Q E ↔ Ends p c (fun a c' => Q (f a) c') E := by
  rw [map_eq_pure_bind, bind_iff]
  simp only [pure_iff]

@[simp] theorem throw_iff {e : Error} : Ends (throw e) c Q E ↔ E e := Iff.rfl

@[simp] theorem get_iff {Q : Cursor → Cursor → Prop} : Ends get c Q E ↔ Q c c := Iff.rfl

@[simp] theorem modify_iff {f : Cursor → Cursor} {Q : PUnit → Cursor → Prop} :
    Ends (modify f) c Q E ↔ Q () (f c) := Iff.rfl

@[simp] theorem look_iff {Q : Cursor → Cursor → Prop} : Ends look c Q E ↔ Q c c := Iff.rfl

@[simp] theorem fail_iff {d : Defect} : Ends (fail d) c Q E ↔ E (c.error d) := by
  simp [fail]

@[simp] theorem failFound_iff {d : Found → Defect} :
    Ends (failFound d) c Q E ↔ E (c.error (d c.found)) := by
  simp [failFound]

@[simp] theorem ite_iff {b : Prop} [Decidable b] {q : Parse α} :
    Ends (if b then p else q) c Q E ↔ (b → Ends p c Q E) ∧ (¬b → Ends q c Q E) := by
  by_cases h : b <;> simp [h]

/-! ### The primitives -/

@[simp] theorem char_iff {x : Char} {Q : Unit → Cursor → Prop} :
    Ends (char x) c Q E ↔ Q () (c.pass 1) := modify_iff

@[simp] theorem unseen_iff {s : String} {Q : Unit → Cursor → Prop} :
    Ends (unseen s) c Q E ↔ Q () (c.pass s.length) := modify_iff

@[simp] theorem passWhile_iff {kind : Char → Bool} {Q : List Char → Cursor → Prop} :
    Ends (passWhile kind) c Q E ↔
      Q (c.rest.takeWhile kind) (c.pass (c.rest.takeWhile kind).length) := Iff.rfl

@[simp] theorem nextChar?_iff {Q : Option Char → Cursor → Prop} :
    Ends nextChar? c Q E ↔ Q c.rest.head? (c.pass 1) := by
  cases rest : c.rest with
  | nil => simp [nextChar?, rest, Cursor.pass_of_nil rest]
  | cons x cs => simp [nextChar?, rest]

@[simp] theorem restore_iff {start : Cursor} {Q : Unit → Cursor → Prop} :
    Ends (restore start) c Q E ↔ Q () (c.back start) := modify_iff

@[simp] theorem atEnd_iff {Q : Bool → Cursor → Prop} :
    Ends atEnd c Q E ↔ Q c.rest.isEmpty c := by
  simp [atEnd]

@[simp] theorem peek_iff {s : String} {Q : Bool → Cursor → Prop} :
    Ends (peek s) c Q E ↔ Q (c.startsWith s) c := by
  simp [peek]

@[simp] theorem accept_iff {s : String} {Q : Bool → Cursor → Prop} :
    Ends (accept s) c Q E ↔
      (c.startsWith s = true → Q true (c.pass s.length)) ∧
        (c.startsWith s = false → Q false c) := by
  cases h : c.startsWith s <;> simp [accept, h]

@[simp] theorem expect_iff {s : String} {Q : Unit → Cursor → Prop} :
    Ends (expect s) c Q E ↔
      (c.startsWith s = true → Q () (c.pass s.length)) ∧
        (c.startsWith s = false → E (c.error (.expectedToken s c.found))) := by
  cases h : c.startsWith s <;> simp [expect, h]

@[simp] theorem skip_iff {blank : Char → Bool} {Q : Unit → Cursor → Prop} :
    Ends (skip blank) c Q E ↔ Q () (c.pass (gapLength blank false c.rest)) := modify_iff

@[simp] theorem skipSpace_iff {Q : Unit → Cursor → Prop} :
    Ends skipSpace c Q E ↔ Q () c.skipped := by
  simp [skipSpace, Cursor.skipped]

@[simp] theorem expectEnd_iff {Q : Unit → Cursor → Prop} :
    Ends expectEnd c Q E ↔
      (c.rest.drop (gapLength isSpaceOrBreak false c.rest) = [] →
        Q () (c.pass (gapLength isSpaceOrBreak false c.rest))) ∧
      (c.rest.drop (gapLength isSpaceOrBreak false c.rest) ≠ [] →
        E ((c.pass (gapLength isSpaceOrBreak false c.rest)).error
          (.unexpected (c.pass (gapLength isSpaceOrBreak false c.rest)).found))) := by
  simp [expectEnd]

@[simp] theorem peekWord_iff {Q : String → Cursor → Prop} :
    Ends peekWord c Q E ↔ Q (String.ofList c.word) c := by
  simp [peekWord]

@[simp] theorem acceptKeyword_iff {keyword : String} {Q : Bool → Cursor → Prop} :
    Ends (acceptKeyword keyword) c Q E ↔
      (c.word = keyword.toList → Q true (c.pass keyword.length)) ∧
        (c.word ≠ keyword.toList → Q false c) := by
  have same : String.ofList c.word = keyword ↔ c.word = keyword.toList := by
    rw [← String.toList_inj, String.toList_ofList]
  by_cases h : c.word = keyword.toList
  · simp [acceptKeyword, h]
  · have differs : String.ofList c.word ≠ keyword := mt same.1 h
    have notFound : (String.ofList c.word == keyword) = false := beq_eq_false_iff_ne.2 differs
    simp [acceptKeyword, h, differs, notFound]

@[simp] theorem expectKeyword_iff {keyword : String} {Q : Unit → Cursor → Prop} :
    Ends (expectKeyword keyword) c Q E ↔
      (c.skipped.word = keyword.toList → Q () (c.skipped.pass keyword.length)) ∧
        (c.skipped.word ≠ keyword.toList →
          E (c.skipped.error (.expectedToken keyword c.skipped.found))) := by
  simp [expectKeyword]

@[simp] theorem identifier_iff {Q : String → Cursor → Prop} :
    Ends identifier c Q E ↔
      (c.skipped.word = [] → E (c.skipped.error (.expectedIdentifier c.skipped.found))) ∧
        (c.skipped.word ≠ [] →
          (String.ofList c.skipped.word ∈ keywords →
            E (c.skipped.error (.keywordAsIdentifier (String.ofList c.skipped.word)))) ∧
          (String.ofList c.skipped.word ∉ keywords →
            Q (String.ofList c.skipped.word) (c.skipped.pass c.skipped.word.length))) := by
  simp [identifier]

@[simp] theorem descend_iff {Q : Unit → Cursor → Prop} :
    Ends descend c Q E ↔
      (maxDepth ≤ c.depth → E (c.error .nestedTooDeeply)) ∧
        (c.depth < maxDepth → Q () { c with depth := c.depth + 1 }) := by
  simp [descend]

/-- A reader that starts from a changed cursor and changes the one it is left with. -/
theorem within_iff (enter : Cursor → Cursor) (leave : Cursor → Cursor → Cursor) :
    Ends (fun c => let (result, c') := p.run.run (enter c); (result, leave c c')) c Q E ↔
      Ends p (enter c) (fun a c' => Q a (leave c c')) E := by
  unfold Ends
  change (match (match p.run.run (enter c) with | (result, c') => (result, leave c c')) with
    | (.ok a, c') => Q a c'
    | (.error e, _) => E e) ↔ _
  rcases p.run.run (enter c) with ⟨_ | _, _⟩ <;> exact Iff.rfl

@[simp] theorem keepingDepth_iff :
    Ends (keepingDepth p) c Q E ↔ Ends p c (fun a c' => Q a { c' with depth := c.depth }) E :=
  within_iff id fun c c' => { c' with depth := c.depth }

@[simp] theorem bracketed_iff :
    Ends (bracketed p) c Q E ↔
      Ends p { c with brackets := c.brackets + 1 }
        (fun a c' => Q a { c' with brackets := c.brackets }) E :=
  within_iff (fun c => { c with brackets := c.brackets + 1 }) fun c c' =>
    { c' with brackets := c.brackets }

@[simp] theorem unbracketed_iff :
    Ends (unbracketed p) c Q E ↔
      Ends p { c with brackets := 0 } (fun a c' => Q a { c' with brackets := c.brackets }) E :=
  within_iff (fun c => { c with brackets := 0 }) fun c c' => { c' with brackets := c.brackets }

/-- How a whole text is read. -/
theorem of_run {text : List Char} {P : α → Prop} (h : Ends p (.start text) (fun a _ => P a) E) :
    (∃ a, run p text = .ok a ∧ P a) ∨ ∃ e, run p text = .error e ∧ E e := by
  unfold Ends at h
  unfold run
  split at h
  · next a c' ran =>
      rw [ran]
      exact .inl ⟨a, rfl, h⟩
  · next e c' ran =>
      rw [ran]
      exact .inr ⟨e, rfl, h⟩

end Ends

end Stencil.Script
