import Stencil.Proofs.Script.Yields
import Stencil.Proofs.Source.Places
import Stencil.Script.Literal

/-!
# Readers of other states

Readers are written for all states that can be moved like a cursor. `Lasting R E` says that a
relation `R` between such states and cursors outlasts every move, with what a reader knows where it
makes that move, and that errors are raised where they satisfy `E`. `Keeps R E q p` says of a reader
`q` of such states that it does what the reader `p` does with a cursor: from related states the two
end with the same, in related states.

What is true of every cursor that a reader has is such a relation too (`Itself`).
-/

namespace Stencil.Script

/-- Whether every character of some kind is one byte, and none is a line break. -/
def IsSmall (kind : Char → Bool) : Prop := ∀ x, kind x → x ≠ '\n' ∧ x.utf8Size = 1

theorem isSmall_of_le {kind : Char → Bool} (plain : kind '\n' = false)
    (low : ∀ x, kind x → x.val ≤ 127) : IsSmall kind := by
  intro x holds
  refine ⟨?_, ?_⟩
  · rintro rfl
    exact absurd holds (Bool.eq_false_iff.1 plain)
  · exact if_pos (low x holds)

theorem isDigit_le {x : Char} (digit : x.isDigit) : x.val ≤ 127 := by
  rw [Char.isDigit, Bool.and_eq_true, decide_eq_true_iff, decide_eq_true_iff] at digit
  exact UInt32.le_trans digit.2 (by decide)

theorem isSmall_digitOrUnderscore : IsSmall isDigitOrUnderscore := by
  refine isSmall_of_le (by decide) fun x holds => ?_
  rw [isDigitOrUnderscore, Bool.or_eq_true, beq_iff_eq] at holds
  rcases holds with digit | rfl
  · exact isDigit_le digit
  · decide

theorem isSmall_hexDigit : IsSmall isHexDigit := by
  refine isSmall_of_le (by decide) fun x holds => ?_
  simp only [isHexDigit, Bool.or_eq_true, Bool.and_eq_true, decide_eq_true_iff] at holds
  rcases holds with (digit | ⟨-, small⟩) | ⟨-, capital⟩
  · exact isDigit_le digit
  · exact UInt32.le_trans small (by decide)
  · exact UInt32.le_trans capital (by decide)

theorem startsFraction_cons (x : Char) (text : List Char) :
    startsFraction (x :: text) = (x == '.' && text.head?.any Char.isDigit) := by
  by_cases point : x = '.'
  · subst point
    cases text <;> simp [startsFraction]
  · simp [startsFraction, point]

namespace Cursor

variable {c : Cursor}

theorem startsWith_point (found : startsFraction c.rest) : c.startsWith "." := by
  rw [startsWith]
  cases rest : c.rest with
  | nil =>
      rw [rest] at found
      cases found
  | cons x text =>
      rw [rest, startsFraction_cons, Bool.and_eq_true, beq_iff_eq] at found
      simp [found.1]

/-- The text goes on with its next word. -/
theorem startsWith_word (c : Cursor) : c.startsWith (String.ofList c.word) := by
  rw [startsWith, String.toList_ofList, List.isPrefixOf_iff_prefix, word]
  split
  · exact List.nil_prefix
  · exact List.takeWhile_prefix _

theorem newline_not_mem_word (c : Cursor) : '\n' ∉ (String.ofList c.word).toList := by
  rw [String.toList_ofList, word]
  split
  · exact List.not_mem_nil
  · exact fun inside => absurd (List.mem_takeWhile_imp inside) (by decide)

end Cursor

/-! ### Relations that last -/

section Relations

variable {σ : Type}

/-- A relation between states and cursors that outlasts what readers do with them. -/
structure Lasting [Moves σ] (R : σ → Cursor → Prop) (E : Error → Prop) : Prop where
  view : ∀ {s c}, R s c → Moves.view s = c
  char : ∀ {s c x}, R s c → c.rest.head? = some x → R (Moves.char x s) (c.pass 1)
  unseen : ∀ {s c piece}, R s c → c.startsWith piece → '\n' ∉ piece.toList →
    R (Moves.unseen piece s) (c.pass piece.length)
  skip : ∀ {s c}, R s c → ∀ blank, R (Moves.skip blank s) (c.pass (gapLength blank false c.rest))
  row : ∀ {s c kind}, R s c → IsSmall kind →
    R (Moves.row kind s) (c.pass (c.rest.takeWhile kind).length)
  back : ∀ {start s : σ} {start' c : Cursor}, R start start' → R s c →
    R (Moves.back start s) (c.back start')
  setDepth : ∀ {s c}, R s c → ∀ depth, R (Moves.setDepth depth s) { c with depth }
  setBrackets : ∀ {s c}, R s c → ∀ brackets, R (Moves.setBrackets brackets s) { c with brackets }
  /-- A bracket is counted off where one more is open than before. -/
  close : ∀ {s c outside}, R s c → c.brackets = outside + 1 →
    R (Moves.close outside s) { c with brackets := outside }
  error : ∀ {s c}, R s c → ∀ d, E (c.error d)

/-- A relation that lasts does so whatever readers fail with. -/
theorem Lasting.whatever [Moves σ] {R : σ → Cursor → Prop} {E : Error → Prop}
    (lasting : Lasting R E) : Lasting R fun _ => True :=
  { lasting with error := fun _ _ => trivial }

/-- From the state `s` and the cursor `c`, two readers end with the same, where they are related,
and an error satisfies `E`. As many brackets are open then as before, and no level is left. -/
structure Agree {α : Type} (R : σ → Cursor → Prop) (E : Error → Prop) (q : Scan σ α) (p : Parse α)
    (s : σ) (c : Cursor) : Prop where
  same : (q.run.run s).1 = (p.run.run c).1
  there : R (q.run.run s).2 (p.run.run c).2
  fails : ∀ e, (p.run.run c).1 = .error e → E e
  brackets : (p.run.run c).2.brackets = c.brackets
  depth_le : c.depth ≤ (p.run.run c).2.depth

/-- From states that are related, two readers end with the same, in related states. -/
def Keeps {α : Type} (R : σ → Cursor → Prop) (E : Error → Prop) (q : Scan σ α) (p : Parse α) :
    Prop :=
  ∀ s c, R s c → Agree R E q p s c

variable {R : σ → Cursor → Prop} {E : Error → Prop} {α β : Type} {s : σ} {c : Cursor}

namespace Agree

variable {q : Scan σ α} {p : Parse α} {f : α → Scan σ β} {g : α → Parse β}

theorem pure (a : α) (here : R s c) : Agree R E (Pure.pure a) (Pure.pure a) s c :=
  ⟨rfl, here, nofun, rfl, le_rfl⟩

theorem throw {e : Error} (here : R s c) (fails : E e) :
    Agree (α := α) R E (MonadExcept.throw e) (MonadExcept.throw e) s c := by
  refine ⟨rfl, here, ?_, rfl, le_rfl⟩
  rintro e ⟨⟩
  exact fails

/-- Readers that do something before and after others agree if these do. -/
theorem around {q' : Scan σ α} {p' : Parse α} {s' s₁ : σ} {c' c₁ : Cursor}
    (h : Agree R E q' p' s' c') (left : q.run.run s = ((q'.run.run s').1, s₁))
    (right : p.run.run c = ((p'.run.run c').1, c₁)) (there : R s₁ c₁)
    (brackets : c₁.brackets = c.brackets) (depth_le : c.depth ≤ c₁.depth) :
    Agree R E q p s c where
  same := by rw [left, right, h.same]
  there := by
    rw [left, right]
    exact there
  fails := by
    rw [right]
    exact h.fails
  brackets := by rw [right, brackets]
  depth_le := by
    rw [right]
    exact depth_le

/-- Agreement is a matter of the runs. -/
theorem of_runs {q' : Scan σ α} {p' : Parse α} {s' : σ} {c' : Cursor} (h : Agree R E q' p' s' c')
    (left : q.run.run s = q'.run.run s') (right : p.run.run c = p'.run.run c')
    (brackets : c'.brackets = c.brackets) (depth_le : c.depth ≤ c'.depth) :
    Agree R E q p s c :=
  h.around left right h.there (h.brackets.trans brackets) (depth_le.trans h.depth_le)

/-- What is done with a result is done with the same one. -/
theorem bind (first : Agree R E q p s c)
    (next : ∀ a s' c', R s' c' → p.run.run c = (.ok a, c') → Agree R E (f a) (g a) s' c') :
    Agree R E (q >>= f) (p >>= g) s c := by
  obtain ⟨same, there, fails, brackets, depth_le⟩ := first
  cases scanned : q.run.run s with
  | mk result s' =>
  cases ran : p.run.run c with
  | mk result' c' =>
  rw [scanned, ran] at same there
  rw [ran] at fails brackets depth_le
  obtain rfl : result = result' := same
  have left := run_bind q f s
  have right := run_bind p g c
  rw [scanned] at left
  rw [ran] at right
  cases result with
  | error e => exact (throw there (fails e rfl)).of_runs left right brackets depth_le
  | ok a => exact (next a s' c' there ran).of_runs left right brackets depth_le

theorem ite {b : Prop} [Decidable b] {q' : Scan σ α} {p' : Parse α} (h : Agree R E q p s c)
    (h' : Agree R E q' p' s c) : Agree R E (if b then q else q') (if b then p else p') s c := by
  split
  · exact h
  · exact h'

/-- A reader that fails if something is wrong goes on where it has begun. -/
theorem unlessStopped {b : Prop} [Decidable b] {stop : Scan σ Unit} {stop' : Parse Unit}
    {f : Unit → Scan σ β} {g : Unit → Parse β} (h : Agree R E stop stop' s c)
    (stops : Yields stop' c fun _ _ => False) (next : Agree R E (f ()) (g ()) s c) :
    Agree R E (if b then (stop >>= f) else f ()) (if b then (stop' >>= g) else g ()) s c :=
  .ite (h.bind fun u _ c' _ ran => (stops u c' ran).elim) next

end Agree

namespace Keeps

variable {q q' : Scan σ α} {p p' : Parse α}

theorem pure (a : α) : Keeps R E (Pure.pure a) (Pure.pure a) := fun _ _ here => .pure a here

theorem throw {e : Error} (h : E e) :
    Keeps (α := α) R E (MonadExcept.throw e) (MonadExcept.throw e) :=
  fun _ _ here => .throw here h

theorem bind {f : α → Scan σ β} {g : α → Parse β} (h : Keeps R E q p)
    (next : ∀ a, Keeps R E (f a) (g a)) : Keeps R E (q >>= f) (p >>= g) :=
  fun s c here => (h s c here).bind fun a s' c' there _ => next a s' c' there

theorem getting {f : σ → Scan σ β} {g : Cursor → Parse β}
    (next : ∀ start start', R start start' → Keeps R E (f start) (g start')) :
    Keeps R E (get >>= f) (get >>= g) :=
  fun s c here => (next s c here s c here).of_runs rfl rfl rfl le_rfl

theorem ite {b : Prop} [Decidable b] (h : Keeps R E q p) (h' : Keeps R E q' p') :
    Keeps R E (if b then q else q') (if b then p else p') :=
  fun s c here => .ite (h s c here) (h' s c here)

/-- One of two readers, as a third one tells. -/
theorem whether {x : Scan σ Bool} {y : Parse Bool} (test : Keeps R E x y) (h : Keeps R E q p)
    (h' : Keeps R E q' p') :
    Keeps R E (do if ← x then q else q') (do if ← y then p else p') :=
  test.bind fun _ => .ite h h'

/-- A reader that fails unless a first one has found something. -/
theorem orStop {x : Scan σ Bool} {y : Parse Bool} {stop : Scan σ Unit} {stop' : Parse Unit}
    {f : Unit → Scan σ β} {g : Unit → Parse β} (test : Keeps R E x y) (h : Keeps R E stop stop')
    (next : ∀ u, Keeps R E (f u) (g u)) :
    Keeps R E (do if ← x then f () else (stop >>= f)) (do if ← y then g () else (stop' >>= g)) :=
  test.whether (next ()) (h.bind next)

/-- A reader that fails if something is wrong. -/
theorem unlessStopped {b : Prop} [Decidable b] {stop : Scan σ Unit} {stop' : Parse Unit}
    {f : Unit → Scan σ β} {g : Unit → Parse β} (h : Keeps R E stop stop')
    (next : ∀ u, Keeps R E (f u) (g u)) :
    Keeps R E (if b then (stop >>= f) else f ()) (if b then (stop' >>= g) else g ()) :=
  .ite (h.bind next) (next ())

end Keeps

end Relations

/-! ### What is true of a cursor -/

/-- A cursor is related to itself if something is true of it. -/
def Itself (I : Cursor → Prop) (s c : Cursor) : Prop := s = c ∧ I c

/-- A reader that has only cursors of some kind if it has one to begin with. -/
abbrev KeepsTo {α : Type} (I : Cursor → Prop) (p : Parse α) : Prop :=
  Keeps (Itself I) (fun _ => True) p p

/-- What is true of a cursor outlasts what readers do with it, whatever they fail with. -/
abbrev Lasts (I : Cursor → Prop) : Prop := Lasting (Itself I) fun _ => True

variable {I : Cursor → Prop} {E : Error → Prop}

/-- What is true of a cursor by its place alone does not depend on what is counted. -/
theorem Lasting.of_place
    (place : ∀ {c c' : Cursor}, I c → c'.rest = c.rest → c'.place = c.place → I c')
    (pass : ∀ {c : Cursor}, I c → ∀ n, I (c.pass n))
    (error : ∀ {c : Cursor}, I c → ∀ d, E (c.error d)) : Lasting (Itself I) E where
  view here := here.1
  char := by
    rintro _ c x ⟨rfl, here⟩ -
    exact ⟨rfl, pass here 1⟩
  unseen := by
    rintro _ c piece ⟨rfl, here⟩ - -
    exact ⟨rfl, pass here _⟩
  skip := by
    rintro _ c ⟨rfl, here⟩ blank
    exact ⟨rfl, pass here _⟩
  row := by
    rintro _ c kind ⟨rfl, here⟩ -
    exact ⟨rfl, pass here _⟩
  back := by
    rintro _ _ start c ⟨rfl, there⟩ ⟨rfl, -⟩
    exact ⟨rfl, place there rfl rfl⟩
  setDepth := by
    rintro _ c ⟨rfl, here⟩ depth
    exact ⟨rfl, place here rfl rfl⟩
  setBrackets := by
    rintro _ c ⟨rfl, here⟩ brackets
    exact ⟨rfl, place here rfl rfl⟩
  close := by
    rintro _ c outside ⟨rfl, here⟩ -
    exact ⟨rfl, place here rfl rfl⟩
  error here := error here.2

/-- Nothing needs to be true. -/
theorem lasting_true : Lasts fun _ => True :=
  .of_place (fun _ _ _ => trivial) (fun _ _ => trivial) fun _ _ => trivial

/-- What a reader yields, it yields at such a cursor. -/
theorem Keeps.yields {α : Type} {p : Parse α} {c : Cursor} (h : Keeps (Itself I) E p p)
    (here : I c) : Yields p c fun _ c' => I c' := by
  intro a c' ran
  have there := (h c c ⟨rfl, here⟩).there.2
  rwa [ran] at there

/-- What a text is refused with is an error of some kind. -/
theorem Keeps.error_of_run {α : Type} {p : Parse α} {text : List Char} {e : Error}
    (h : Keeps (Itself I) E p p) (start : I (.start text)) (ran : run p text = .error e) : E e :=
  (h _ _ ⟨rfl, start⟩).fails e ran

end Stencil.Script
