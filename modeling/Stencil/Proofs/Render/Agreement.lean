import Stencil.Proofs.Render.Layers

/-!
# States that a program cannot tell apart

A walk over a program knows, at each level of nesting, some names to be bound there. Two stacks of
layers agree when they hold the same as far as that goes: every shared name means the same in each
single layer, and a name known to be bound at a level means the same, and something, when looked up
from that level. Where a known name is bound may differ: an assignment goes to the outermost layer
in a state whose context holds the name, and to the current one in a state that does not know it.

`Agree.declare`, `Agree.assign` and `Agree.push` say what each operation makes known. On two copies
of one stack the relation says no more than that the known names are bound.
-/

namespace Stencil

/-- Two stacks of layers that hold the same, as far as the shared names and the names known at each
level go. -/
inductive Agree (shared : String → Prop) :
    List (List String) → List Layer → List Layer → Prop
  | nil : Agree shared [] [] []
  | cons {known : List String} {outer : List (List String)} {l₁ l₂ : Layer} {ls₁ ls₂ : List Layer}
      (rest : Agree shared outer ls₁ ls₂)
      (same : ∀ n, shared n ∨ n ∈ outer.flatten → l₁ n = l₂ n)
      (bound : ∀ n ∈ known, Layers.find? (l₁ :: ls₁) n = Layers.find? (l₂ :: ls₂) n ∧
        (Layers.find? (l₁ :: ls₁) n).isSome) :
      Agree shared (known :: outer) (l₁ :: ls₁) (l₂ :: ls₂)

namespace Layers

/-- What an update or an assignment does to the two parts of a stack: the innermost layer changes
under the name alone, and the others are left alone or updated. -/
def ChangedAt (name : String) (value : Value) (l : Layer) (ls changed : List Layer) : Prop :=
  ∃ l' ls', changed = l' :: ls' ∧ (∀ n, n ≠ name → l' n = l n) ∧
    (ls' = ls ∨ ls' = update name value ls)

theorem update_changedAt (name : String) (value : Value) (l : Layer) (ls : List Layer) :
    ChangedAt name value l ls (update name value (l :: ls)) := by
  rw [update]
  split
  · exact ⟨_, _, rfl, fun n h => Layer.bind_other h l value, .inl rfl⟩
  · exact ⟨_, _, rfl, fun _ _ => rfl, .inr rfl⟩

theorem assign_changedAt (name : String) (value : Value) (l : Layer) (ls : List Layer) :
    ChangedAt name value l ls (assign name value (l :: ls)) := by
  rw [assign]
  split
  · exact update_changedAt name value l ls
  · exact ⟨_, _, rfl, fun n h => Layer.bind_other h l value, .inl rfl⟩

end Layers

namespace Agree

variable {shared : String → Prop} {known : List String} {levels outer : List (List String)}
variable {l₁ l₂ : Layer} {ls₁ ls₂ : List Layer} {name : String}

/-- A shared or known name means the same in both stacks. -/
theorem find?_eq (h : Agree shared levels ls₁ ls₂) (hn : shared name ∨ name ∈ levels.flatten) :
    Layers.find? ls₁ name = Layers.find? ls₂ name := by
  induction h with
  | nil => rfl
  | @cons known outer l₁ l₂ ls₁ ls₂ rest same bound ih =>
      by_cases here : name ∈ known
      · exact (bound name here).1
      · have further : shared name ∨ name ∈ outer.flatten := by
          simpa [here] using hn
        rw [Layers.find?_cons, Layers.find?_cons, same name further, ih further]

/-- A known name is bound. -/
theorem isSome_find? (h : Agree shared levels ls₁ ls₂) (hn : name ∈ levels.flatten) :
    (Layers.find? ls₁ name).isSome := by
  induction h with
  | nil => simp at hn
  | @cons known outer l₁ l₂ ls₁ ls₂ rest same bound ih =>
      by_cases here : name ∈ known
      · exact (bound name here).2
      · have further : (Layers.find? ls₁ name).isSome := ih (by simpa [here] using hn)
        rw [Layers.find?_cons]
        simp [further]

theorem symm (h : Agree shared levels ls₁ ls₂) : Agree shared levels ls₂ ls₁ := by
  induction h with
  | nil => exact .nil
  | cons rest same bound ih =>
      refine .cons ih (fun n hn => (same n hn).symm) ?_
      intro n hn
      obtain ⟨equal, some⟩ := bound n hn
      exact ⟨equal.symm, equal ▸ some⟩

theorem length_eq (h : Agree shared levels ls₁ ls₂) :
    ls₁.length = levels.length ∧ ls₂.length = levels.length := by
  induction h with
  | nil => exact ⟨rfl, rfl⟩
  | cons _ _ _ ih => exact ⟨congrArg (· + 1) ih.1, congrArg (· + 1) ih.2⟩

/-- Less may be known of the innermost level. -/
theorem mono {known' : List String} (h : Agree shared (known :: outer) ls₁ ls₂)
    (less : ∀ n ∈ known', n ∈ known) : Agree shared (known' :: outer) ls₁ ls₂ := by
  cases h with
  | cons rest same bound => exact .cons rest same fun n hn => bound n (less n hn)

/-- A name that is seen to be bound to the same value becomes known. -/
theorem learn (h : Agree shared (known :: outer) ls₁ ls₂)
    (equal : Layers.find? ls₁ name = Layers.find? ls₂ name)
    (some : (Layers.find? ls₁ name).isSome) : Agree shared ((name :: known) :: outer) ls₁ ls₂ := by
  cases h with
  | cons rest same bound =>
      refine .cons rest same ?_
      intro n hn
      rcases List.mem_cons.1 hn with rfl | hn
      · exact ⟨equal, some⟩
      · exact bound n hn

/-- A name that is neither shared nor known may change in one of the stacks. -/
theorem update_left (h : Agree shared levels ls₁ ls₂)
    (hn : ¬(shared name ∨ name ∈ levels.flatten)) (value : Value) :
    Agree shared levels (Layers.update name value ls₁) ls₂ := by
  induction h with
  | nil => exact .nil
  | @cons known outer l₁ l₂ ls₁ ls₂ rest same bound ih =>
      have further : ¬(shared name ∨ name ∈ outer.flatten) := by
        intro h
        exact hn (h.imp id fun h => by simp [h])
      have other : ∀ n ∈ known, n ≠ name := by
        rintro n here rfl
        exact hn (.inr (by simp [here]))
      have bound' : ∀ n ∈ known,
          Layers.find? (Layers.update name value (l₁ :: ls₁)) n = Layers.find? (l₂ :: ls₂) n ∧
            (Layers.find? (Layers.update name value (l₁ :: ls₁)) n).isSome := by
        intro n here
        rw [Layers.find?_update_other (other n here)]
        exact bound n here
      obtain ⟨l', ls', changed, head, tail⟩ := Layers.update_changedAt name value l₁ ls₁
      rw [changed] at bound' ⊢
      refine .cons ?_ ?_ bound'
      · rcases tail with rfl | rfl
        · exact rest
        · exact ih further
      · intro n hn'
        have different : n ≠ name := by
          rintro rfl
          exact further hn'
        rw [head n different, same n hn']

theorem update_right (h : Agree shared levels ls₁ ls₂)
    (hn : ¬(shared name ∨ name ∈ levels.flatten)) (value : Value) :
    Agree shared levels ls₁ (Layers.update name value ls₂) :=
  (h.symm.update_left hn value).symm

/-- A name that means nothing outside the innermost level may change in different places. -/
theorem changedAt {known' : List String} {changed₁ changed₂ : List Layer} {value : Value}
    (h : Agree shared (known :: outer) (l₁ :: ls₁) (l₂ :: ls₂))
    (hn : ¬(shared name ∨ name ∈ outer.flatten))
    (change₁ : Layers.ChangedAt name value l₁ ls₁ changed₁)
    (change₂ : Layers.ChangedAt name value l₂ ls₂ changed₂)
    (bound : ∀ n ∈ known', Layers.find? changed₁ n = Layers.find? changed₂ n ∧
      (Layers.find? changed₁ n).isSome) :
    Agree shared (known' :: outer) changed₁ changed₂ := by
  cases h with
  | cons rest same _ =>
      obtain ⟨l₁', ls₁', rfl, head₁, tail₁⟩ := change₁
      obtain ⟨l₂', ls₂', rfl, head₂, tail₂⟩ := change₂
      refine .cons ?_ ?_ bound
      · rcases tail₁ with rfl | rfl <;> rcases tail₂ with rfl | rfl
        · exact rest
        · exact rest.update_right hn value
        · exact rest.update_left hn value
        · exact (rest.update_left hn value).update_right hn value
      · intro n hn'
        have different : n ≠ name := by
          rintro rfl
          exact hn hn'
        rw [head₁ n different, head₂ n different, same n hn']

/-- Updating a shared or known name that is bound keeps the agreement. -/
theorem update (h : Agree shared levels ls₁ ls₂) (hn : shared name ∨ name ∈ levels.flatten)
    (some : (Layers.find? ls₁ name).isSome) (value : Value) :
    Agree shared levels (Layers.update name value ls₁) (Layers.update name value ls₂) := by
  induction h with
  | nil => exact .nil
  | @cons known outer l₁ l₂ ls₁ ls₂ rest same bound ih =>
      have equal : Layers.find? (l₁ :: ls₁) name = Layers.find? (l₂ :: ls₂) name :=
        find?_eq (.cons rest same bound) hn
      have bound' : ∀ n ∈ known,
          Layers.find? (Layers.update name value (l₁ :: ls₁)) n =
              Layers.find? (Layers.update name value (l₂ :: ls₂)) n ∧
            (Layers.find? (Layers.update name value (l₁ :: ls₁)) n).isSome := by
        intro n here
        by_cases eq : n = name
        · subst eq
          rw [Layers.find?_update_self some, Layers.find?_update_self (equal ▸ some)]
          exact ⟨rfl, rfl⟩
        · rw [Layers.find?_update_other eq, Layers.find?_update_other eq]
          exact bound n here
      by_cases further : shared name ∨ name ∈ outer.flatten
      · have head := same name further
        by_cases here : (l₁ name).isSome
        · have here₂ : (l₂ name).isSome := head ▸ here
          simp only [Layers.update, if_pos here, if_pos here₂] at bound' ⊢
          refine .cons rest ?_ bound'
          intro n hn'
          by_cases eq : n = name
          · simp [eq]
          · rw [Layer.bind_other eq, Layer.bind_other eq, same n hn']
        · have here₂ : ¬(l₂ name).isSome := head ▸ here
          have below : (Layers.find? ls₁ name).isSome := by
            rw [Layers.find?_cons] at some
            simpa [here] using some
          simp only [Layers.update, if_neg here, if_neg here₂] at bound' ⊢
          exact .cons (ih further below) same bound'
      · exact changedAt (.cons rest same bound) further (Layers.update_changedAt ..)
          (Layers.update_changedAt ..) bound'

/-- A name bound in the innermost layer of both stacks becomes known there. -/
theorem declare (h : Agree shared (known :: outer) ls₁ ls₂) (name : String) (value : Value) :
    Agree shared ((name :: known) :: outer) (Layers.declare name value ls₁)
      (Layers.declare name value ls₂) := by
  cases h with
  | cons rest same bound =>
      refine .cons rest ?_ ?_
      · intro n hn
        by_cases eq : n = name
        · simp [eq]
        · rw [Layer.bind_other eq, Layer.bind_other eq, same n hn]
      · intro n hn
        by_cases eq : n = name
        · subst eq
          simp [Layers.find?_cons]
        · have before := bound n (by simpa [eq] using hn)
          rw [Layers.find?_cons] at before ⊢
          simpa [Layers.find?_cons, Layer.bind_other eq] using before

/-- A name assigned to in both stacks becomes known, wherever each of them keeps it. -/
theorem assign (h : Agree shared (known :: outer) ls₁ ls₂) (name : String) (value : Value) :
    Agree shared ((name :: known) :: outer) (Layers.assign name value ls₁)
      (Layers.assign name value ls₂) := by
  have nonempty₁ : ls₁ ≠ [] := by
    rintro rfl
    cases h
  have nonempty₂ : ls₂ ≠ [] := by
    rintro rfl
    cases h
  by_cases hn : shared name ∨ name ∈ (known :: outer).flatten
  · have equal := h.find?_eq hn
    rw [Layers.assign, Layers.assign, ← equal]
    split
    · next some =>
      have value₂ : Layers.find? (Layers.update name value ls₂) name = .some value :=
        Layers.find?_update_self (equal ▸ some) value
      refine (h.update hn some value).learn ?_ ?_
      · rw [Layers.find?_update_self some, value₂]
      · rw [Layers.find?_update_self some]
        rfl
    · exact h.declare name value
  · cases h with
    | @cons _ _ l₁ l₂ ls₁ ls₂ rest same bound =>
        refine changedAt (.cons rest same bound) ?_ (Layers.assign_changedAt ..)
          (Layers.assign_changedAt ..) ?_
        · intro further
          exact hn (further.imp id fun further => by simp [further])
        · intro n here
          rw [Layers.find?_assign nonempty₁, Layers.find?_assign nonempty₂]
          split
          · exact ⟨rfl, rfl⟩
          · next different => exact bound n (by simpa [different] using here)

/-- A new innermost layer, the same in both stacks, makes known what it binds. -/
theorem push (h : Agree shared outer ls₁ ls₂) (l : Layer)
    (binds : ∀ n ∈ known, (l n).isSome) : Agree shared (known :: outer) (l :: ls₁) (l :: ls₂) := by
  refine .cons h (fun _ _ => rfl) ?_
  intro n hn
  obtain ⟨v, hv⟩ := Option.isSome_iff_exists.1 (binds n hn)
  simp [Layers.find?_cons, hv]

theorem tail (h : Agree shared (known :: outer) ls₁ ls₂) :
    Agree shared outer ls₁.tail ls₂.tail := by
  cases h with
  | cons rest _ _ => exact rest

end Agree

/-- Two states, each with its context, that a program cannot tell apart. -/
structure State.Alike (shared : String → Prop) (levels : List (List String))
    (context₁ context₂ : Context) (s₁ s₂ : State) : Prop where
  layers : Agree shared levels (s₁.scopes.layers context₁) (s₂.scopes.layers context₂)
  output : s₁.output = s₂.output
  loops : s₁.loops = s₂.loops

namespace State.Alike

variable {shared : String → Prop} {known : List String} {levels outer : List (List String)}
variable {context₁ context₂ : Context} {s₁ s₂ : State}

theorem write (h : Alike shared levels context₁ context₂ s₁ s₂) (text : String) :
    Alike shared levels context₁ context₂ (s₁.write text) (s₂.write text) :=
  ⟨h.layers, congrArg (· ++ text) h.output, h.loops⟩

theorem mono {known' : List String} (h : Alike shared (known :: outer) context₁ context₂ s₁ s₂)
    (less : ∀ n ∈ known', n ∈ known) : Alike shared (known' :: outer) context₁ context₂ s₁ s₂ :=
  ⟨h.layers.mono less, h.output, h.loops⟩

theorem declare (h : Alike shared (known :: outer) context₁ context₂ s₁ s₂) (name : String)
    (value : Value) :
    Alike shared ((name :: known) :: outer) context₁ context₂
      { s₁ with scopes := s₁.scopes.declare name value }
      { s₂ with scopes := s₂.scopes.declare name value } := by
  refine ⟨?_, h.output, h.loops⟩
  rw [Scopes.layers_declare, Scopes.layers_declare]
  exact h.layers.declare name value

theorem assign (h : Alike shared (known :: outer) context₁ context₂ s₁ s₂) (name : String)
    (value : Value) :
    Alike shared ((name :: known) :: outer) context₁ context₂
      { s₁ with scopes := s₁.scopes.assign context₁ name value }
      { s₂ with scopes := s₂.scopes.assign context₂ name value } := by
  refine ⟨?_, h.output, h.loops⟩
  rw [Scopes.layers_assign, Scopes.layers_assign]
  exact h.layers.assign name value

theorem push (h : Alike shared outer context₁ context₂ s₁ s₂) (scope : Bindings)
    (binds : ∀ n ∈ known, (scope.find? n).isSome) :
    Alike shared (known :: outer) context₁ context₂ (s₁.enter scope) (s₂.enter scope) :=
  ⟨h.layers.push scope.find? binds, h.output, h.loops⟩

/-- The scopes of a body can be left: there is a level outside of it. -/
theorem pop (h : Alike shared (known :: levels) context₁ context₂ s₁ s₂) (inside : levels ≠ []) :
    Alike shared levels context₁ context₂ s₁.exit s₂.exit := by
  have inner : ∀ (context : Context) (s : Scopes),
      (s.layers context).length = (known :: levels).length → s.inner ≠ [] := by
    intro context s length empty
    have positive := List.length_pos_iff.2 inside
    simp only [Scopes.layers, empty, List.map_nil, List.nil_append, List.length_cons,
      List.length_nil] at length
    omega
  obtain ⟨length₁, length₂⟩ := h.layers.length_eq
  refine ⟨?_, h.output, h.loops⟩
  rw [State.scopes_exit, State.scopes_exit, Scopes.layers_pop context₁ (inner _ _ length₁),
    Scopes.layers_pop context₂ (inner _ _ length₂)]
  exact h.layers.tail

theorem loops_map (h : Alike shared levels context₁ context₂ s₁ s₂) (f : Nat → Nat) :
    Alike shared levels context₁ context₂ { s₁ with loops := f s₁.loops }
      { s₂ with loops := f s₂.loops } :=
  ⟨h.layers, h.output, congrArg f h.loops⟩

end State.Alike

end Stencil
