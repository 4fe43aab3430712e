import Mathlib
import Stencil.Render.State

/-!
# Scopes and context as layers of names

A name is looked up in the scopes from the innermost to the outermost and then in the context. The
context and the outermost scope act as one layer: what the scope binds hides what the context binds,
and a name that only the context binds is shadowed there. `Scopes.layers` forgets where the one ends
and the other begins, and `layers_assign` says that nothing is lost by that: an assignment changes
the innermost layer that binds its name, or binds it in the innermost layer of all.
-/

namespace Stencil

abbrev Layer := String → Option Value

namespace Layer

def bind (l : Layer) (name : String) (value : Value) : Layer :=
  fun n => if n = name then some value else l n

@[simp] theorem bind_self (l : Layer) (name : String) (value : Value) :
    l.bind name value name = some value := if_pos rfl

theorem bind_other {name n : String} (h : n ≠ name) (l : Layer) (value : Value) :
    l.bind name value n = l n := if_neg h

end Layer

namespace Layers

def find? (layers : List Layer) (name : String) : Option Value := layers.findSome? (· name)

def declare (name : String) (value : Value) : List Layer → List Layer
  | [] => []
  | l :: ls => l.bind name value :: ls

def update (name : String) (value : Value) : List Layer → List Layer
  | [] => []
  | l :: ls => if (l name).isSome then l.bind name value :: ls else l :: update name value ls

/-- Changes the nearest binding of a name, or binds it in the innermost layer. -/
def assign (name : String) (value : Value) (layers : List Layer) : List Layer :=
  if (find? layers name).isSome then update name value layers else declare name value layers

@[simp] theorem find?_nil (name : String) : find? [] name = none := rfl

theorem find?_cons (l : Layer) (ls : List Layer) (name : String) :
    find? (l :: ls) name = (l name <|> find? ls name) := by
  cases h : l name <;> simp [find?, h]

theorem find?_append (ls ms : List Layer) (name : String) :
    find? (ls ++ ms) name = (find? ls name <|> find? ms name) := by
  simp [find?, List.findSome?_append]

theorem update_of_none {name : String} {ls : List Layer} (h : find? ls name = none)
    (value : Value) (ms : List Layer) :
    update name value (ls ++ ms) = ls ++ update name value ms := by
  induction ls with
  | nil => rfl
  | cons l ls ih =>
      rw [find?_cons, Option.orElse_eq_orElse, Option.orElse_eq_or, Option.or_eq_none_iff] at h
      simp [update, h.1, ih h.2]

/-- An update is seen under its own name alone. -/
theorem find?_update_other {name n : String} (h : n ≠ name) (value : Value) (ls : List Layer) :
    find? (update name value ls) n = find? ls n := by
  induction ls with
  | nil => rfl
  | cons l ls ih =>
      rw [update]
      split
      · rw [find?_cons, find?_cons, Layer.bind_other h]
      · rw [find?_cons, find?_cons, ih]

theorem find?_update_self {name : String} {ls : List Layer} (h : (find? ls name).isSome)
    (value : Value) : find? (update name value ls) name = some value := by
  induction ls with
  | nil => simp at h
  | cons l ls ih =>
      rw [update]
      split
      · simp [find?_cons]
      · next absent =>
        rw [find?_cons] at h
        simp_all [find?_cons]

/-- After an assignment its name has the new value and every other name the old one. -/
theorem find?_assign {ls : List Layer} (nonempty : ls ≠ []) (name n : String) (value : Value) :
    find? (assign name value ls) n = if n = name then some value else find? ls n := by
  rw [assign]
  by_cases same : n = name
  · subst same
    rw [if_pos rfl]
    split
    · next bound => exact find?_update_self bound value
    · cases ls with
      | nil => exact absurd rfl nonempty
      | cons l ls => simp [declare, find?_cons]
  · rw [if_neg same]
    split
    · exact find?_update_other same value ls
    · cases ls with
      | nil => rfl
      | cons l ls => rw [declare, find?_cons, find?_cons, Layer.bind_other same]

end Layers

namespace Scopes

/-- The layers of some scopes, innermost first. The context lies under the outermost scope. -/
def layers (context : Context) (s : Scopes) : List Layer :=
  s.inner.map Bindings.find? ++ [fun n => s.top.find? n <|> context.find? n]

variable (context : Context)

/-- A name means what the layers say. -/
theorem find?_layers (s : Scopes) (name : String) :
    Layers.find? (s.layers context) name = (s.find? name <|> context.find? name) := by
  have inside : Layers.find? (s.inner.map Bindings.find?) name =
      s.inner.findSome? (·.find? name) := by
    simp [Layers.find?, List.findSome?_map, Function.comp_def]
  rw [layers, Layers.find?_append, inside, Scopes.find?]
  simp [Layers.find?_cons, Option.or_assoc]

theorem layers_pop {s : Scopes} (h : s.inner ≠ []) :
    s.pop.layers context = (s.layers context).tail := by
  obtain ⟨inner, top⟩ := s
  cases inner with
  | nil => exact absurd rfl h
  | cons scope scopes => rfl

theorem find?_insert_eq_bind (b : Bindings) (name : String) (value : Value) :
    (b.insert name value).find? = Layer.bind b.find? name value := by
  funext n
  exact b.find?_insert name n value

/-- Binding a name in the outermost scope binds it in the layer of that scope and the context. -/
theorem layers_insert_top (inner : List Bindings) (top : Bindings) (name : String) (value : Value) :
    layers context ⟨inner, top.insert name value⟩ =
      inner.map Bindings.find? ++
        [Layer.bind (fun n => top.find? n <|> context.find? n) name value] := by
  have bottom : (fun n => (top.insert name value).find? n <|> context.find? n) =
      Layer.bind (fun n => top.find? n <|> context.find? n) name value := by
    funext n
    by_cases same : n = name <;> simp [Bindings.find?_insert, Layer.bind, same]
  rw [layers, bottom]

theorem layers_declare (s : Scopes) (name : String) (value : Value) :
    (s.declare name value).layers context = Layers.declare name value (s.layers context) := by
  obtain ⟨inner, top⟩ := s
  cases inner with
  | nil => exact layers_insert_top context [] top name value
  | cons scope scopes =>
      simp only [declare, layers, List.map_cons, List.cons_append, Layers.declare,
        find?_insert_eq_bind]

/-- Changing the first inner scope that binds a name changes the layer of that scope. -/
theorem update_map_of_update? {name : String} {value : Value} {inner inner' : List Bindings}
    (h : update? name value inner = some inner') (ls : List Layer) :
    Layers.update name value (inner.map Bindings.find? ++ ls) =
      inner'.map Bindings.find? ++ ls := by
  induction inner generalizing inner' with
  | nil => simp [update?] at h
  | cons scope scopes ih =>
      rw [update?, Bindings.contains_eq_isSome] at h
      rw [List.map_cons, List.cons_append, Layers.update]
      split at h
      · next bound =>
        cases h
        simp [bound, find?_insert_eq_bind]
      · next unbound =>
        obtain ⟨rest, hrest, rfl⟩ := Option.map_eq_some_iff.1 h
        simp [unbound, ih hrest]

theorem isSome_update? (name : String) (value : Value) (inner : List Bindings) :
    (update? name value inner).isSome =
      (Layers.find? (inner.map Bindings.find?) name).isSome := by
  induction inner with
  | nil => rfl
  | cons scope scopes ih =>
      rw [update?, Bindings.contains_eq_isSome, List.map_cons, Layers.find?_cons]
      cases h : scope.find? name <;> simp [ih]

/-- An assignment changes the innermost layer that binds its name, be it by a scope or by the
context, or binds the name in the innermost layer. -/
theorem layers_assign (s : Scopes) (name : String) (value : Value) :
    (s.assign context name value).layers context = Layers.assign name value (s.layers context) := by
  obtain ⟨inner, top⟩ := s
  have bottom : Layers.find? (layers context ⟨inner, top⟩) name =
      (Layers.find? (inner.map Bindings.find?) name <|>
        top.find? name <|> context.find? name) := by
    rw [layers, Layers.find?_append]
    simp [Layers.find?_cons]
  have inside := isSome_update? name value inner
  rw [assign, Layers.assign, bottom]
  cases found : update? name value inner with
  | some inner' =>
      rw [found] at inside
      obtain ⟨v, hv⟩ := Option.isSome_iff_exists.1 inside.symm
      simp only [hv, Option.orElse_eq_orElse, Option.orElse_eq_or, Option.some_or,
        Option.isSome_some, if_true]
      exact (update_map_of_update? found _).symm
  | none =>
      rw [found] at inside
      have hnone : Layers.find? (inner.map Bindings.find?) name = none := by simpa using inside.symm
      have bottomBound : (top.find? name <|> context.find? name).isSome =
          (top.contains name || context.contains name) := by
        simp [Bindings.contains_eq_isSome]
      simp only [hnone, Option.orElse_eq_orElse, Option.orElse_eq_or, Option.none_or]
        at bottomBound ⊢
      rw [bottomBound]
      cases bound : top.contains name || context.contains name with
      | true =>
          simp only [if_true]
          rw [layers_insert_top, layers, Layers.update_of_none hnone]
          simp [Layers.update, bottomBound, bound]
      | false => exact layers_declare context ⟨inner, top⟩ name value

end Scopes

end Stencil
