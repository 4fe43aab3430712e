import Mathlib
import Stencil.Proofs.Json.Laws

/-!
# Values and contexts are read back

A document does not say of what kind the value in it is: reading takes the first kind that fits. Yet
in every format that keeps its laws a value is read back as it was written, with all that is in it
(`Value.again_eq`), since no kind that is tried before its own reads what it is written as. Only the
floats that are not finite are excepted. A context is the same after it has been saved and loaded.
-/

namespace Stencil

variable {Doc : Type} {f : Format Doc} {values : Codec Doc Value}

namespace Value

mutual

/-- No float in a value is infinite or not a number, at any depth. -/
def IsFinite : Value → Prop
  | float x => x.isFinite
  | list items => ItemsFinite items
  | map entries => EntriesFinite entries
  | _ => True

def ItemsFinite : List Value → Prop
  | [] => True
  | v :: vs => v.IsFinite ∧ ItemsFinite vs

def EntriesFinite : List (String × Value) → Prop
  | [] => True
  | (_, v) :: es => v.IsFinite ∧ EntriesFinite es

end

/-! ### The kind that is read

A document is passed over by the readers of all kinds that are tried before its own. -/

namespace Untagged

variable {d : Doc}

theorem read?_unit (untagged : Untagged f values) (read : f.unit.read? d = some ()) :
    values.read? d = some .none := by
  simp [untagged.read?_eq, variants, read]

theorem read?_bool (untagged : Untagged f values) (told : f.SelfDescribing) {b : Bool}
    (kind : f.kind d = .bool) (read : f.bool.read? d = some b) :
    values.read? d = some (.bool b) := by
  simp [untagged.read?_eq, variants, told.unit_refuses d, kind, read]

theorem read?_int (untagged : Untagged f values) (told : f.SelfDescribing) {i : Int64}
    (kind : f.kind d = .int) (read : f.int.read? d = some i) :
    values.read? d = some (.int i) := by
  simp [untagged.read?_eq, variants, told.unit_refuses d, told.bool_refuses d, kind, read]

theorem read?_float (untagged : Untagged f values) (told : f.SelfDescribing) {x : Float}
    (kind : f.kind d = .float) (read : f.float.read? d = some x) :
    values.read? d = some (.float x) := by
  simp [untagged.read?_eq, variants, told.unit_refuses d, told.bool_refuses d,
    told.int_refuses d, kind, read]

theorem read?_string (untagged : Untagged f values) (told : f.SelfDescribing) {s : String}
    (kind : f.kind d = .string) (read : f.string.read? d = some s) :
    values.read? d = some (.string s) := by
  simp [untagged.read?_eq, variants, told.unit_refuses d, told.bool_refuses d,
    told.int_refuses d, told.float_refuses d, kind, read]

theorem read?_list (untagged : Untagged f values) (told : f.SelfDescribing) {items : List Value}
    (kind : f.kind d = .list) (read : (f.list values).read? d = some items) :
    values.read? d = some (.list items) := by
  simp [untagged.read?_eq, variants, told.unit_refuses d, told.bool_refuses d,
    told.int_refuses d, told.float_refuses d, told.string_refuses d, kind, read]

theorem read?_map (untagged : Untagged f values) (told : f.SelfDescribing)
    {entries : List (String × Value)} (kind : f.kind d = .map)
    (read : (f.map values).read? d = some entries) :
    values.read? d = some (.map (Entries.ofList entries)) := by
  simp [untagged.read?_eq, variants, told.unit_refuses d, told.bool_refuses d,
    told.int_refuses d, told.float_refuses d, told.string_refuses d, told.list_refuses values d,
    kind, read]

end Untagged

/-! ### Values are read back -/

mutual

/-- A value is read back from what it is written as. -/
theorem again_eq (faithful : f.Faithful) (told : f.SelfDescribing) (untagged : Untagged f values) :
    ∀ v : Value, v.WellFormed → v.IsFinite → values.again v = some v
  | .none, _, _ => by
    rw [Codec.again, untagged.write_eq]
    exact untagged.read?_unit faithful.unit
  | .bool b, _, _ => by
    rw [Codec.again, untagged.write_eq]
    exact untagged.read?_bool told (told.kind_bool b) (faithful.bool b)
  | .int i, _, _ => by
    rw [Codec.again, untagged.write_eq]
    exact untagged.read?_int told (told.kind_int i) (faithful.int i)
  | .float x, _, finite => by
    rw [Codec.again, untagged.write_eq]
    exact untagged.read?_float told (told.kind_float x finite) (faithful.float x finite)
  | .string s, _, _ => by
    rw [Codec.again, untagged.write_eq]
    exact untagged.read?_string told (told.kind_string s) (faithful.string s)
  | .list items, formed, finite => by
    rw [Codec.again, untagged.write_eq]
    exact untagged.read?_list told (told.kind_list values items)
      ((faithful.list values items).trans
        (items_again faithful told untagged items formed finite))
  | .map entries, formed, finite => by
    have read := (faithful.map values entries formed.1).trans
      (entries_again faithful told untagged entries formed.2 finite)
    rw [Codec.again, untagged.write_eq]
    exact (untagged.read?_map told (told.kind_map values entries) read).trans
      (by rw [Entries.ofList_of_sorted formed.1])

theorem items_again (faithful : f.Faithful) (told : f.SelfDescribing)
    (untagged : Untagged f values) : ∀ items : List Value, ItemsWellFormed items →
      ItemsFinite items → items.mapM values.again = some items
  | [], _, _ => rfl
  | v :: vs, formed, finite => by
    rw [List.mapM_cons, again_eq faithful told untagged v formed.1 finite.1,
      items_again faithful told untagged vs formed.2 finite.2]
    rfl

theorem entries_again (faithful : f.Faithful) (told : f.SelfDescribing)
    (untagged : Untagged f values) : ∀ entries : List (String × Value), EntriesWellFormed entries →
      EntriesFinite entries →
        (entries.mapM fun e => (values.again e.2).map fun v => (e.1, v)) = some entries
  | [], _, _ => rfl
  | (name, v) :: es, formed, finite => by
    rw [List.mapM_cons, again_eq faithful told untagged v formed.1 finite.1,
      entries_again faithful told untagged es formed.2 finite.2]
    rfl

end

end Value

namespace Bindings

open Value

/-- In every format that keeps its laws, values and contexts are read back as they were written, so
a context that has been saved and loaded renders every template as before. -/
theorem read?_saved {contexts : Codec Doc Context} (faithful : f.Faithful) (told : f.SelfDescribing)
    (untagged : Untagged f values) (transparent : Transparent f values contexts) :
    (∀ v : Value, v.WellFormed → v.IsFinite → values.read? (values.write v) = some v) ∧
      ∀ c : Context, EntriesWellFormed c.toList → EntriesFinite c.toList →
        contexts.read? (contexts.write c) = some c ∧
          ∀ loaded, contexts.read? (contexts.write c) = some loaded →
            ∀ (t : Template) (limit : Nat), t.render loaded limit = t.render c limit := by
  refine ⟨Value.again_eq faithful told untagged, fun c formed finite => ?_⟩
  have entries : (f.map values).again c.toList = some c.toList :=
    (faithful.map values c.toList c.sorted).trans
      (entries_again faithful told untagged c.toList formed finite)
  have loads : contexts.read? (contexts.write c) = some c := by
    rw [transparent.write_eq, transparent.read?_eq]
    exact (congrArg (Option.map ofList) entries).trans (congrArg some (ofList_toList c))
  refine ⟨loads, fun loaded same t limit => ?_⟩
  rw [Option.some.inj (loads.symm.trans same)]

/-- Whole numbers at both ends, a float that is a whole number, and keys and texts that look like
something else. -/
theorem read?_saved_nested :
    let limits : Value := .list [.int Int64.minValue, .int Int64.maxValue]
    let mixed : Value := .map [("", .none), ("1", .float 2), ("null", .list [.string "1"])]
    let c := ofList [("mixed", mixed), ("limits", limits), ("no", .bool false)]
    c.toList = [("limits", limits), ("mixed", mixed), ("no", .bool false)] ∧
      Value.json.read? (Value.json.write mixed) = some mixed ∧
      json.read? (json.write c) = some c := by
  intro limits mixed c
  have listed : c.toList = [("limits", limits), ("mixed", mixed), ("no", .bool false)] := by
    cbv
  have whole : (2 : Float).isFinite = true := by decide
  have formed : mixed.WellFormed := by
    refine ⟨by decide, ?_⟩
    simp [EntriesWellFormed, ItemsWellFormed, WellFormed]
  have finite : mixed.IsFinite := by
    simp [mixed, IsFinite, EntriesFinite, ItemsFinite, whole]
  have kept := read?_saved Json.faithful Json.selfDescribing untagged_json transparent_json
  refine ⟨listed, kept.1 mixed formed finite, (kept.2 c ?_ ?_).1⟩
  · rw [listed]
    simp [EntriesWellFormed, formed, limits, WellFormed, ItemsWellFormed]
  · rw [listed]
    simp [EntriesFinite, finite, limits, IsFinite, ItemsFinite]

end Bindings

end Stencil
