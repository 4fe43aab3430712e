import Mathlib
import Stencil.Json.Template
import Stencil.Json.Value

/-!
# JSON keeps the laws of a format

What is written as JSON is read back, and a JSON value tells of what kind it is (`Json.faithful`,
`Json.selfDescribing`). Values in JSON are untagged although reading them looks at the JSON only
once (`Value.untagged_json`): no two kinds fit, but for a whole number, which is an int if it can
be. Contexts, markers and templates are read and written as their types say.
-/

namespace Stencil

namespace Json

theorem word?_toInt (i : Int64) : word? (int i.toInt) = some i := by
  rw [word?, if_pos ⟨i.minValue_le_toInt, i.toInt_le⟩, Int64.ofInt_toInt]

theorem ofFloat_of_isFinite {x : Float} (finite : x.isFinite) : ofFloat x = float x := if_pos finite

/-- Nothing but `null` is of the kind of `null`. -/
theorem kind_eq_unit {j : Json} : j.kind = .unit ↔ j = null := by
  cases j <;> simp [kind]

/-- What is not `null` is read as what may be left out and has not been. -/
theorem optional_read? {α : Type} (c : Codec Json α) {j : Json} (present : j ≠ null) :
    (format.optional c).read? j = (c.read? j).map some := by
  cases j with
  | null => exact absurd rfl present
  | _ => rfl

theorem faithful : format.Faithful where
  unit := rfl
  bool _ := rfl
  int := word?_toInt
  float x finite := by simp [Codec.again, format, ofFloat_of_isFinite finite, float?]
  char c := by simp [Codec.again, format, char?]
  string _ := rfl
  optional_none _ := rfl
  optional_some c a present := optional_read? c (mt kind_eq_unit.2 present)
  pair _ _ _ _ := rfl
  list c items := by
    simp only [Codec.again, format, List.mapM_map]
    rfl
  map c entries _ := by
    simp only [Codec.again, format, List.mapM_map]
    rfl

theorem selfDescribing : format.SelfDescribing where
  kind_bool _ := rfl
  kind_int _ := rfl
  kind_float x finite := by simp [format, ofFloat_of_isFinite finite, kind]
  kind_string _ := rfl
  kind_list _ _ := rfl
  kind_map _ _ := rfl
  unit_refuses j other := by cases j <;> simp_all [format, kind]
  bool_refuses j other := by cases j <;> simp_all [format, kind]
  int_refuses j other := by cases j <;> simp_all [format, kind, word?]
  float_refuses j other notInt := by cases j <;> simp_all [format, kind, float?]
  string_refuses j other := by cases j <;> simp_all [format, kind, string?]
  list_refuses c j other := by cases j <;> simp_all [format, kind]

/-- An object without repeated names is a record, whatever names are asked for. -/
theorem record?_object {names : List String} {fields : List (String × Json)}
    (once : (fields.map Prod.fst).Nodup) : (object fields).record? names = some fields :=
  if_pos (once.filter _)

end Json

namespace Value

theorem itemsToJson_eq_map (items : List Value) : itemsToJson items = items.map toJson := by
  induction items with
  | nil => rfl
  | cons v vs ih => rw [itemsToJson, ih, List.map_cons]

theorem entriesToJson_eq_map (entries : List (String × Value)) :
    entriesToJson entries = entries.map fun e => (e.1, e.2.toJson) := by
  induction entries with
  | nil => rfl
  | cons e es ih => rw [entriesToJson, ih, List.map_cons]

theorem mapM_ofJson (js : List Json) : js.mapM json.read? = some (itemsOfJson js) := by
  induction js with
  | nil => rfl
  | cons j js ih =>
    rw [List.mapM_cons, ih]
    rfl

theorem mapM_entriesOfJson (members : List (String × Json)) :
    (members.mapM fun m => (json.read? m.2).map fun v => (m.1, v)) =
      some (entriesOfJson members) := by
  induction members with
  | nil => rfl
  | cons m ms ih =>
    rw [List.mapM_cons, ih]
    rfl

/-- Looking at the JSON once reads it as the first kind that fits. -/
theorem untagged_json : Untagged Json.format json where
  write_eq v := by
    cases v with
    | list items => simp [json, toJson, content, Json.format, itemsToJson_eq_map]
    | map entries => simp [json, toJson, content, Json.format, entriesToJson_eq_map]
    | _ => rfl
  read?_eq j := by
    show some (ofJson j) = _
    cases j with
    | int n =>
      cases h : Json.word? (.int n) <;> simp [ofJson, variants, Json.format, Json.float?, h]
    | array js =>
      simp [ofJson, variants, Json.format, Json.word?, Json.float?, Json.string?, mapM_ofJson]
    | object members =>
      simp [ofJson, variants, Json.format, Json.word?, Json.float?, Json.string?,
        mapM_entriesOfJson]
    | _ => rfl

end Value

theorem Bindings.transparent_json : Transparent Json.format Value.json json :=
  ⟨fun _ => rfl, fun _ => rfl⟩

theorem Markers.recorded_json : Recorded Json.format json where
  write_eq _ := rfl
  read?_object fields once m read := by
    show ofJson? (.object fields) = some m
    rw [ofJson?, Json.record?_object once]
    exact read

theorem Template.recorded_json : Recorded Json.format Markers.json toJson savedOfJson where
  save_eq _ := rfl
  saved_object fields once s read := by
    simp only [Saved.ofFields?, Option.bind_eq_bind, Option.bind_eq_some_iff] at read
    obtain ⟨name, named, markers, marked, source, given, same⟩ := read
    have present : (Entries.find? "source" fields).isNone = false := by
      cases found : Entries.find? "source" fields with
      | none => simp [Codec.required?, found] at given
      | some j => rfl
    cases same
    rw [savedOfJson, show Json.format.object fields = .object fields from rfl,
      Json.record?_object once]
    simp [Json.member?, named, marked, given, present, pure, Except.pure]

end Stencil
