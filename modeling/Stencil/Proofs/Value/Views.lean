import Mathlib
import Stencil.Builtin
import Stencil.Proofs.Text.Pieces

/-!
# Views of a container

What a list, a text or a map holds is seen in many ways: a loop visits it, an index or an attribute
picks something out, `in` looks for it, and functions give its length, its keys and its values. All
of them see the same. A list or a text is a row of items, counted in items or in characters
(`Value.Row`); a map is a row of increasing keys, each with one value (`Value.Keyed`).
-/

namespace Stencil.Value

section Places

variable {α : Type} {index : Int} {length p : Nat}

/-- A place is meant by its distance from the front and by that from the end. -/
theorem position?_eq_some :
    position? index length = some p ↔ p < length ∧ (index = p ∨ index + length = p) := by
  rw [position?]
  split
  · split <;> simp only [Option.some.injEq, reduceCtorEq, false_iff] <;> omega
  · split <;> simp only [Option.some.injEq, reduceCtorEq, false_iff] <;> omega

theorem position?_eq_none :
    position? index length = Option.none ↔ index < -length ∨ length ≤ index := by
  rw [position?]
  split
  · split <;> simp only [reduceCtorEq, false_iff, true_iff] <;> omega
  · split <;> simp only [reduceCtorEq, false_iff, true_iff] <;> omega

theorem at?_eq_some {items : List α} (inside : p < items.length)
    (means : index = p ∨ index + items.length = p) : at? index items = some items[p] := by
  rw [at?, position?_eq_some.2 ⟨inside, means⟩]
  exact List.getElem?_eq_getElem inside

theorem at?_eq_none {items : List α} (outside : index < -items.length ∨ items.length ≤ index) :
    at? index items = Option.none := by
  rw [at?, position?_eq_none.2 outside]
  rfl

theorem at?_map {β : Type} (f : α → β) (index : Int) (items : List α) :
    at? index (items.map f) = (at? index items).map f := by
  rw [at?, at?, List.length_map]
  cases position? index items.length with
  | none => rfl
  | some p => exact List.getElem?_map

end Places

/-- The items of a list or a text are `visited`: a loop visits them, they are counted, and every
index means one of them or none. -/
structure Row (v : Value) (visited : List Value) : Prop where
  items : v.items = .ok visited
  length : Builtin.len.call [v] = .ok (.ofCount visited.length)
  succeeds (i : Int64) : (∃ item, v.index (.int i) = .ok item) ↔
    -visited.length ≤ i.toInt ∧ i.toInt < visited.length
  front (i : Int64) (p : Nat) (inside : p < visited.length) :
    i.toInt = p → v.index (.int i) = .ok visited[p]
  back (i : Int64) (p : Nat) (inside : p < visited.length) :
    visited.length + i.toInt = p → v.index (.int i) = .ok visited[p]
  fails (i : Int64) : ¬(-visited.length ≤ i.toInt ∧ i.toInt < visited.length) →
    v.index (.int i) = .error (.indexOutOfRange i visited.length)

/-- The keys of a map are `names`: they increase, a loop visits them, they are counted, and each of
them has a value, while nothing else has one. -/
structure Keyed (v : Value) (names : List String) : Prop where
  increasing : names.Pairwise (· < ·)
  items : v.items = .ok (names.map string)
  keys : Builtin.keys.call [v] = .ok (.list (names.map string))
  length : Builtin.len.call [v] = .ok (.ofCount names.length)
  values : ∃ values, Builtin.values.call [v] = .ok (.list values) ∧
    names.map (fun k => v.index (.string k)) = values.map .ok
  succeeds (k : String) : (∃ item, v.index (.string k) = .ok item) ↔ k ∈ names
  isIn (k : String) : isIn (.string k) v = .ok (decide (k ∈ names))
  member (k : String) : v.member k = v.index (.string k)

/-- What is looked up as an index is found in a row. -/
theorem row_of_at? {v : Value} {visited : List Value} (items : v.items = .ok visited)
    (length : Builtin.len.call [v] = .ok (.ofCount visited.length))
    (index : ∀ i : Int64, v.index (.int i) = match at? i.toInt visited with
      | some item => .ok item
      | Option.none => .error (.indexOutOfRange i visited.length)) : Row v visited := by
  have found (i : Int64) (p : Nat) (inside : p < visited.length)
      (means : i.toInt = p ∨ i.toInt + visited.length = p) :
      v.index (.int i) = .ok visited[p] := by
    rw [index, at?_eq_some inside means]
  have fails (i : Int64) (outside : ¬(-visited.length ≤ i.toInt ∧ i.toInt < visited.length)) :
      v.index (.int i) = .error (.indexOutOfRange i visited.length) := by
    rw [index, at?_eq_none (by omega)]
  refine ⟨items, length, ?_, ?_, ?_, fails⟩
  · intro i
    constructor
    · rintro ⟨item, ok⟩
      by_contra outside
      rw [fails i outside] at ok
      cases ok
    · rintro ⟨lower, upper⟩
      rcases lt_or_ge i.toInt 0 with negative | positive
      · exact ⟨_, found i (visited.length + i.toInt).toNat (by omega) (by omega)⟩
      · exact ⟨_, found i i.toInt.toNat (by omega) (by omega)⟩
  · exact fun i p inside means => found i p inside (.inl means)
  · exact fun i p inside means => found i p inside (.inr (by omega))

theorem row_list (items : List Value) : Row (list items) items :=
  row_of_at? rfl rfl fun _ => rfl

theorem row_string (s : String) : Row (string s) (s.toList.map ofChar) := by
  have counted : (s.toList.map ofChar).length = s.length := by
    rw [List.length_map, String.length_toList]
  refine row_of_at? rfl (by rw [counted]; rfl) fun i => ?_
  rw [at?_map, counted, index]
  cases at? i.toInt s.toList <;> rfl

/-- What a loop over a text visits is a part of it. -/
theorem isIn_of_visited {s : String} {v : Value} (visited : v ∈ s.toList.map ofChar) :
    isIn v (string s) = .ok true := by
  obtain ⟨c, inside, rfl⟩ := List.mem_map.1 visited
  obtain ⟨before, after, text⟩ := List.append_of_mem inside
  have part : (String.singleton c).toList <:+: s.toList :=
    ⟨before, after, by simp [text]⟩
  exact congrArg Except.ok (Text.occurs_iff.2 part)

theorem lookUp_eq_ok {key : String} {entries : List (String × Value)} {v : Value} :
    lookUp key entries = .ok v ↔ Entries.find? key entries = some v := by
  rw [lookUp]
  cases Entries.find? key entries <;> simp

/-- An entry of a map is found under its key, which no other entry has. -/
theorem find?_of_mem {entries : List (String × Value)} (sorted : Entries.Sorted entries)
    {e : String × Value} (inside : e ∈ entries) : Entries.find? e.1 entries = some e.2 := by
  induction entries with
  | nil => cases inside
  | cons first entries ih =>
      obtain ⟨below, sorted⟩ := List.pairwise_cons.1 sorted
      rw [Entries.find?_cons]
      rcases List.mem_cons.1 inside with rfl | later
      · rw [if_pos rfl]
      · rw [if_neg (below e later).ne', ih sorted later]

theorem keyed_map {entries : List (String × Value)} (sorted : Entries.Sorted entries) :
    Keyed (map entries) (entries.map Prod.fst) where
  increasing := List.pairwise_map.2 sorted
  items := by
    rw [List.map_map]
    rfl
  keys := by
    rw [List.map_map]
    rfl
  length := by
    rw [List.length_map]
    rfl
  values := by
    refine ⟨entries.map Prod.snd, rfl, ?_⟩
    rw [List.map_map, List.map_map]
    exact List.map_congr_left fun e inside => lookUp_eq_ok.2 (find?_of_mem sorted inside)
  succeeds k := by
    rw [← Entries.isSome_find?, Option.isSome_iff_exists]
    exact exists_congr fun v => lookUp_eq_ok
  isIn k := by
    have known : Entries.contains k entries = decide (k ∈ entries.map Prod.fst) := by
      rw [Bool.eq_iff_iff, decide_eq_true_iff]
      exact Entries.isSome_find? k entries
    exact congrArg Except.ok known
  member _ := rfl

/-- The views of every list, every text and every map agree. -/
theorem views_agree :
    (∀ items, Row (list items) items) ∧
      (∀ s : String, Row (string s) (s.toList.map ofChar) ∧
        ∀ c ∈ s.toList.map ofChar, isIn c (string s) = .ok true) ∧
      ∀ entries, Entries.Sorted entries → Keyed (map entries) (entries.map Prod.fst) :=
  ⟨row_list, fun s => ⟨row_string s, fun _ => isIn_of_visited⟩, fun _ => keyed_map⟩

/-- The keys of this map are in the order of their code points. -/
theorem views_agree_accented :
    Entries.Sorted [("z", list [none]), ("é", string "z")] ∧
      Keyed (map [("z", list [none]), ("é", string "z")]) ["z", "é"] := by
  have sorted : Entries.Sorted [("z", list [none]), ("é", string "z")] := by decide
  exact ⟨sorted, views_agree.2.2 _ sorted⟩

end Stencil.Value
