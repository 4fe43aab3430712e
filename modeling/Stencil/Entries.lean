/-!
# Sorted entries

A finite map from names as the list of its entries in increasing order of their names, code point
by code point. Inserting keeps the order and replaces an entry of the same name, so the order of a
list built by `ofList` does not depend on the order of the pairs: `sorted_ofList`. What a list is as
a map is told by `find?`, and each operation has a lemma that says what it does to that.
-/

namespace Stencil.Entries

variable {α : Type}

def find? (name : String) (entries : List (String × α)) : Option α := entries.lookup name

def contains (name : String) (entries : List (String × α)) : Bool := (find? name entries).isSome

/-- Adds an entry, or replaces the one of the same name. -/
def insert (name : String) (value : α) : List (String × α) → List (String × α)
  | [] => [(name, value)]
  | (n, v) :: rest =>
    if name < n then (name, value) :: (n, v) :: rest
    else if name = n then (name, value) :: rest
    else (n, v) :: insert name value rest

def erase (name : String) (entries : List (String × α)) : List (String × α) :=
  entries.filter fun entry => !(entry.1 == name)

/-- The entries of the pairs; a later pair replaces an earlier one of the same name. -/
def ofList (pairs : List (String × α)) : List (String × α) :=
  pairs.foldl (fun entries pair => insert pair.1 pair.2 entries) []

@[simp] theorem find?_nil (name : String) : find? name ([] : List (String × α)) = none := rfl

theorem find?_cons (name n : String) (v : α) (rest : List (String × α)) :
    find? name ((n, v) :: rest) = if name = n then some v else find? name rest := by
  rw [find?, List.lookup_cons]
  by_cases h : name = n
  · simp [h]
  · rw [if_neg h, beq_eq_false_iff_ne.2 h]
    rfl

/-- A name is found when it is one of the names. -/
theorem isSome_find? (name : String) (entries : List (String × α)) :
    (find? name entries).isSome ↔ name ∈ entries.map Prod.fst := by
  induction entries with
  | nil => simp
  | cons entry rest ih =>
    obtain ⟨n, v⟩ := entry
    by_cases h : name = n <;> simp [find?_cons, h, ih]

/-- Inserting changes what is found under the name alone. -/
theorem find?_insert (name n : String) (value : α) (entries : List (String × α)) :
    find? n (insert name value entries) = if n = name then some value else find? n entries := by
  induction entries with
  | nil => simp [insert, find?_cons]
  | cons entry rest ih =>
    obtain ⟨m, v⟩ := entry
    rw [insert]
    split
    · rw [find?_cons]
    · split
      · next same =>
        subst same
        by_cases h : n = name <;> simp [find?_cons, h]
      · next different =>
        by_cases h : n = m
        · subst h
          simp [find?_cons, Ne.symm different]
        · simp [find?_cons, h, ih]

/-- Erasing changes what is found under the name alone. -/
theorem find?_erase (name n : String) (entries : List (String × α)) :
    find? n (erase name entries) = if n = name then none else find? n entries := by
  induction entries with
  | nil => simp [erase]
  | cons entry rest ih =>
    obtain ⟨m, v⟩ := entry
    rw [erase] at ih ⊢
    by_cases hm : m = name
    · subst hm
      by_cases h : n = m <;> simp_all [find?_cons]
    · by_cases h : n = name
      · subst h
        simp_all [find?_cons, Ne.symm hm]
      · simp_all [find?_cons]

/-- Every name is less than all those after it. -/
def Sorted (entries : List (String × α)) : Prop := entries.Pairwise fun a b => a.1 < b.1

instance (entries : List (String × α)) : Decidable (Sorted entries) :=
  inferInstanceAs (Decidable (entries.Pairwise fun a b => a.1 < b.1))

theorem sorted_nil : Sorted ([] : List (String × α)) := List.Pairwise.nil

theorem mem_insert {name : String} {value : α} {entries : List (String × α)} {e : String × α}
    (h : e ∈ insert name value entries) : e = (name, value) ∨ e ∈ entries := by
  induction entries with
  | nil => simpa [insert] using h
  | cons entry rest ih =>
    obtain ⟨n, v⟩ := entry
    rw [insert] at h
    split at h
    · simpa using h
    · split at h
      · rcases List.mem_cons.1 h with h | h
        · exact .inl h
        · exact .inr (List.mem_cons_of_mem _ h)
      · rcases List.mem_cons.1 h with h | h
        · exact .inr (h ▸ List.mem_cons_self)
        · exact (ih h).imp id (List.mem_cons_of_mem _)

theorem Sorted.insert {name : String} {value : α} {entries : List (String × α)}
    (h : Sorted entries) : Sorted (Entries.insert name value entries) := by
  induction entries with
  | nil => simp [Sorted, Entries.insert]
  | cons entry rest ih =>
    obtain ⟨n, v⟩ := entry
    obtain ⟨hn, hrest⟩ := List.pairwise_cons.1 h
    rw [Entries.insert]
    split
    · next below =>
      refine List.pairwise_cons.2 ⟨?_, h⟩
      intro e he
      rcases List.mem_cons.1 he with rfl | he
      · exact below
      · exact String.lt_trans below (hn e he)
    · next notBelow =>
      split
      · next same => exact List.pairwise_cons.2 ⟨fun e he => same ▸ hn e he, hrest⟩
      · next different =>
        refine List.pairwise_cons.2 ⟨?_, ih hrest⟩
        intro e he
        rcases mem_insert he with rfl | he
        · have above : n ≤ name := String.not_lt.1 notBelow
          exact Decidable.byContradiction fun hlt =>
            different (String.le_antisymm (String.not_lt.1 hlt) above)
        · exact hn e he

theorem Sorted.erase {name : String} {entries : List (String × α)} (h : Sorted entries) :
    Sorted (Entries.erase name entries) :=
  h.sublist List.filter_sublist

/-- Inserting pairs one after another keeps the entries sorted. -/
theorem Sorted.insertAll {entries : List (String × α)} (h : Sorted entries)
    (pairs : List (String × α)) :
    Sorted (pairs.foldl (fun entries pair => Entries.insert pair.1 pair.2 entries) entries) := by
  induction pairs generalizing entries with
  | nil => exact h
  | cons pair rest ih => exact ih h.insert

theorem sorted_ofList (pairs : List (String × α)) : Sorted (ofList pairs) :=
  sorted_nil.insertAll pairs

/-- A name that is greater than all others goes to the end. -/
theorem insert_of_lt {name : String} {value : α} {entries : List (String × α)}
    (above : ∀ e ∈ entries, e.1 < name) :
    insert name value entries = entries ++ [(name, value)] := by
  induction entries with
  | nil => rfl
  | cons entry rest ih =>
    obtain ⟨n, v⟩ := entry
    obtain ⟨below, others⟩ := List.forall_mem_cons.1 above
    have different : name ≠ n := by
      rintro rfl
      exact String.lt_irrefl _ below
    rw [insert, if_neg (String.lt_asymm below), if_neg different, ih others]
    rfl

theorem insertAll_of_sorted {front entries : List (String × α)} (h : Sorted (front ++ entries)) :
    entries.foldl (fun entries pair => insert pair.1 pair.2 entries) front = front ++ entries := by
  induction entries generalizing front with
  | nil => simp
  | cons entry rest ih =>
    have above : ∀ e ∈ front, e.1 < entry.1 := fun e he =>
      (List.pairwise_append.1 h).2.2 e he entry List.mem_cons_self
    rw [List.foldl_cons, insert_of_lt above, ih (by simpa using h)]
    simp

/-- Pairs that are sorted already are their own entries. -/
theorem ofList_of_sorted {entries : List (String × α)} (h : Sorted entries) :
    ofList entries = entries :=
  insertAll_of_sorted h

end Stencil.Entries
