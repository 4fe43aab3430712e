import Stencil.Proofs.Script.Literals
import Stencil.Proofs.Text.Pieces

/-!
# The text of a list or a map tells what is in it

Inside a list or a map every text is quoted and `none` is spelled out, so the first character of an
item tells of what kind it is, and the item ends by itself in front of a comma or a closing bracket
(`Value.Cancels`). Hence the items can be taken off the text one after another, at every depth, and
no two lists or maps without floats have the same text.
-/

namespace Stencil.Value

/-- No float stands in a value, at any depth. -/
inductive Floatless : Value → Prop
  | none : Floatless none
  | bool (b : Bool) : Floatless (bool b)
  | int (i : Int64) : Floatless (int i)
  | string (s : String) : Floatless (string s)
  | list {items : List Value} (inside : ∀ v ∈ items, Floatless v) : Floatless (list items)
  | map {entries : List (String × Value)} (inside : ∀ e ∈ entries, Floatless e.2) :
      Floatless (map entries)

/-- A value with items or entries. -/
def IsContainer : Value → Prop
  | list _ | map _ => True
  | _ => False

/-- Whether a character ends an item. -/
def isDelimiter (c : Char) : Bool := c == ',' || c == ']' || c == '\x7d'

/-- What goes on with a character that ends an item. -/
def Delimited (cs : List Char) : Prop := ∃ c rest, cs = c :: rest ∧ isDelimiter c

theorem delimited_cons {c : Char} (h : isDelimiter c) (cs : List Char) : Delimited (c :: cs) :=
  ⟨c, cs, rfl, h⟩

/-- The kind of value that a character begins, inside another value. -/
def begun? (c : Char) : Option String :=
  if c = '-' ∨ c.isDigit then some "int"
  else if c = 'n' then some "none"
  else if c = 't' ∨ c = 'f' then some "bool"
  else if c = '"' then some "string"
  else if c = '[' then some "list"
  else if c = '\x7b' then some "map"
  else Option.none

theorem begun?_delimiter {c : Char} (h : isDelimiter c) : begun? c = Option.none := by
  simp only [isDelimiter, Bool.or_eq_true, beq_iff_eq] at h
  rcases h with (rfl | rfl) | rfl <;> decide

/-- What is written for `a` and for `b` in front of the end of an item differs, unless they are the
same and the same follows. -/
def Cancels {α : Type} (write : α → List Char) (a b : α) : Prop :=
  ∀ r r', Delimited r → Delimited r' → write a ++ r = write b ++ r' → a = b ∧ r = r'

/-! ### Rows of items -/

section Items

variable {α : Type} {write : α → List Char} {close : Char} {r r' : List Char}

theorem joinWith_cons (separator piece : List Char) (pieces : List (List Char)) :
    Text.joinWith separator (piece :: pieces) = piece ++ pieces.flatMap (separator ++ ·) := by
  induction pieces generalizing piece with
  | nil => simp
  | cons next pieces ih => simp [Text.joinWith_cons_cons, ih]

theorem delimited_more (closes : isDelimiter close) (r : List Char) (xs : List α) :
    Delimited ((xs.map write).flatMap ([',', ' '] ++ ·) ++ close :: r) := by
  cases xs with
  | nil => exact delimited_cons closes r
  | cons x xs => exact delimited_cons (by decide) _

/-- The items behind the first one: each of them follows a comma, the closing bracket follows the
last one. -/
theorem more_cancel (closes : isDelimiter close) (noComma : ',' ≠ close) {xs ys : List α}
    (each : ∀ a ∈ xs, ∀ b ∈ ys, Cancels write a b)
    (same : (xs.map write).flatMap ([',', ' '] ++ ·) ++ close :: r =
      (ys.map write).flatMap ([',', ' '] ++ ·) ++ close :: r') : xs = ys ∧ r = r' := by
  induction xs generalizing ys with
  | nil =>
    cases ys with
    | nil => exact ⟨rfl, (List.cons.inj same).2⟩
    | cons y ys => exact absurd (List.cons.inj same).1.symm noComma
  | cons x xs ih =>
    cases ys with
    | nil => exact absurd (List.cons.inj same).1 noComma
    | cons y ys =>
        simp only [List.map_cons, List.flatMap_cons, List.append_assoc, List.append_cancel_left_eq]
          at same
        obtain ⟨first, more⟩ := each x List.mem_cons_self y List.mem_cons_self _ _
          (delimited_more closes r xs) (delimited_more closes r' ys) same
        obtain ⟨others, rest⟩ := ih (fun a ha b hb =>
          each a (List.mem_cons_of_mem _ ha) b (List.mem_cons_of_mem _ hb)) more
        exact ⟨congrArg₂ List.cons first others, rest⟩

/-- All the items in front of a closing bracket, which none of them begins with. -/
theorem joined_cancel (closes : isDelimiter close) (noComma : ',' ≠ close) {xs ys : List α}
    (begins : ∀ a, a ∈ xs ∨ a ∈ ys → ∃ c cs, write a = c :: cs ∧ (begun? c).isSome)
    (each : ∀ a ∈ xs, ∀ b ∈ ys, Cancels write a b)
    (same : Text.joinWith [',', ' '] (xs.map write) ++ close :: r =
      Text.joinWith [',', ' '] (ys.map write) ++ close :: r') : xs = ys ∧ r = r' := by
  have differs (a : α) (inside : a ∈ xs ∨ a ∈ ys) (more text : List Char) :
      close :: text ≠ write a ++ more := by
    obtain ⟨c, cs, chars, begun⟩ := begins a inside
    rw [chars]
    intro same
    rw [← (List.cons.inj same).1, begun?_delimiter closes] at begun
    cases begun
  cases xs with
  | nil =>
    cases ys with
    | nil => exact ⟨rfl, (List.cons.inj same).2⟩
    | cons y ys =>
        rw [List.map_cons, joinWith_cons, List.append_assoc] at same
        exact absurd same (differs y (.inr List.mem_cons_self) _ r)
  | cons x xs =>
    cases ys with
    | nil =>
        rw [List.map_cons, joinWith_cons, List.append_assoc] at same
        exact absurd same.symm (differs x (.inl List.mem_cons_self) _ r')
    | cons y ys =>
        rw [List.map_cons, List.map_cons, joinWith_cons, joinWith_cons, List.append_assoc,
          List.append_assoc] at same
        obtain ⟨first, more⟩ := each x List.mem_cons_self y List.mem_cons_self _ _
          (delimited_more closes r xs) (delimited_more closes r' ys) same
        obtain ⟨others, rest⟩ := more_cancel closes noComma (fun a ha b hb =>
          each a (List.mem_cons_of_mem _ ha) b (List.mem_cons_of_mem _ hb)) more
        exact ⟨congrArg₂ List.cons first others, rest⟩

end Items

/-! ### Whole numbers and texts -/

section Leaves

variable {r r' : List Char}

theorem Delimited.noDigit (h : Delimited r) : r.head?.all fun c => !c.isDigit := by
  obtain ⟨c, cs, rfl, closes⟩ := h
  simp only [isDelimiter, Bool.or_eq_true, beq_iff_eq] at closes
  rcases closes with (rfl | rfl) | rfl <;> rfl

theorem natDigits_cancel : ∀ m n, Cancels Decimal.natDigits m n := by
  intro m n r r' ends ends' same
  have row := Decimal.spanDigits_append (Decimal.isRow_natDigits m) ends.noDigit
  have row' := Decimal.spanDigits_append (Decimal.isRow_natDigits n) ends'.noDigit
  rw [same, row'] at row
  obtain ⟨digits, rest⟩ := Prod.mk.inj row
  have value := congrArg Decimal.digitsValue digits
  rw [Decimal.digitsValue_natDigits, Decimal.digitsValue_natDigits] at value
  exact ⟨value.symm, rest.symm⟩

/-- A row of digits has no sign. -/
theorem natDigits_head (n : Nat) : ∃ c cs, Decimal.natDigits n = c :: cs ∧ c.isDigit := by
  have row := Decimal.isRow_natDigits n
  obtain ⟨c, cs, chars⟩ := List.exists_cons_of_ne_nil row.1
  exact ⟨c, cs, chars, row.2 c (chars ▸ List.mem_cons_self)⟩

theorem intDigits_cancel : ∀ i j, Cancels Decimal.intDigits i j := by
  have signed (n : Nat) (more text : List Char) :
      Decimal.natDigits n ++ more ≠ '-' :: text := by
    obtain ⟨c, cs, chars, digit⟩ := natDigits_head n
    rw [chars]
    intro same
    rw [(List.cons.inj same).1] at digit
    cases digit
  intro i j r r' ends ends' same
  cases i with
  | ofNat m =>
    cases j with
    | ofNat n =>
        obtain ⟨rfl, rest⟩ := natDigits_cancel m n r r' ends ends' same
        exact ⟨rfl, rest⟩
    | negSucc n => exact absurd same (signed m r _)
  | negSucc m =>
    cases j with
    | ofNat n => exact absurd same.symm (signed n r' _)
    | negSucc n =>
        obtain ⟨value, rest⟩ :=
          natDigits_cancel (m + 1) (n + 1) r r' ends ends' (List.cons.inj same).2
        exact ⟨congrArg Int.negSucc (Nat.succ.inj value), rest⟩

/-- The reader of strings stops at the quote that ends a text, and yields it. -/
theorem encode_cancel {s t : String}
    (same : Text.Quoted.encode s.toList ++ r = Text.Quoted.encode t.toList ++ r') :
    s = t ∧ r = r' := by
  have first : Script.Ends (Script.quoted '"') (.start (Text.Quoted.encode s.toList ++ r))
      (fun a c => a = s ∧ c.rest = r) fun _ => False :=
    Script.quoted_exact rfl fun c _ _ rest => ⟨rfl, rest⟩
  have second : Script.Ends (Script.quoted '"') (.start (Text.Quoted.encode s.toList ++ r))
      (fun a c => a = t ∧ c.rest = r') fun _ => False :=
    Script.quoted_exact same fun c _ _ rest => ⟨rfl, rest⟩
  unfold Script.Ends at first second
  split at first
  · next a c ran =>
    rw [ran] at second
    exact ⟨first.1.symm.trans second.1, first.2.symm.trans second.2⟩
  · cases first

end Leaves

/-! ### Values -/

theorem itemChars_eq_map (items : List Value) : itemChars items = items.map (chars true) := by
  induction items with
  | nil => rfl
  | cons v vs ih => rw [itemChars, ih, List.map_cons]

def charsOfEntry (e : String × Value) : List Char :=
  Text.Quoted.encode e.1.toList ++ ':' :: ' ' :: e.2.chars true

theorem entryChars_eq_map (entries : List (String × Value)) :
    entryChars entries = entries.map charsOfEntry := by
  induction entries with
  | nil => rfl
  | cons e es ih =>
      rw [entryChars, ih, List.map_cons]
      rfl

/-- The first character tells of what kind a value is. -/
theorem begins_of_floatless {v : Value} (h : Floatless v) :
    ∃ c cs, v.chars true = c :: cs ∧ begun? c = some v.typeName := by
  cases h with
  | none => exact ⟨_, _, rfl, rfl⟩
  | bool b => cases b <;> exact ⟨_, _, rfl, rfl⟩
  | int i =>
      rw [chars]
      cases i.toInt with
      | ofNat n =>
          obtain ⟨c, cs, digits, digit⟩ := natDigits_head n
          exact ⟨c, cs, digits, if_pos (.inr digit)⟩
      | negSucc n => exact ⟨_, _, rfl, rfl⟩
  | string s => exact ⟨_, _, rfl, rfl⟩
  | list inside => exact ⟨_, _, rfl, rfl⟩
  | map inside => exact ⟨_, _, rfl, rfl⟩

theorem begins_of_mem {items items' : List Value} (h : ∀ v ∈ items, Floatless v)
    (h' : ∀ v ∈ items', Floatless v) (v : Value) (inside : v ∈ items ∨ v ∈ items') :
    ∃ c cs, v.chars true = c :: cs ∧ (begun? c).isSome := by
  obtain ⟨c, cs, chars, begun⟩ := begins_of_floatless (inside.elim (h v) (h' v))
  exact ⟨c, cs, chars, by rw [begun]; rfl⟩

theorem entry_cancel {e e' : String × Value} (value : Cancels (chars true) e.2 e'.2) :
    Cancels charsOfEntry e e' := by
  intro r r' ends ends' same
  rw [charsOfEntry, charsOfEntry, List.append_assoc, List.append_assoc] at same
  obtain ⟨name, rest⟩ := encode_cancel same
  obtain ⟨same, rest⟩ := value r r' ends ends' (List.cons.inj (List.cons.inj rest).2).2
  exact ⟨Prod.ext name same, rest⟩

/-- What is written alike is of one kind. -/
theorem typeName_of_chars {v w : Value} (h : Floatless v) (h' : Floatless w) {r r' : List Char}
    (same : v.chars true ++ r = w.chars true ++ r') : v.typeName = w.typeName := by
  obtain ⟨c, cs, chars, begun⟩ := begins_of_floatless h
  obtain ⟨c', cs', chars', begun'⟩ := begins_of_floatless h'
  rw [chars, chars'] at same
  rw [(List.cons.inj same).1, begun'] at begun
  exact (Option.some.inj begun).symm

theorem cancels_of_typeName {v w : Value} (h : Floatless v) (h' : Floatless w)
    (alike : v.typeName = w.typeName → Cancels (chars true) v w) : Cancels (chars true) v w :=
  fun r r' ends ends' same => alike (typeName_of_chars h h' same) r r' ends ends' same

/-- A value inside another one is written like no other value. -/
theorem chars_cancel {v : Value} (h : Floatless v) :
    ∀ w, Floatless w → Cancels (chars true) v w := by
  induction h with
  | none =>
      refine fun w h' => cancels_of_typeName .none h' fun kind r r' ends ends' same => ?_
      cases w with
      | none => exact ⟨rfl, List.append_cancel_left same⟩
      | _ => exact absurd kind (by simp [typeName])
  | bool b =>
      refine fun w h' => cancels_of_typeName (.bool b) h' fun kind r r' ends ends' same => ?_
      cases w with
      | bool b' =>
          cases b <;> cases b'
          · exact ⟨rfl, List.append_cancel_left same⟩
          · exact absurd (List.cons.inj same).1 (by decide)
          · exact absurd (List.cons.inj same).1 (by decide)
          · exact ⟨rfl, List.append_cancel_left same⟩
      | _ => exact absurd kind (by simp [typeName])
  | int i =>
      refine fun w h' => cancels_of_typeName (.int i) h' fun kind r r' ends ends' same => ?_
      cases w with
      | int j =>
          obtain ⟨value, rest⟩ := intDigits_cancel i.toInt j.toInt r r' ends ends' same
          exact ⟨congrArg Value.int (Int64.toInt_inj.1 value), rest⟩
      | _ => exact absurd kind (by simp [typeName])
  | string s =>
      refine fun w h' => cancels_of_typeName (.string s) h' fun kind r r' ends ends' same => ?_
      cases w with
      | string t =>
          obtain ⟨text, rest⟩ := encode_cancel same
          exact ⟨congrArg Value.string text, rest⟩
      | _ => exact absurd kind (by simp [typeName])
  | @list items inside ih =>
      refine fun w h' => cancels_of_typeName (.list inside) h' fun kind r r' ends ends' same => ?_
      cases h' with
      | @list items' inside' =>
          simp only [chars, itemChars_eq_map, List.cons_append, List.append_assoc] at same
          obtain ⟨items, rest⟩ := joined_cancel (by decide) (by decide)
            (begins_of_mem inside inside') (fun a ha b hb => ih a ha b (inside' b hb))
            (List.cons.inj same).2
          exact ⟨congrArg Value.list items, rest⟩
      | _ => exact absurd kind (by simp [typeName])
  | @map entries inside ih =>
      refine fun w h' => cancels_of_typeName (.map inside) h' fun kind r r' ends ends' same => ?_
      cases h' with
      | @map entries' inside' =>
          simp only [chars, entryChars_eq_map, List.cons_append, List.append_assoc] at same
          obtain ⟨entries, rest⟩ := joined_cancel (by decide) (by decide)
            (fun e _ => ⟨_, _, rfl, by decide⟩)
            (fun a ha b hb => entry_cancel (ih a ha b.2 (inside' b hb)))
            (List.cons.inj same).2
          exact ⟨congrArg Value.map entries, rest⟩
      | _ => exact absurd kind (by simp [typeName])

/-- Standing alone, a list or a map is written as it is inside another value. -/
theorem chars_of_isContainer {v : Value} (h : v.IsContainer) : v.chars false = v.chars true := by
  cases v with
  | list items => rfl
  | map entries => rfl
  | _ => cases h

/-- No two lists or maps have the same text, unless there are floats in them. -/
theorem text_eq_iff {v w : Value} (container : v.IsContainer) (container' : w.IsContainer)
    (floatless : v.Floatless) (floatless' : w.Floatless) : v.text = w.text ↔ v = w := by
  constructor
  · intro same
    have chars : v.chars true = w.chars true := by
      rw [← chars_of_isContainer container, ← chars_of_isContainer container']
      exact String.ofList_inj.1 same
    have ends : Delimited [','] := delimited_cons (by decide) []
    exact (chars_cancel floatless w floatless' _ _ ends ends (congrArg (· ++ [',']) chars)).1
  · rintro rfl
    rfl

/-- A text with a comma and quotes in it is not taken for two texts. -/
theorem text_eq_iff_quoted :
    (list [string "a\", \"b"]).IsContainer ∧ (list [string "a", string "b"]).IsContainer ∧
      (list [string "a\", \"b"]).Floatless ∧ (list [string "a", string "b"]).Floatless ∧
      (list [string "a\", \"b"]).text ≠ (list [string "a", string "b"]).text := by
  have floatless : (list [string "a\", \"b"]).Floatless := .list (by simp [Floatless.string])
  have floatless' : (list [string "a", string "b"]).Floatless := .list (by simp [Floatless.string])
  have container (items : List Value) : (list items).IsContainer := trivial
  refine ⟨container _, container _, floatless, floatless', fun same => ?_⟩
  have equal := (text_eq_iff (container _) (container _) floatless floatless').1 same
  simp at equal

end Stencil.Value
