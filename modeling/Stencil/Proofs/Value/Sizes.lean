import Stencil.Proofs.Render.Outcome
import Stencil.Proofs.Source.Tokens
import Stencil.Proofs.Text.Pieces
import Stencil.Proofs.Value.Ranges

/-!
# How large results are

Texts and lists have a size, and a value is within a limit if no text and no list is larger, at any
depth. From operands within the limit, an operator or a function makes nothing that has anything
larger inside of it. The result itself may be larger, for only repetition and ranges are refused:
joining two texts or lists adds their sizes, functions that build texts have no limit at all, a text
that is split may have one piece too many, and a map has no size although its keys and its values
have one as lists (`Operation.Outgrows`). How large the text of a value is has no bound at all
(`Builtin.str_unlimited`).
-/

namespace Stencil

namespace Value

/-- How large a value is by itself: the bytes of a text or the items of a list. -/
def size : Value → Nat
  | string s => s.utf8ByteSize
  | list items => items.length
  | _ => 0

/-- The values in a value: the items of a list, or the keys and the values of a map. -/
def inside : Value → List Value
  | list items => items
  | map entries => entries.map (fun e => string e.1) ++ entries.map Prod.snd
  | _ => []

/-- No text and no list is larger than `n`, at any depth. -/
inductive Within (n : Nat) : Value → Prop
  | intro {v : Value} (size : v.size ≤ n) (inside : ∀ part ∈ v.inside, Within n part) : Within n v

/-- The same of what is in a value, but not of the value itself. -/
def InsideWithin (n : Nat) (v : Value) : Prop := ∀ part ∈ v.inside, part.Within n

variable {n : Nat} {v : Value}

theorem within_iff : v.Within n ↔ v.size ≤ n ∧ v.InsideWithin n := by
  constructor
  · rintro ⟨size, inside⟩
    exact ⟨size, inside⟩
  · rintro ⟨size, inside⟩
    exact ⟨size, inside⟩

theorem Within.insideWithin (h : v.Within n) : v.InsideWithin n := (within_iff.1 h).2

@[simp] theorem within_none : Within n none := .intro (Nat.zero_le n) (by simp [inside])

@[simp] theorem within_bool (b : Bool) : Within n (bool b) :=
  .intro (Nat.zero_le n) (by simp [inside])

@[simp] theorem within_int (i : Int64) : Within n (int i) :=
  .intro (Nat.zero_le n) (by simp [inside])

@[simp] theorem within_float (x : Float) : Within n (float x) :=
  .intro (Nat.zero_le n) (by simp [inside])

@[simp] theorem insideWithin_string (s : String) : InsideWithin n (string s) := by
  simp [InsideWithin, inside]

@[simp] theorem insideWithin_list (items : List Value) :
    InsideWithin n (list items) ↔ ∀ v ∈ items, v.Within n := Iff.rfl

@[simp] theorem within_string (s : String) : Within n (string s) ↔ s.utf8ByteSize ≤ n := by
  simp [within_iff, size]

theorem within_list (items : List Value) :
    Within n (list items) ↔ items.length ≤ n ∧ ∀ v ∈ items, v.Within n := within_iff

theorem size_append (s t : String) :
    (string (s ++ t)).size = (string s).size + (string t).size := String.utf8ByteSize_append

/-! ### Operators -/

variable {left right : Value}

theorem within_of_ofInt? {i : Int} (h : ofInt? i = some v) : v.Within n := by
  rw [ofInt?] at h
  split at h
  · cases h
    exact within_int _
  · cases h

theorem within_of_checked {op : String} {i : Int} (h : checked op i = .ok v) : v.Within n := by
  rw [checked] at h
  split at h
  · next fits =>
    cases h
    exact within_of_ofInt? fits
  · cases h

theorem within_of_intArithmetic {op : Arithmetic} {a b : Int}
    (h : intArithmetic op a b = .ok v) : v.Within n := by
  cases op with
  | add => exact within_of_checked h
  | sub => exact within_of_checked h
  | mul => exact within_of_checked h
  | div =>
      rw [intArithmetic] at h
      split at h
      · cases h
      · exact within_of_checked h
  | rem =>
      rw [intArithmetic] at h
      split at h
      · cases h
      · obtain ⟨_, -, h⟩ := bind_eq_ok.1 h
        exact within_of_checked h

theorem within_of_floatArithmetic {op : Arithmetic} {x y : Float}
    (h : floatArithmetic op x y = .ok v) : v.Within n := by
  have isFloat : ∃ z, v = float z := by
    cases op <;> rw [floatArithmetic] at h
    case add | sub | mul =>
      cases h
      exact ⟨_, rfl⟩
    case div | rem =>
      split at h <;> cases h
      exact ⟨_, rfl⟩
  obtain ⟨z, rfl⟩ := isFloat
  exact within_float z

theorem utf8Len_repeat (times : Nat) (cs : List Char) :
    String.utf8Len (List.replicate times cs).flatten = String.utf8Len cs * times := by
  induction times with
  | zero => rfl
  | succ times ih =>
    rw [List.replicate_succ, List.flatten_cons, String.utf8Len_append, ih, Nat.mul_succ,
      Nat.add_comm]

theorem within_of_repeatText {op s : String} {count : Int}
    (h : repeatText op s count = .ok v) : v.Within sizeLimit := by
  rw [repeatText] at h
  split at h
  · cases h
  · next fits =>
    split at h
    · cases h
      simp
    · cases h
      rw [within_string, String.utf8ByteSize_ofList, utf8Len_repeat, String.utf8Len_toList]
      omega

/-- A text is not repeated exactly if the result would be too large. -/
theorem repeatText_eq_overflow {op s : String} {count : Int} :
    repeatText op s count = .error (.overflow op) ↔
      sizeLimit < s.utf8ByteSize * count.toNat := by
  rw [repeatText]
  split
  · next tooLarge => simp [tooLarge]
  · next fits =>
    split <;> simp [fits]

/-- Of the results of arithmetic, only what is joined from two texts or two lists may be too large,
and then it is as large as both together. -/
theorem within_of_arithmetic {op : Arithmetic} (hl : left.Within sizeLimit)
    (hr : right.Within sizeLimit) (h : arithmetic op left right = .ok v) :
    v.Within sizeLimit ∨
      op = .add ∧ v.InsideWithin sizeLimit ∧ v.size = left.size + right.size := by
  rw [arithmetic.eq_def] at h
  split at h
  · exact .inl (within_of_intArithmetic h)
  · cases h
    exact .inr ⟨rfl, insideWithin_string _, size_append _ _⟩
  · cases h
    refine .inr ⟨rfl, ?_, List.length_append⟩
    rw [insideWithin_list]
    intro item here
    rcases List.mem_append.1 here with here | here
    · exact hl.insideWithin item here
    · exact hr.insideWithin item here
  · exact .inl (within_of_repeatText h)
  · exact .inl (within_of_repeatText h)
  · split at h
    · exact .inl (within_of_floatArithmetic h)
    · cases h

theorem within_of_compare {relation : Comparison} (h : compare relation left right = .ok v) :
    v.Within n := by
  have isBool : ∃ b, v = bool b := by
    rw [compare.eq_def] at h
    split at h
    · cases h
      exact ⟨_, rfl⟩
    · cases h
      exact ⟨_, rfl⟩
    · split at h <;> cases h
      exact ⟨_, rfl⟩
  obtain ⟨b, rfl⟩ := isBool
  exact within_bool b

end Value

open Value

theorem BinaryOp.within_of_apply {op : BinaryOp} {left right v : Value}
    (hl : left.Within sizeLimit) (hr : right.Within sizeLimit) (h : op.apply left right = .ok v) :
    v.Within sizeLimit ∨
      op = .arith .add ∧ v.InsideWithin sizeLimit ∧ v.size = left.size + right.size := by
  cases op with
  | eq =>
      cases h
      exact .inl (within_bool _)
  | ne =>
      cases h
      exact .inl (within_bool _)
  | isIn =>
      rw [apply] at h
      cases found : Value.isIn left right with
      | error failure =>
          rw [found] at h
          cases h
      | ok b =>
          rw [found] at h
          cases h
          exact .inl (within_bool b)
  | compare relation => exact .inl (within_of_compare h)
  | arith op =>
      rcases within_of_arithmetic hl hr h with fits | ⟨rfl, inside, sum⟩
      · exact .inl fits
      · exact .inr ⟨rfl, inside, sum⟩

/-- A connective has the value of one of its operands. -/
theorem Expr.outcome_connect {op : Connective} {l r : Expr} {context : Context} {s t : State}
    {v : Value} (h : ((Expr.connect op l r).eval context).outcome s = (.ok v, t)) :
    (l.eval context).outcome s = (.ok v, t) ∨ ∃ u, (r.eval context).outcome u = (.ok v, t) := by
  rw [Expr.eval, Eval.outcome_bind] at h
  split at h
  · next left u first =>
    split at h
    · cases h
      exact .inl first
    · exact .inr ⟨u, h⟩
  · cases h

namespace Builtin

/-! ### Functions -/

variable {b : Builtin} {args : List Value} {v w : Value} {n : Nat}

theorem single_eq_ok : b.single args = .ok v ↔ args = [v] := by
  rw [single.eq_def]
  split <;> simp_all

theorem characters_eq_ok {cs : List Char} : b.characters v = .ok cs ↔ v = textValue cs := by
  rw [characters.eq_def, textValue]
  split
  · next s =>
    rw [Value.string.injEq, Except.ok.injEq]
    constructor
    · rintro rfl
      exact String.ofList_toList.symm
    · rintro rfl
      exact String.toList_ofList
  · next other =>
    constructor
    · intro h
      cases h
    · intro h
      exact absurd h (other _)

theorem mapEntries_eq_ok {entries : List (String × Value)} :
    b.mapEntries v = .ok entries ↔ v = .map entries := by
  rw [mapEntries.eq_def]
  split <;> simp_all

theorem within_textValue (cs : List Char) :
    (textValue cs).Within n ↔ String.utf8Len cs ≤ n := by
  rw [textValue, within_string, String.utf8ByteSize_ofList]

theorem within_of_callRange (h : callRange args = .ok v) : v.Within sizeLimit := by
  rw [callRange, bind_eq_ok] at h
  obtain ⟨⟨start, stop, step⟩, read, h⟩ := h
  by_cases still : step = 0
  · simp [still, throw, throwThe, MonadExceptOf.throw, bind, Except.bind] at h
  · have called : callRange args = .ok v := by
      rw [callRange, read]
      exact h
    rw [callRange_eq read still] at called
    split at called
    · cases called
    · next fits =>
      cases called
      rw [within_list, steps]
      refine ⟨by simpa using fits, ?_⟩
      intro item here
      obtain ⟨k, -, rfl⟩ := List.mem_map.1 here
      exact within_int _

theorem within_of_length (h : Builtin.length v = .ok w) : w.Within n := by
  have isInt : ∃ i, w = .int i := by
    rw [Builtin.length.eq_def] at h
    split at h <;> cases h <;> exact ⟨_, rfl⟩
  obtain ⟨i, rfl⟩ := isInt
  exact within_int i

theorem within_of_toInt (h : Builtin.toInt v = .ok w) : w.Within n := by
  have read {expected : String} {i : Option Int}
      (h : toInt.expect v expected (i.bind ofInt?) = .ok w) : w.Within n := by
    cases found : i.bind ofInt? with
    | none =>
        rw [found] at h
        cases h
    | some u =>
        rw [found] at h
        cases h
        obtain ⟨i, -, fits⟩ := Option.bind_eq_some_iff.1 found
        exact within_of_ofInt? fits
  rw [Builtin.toInt.eq_def] at h
  split at h
  · cases h
    exact within_int _
  · cases h
    exact within_int _
  · exact read h
  · exact read h
  · cases h

theorem within_of_toFloat (h : Builtin.toFloat v = .ok w) : w.Within n := by
  have isFloat : ∃ x, w = .float x := by
    rw [Builtin.toFloat.eq_def] at h
    split at h
    · cases h
      exact ⟨_, rfl⟩
    · cases h
      exact ⟨_, rfl⟩
    · cases h
      exact ⟨_, rfl⟩
    · split at h <;> cases h
      exact ⟨_, rfl⟩
    · cases h
  obtain ⟨x, rfl⟩ := isFloat
  exact within_float x

/-- The results of functions that may be too large: texts that are built, a text that is split at
each of its characters, and the lists of what is in a map. -/
inductive Outgrows : Builtin → List Value → Value → Prop
  /-- The text of a value that is no string. -/
  | spelled {b : Builtin} {v : Value} {s : String} (spells : b ∈ [str, trim])
      (other : v.asString? = Option.none) : Outgrows b [v] (.string s)
  | built {b : Builtin} {args : List Value} {s : String}
      (builds : b ∈ [upper, lower, join, replace]) : Outgrows b args (.string s)
  | pieces {v separator : Value} {items : List Value} (many : items.length = sizeLimit + 1) :
      Outgrows split [v, separator] (.list items)
  | parts {b : Builtin} {entries : List (String × Value)} {items : List Value}
      (lists : b ∈ [keys, values]) (each : items.length = entries.length) :
      Outgrows b [.map entries] (.list items)

theorem isString_of_callJoin (h : callJoin args = .ok v) : ∃ s, v = .string s := by
  rw [callJoin.eq_def] at h
  split at h
  · cases h
    exact ⟨_, rfl⟩
  · obtain ⟨cs, -, h⟩ := bind_eq_ok.1 h
    cases h
    exact ⟨_, rfl⟩
  · obtain ⟨cs, -, h⟩ := bind_eq_ok.1 h
    cases h
    exact ⟨_, rfl⟩
  · cases h
  · cases h
  · cases h

theorem isString_of_callReplace (h : callReplace args = .ok v) : ∃ s, v = .string s := by
  rw [callReplace.eq_def] at h
  split at h
  · obtain ⟨pattern, -, h⟩ := bind_eq_ok.1 h
    by_cases empty : pattern.isEmpty
    · simp [empty, throw, throwThe, MonadExceptOf.throw, bind, Except.bind] at h
    · rw [if_neg empty] at h
      obtain ⟨cs, -, h⟩ := bind_eq_ok.1 h
      obtain ⟨replacement, -, h⟩ := bind_eq_ok.1 h
      cases h
      exact ⟨_, rfl⟩
  · cases h

/-- A character has at least one byte. -/
theorem length_le_utf8Len (cs : List Char) : cs.length ≤ String.utf8Len cs := by
  induction cs with
  | nil => simp
  | cons c cs ih =>
    have positive := c.utf8Size_pos
    rw [List.length_cons, String.utf8Len_cons]
    omega

/-- Pieces of a text that is within the limit are within it, as long as there are not too many. -/
theorem within_of_pieces {cs : List Char} {pieces : List (List Char)}
    (fits : String.utf8Len cs ≤ n) (part : ∀ piece ∈ pieces, piece.Sublist cs) :
    InsideWithin n (.list (pieces.map textValue)) := by
  rw [insideWithin_list]
  intro item here
  obtain ⟨piece, inside, rfl⟩ := List.mem_map.1 here
  exact (within_textValue piece).2 ((String.utf8Len_le_of_sublist (part piece inside)).trans fits)

/-- A text within the limit has its words within the limit, and its pieces but for their number. -/
theorem within_of_callSplit (within : ∀ arg ∈ args, arg.Within sizeLimit)
    (h : callSplit args = .ok v) :
    v.Within sizeLimit ∨ Outgrows split args v ∧ v.InsideWithin sizeLimit := by
  rw [callSplit.eq_def] at h
  split at h
  · obtain ⟨cs, read, h⟩ := bind_eq_ok.1 h
    cases h
    obtain rfl := characters_eq_ok.1 read
    have fits := (within_textValue cs).1 (within _ (List.mem_singleton_self _))
    have parts := within_of_pieces fits fun w => Text.sublist_of_mem_words
    refine .inl (within_iff.2 ⟨?_, parts⟩)
    rw [Value.size, List.length_map]
    exact (Text.length_words_le cs).trans ((length_le_utf8Len cs).trans fits)
  · next text separator =>
    obtain ⟨pattern, -, h⟩ := bind_eq_ok.1 h
    by_cases empty : pattern.isEmpty
    · simp [empty, throw, throwThe, MonadExceptOf.throw, bind, Except.bind] at h
    · rw [if_neg empty] at h
      obtain ⟨cs, read, h⟩ := bind_eq_ok.1 h
      cases h
      obtain rfl := characters_eq_ok.1 read
      rw [List.isEmpty_iff] at empty
      have fits := (within_textValue cs).1 (within _ List.mem_cons_self)
      have parts := within_of_pieces fits fun piece inside =>
        (Text.infix_of_mem_cut empty inside).sublist
      have most : (Text.cut pattern cs).length ≤ sizeLimit + 1 :=
        (Text.length_cut_le empty cs).trans
          (Nat.succ_le_succ ((length_le_utf8Len cs).trans fits))
      rcases Nat.le_succ_iff.1 most with few | many
      · refine .inl (within_iff.2 ⟨?_, parts⟩)
        rwa [Value.size, List.length_map]
      · exact .inr ⟨.pieces (by rwa [List.length_map]), parts⟩
  · cases h

/-- A string that is written as it is, or without some of its characters, is not too large. -/
theorem within_of_spelled (spells : b ∈ [str, trim]) (within : v.Within sizeLimit)
    {written : List Char} (shorter : written.Sublist (v.chars false)) :
    (textValue written).Within sizeLimit ∨ Outgrows b [v] (textValue written) := by
  by_cases other : v.asString? = Option.none
  · exact .inr (.spelled spells other)
  · cases v with
    | string s =>
        rw [within_string, ← String.utf8Len_toList] at within
        exact .inl ((within_textValue _).2 ((String.utf8Len_le_of_sublist shorter).trans within))
    | _ => exact absurd rfl other

theorem mem_of_callDefault (h : callDefault args = .ok v) : v ∈ args := by
  rw [callDefault.eq_def] at h
  split at h <;> cases h <;> simp

/-- A list of as many values as a map has entries, each of them in it. -/
theorem parts_of_map {entries : List (String × Value)} (lists : b ∈ [keys, values])
    (within : Within sizeLimit (.map entries)) {part : String × Value → Value}
    (inside : ∀ e ∈ entries, part e ∈ (Value.map entries).inside) :
    Outgrows b [.map entries] (.list (entries.map part)) ∧
      InsideWithin sizeLimit (.list (entries.map part)) := by
  refine ⟨.parts lists (List.length_map _), ?_⟩
  rw [insideWithin_list]
  intro item here
  obtain ⟨e, known, rfl⟩ := List.mem_map.1 here
  exact within.insideWithin _ (inside e known)

/-- Only some kinds of results of a function may be too large, and nothing in them is. -/
theorem within_of_call (within : ∀ arg ∈ args, arg.Within sizeLimit) (h : b.call args = .ok v) :
    v.Within sizeLimit ∨ Outgrows b args v ∧ v.InsideWithin sizeLimit := by
  cases b with
  | range => exact .inl (within_of_callRange h)
  | len =>
      obtain ⟨_, -, h⟩ := bind_eq_ok.1 h
      exact .inl (within_of_length h)
  | str =>
      obtain ⟨arg, only, h⟩ := bind_eq_ok.1 h
      cases h
      obtain rfl := single_eq_ok.1 only
      exact (within_of_spelled (by simp) (within _ (List.mem_singleton_self _))
        (List.Sublist.refl _)).imp_right fun large => ⟨large, insideWithin_string _⟩
  | int =>
      obtain ⟨_, -, h⟩ := bind_eq_ok.1 h
      exact .inl (within_of_toInt h)
  | float =>
      obtain ⟨_, -, h⟩ := bind_eq_ok.1 h
      exact .inl (within_of_toFloat h)
  | upper =>
      obtain ⟨_, -, h⟩ := bind_eq_ok.1 h
      cases h
      exact .inr ⟨.built (by simp), insideWithin_string _⟩
  | lower =>
      obtain ⟨_, -, h⟩ := bind_eq_ok.1 h
      cases h
      exact .inr ⟨.built (by simp), insideWithin_string _⟩
  | trim =>
      obtain ⟨arg, only, h⟩ := bind_eq_ok.1 h
      cases h
      obtain rfl := single_eq_ok.1 only
      exact (within_of_spelled (by simp) (within _ (List.mem_singleton_self _))
        (Text.sublist_trim _)).imp_right fun large => ⟨large, insideWithin_string _⟩
  | join =>
      obtain ⟨s, rfl⟩ := isString_of_callJoin h
      exact .inr ⟨.built (by simp), insideWithin_string _⟩
  | split => exact within_of_callSplit within h
  | replace =>
      obtain ⟨s, rfl⟩ := isString_of_callReplace h
      exact .inr ⟨.built (by simp), insideWithin_string _⟩
  | default => exact .inl (within v (mem_of_callDefault h))
  | keys =>
      obtain ⟨arg, only, h⟩ := bind_eq_ok.1 h
      obtain ⟨entries, read, h⟩ := bind_eq_ok.1 h
      cases h
      obtain rfl := single_eq_ok.1 only
      obtain rfl := mapEntries_eq_ok.1 read
      refine .inr (parts_of_map (by simp) (within _ (List.mem_singleton_self _)) fun e known => ?_)
      exact List.mem_append_left _ (List.mem_map_of_mem known)
  | values =>
      obtain ⟨arg, only, h⟩ := bind_eq_ok.1 h
      obtain ⟨entries, read, h⟩ := bind_eq_ok.1 h
      cases h
      obtain rfl := single_eq_ok.1 only
      obtain rfl := mapEntries_eq_ok.1 read
      refine .inr (parts_of_map (by simp) (within _ (List.mem_singleton_self _)) fun e known => ?_)
      exact List.mem_append_right _ (List.mem_map_of_mem known)

def nest : Nat → Value
  | 0 => .list []
  | n + 1 => .list [nest n]

theorem within_nest (k : Nat) : (nest k).Within 1 := by
  induction k with
  | zero => exact (within_list []).2 ⟨Nat.zero_le 1, by simp⟩
  | succ k ih => exact (within_list [nest k]).2 ⟨Nat.le_refl 1, by simpa using ih⟩

theorem length_nest (nested : Bool) (k : Nat) : k < ((nest k).chars nested).length := by
  induction k generalizing nested with
  | zero => simp [nest, Value.chars]
  | succ k ih =>
    have deeper := ih true
    simp only [nest, Value.chars, Value.itemChars, Text.joinWith_singleton, List.length_cons,
      List.length_append]
    omega

/-- The text of a value can be arbitrarily large, however small all that is in the value. -/
theorem str_unlimited (n : Nat) : ∃ v w, v.Within 1 ∧ str.call [v] = .ok w ∧ n < w.size := by
  refine ⟨nest n, textValue ((nest n).chars false), within_nest n, rfl, ?_⟩
  rw [textValue, Value.size, String.utf8ByteSize_ofList]
  exact (length_nest false n).trans_le (length_le_utf8Len _)

end Builtin

/-- An operation on values: a binary operator on its operands, or a function on its arguments. -/
inductive Operation where
  | operator (op : BinaryOp) (left right : Value)
  | call (b : Builtin) (args : List Value)

namespace Operation

def operands : Operation → List Value
  | operator _ left right => [left, right]
  | call _ args => args

def result : Operation → Except Failure Value
  | operator op left right => op.apply left right
  | call b args => b.call args

/-- The results that may be too large. -/
def Outgrows : Operation → Value → Prop
  | operator op left right, v => op = .arith .add ∧ v.size = left.size + right.size
  | call b args, v => Builtin.Outgrows b args v

theorem within_of_result {o : Operation} {v : Value}
    (within : ∀ operand ∈ o.operands, operand.Within sizeLimit) (made : o.result = .ok v) :
    v.Within sizeLimit ∨ o.Outgrows v ∧ v.InsideWithin sizeLimit := by
  cases o with
  | operator op left right =>
      have hl := within left List.mem_cons_self
      have hr := within right (List.mem_cons_of_mem _ (List.mem_singleton_self right))
      rcases BinaryOp.within_of_apply hl hr made with fits | ⟨isAdd, inside, sum⟩
      · exact .inl fits
      · exact .inr ⟨⟨isAdd, sum⟩, inside⟩
  | call b args => exact Builtin.within_of_call within made

/-- From operands within the limit, an operation makes a result that is too large exactly if it is
one of those that may and the result itself is larger than the limit; what is in the result never
is. Repetition and ranges are refused exactly if they would be too large. A connective makes no
value of its own. -/
theorem size_of_results (o : Operation)
    (within : ∀ operand ∈ o.operands, operand.Within sizeLimit) :
    (∀ v, o.result = .ok v → v.InsideWithin sizeLimit ∧
      (v.Within sizeLimit ↔ ¬ (o.Outgrows v ∧ sizeLimit < v.size))) ∧
    (∀ (s : String) (count : Int64),
      o = operator (.arith .mul) (.string s) (.int count) ∨
        o = operator (.arith .mul) (.int count) (.string s) →
      (o.result = .error (.overflow "*") ↔
        sizeLimit < s.utf8ByteSize * count.toInt.toNat)) ∧
    (∀ (args : List Value) (start stop step : Int), o = call .range args →
      Builtin.rangeArguments args = .ok (start, stop, step) → step ≠ 0 →
      (o.result = .error (.overflow "range") ↔
        Builtin.Before step stop (start + sizeLimit * step))) ∧
    ∀ (op : Connective) (l r : Expr) (context : Context) (s t : State) (v : Value),
      ((Expr.connect op l r).eval context).outcome s = (.ok v, t) →
        (l.eval context).outcome s = (.ok v, t) ∨ ∃ u, (r.eval context).outcome u = (.ok v, t) := by
  refine ⟨?_, ?_, ?_, fun _ _ _ _ _ _ _ => Expr.outcome_connect⟩
  · intro v made
    rcases within_of_result within made with fits | ⟨outgrows, inside⟩
    · refine ⟨fits.insideWithin, iff_of_true fits ?_⟩
      rintro ⟨-, large⟩
      exact absurd (within_iff.1 fits).1 (Nat.not_le.2 large)
    · refine ⟨inside, ?_⟩
      rw [within_iff, not_and, Nat.not_lt]
      exact ⟨fun fits _ => fits.1, fun small => ⟨small outgrows, inside⟩⟩
  · rintro s count (rfl | rfl)
    · exact repeatText_eq_overflow
    · exact repeatText_eq_overflow
  · rintro args start stop step rfl read forward
    exact Builtin.callRange_eq_overflow read forward

/-- The largest text that the limit allows. -/
def full : String := String.ofList (List.replicate sizeLimit 'x')

theorem size_full : full.utf8ByteSize = sizeLimit := by
  have one : String.utf8Len (List.replicate sizeLimit ['x']).flatten = 1 * sizeLimit :=
    utf8Len_repeat sizeLimit ['x']
  rw [List.flatten_replicate_singleton, Nat.one_mul] at one
  rw [full, String.utf8ByteSize_ofList, one]

/-- It can be made larger, by adding or by joining a further character. -/
theorem size_of_extended :
    (∀ operand ∈ operands (operator (.arith .add) (.string full) (.string "x")),
      operand.Within sizeLimit) ∧
    (operator (.arith .add) (.string full) (.string "x")).result = .ok (.string (full ++ "x")) ∧
    ¬ (string (full ++ "x")).Within sizeLimit ∧
    (∀ operand ∈ operands (call .join [.list [.string full, .string "x"]]),
      operand.Within sizeLimit) ∧
    (call .join [.list [.string full, .string "x"]]).result = .ok (.string (full ++ "x")) ∧
    (string (full ++ "x")).InsideWithin sizeLimit := by
  have fits : (string full).Within sizeLimit := (within_string full).2 size_full.le
  have one : (string "x").Within sizeLimit := (within_string "x").2 (by decide)
  have whole : (string full).size = sizeLimit := size_full
  have sum : (string (full ++ "x")).size = (string full).size + (string "x").size :=
    size_append full "x"
  have terms : ∀ operand ∈ operands (operator (.arith .add) (.string full) (.string "x")),
      operand.Within sizeLimit := by
    rw [operands, List.forall_mem_cons, List.forall_mem_singleton]
    exact ⟨fits, one⟩
  have items : ∀ operand ∈ operands (call .join [.list [.string full, .string "x"]]),
      operand.Within sizeLimit := by
    rw [operands, List.forall_mem_singleton, within_list, List.forall_mem_cons,
      List.forall_mem_singleton]
    exact ⟨by decide, fits, one⟩
  have joined : (call .join [.list [.string full, .string "x"]]).result =
      .ok (.string (full ++ "x")) := by
    simp [result, Builtin.call, Builtin.callJoin, Builtin.joinItems, Builtin.textValue, Value.chars]
  obtain ⟨-, added⟩ := (size_of_results _ terms).1 (.string (full ++ "x")) rfl
  refine ⟨terms, rfl, fun small => added.1 small ⟨⟨rfl, ?_⟩, ?_⟩, items, joined, ?_⟩
  · exact sum
  · have further : 0 < (string "x").size := by decide
    omega
  · exact ((size_of_results _ items).1 _ joined).1

end Operation

end Stencil
