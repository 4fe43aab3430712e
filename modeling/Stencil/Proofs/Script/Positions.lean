import Stencil.Proofs.Script.Expressions
import Stencil.Proofs.Script.Terms

/-!
# Positions behind one another

Positions are written in brackets, or as digits behind points. In brackets each of them is an index
of its own. Behind points they are read two at a time: the reader of numbers finds a point and a
digit behind the first one, and takes both for a decimal. So the two ways to write positions mean
the same for a single one only.
-/

namespace Stencil

namespace Expr

def indexed (e : Expr) (positions : List Literal) : Expr :=
  positions.foldl (fun target l => .index target (.literal l)) e

@[simp] theorem indexed_cons (e : Expr) (l : Literal) (positions : List Literal) :
    e.indexed (l :: positions) = (index e (.literal l)).indexed positions := rfl

theorem height_indexed (e : Expr) (positions : List Literal) :
    (e.indexed positions).height = e.height + positions.length := by
  induction positions generalizing e with
  | nil => rfl
  | cons l positions ih =>
      have target := e.height_pos
      rw [indexed_cons, ih, List.length_cons, height, height]
      omega

end Expr

namespace Script

open Decimal (IsRow)

/-- A row of digits for a position that there can be. -/
structure IsPosition (row : List Char) : Prop where
  digits : IsRow row
  fits : Decimal.digitsValue row ≤ Int64.maxValue.toInt

/-- The whole number that a row of digits is read as. -/
def wholeNumber (row : List Char) : Literal := .int (Int64.ofNat (Decimal.digitsValue row))

/-- The decimal that two rows of digits are read as. -/
def decimal (row row' : List Char) : Literal :=
  .float (Decimal.ofDecimal false (row ++ row') (-row'.length))

/-- What positions behind points are read as: decimals of two each, and a last one that is left. -/
def paired : List (List Char) → List Literal
  | [] => []
  | [row] => [wholeNumber row]
  | row :: row' :: rows => decimal row row' :: paired rows

theorem length_paired : ∀ rows : List (List Char), (paired rows).length = (rows.length + 1) / 2
  | [] => rfl
  | [_] => by simp [paired]
  | _ :: _ :: rows => by
    rw [paired, List.length_cons, length_paired rows, List.length_cons, List.length_cons]
    omega

def pointed (rows : List (List Char)) : List Char := rows.flatMap ('.' :: ·)

def boxed (rows : List (List Char)) : List Char := rows.flatMap fun row => '[' :: (row ++ [']'])

/-- The reader takes the rest of the text for `e` if `deep` levels are not too many, and gives up
otherwise. -/
def Arrives (p : Parse Expr) (d : Cursor) (e : Expr) (deep : Nat) : Prop :=
  Ends p d (fun e' d' => e' = e ∧ d'.rest = [] ∧ d'.brackets = d.brackets ∧ deep ≤ maxDepth)
    fun err => TooDeep err ∧ maxDepth < deep

section Positions

variable {whole : Parse Expr} {e : Expr} {d : Cursor} {row cs : List Char}
variable {rows : List (List Char)} {Q : Option Expr → Cursor → Prop} {E : Error → Prop}

/-- A point with a digit behind it. -/
theorem trailer_point (digits : IsRow row) (rest : d.rest = '.' :: (row ++ cs))
    (full : maxDepth ≤ d.depth → ∀ err, TooDeep err → E err)
    (next : d.depth < maxDepth → ∀ d', d'.brackets = d.brackets → d'.depth = d.depth + 1 →
      d'.rest = row ++ cs →
        Ends number d' (fun l d'' => Q (some (.index e (.literal l))) d'') E) :
    Ends (trailer whole e) d Q E := by
  obtain ⟨x, xs, rfl⟩ := List.exists_cons_of_ne_nil digits.1
  have digit : x.isDigit := digits.2 x (by simp)
  have behind : (Cursor.pass { d with depth := d.depth + 1 } ".".length).rest = x :: xs ++ cs :=
    Cursor.rest_pass_one rest
  have isDigit : (Cursor.pass { d with depth := d.depth + 1 } ".".length).startsWithChar
      Char.isDigit := by
    rw [Cursor.startsWithChar, behind]
    exact digit
  have noCall : d.startsWith "(" = false := Cursor.startsWith_of_rest rest "("
  have noIndex : d.startsWith "[" = false := Cursor.startsWith_of_rest rest "["
  have point : d.startsWith "." = true := by simp [Cursor.startsWith, rest]
  simp only [trailer, afterPoint, Ends.bind_iff, Ends.peek_iff, Ends.descend_iff, Ends.unseen_iff,
    Ends.look_iff, Ends.pure_iff, noCall, noIndex, point, isDigit, if_true, if_false,
    Bool.false_eq_true]
  exact ⟨fun deep => full deep _ rfl, fun deep => next deep _ rfl rfl behind⟩

theorem reads_row (position : IsPosition row) (levels brackets : Nat) :
    Reads levels brackets 0 0 row (.literal (wholeNumber row)) .flat false := by
  have term : Reads levels brackets 8 8 row (.literal (wholeNumber row)) .flat false := by
    intro fuel d p c tail Q E room _ there follows _ _ next _
    show Ends (trailed _) c Q E
    rw [trailed, Ends.bind_iff]
    refine primary_number position.digits there fun c' within atDepth rest => ?_
    refine number_row position.digits position.fits (ends_digits follows.ends)
      follows.startsFraction rest fun c'' within' atDepth' rest' => ?_
    exact next _ c'' room.within (enough_start room.within)
      ⟨within'.trans within, atDepth'.trans atDepth, .inl rest'⟩
  refine term.descend (Nat.le_refl 8) (fun _ => ?_) (Nat.zero_le 8)
  obtain ⟨x, xs, rfl⟩ := List.exists_cons_of_ne_nil position.digits.1
  exact .sign _ (.inr (.inr (.inr (position.digits.2 x (by simp)))))

/-- A position in brackets is a complete expression, which needs a level of its own. -/
theorem trailer_box (position : IsPosition row) (rest : d.rest = '[' :: (row ++ ']' :: cs))
    (solid : cs.head? ≠ some ' ') (few : maxDepth < d.depth + 2 → ∀ err, TooDeep err → E err)
    (next : d.depth + 2 ≤ maxDepth → ∀ d', d'.brackets = d.brackets → d'.depth = d.depth + 1 →
      d'.rest = cs → Q (some (.index e (.literal (wholeNumber row)))) d') :
    Ends (trailer (expressionWithin maxDepth) e) d Q E := by
  have noCall : d.startsWith "(" = false := Cursor.startsWith_of_rest rest "("
  have opened : d.startsWith "[" = true := by simp [Cursor.startsWith, rest]
  simp only [trailer, Ends.bind_iff, Ends.peek_iff, Ends.descend_iff, Ends.unseen_iff,
    Ends.pure_iff, noCall, opened, if_true, if_false, Bool.false_eq_true]
  refine ⟨fun full => few (by omega) _ rfl, fun deep => ?_⟩
  have there : At d.brackets (d.depth + 1) (' ' :: row ++ ']' :: cs)
      (Cursor.pass { d with depth := d.depth + 1 } "[".length) :=
    ⟨rfl, rfl, .inr (congrArg _ (Cursor.rest_pass_one rest))⟩
  refine enclosed_back (.inr rfl) rfl (reads_row position) ⟨deep, by omega⟩ there ?_ ?_
  · rintro err (chained | ⟨tooDeep, beyond⟩)
    · cases chained
    · exact few beyond err tooDeep
  · intro fits d' there'
    refine next fits d' there'.brackets there'.depth ?_
    rcases there'.rest with same | blank
    · exact same
    · rw [← blank] at solid
      exact absurd rfl solid

/-- Where a text ends, the term does. -/
theorem arrives_ended {fuel : Nat} (enough : d.room < fuel) (ended : d.rest = [])
    (within : d.depth ≤ maxDepth) : Arrives (extend (trailer whole) fuel e) d e d.depth := by
  obtain ⟨fuel, rfl⟩ := Nat.exists_eq_add_one_of_ne_zero (Nat.ne_zero_of_lt enough)
  simp [Arrives, extend, trailer, Cursor.startsWith, ended, within]

/-- More levels, of which there are enough. -/
theorem Arrives.mono {p : Parse Expr} {deep deep' : Nat} (h : Arrives p d e deep)
    (le : deep ≤ deep') (fits : deep' ≤ maxDepth) : Arrives p d e deep' :=
  Ends.mono h (fun _ _ ⟨same, ended, within, _⟩ => ⟨same, ended, within, fits⟩)
    fun _ ⟨tooDeep, beyond⟩ => ⟨tooDeep, by omega⟩

/-- One more step in front of the others. -/
theorem Arrives.step {fuel deep : Nat} {b e' : Expr}
    (h : Ends (trailer whole e) d
      (fun r d' => r = some b ∧ d'.brackets = d.brackets ∧
        Arrives (extend (trailer whole) fuel b) d' e' deep)
      fun err => TooDeep err ∧ maxDepth < deep) :
    Arrives (extend (trailer whole) (fuel + 1) e) d e' deep := by
  rw [Arrives, extend, Ends.bind_iff]
  refine h.imp ?_
  rintro _ d' ⟨rfl, within, arrives⟩
  refine Ends.imp arrives ?_
  rintro _ c' ⟨rfl, ended, same, fits⟩
  exact ⟨rfl, ended, same.trans within, fits⟩

theorem room_lt {d' : Cursor} {fuel : Nat} (enough : d.room < fuel + 1)
    (deep : d.depth < maxDepth) (atDepth : d'.depth = d.depth + 1) : d'.room < fuel := by
  rw [Cursor.room] at *
  omega

/-- Positions behind points, with a level for every two of them. -/
theorem pointed_arrives : ∀ {rows : List (List Char)}, (∀ row ∈ rows, IsPosition row) →
    ∀ {fuel : Nat} {e : Expr} {d : Cursor}, d.room < fuel → d.rest = pointed rows →
      (rows = [] → d.depth ≤ maxDepth) →
      Arrives (extend (trailer whole) fuel e) d (e.indexed (paired rows))
        (d.depth + (rows.length + 1) / 2)
  | [], _, fuel, e, d, enough, rest, within => arrives_ended enough rest (within rfl)
  | _ :: _, _, 0, _, _, enough, _, _ => absurd enough (Nat.not_lt_zero _)
  | [row], positions, fuel + 1, e, d, enough, rest, _ => by
    have position := positions row (by simp)
    have rest : d.rest = '.' :: (row ++ []) := by simpa [pointed] using rest
    have level : d.depth + ([row].length + 1) / 2 = d.depth + 1 := by simp
    rw [level, paired]
    refine .step (b := .index e (.literal (wholeNumber row))) ?_
    refine trailer_point position.digits rest (fun full err tooDeep => ⟨tooDeep, ?_⟩) ?_
    · exact Nat.lt_succ_of_le full
    · intro deep d₁ within₁ atDepth₁ rest₁
      refine number_row position.digits position.fits rfl rfl rest₁ ?_
      intro d₂ within₂ atDepth₂ rest₂
      have atDepth := atDepth₂.trans atDepth₁
      refine ⟨rfl, within₂.trans within₁, ?_⟩
      rw [← atDepth]
      exact arrives_ended (room_lt enough deep atDepth) rest₂ (atDepth ▸ deep)
  | row :: row' :: rows, positions, fuel + 1, e, d, enough, rest, _ => by
    have position := positions row (by simp)
    have position' := positions row' (by simp)
    have rest : d.rest = '.' :: (row ++ '.' :: (row' ++ pointed rows)) := by
      simpa [pointed] using rest
    refine .step (b := .index e (.literal (decimal row row'))) ?_
    refine trailer_point position.digits rest (fun full err tooDeep => ⟨tooDeep, ?_⟩) ?_
    · rw [List.length_cons, List.length_cons]
      omega
    · intro deep d₁ within₁ atDepth₁ rest₁
      have ends : (pointed rows).head?.any isDigitOrUnderscore = false := by
        cases rows <;> simp [pointed, isDigitOrUnderscore]
      refine number_pointed position.digits position'.digits ends rest₁ ?_
      intro d₂ within₂ atDepth₂ rest₂
      have atDepth := atDepth₂.trans atDepth₁
      refine ⟨rfl, within₂.trans within₁, ?_⟩
      have level : d.depth + ((row :: row' :: rows).length + 1) / 2 =
          d₂.depth + (rows.length + 1) / 2 := by
        rw [List.length_cons, List.length_cons]
        omega
      rw [level]
      exact pointed_arrives (fun row mem => positions row (by simp [mem]))
        (room_lt enough deep atDepth) rest₂ fun _ => atDepth ▸ deep

/-- Positions in brackets, with a level for each of them and one for what is inside. -/
theorem boxed_arrives : ∀ {rows : List (List Char)}, (∀ row ∈ rows, IsPosition row) →
    ∀ {fuel : Nat} {e : Expr} {d : Cursor}, d.room < fuel → d.rest = boxed rows → rows ≠ [] →
      Arrives (extend (trailer (expressionWithin maxDepth)) fuel e) d
        (e.indexed (rows.map wholeNumber)) (d.depth + rows.length + 1)
  | [], _, _, _, _, _, _, more => absurd rfl more
  | _ :: _, _, 0, _, _, enough, _, _ => absurd enough (Nat.not_lt_zero _)
  | row :: rows, positions, fuel + 1, e, d, enough, rest, _ => by
    have rest : d.rest = '[' :: (row ++ ']' :: boxed rows) := by simpa [boxed] using rest
    have solid : (boxed rows).head? ≠ some ' ' := by cases rows <;> simp [boxed]
    refine .step (b := .index e (.literal (wholeNumber row))) ?_
    have position := positions row (by simp)
    refine trailer_box position rest solid (fun few err tooDeep => ⟨tooDeep, ?_⟩) ?_
    · rw [List.length_cons]
      omega
    · intro fits d₁ within atDepth rest₁
      refine ⟨rfl, within, ?_⟩
      have room := room_lt enough (by omega) atDepth
      rcases eq_or_ne rows [] with rfl | more
      · refine Arrives.mono (arrives_ended room rest₁ (by omega)) ?_ fits
        rw [List.length_singleton]
        omega
      · have level : d.depth + (row :: rows).length + 1 = d₁.depth + rows.length + 1 := by
          rw [List.length_cons]
          omega
        rw [level]
        exact boxed_arrives (fun row mem => positions row (by simp [mem])) room rest₁ more

end Positions

/-! ### Whole texts -/

/-- The text is read as `e` if `deep` levels are not too many, and refused otherwise. -/
def ReadsWithin (text : List Char) (e : Expr) (deep : Nat) : Prop :=
  if deep ≤ maxDepth then readExpression text = .ok e
  else ∃ err, readExpression text = .error err ∧ TooDeep err

section Texts

variable {text tail : List Char} {rows : List (List Char)} {e : Expr} {c : Cursor} {deep : Nat}

theorem Arrives.readsWithin (plain : Plain (.opening text))
    (h : Arrives (trailed (expressionWithin maxDepth)) (.opening text) e deep) :
    ReadsWithin text e deep := by
  unfold ReadsWithin
  split
  · next fits =>
    have settles : Settles (trailed (expressionWithin maxDepth)) (.opening text) e []
        fun _ => False := by
      refine Ends.mono h ?_ fun err ⟨_, beyond⟩ => absurd fits (by omega)
      rintro _ c' ⟨rfl, ended, within, _⟩
      exact ⟨rfl, by simp [Cursor.skipped, ended], within⟩
    rcases (filtered_settles plain (.inl rfl) settles).readExpression with read | ⟨_, _, impossible⟩
    · exact read
    · cases impossible
  · next beyond =>
    -- No expression is the one that the text is read as, so there is none.
    have refused (e' : Expr) : readExpression text = .ok e' ∨
        ∃ err, readExpression text = .error err ∧ TooDeep err := by
      have settles : Settles (trailed (expressionWithin maxDepth)) (.opening text) e' [] TooDeep :=
        Ends.mono h (fun _ _ found => absurd found.2.2.2 beyond) fun _ failed => failed.1
      exact (filtered_settles plain (.inl rfl) settles).readExpression
    rcases refused (.var "x") with read | refused'
    · rcases refused (.list []) with read' | refused'
      · rw [read] at read'
        cases read'
      · exact refused'
    · exact refused'

theorem skipped_opening (text : List Char) : (Cursor.opening text).skipped = .opening text :=
  congrArg (fun c : Cursor => { c with depth := 1 })
    (Cursor.skipped_skipped { Cursor.start text with brackets := 1 })

/-- Where a text goes on, its opening does. -/
theorem extended_opening (more : (Cursor.opening text).rest ≠ []) :
    Extended tail (.opening text) (.opening (text ++ tail)) := by
  have start : Extended tail { Cursor.start text with brackets := 1 }
      { Cursor.start (text ++ tail) with brackets := 1 } := ⟨rfl, rfl, rfl⟩
  have skipped := start.skipped more
  exact ⟨skipped.rest, skipped.brackets, rfl⟩

theorem Plain.extended {d : Cursor} (onward : Onward tail) (h : Plain c)
    (extended : Extended tail c d) (solid : d.skipped = d) : Plain d := by
  refine ⟨solid, ?_, ?_, ?_⟩
  · rw [extended.startsWith_one onward rfl (by decide), h.minus]
  · rw [extended.startsWith_one onward rfl (by decide), h.sign]
  · rw [extended.word onward]
    exact h.word

/-- What is behind a term that is a whole text is read on from the term. -/
theorem readsWithin_of_term (onward : Onward tail)
    (read : (trailed (expressionWithin maxDepth)).run.run (.opening text) = (.ok e, c))
    (all : c.rest = []) (apart : startsFraction tail → ¬EndsOpen text e) {e' : Expr}
    (next : ∀ fuel d, d.room < fuel → d.rest = tail → d.depth = c.depth →
      Arrives (extend (trailer (expressionWithin maxDepth)) fuel e) d e' deep) :
    ReadsWithin (text ++ tail) e' deep := by
  have opens : Yields (trailed (expressionWithin maxDepth)) (.opening text) fun _ _ =>
      (Cursor.opening text).rest ≠ [] ∧ Plain (.opening text) := by
    rw [trailed, Yields.bind_iff]
    intro e₁ c₁ ran _ _ _
    refine ⟨fun none => ?_, primary_plain (skipped_opening text) e₁ c₁ ran⟩
    have refused : Yields (primary (expressionWithin maxDepth)) (.opening text)
        fun _ _ => False := by
      simp [primary, skipped_opening, none]
    exact refused e₁ c₁ ran
  obtain ⟨start, plain⟩ := opens e c read
  have extended : Extended tail _ _ := extended_opening start
  refine Arrives.readsWithin (plain.extended onward extended (skipped_opening _)) ?_
  refine trailed_continues onward extended e c read all ?_ ?_
  · exact fun _ fraction openEnd => apart fraction (openEnd.suffix (List.drop_suffix _ _))
  · intro fuel d enough extended' within
    have room : d.room < fuel := by rwa [Cursor.room, ← extended'.depth]
    have rest : d.rest = tail := by rw [extended'.rest, all, List.nil_append]
    rw [← within]
    exact next fuel d room rest extended'.depth.symm

/-- Positions in brackets behind a term are indexes one after another, while those behind points are
read two at a time: the reader of numbers takes a point and a digit for a part of a decimal. So the
two ways to write positions are the same for a single one only. -/
theorem readExpression_positions
    (read : (trailed (expressionWithin maxDepth)).run.run (.opening text) = (.ok e, c))
    (all : c.rest = []) (positions : ∀ row ∈ rows, IsPosition row) (more : rows ≠ []) :
    (¬EndsOpen text e → ReadsWithin (text ++ pointed rows) (e.indexed (paired rows))
        (c.depth + (rows.length + 1) / 2)) ∧
      ReadsWithin (text ++ boxed rows) (e.indexed (rows.map wholeNumber))
        (c.depth + rows.length + 1) ∧
      (e.indexed (paired rows) = e.indexed (rows.map wholeNumber) ↔ rows.length = 1) := by
  obtain ⟨row, others, rfl⟩ := List.exists_cons_of_ne_nil more
  refine ⟨fun closed => ?_, ?_, fun same => ?_, fun single => ?_⟩
  · refine readsWithin_of_term (.point _) read all (fun _ => closed) ?_
    intro fuel d enough rest level
    rw [← level]
    exact pointed_arrives positions enough rest fun none => absurd none more
  · refine readsWithin_of_term (.bracket _) read all (fun none => by cases none) ?_
    intro fuel d enough rest level
    rw [← level]
    exact boxed_arrives positions enough rest more
  · have heights := congrArg Expr.height same
    rw [Expr.height_indexed, Expr.height_indexed, length_paired, List.length_map] at heights
    rw [List.length_cons] at *
    omega
  · obtain rfl : others = [] := List.eq_nil_of_length_eq_zero (Nat.succ.inj single)
    rw [paired, List.map_singleton]

/-- Two positions behind a name: behind points they are one index, a tenth, and in brackets two. -/
theorem readExpression_positions_two :
    (trailed (expressionWithin maxDepth)).run.run (Cursor.opening ['x']) =
        (.ok (.var "x"), ⟨[], ⟨1, 1, 2⟩, 1, 1⟩) ∧
      readExpression "x.0.1".toList = .ok (.index (.var "x") (.literal (decimal ['0'] ['1']))) ∧
      readExpression "x[0][1]".toList =
        .ok (.index (.index (.var "x") (.literal (.int 0))) (.literal (.int 1))) := by
  have read : (trailed (expressionWithin maxDepth)).run.run (Cursor.opening ['x']) =
      (.ok (.var "x"), ⟨[], ⟨1, 1, 2⟩, 1, 1⟩) := by
    cbv
  have positions : ∀ row ∈ [['0'], ['1']], IsPosition row := by
    have digits (x : Char) (digit : x.isDigit) : IsRow [x] := ⟨List.cons_ne_nil _ _, by simpa⟩
    rintro row mem
    rcases List.mem_pair.1 mem with rfl | rfl
    · exact ⟨digits _ rfl, by decide⟩
    · exact ⟨digits _ rfl, by decide⟩
  have both := readExpression_positions read rfl positions (List.cons_ne_nil _ _)
  have closed : ¬EndsOpen ['x'] (.var "x") := fun openEnd => openEnd.whole
  exact ⟨read, both.1 closed, both.2.1⟩

end Texts

end Script

end Stencil
