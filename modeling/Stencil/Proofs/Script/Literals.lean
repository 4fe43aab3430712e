import Stencil.Proofs.Decimal.RoundTrip
import Stencil.Proofs.Script.Follows

/-!
# Literals are read back

A literal that is written down is read as itself, whatever follows it: numbers without a sign, if
they are finite, and strings with any characters at all.
-/

namespace Stencil

/-- Whether a float is the double nearest to the decimal that it is written as. -/
def Literal.IsReadable : Literal → Prop
  | .int i => 0 ≤ i.toInt
  | .float x => ∃ whole fraction, Decimal.IsRow whole ∧ Decimal.IsRow fraction ∧
      (Literal.float x).chars = whole ++ '.' :: fraction ∧
      Decimal.ofDecimal false (whole ++ fraction) (-fraction.length) = x
  | _ => True

def Literal.IsNumber : Literal → Prop
  | .int _ | .float _ => True
  | _ => False

/-- A whole number without a sign is written as its digits. -/
theorem Literal.chars_int {i : Int64} (unsigned : 0 ≤ i.toInt) :
    (Literal.int i).chars = Decimal.natDigits i.toInt.toNat := by
  change Decimal.intDigits i.toInt = _
  rw [← Int.toNat_of_nonneg unsigned]
  rfl

/-- A number that is readable starts with a row of digits. -/
theorem Literal.IsReadable.row {l : Literal} (readable : l.IsReadable) (isNumber : l.IsNumber) :
    ∃ row cs, Decimal.IsRow row ∧ l.chars = row ++ cs := by
  cases l with
  | int i =>
      refine ⟨_, [], Decimal.isRow_natDigits i.toInt.toNat, ?_⟩
      rw [Literal.chars_int readable, List.append_nil]
  | float x =>
      obtain ⟨row, fraction, digits, -, chars, -⟩ := readable
      exact ⟨row, '.' :: fraction, digits, chars⟩
  | none | bool _ | string _ => cases isNumber

theorem Literal.isReadable_float {x : Float} (unsigned : Decimal.IsUnsigned x)
    (finite : Decimal.IsFinite x) : (Literal.float x).IsReadable := by
  obtain ⟨_, _, whole, fraction, hw, hf, chars, -, -⟩ := Decimal.isPointed_chars unsigned finite
  have readsBack := Decimal.readFloat?_chars unsigned finite
  rw [chars, Decimal.readFloat?_pointed hw hf] at readsBack
  exact ⟨whole, fraction, hw, hf, chars, by simpa using readsBack⟩

namespace Script

open Decimal (IsRow)

variable {brackets d p : Nat} {tail cs : List Char} {c : Cursor} {E : Error → Prop}

/-- A run of characters ends where none of its kind follows. -/
theorem takeWhile_run {kind : Char → Bool} {run : List Char} (inside : ∀ x ∈ run, kind x)
    (ends : cs.head?.any kind = false) : (run ++ cs).takeWhile kind = run := by
  have rest : cs.takeWhile kind = [] := by
    cases cs with
    | nil => rfl
    | cons x xs =>
        have other : kind x = false := by simpa using ends
        simp [other]
  rw [List.takeWhile_append_of_pos inside, rest, List.append_nil]

section Numbers

theorem isWordChar_digit {x : Char} (h : x.isDigit) : isWordChar x := by
  obtain ⟨rest, table⟩ : ∃ rest, Text.alphanumeric.boundaries = 0x30 :: 0x3A :: rest := ⟨_, rfl⟩
  simp only [Char.isDigit, Bool.and_eq_true, decide_eq_true_iff, ge_iff_le,
    UInt32.le_iff_toNat_le] at h
  have low : 0x30 ≤ x.toNat := h.1
  have high : ¬0x3A ≤ x.toNat := Nat.not_le.2 (Nat.lt_succ_of_le h.2)
  have isAlphanumeric : Text.isAlphanumeric x = true := by
    rw [Text.isAlphanumeric, CharSet.contains, table, CharSet.behind, if_pos low, CharSet.behind,
      if_neg high]
    rfl
  simp [isWordChar, isAlphanumeric]

/-- A row of digits ends where no word goes on. -/
theorem ends_digits (ends : cs.head?.any isWordChar = false) :
    cs.head?.any isDigitOrUnderscore = false := by
  cases cs with
  | nil => rfl
  | cons x xs =>
      have other : isWordChar x = false := by simpa using ends
      have notDigit : x.isDigit = false := by
        by_contra digit
        rw [isWordChar_digit (by simpa using digit)] at other
        cases other
      have notUnderscore : x ≠ '_' := by
        rintro rfl
        cases other
      simp [isDigitOrUnderscore, notDigit, notUnderscore]

theorem Follows.startsFraction (h : Follows brackets p tail) : startsFraction tail = false := by
  rcases h with ⟨cs, rfl | rfl | rfl⟩ | _ | _ | _ | _ | _ | ⟨cs, isName⟩
  case member name =>
    obtain ⟨x, xs, chars⟩ := List.exists_cons_of_ne_nil isName.nonempty
    have letter := isName.letter
    rw [chars] at letter ⊢
    simpa [Script.startsFraction] using letter
  all_goals rfl

theorem digits_filter {row : List Char} (h : IsRow row) : row.filter (· != '_') = row := by
  refine List.filter_eq_self.2 ?_
  intro x hx
  have digit := h.2 x hx
  simp only [bne_iff_ne]
  rintro rfl
  exact absurd digit (by decide)

theorem row_kind {row : List Char} (h : IsRow row) : ∀ x ∈ row, isDigitOrUnderscore x := by
  intro x hx
  simp [isDigitOrUnderscore, h.2 x hx]

/-- A row of digits is a whole number if it fits, and no fraction follows. -/
theorem number_row {Q : Literal → Cursor → Prop} {row : List Char} (digits : IsRow row)
    (fits : Decimal.digitsValue row ≤ Int64.maxValue.toInt)
    (ends : tail.head?.any isDigitOrUnderscore = false) (whole : startsFraction tail = false)
    (rest : c.rest = row ++ tail)
    (next : ∀ c', c'.brackets = c.brackets → c'.depth = c.depth → c'.rest = tail →
      Q (.int (Int64.ofNat (Decimal.digitsValue row))) c') : Ends number c Q E := by
  have run : c.rest.takeWhile isDigitOrUnderscore = row := by
    rw [rest]
    exact takeWhile_run (row_kind digits) ends
  have left : c.rest.drop row.length = tail := by
    rw [rest, List.drop_left]
  simp [number, digitRow, run, left, whole, digits_filter digits]
  refine ⟨fun large => absurd fits (by omega), fun _ => ?_⟩
  exact next (c.pass _) rfl rfl left

/-- Two rows of digits and a point between them are a float. -/
theorem number_pointed {Q : Literal → Cursor → Prop} {whole fraction : List Char}
    (hw : IsRow whole) (hf : IsRow fraction)
    (ends : tail.head?.any isDigitOrUnderscore = false)
    (rest : c.rest = whole ++ '.' :: (fraction ++ tail))
    (next : ∀ c', c'.brackets = c.brackets → c'.depth = c.depth → c'.rest = tail →
      Q (.float (Decimal.ofDecimal false (whole ++ fraction) (-fraction.length))) c') :
    Ends number c Q E := by
  have run : c.rest.takeWhile isDigitOrUnderscore = whole := by
    rw [rest]
    exact takeWhile_run (row_kind hw) (by rfl)
  have left : c.rest.drop whole.length = '.' :: (fraction ++ tail) := by
    rw [rest, List.drop_left]
  have digit : startsFraction ('.' :: (fraction ++ tail)) = true := by
    obtain ⟨x, xs, rfl⟩ := List.exists_cons_of_ne_nil hf.1
    exact hf.2 x (by simp)
  have run' : (fraction ++ tail).takeWhile isDigitOrUnderscore = fraction :=
    takeWhile_run (row_kind hf) ends
  have behind : c.rest.drop (whole.length + ".".length) = fraction ++ tail := by
    rw [← List.drop_drop, left]
    rfl
  simp [number, digitRow, run, left, digit, behind, run', digits_filter hw, digits_filter hf]
  refine next _ rfl rfl ?_
  rw [Cursor.rest_pass, Cursor.rest_pass, Cursor.rest_pass, left]
  exact List.drop_left

/-- A number that is written down is read back if neither a word nor a fraction goes on behind it. -/
theorem number_back {Q : Literal → Cursor → Prop} {l : Literal} (isNumber : l.IsNumber)
    (readable : l.IsReadable) (ends : tail.head?.any isWordChar = false)
    (noFraction : startsFraction tail = false) (rest : c.rest = l.chars ++ tail)
    (next : ∀ c', c'.brackets = c.brackets → c'.depth = c.depth → c'.rest = tail → Q l c') :
    Ends number c Q E := by
  cases l with
  | int i =>
      have value : i.toInt = (i.toInt.toNat : Int) := (Int.toNat_of_nonneg readable).symm
      have digits : Decimal.digitsValue (Decimal.natDigits i.toInt.toNat) = i.toInt.toNat :=
        Decimal.digitsValue_natDigits _
      have fits : (Decimal.digitsValue (Decimal.natDigits i.toInt.toNat) : Int) ≤
          Int64.maxValue.toInt := by
        rw [digits, ← value]
        exact i.toInt_le
      have same : Int64.ofNat (Decimal.digitsValue (Decimal.natDigits i.toInt.toNat)) = i := by
        rw [digits, ← Int64.ofInt_eq_ofNat, ← value, Int64.ofInt_toInt]
      rw [Literal.chars_int readable] at rest
      refine number_row (Decimal.isRow_natDigits _) fits (ends_digits ends) noFraction rest ?_
      rw [same]
      exact next
  | float x =>
      obtain ⟨row, fraction, hw, hf, chars, same⟩ := readable
      rw [chars, List.append_assoc] at rest
      refine number_pointed hw hf (ends_digits ends) rest ?_
      rw [same]
      exact next
  | none | bool _ | string _ => cases isNumber

end Numbers

section Strings

theorem hexDigit_digitChar : ∀ n : Fin 16,
    isHexDigit (Nat.digitChar n) = true ∧ hexDigitValue (Nat.digitChar n) = n := by
  decide

theorem hex_toDigits (n : Nat) : (∀ x ∈ Nat.toDigits 16 n, isHexDigit x) ∧
    hexValue (Nat.toDigits 16 n) = n := by
  induction n using Nat.strongRecOn with
  | ind n ih =>
      rw [Nat.toDigits_eq_if (by decide)]
      split
      · next small =>
          obtain ⟨isDigit, value⟩ := hexDigit_digitChar ⟨n, small⟩
          simp only at isDigit value
          simp [isDigit, hexValue, value]
      · next large =>
          obtain ⟨isDigit, value⟩ := hexDigit_digitChar ⟨n % 16, Nat.mod_lt n (by decide)⟩
          obtain ⟨digits, quotient⟩ := ih (n / 16) (by omega)
          simp only at isDigit value
          constructor
          · intro x hx
            rcases List.mem_append.1 hx with front | last
            · exact digits x front
            · obtain rfl : x = Nat.digitChar (n % 16) := by simpa using last
              exact isDigit
          · rw [hexValue] at quotient
            rw [hexValue, List.foldl_append, quotient]
            simp only [List.foldl_cons, List.foldl_nil, value]
            omega

theorem codePoint_back {Q : Char → Cursor → Prop} {x : Char}
    (rest : c.rest = '\x7b' :: Nat.toDigits 16 x.toNat ++ '\x7d' :: cs)
    (next : ∀ c', c'.brackets = c.brackets → c'.depth = c.depth → c'.rest = cs → Q x c') :
    Ends codePoint c Q E := by
  obtain ⟨digits, value⟩ := hex_toDigits x.toNat
  have opened : c.startsWith "\x7b" = true := by
    rw [Cursor.startsWith, rest]
    rfl
  have behind : c.rest.drop "\x7b".length = Nat.toDigits 16 x.toNat ++ '\x7d' :: cs := by
    rw [rest]
    rfl
  have run : (Nat.toDigits 16 x.toNat ++ '\x7d' :: cs).takeWhile isHexDigit =
      Nat.toDigits 16 x.toNat := takeWhile_run digits rfl
  have valid : ¬((Nat.toDigits 16 x.toNat).isEmpty || !decide x.toNat.isValidChar) = true := by
    have isChar : x.toNat.isValidChar := x.valid
    simp [isChar, Nat.toDigits_ne_nil]
  have isNat : Char.ofNat x.toNat = x := Char.ofNat_toNat x
  have left : ((c.pass "\x7b".length).pass (Nat.toDigits 16 x.toNat).length).rest =
      '\x7d' :: cs := by
    rw [Cursor.rest_pass, Cursor.rest_pass, behind, List.drop_left]
  have closes : ((c.pass "\x7b".length).pass (Nat.toDigits 16 x.toNat).length).startsWith
      "\x7d" = true := by
    rw [Cursor.startsWith, left]
    rfl
  have closed : Q x (((c.pass "\x7b".length).pass (Nat.toDigits 16 x.toNat).length).pass
      "\x7d".length) := by
    refine next _ rfl rfl ?_
    rw [Cursor.rest_pass, left]
    rfl
  simp only [codePoint, Ends.bind_iff, Ends.look_iff, Ends.accept_iff, Ends.ite_iff, Ends.pure_iff,
    Ends.throw_iff, Ends.passWhile_iff, Cursor.rest_pass, opened, behind, run, value, isNat,
    closes, closed, valid, true_implies, false_implies, implies_true, and_true,
    Bool.true_eq_false, Bool.false_eq_true, not_true_eq_false]

/-- A character is written as itself, or as a backslash and what the reader takes for it. -/
theorem escape_cases (x : Char) :
    (Text.Quoted.escape x = [x] ∧ x ≠ '"' ∧ x ≠ '\\') ∨
      ∃ e, Text.Quoted.escape x = '\\' :: e ∧
        ∀ (atEnd : Error) (Q : Char → Cursor → Prop) (E : Error → Prop) (cs : List Char)
          (c : Cursor), c.rest = e ++ cs →
          (∀ c', c'.brackets = c.brackets → c'.depth = c.depth → c'.rest = cs → Q x c') →
          Ends (escaped atEnd) c Q E := by
  have named {y : Char} (reads : ∀ (atEnd : Error) (Q : Char → Cursor → Prop) (E : Error → Prop)
      (c : Cursor), c.rest.head? = some y → Q x (c.pass 1) → Ends (escaped atEnd) c Q E)
      (atEnd : Error) (Q : Char → Cursor → Prop) (E : Error → Prop) (cs : List Char) (c : Cursor)
      (rest : c.rest = [y] ++ cs)
      (next : ∀ c', c'.brackets = c.brackets → c'.depth = c.depth → c'.rest = cs → Q x c') :
      Ends (escaped atEnd) c Q E := by
    refine reads atEnd Q E c (by rw [rest]; rfl) (next _ rfl rfl ?_)
    rw [Cursor.rest_pass, rest]
    rfl
  unfold Text.Quoted.escape
  split
  · next h =>
      subst h
      exact .inr ⟨['0'], rfl, named fun _ _ _ _ rest h => by simp [escaped, rest, h]⟩
  split
  · next h =>
      subst h
      exact .inr ⟨['t'], rfl, named fun _ _ _ _ rest h => by simp [escaped, rest, h]⟩
  split
  · next h =>
      subst h
      exact .inr ⟨['r'], rfl, named fun _ _ _ _ rest h => by simp [escaped, rest, h]⟩
  split
  · next h =>
      subst h
      exact .inr ⟨['n'], rfl, named fun _ _ _ _ rest h => by simp [escaped, rest, h]⟩
  split
  · next h =>
      subst h
      exact .inr ⟨['\\'], rfl, named fun _ _ _ _ rest h => by simp [escaped, rest, h]⟩
  split
  · next h =>
      subst h
      exact .inr ⟨['"'], rfl, named fun _ _ _ _ rest h => by simp [escaped, rest, h]⟩
  split
  · refine .inr ⟨_, rfl, ?_⟩
    intro atEnd Q E cs c rest next
    simp [escaped, rest]
    refine codePoint_back ?_ next
    rw [Cursor.rest_pass, rest]
    simp
  · next notBackslash notQuote _ => exact .inl ⟨rfl, notQuote, notBackslash⟩

theorem stringBody_back {Q : List Char → Cursor → Prop} {atEnd : Error} {text : List Char} :
    ∀ {fuel : Nat} {c : Cursor}, c.rest = text.flatMap Text.Quoted.escape ++ '"' :: cs →
      c.rest.length < fuel →
      (∀ c', c'.brackets = c.brackets → c'.depth = c.depth → c'.rest = cs → Q text c') →
      Ends (stringBody '"' atEnd fuel) c Q E := by
  induction text generalizing Q with
  | nil =>
      rintro (_ | fuel) c rest enough next
      · omega
      · simp [stringBody, rest]
        exact next _ rfl rfl (by rw [Cursor.rest_pass, rest]; rfl)
  | cons x xs ih =>
      rintro (_ | fuel) c rest enough next
      · omega
      · rw [List.flatMap_cons, List.append_assoc] at rest
        have more (c' : Cursor) (within : c'.brackets = c.brackets) (atDepth : c'.depth = c.depth)
            (rest' : c'.rest = xs.flatMap Text.Quoted.escape ++ '"' :: cs) :
            Ends (stringBody '"' atEnd fuel) c' (fun text c'' => Q (x :: text) c'') E := by
          have shorter : c'.rest.length < fuel := by
            have nonempty : 0 < (Text.Quoted.escape x).length := by
              rcases escape_cases x with ⟨plain, -⟩ | ⟨e, escape, -⟩
              · simp [plain]
              · simp [escape]
            rw [rest, List.length_append] at enough
            rw [rest']
            omega
          refine ih rest' shorter ?_
          intro c'' within' atDepth' rest''
          exact next c'' (within'.trans within) (atDepth'.trans atDepth) rest''
        rcases escape_cases x with ⟨plain, notQuote, notBackslash⟩ | ⟨e, escape, reads⟩
        · rw [plain] at rest
          simp [stringBody, rest, notQuote, notBackslash]
          exact more _ rfl rfl (by rw [Cursor.rest_pass, rest]; rfl)
        · rw [escape] at rest
          simp [stringBody, rest]
          refine reads atEnd _ _ _ _ (by rw [Cursor.rest_pass, rest]; rfl) ?_
          intro c' within atDepth rest
          exact more c' within atDepth rest

/-- A string is read up to its closing quote. -/
theorem quoted_exact {Q : String → Cursor → Prop} {s : String}
    (rest : c.rest = Text.Quoted.encode s.toList ++ tail)
    (next : ∀ c', c'.brackets = c.brackets → c'.depth = c.depth → c'.rest = tail → Q s c') :
    Ends (quoted '"') c Q E := by
  simp only [quoted, Ends.bind_iff, Ends.look_iff, Ends.char_iff, Ends.pure_iff]
  have body : (c.pass 1).rest = s.toList.flatMap Text.Quoted.escape ++ '"' :: tail := by
    rw [Cursor.rest_pass, rest]
    simp [Text.Quoted.encode]
  have enough : (c.pass 1).rest.length < c.rest.length + 1 := by
    rw [Cursor.rest_pass, List.length_drop]
    omega
  refine stringBody_back body enough ?_
  intro c' within atDepth rest'
  rw [String.ofList_toList]
  exact next c' within atDepth rest'

theorem quoted_back {Q : String → Cursor → Prop} {s : String} (within : c.brackets = brackets)
    (atDepth : c.depth = d) (rest : c.rest = Text.Quoted.encode s.toList ++ tail)
    (next : ∀ c', At brackets d tail c' → Q s c') : Ends (quoted '"') c Q E :=
  quoted_exact rest fun c' within' atDepth' rest' =>
    next c' ⟨within'.trans within, atDepth'.trans atDepth, .inl rest'⟩

end Strings

section Primary

variable {whole : Parse Expr} {Q : Expr → Cursor → Prop}

/-- A term that starts with a digit is a number. -/
theorem primary_number {row : List Char} (digits : IsRow row)
    (there : At brackets d (' ' :: (row ++ cs)) c)
    (next : ∀ c', c'.brackets = brackets → c'.depth = d → c'.rest = row ++ cs →
      Ends number c' (fun l c'' => Q (.literal l) c'') E) : Ends (primary whole) c Q E := by
  obtain ⟨x, xs, rfl⟩ := List.exists_cons_of_ne_nil digits.1
  have digit : x.isDigit := digits.2 x (by simp)
  obtain ⟨at', rest⟩ := there.skipped (solid_word (isWordChar_digit digit))
  have start : c.skipped.rest.head? = some x := by
    rw [rest]
    rfl
  simp [primary, start, digit]
  exact next _ at'.brackets at'.depth rest

theorem primary_written {l : Literal} (isNumber : l.IsNumber) (readable : l.IsReadable)
    (ends : tail.head?.any isWordChar = false) (noFraction : startsFraction tail = false)
    (there : At brackets d (' ' :: l.chars ++ tail) c)
    (next : ∀ c', At brackets d tail c' → Q (.literal l) c') : Ends (primary whole) c Q E := by
  obtain ⟨row, cs, digits, chars⟩ := readable.row isNumber
  have there' : At brackets d (' ' :: (row ++ (cs ++ tail))) c := by
    simpa [chars] using there
  refine primary_number digits there' ?_
  intro c' within atDepth rest
  have rest' : c'.rest = l.chars ++ tail := by
    rw [rest, chars, List.append_assoc]
  refine number_back isNumber readable ends noFraction rest' ?_
  intro c'' within' atDepth' rest''
  exact next c'' ⟨within'.trans within, atDepth'.trans atDepth, .inl rest''⟩

/-- A literal is read back if neither a word nor a number goes on behind it. -/
theorem primary_literal {l : Literal} (readable : l.IsReadable)
    (ends : tail.head?.any isWordChar = false) (noFraction : startsFraction tail = false)
    (there : At brackets d (' ' :: l.chars ++ tail) c)
    (next : ∀ c', At brackets d tail c' → Q (.literal l) c') : Ends (primary whole) c Q E := by
  cases l with
  | none =>
      obtain ⟨at', rest⟩ := there.skipped (solid_word (by decide))
      have word : c.skipped.word = ['n', 'o', 'n', 'e'] :=
        word_keyword_append (by decide) ends rest
      simp [primary, rest, unspaced, word, Literal.chars, Literal.value, Value.chars]
      exact next _ ⟨at'.brackets, at'.depth, .inl (by rw [Cursor.rest_pass, rest]; rfl)⟩
  | bool b =>
      cases b with
      | false =>
          obtain ⟨at', rest⟩ := there.skipped (solid_word (by decide))
          have word : c.skipped.word = ['f', 'a', 'l', 's', 'e'] :=
            word_keyword_append (by decide) ends rest
          simp [primary, rest, unspaced, word, Literal.chars, Literal.value, Value.chars]
          exact next _ ⟨at'.brackets, at'.depth, .inl (by rw [Cursor.rest_pass, rest]; rfl)⟩
      | true =>
          obtain ⟨at', rest⟩ := there.skipped (solid_word (by decide))
          have word : c.skipped.word = ['t', 'r', 'u', 'e'] :=
            word_keyword_append (by decide) ends rest
          simp [primary, rest, unspaced, word, Literal.chars, Literal.value, Value.chars]
          exact next _ ⟨at'.brackets, at'.depth, .inl (by rw [Cursor.rest_pass, rest]; rfl)⟩
  | int i => exact primary_written (l := .int i) trivial readable ends noFraction there next
  | float x => exact primary_written (l := .float x) trivial readable ends noFraction there next
  | string s =>
      obtain ⟨at', rest⟩ := there.skipped (solid_cons (by decide) (by decide))
      have start : c.skipped.rest.head? = some '"' := by
        rw [rest]
        rfl
      simp [primary, start]
      exact quoted_back at'.brackets at'.depth rest next

end Primary

end Script

end Stencil
