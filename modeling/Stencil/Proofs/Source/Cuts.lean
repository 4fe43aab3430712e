import Stencil.Proofs.Source.Places
import Stencil.Proofs.Source.Recognition

/-!
# How a source is cut

A cut of a source is a list of pieces, markers and texts, that is right about each piece: quotes are
balanced in a text and no delimiter starts in it outside of them, and a marker is the one that is
recognised where it stands (`Markers.Cut`). Nothing is said here about how such a list is found.

The pass over a source keeps the text that is pending unmarked, and knows whether a string is open
in it (`Token.Holding`); from any such state it ends with a cut of what is left, or at the quote of
a string that is never closed (`Token.scanFrom_outcome`). It also finds every cut that there is
(`Token.scanFrom_of_cut`), so a source has at most one (`Token.scan_recognises`). The places of the
tokens are those that are counted in the source (`Token.scan_counted`).
-/

namespace Stencil

/-- A token without its place. -/
abbrev Piece := TokenKind × List Char

def contents (pieces : List Piece) : List Char := pieces.flatMap Prod.snd

@[simp] theorem contents_nil : contents [] = [] := rfl

@[simp] theorem contents_cons (p : Piece) (pieces : List Piece) :
    contents (p :: pieces) = p.2 ++ contents pieces := rfl

@[simp] theorem contents_append (pieces pieces' : List Piece) :
    contents (pieces ++ pieces') = contents pieces ++ contents pieces' :=
  List.flatMap_append

theorem contents_map_bare (ts : List Token) :
    contents (ts.map Token.bare) = ts.flatMap Token.text := by
  rw [contents, List.flatMap_map]
  rfl

namespace Markers

variable {m : Markers} {text rest : List Char} {p : Piece} {pieces : List Piece}

/-- No delimiter starts in the text where an even number of quotes is in front, `rest` being what
follows the text. A delimiter that starts with the quote does not count. -/
def Unmarked (m : Markers) (text rest : List Char) : Prop :=
  ∀ before c after, text = before ++ c :: after → Even (before.count m.quote) → c ≠ m.quote →
    ¬ m.Begins (c :: after ++ rest)

def Fits (m : Markers) (p : Piece) (rest : List Char) : Prop :=
  match p.1 with
  | .text => Even (p.2.count m.quote) ∧ m.Unmarked p.2 rest
  | .marker marker => p.2.head? ≠ some m.quote ∧ m.Recognised marker p.2 (p.2 ++ rest)

/-- The pieces are right in front of `rest`: none is empty, no two texts meet, and each fits where
it stands. -/
structure Cut (m : Markers) (pieces : List Piece) (rest : List Char) : Prop where
  nonempty : ∀ p ∈ pieces, p.2 ≠ []
  separate : pieces.IsChain fun p q => ¬ (p.1 = .text ∧ q.1 = .text)
  fits : ∀ before p after, pieces = before ++ p :: after → m.Fits p (contents after ++ rest)

theorem cut_nil (m : Markers) (rest : List Char) : m.Cut [] rest :=
  ⟨by simp, .nil, by simp⟩

theorem cut_cons : m.Cut (p :: pieces) rest ↔
    p.2 ≠ [] ∧ (∀ q ∈ pieces.head?, ¬ (p.1 = .text ∧ q.1 = .text)) ∧
      m.Fits p (contents pieces ++ rest) ∧ m.Cut pieces rest := by
  constructor
  · rintro ⟨nonempty, separate, fits⟩
    rw [List.isChain_cons] at separate
    rw [List.forall_mem_cons] at nonempty
    refine ⟨nonempty.1, separate.1, fits [] p pieces rfl, nonempty.2, separate.2, ?_⟩
    rintro before q after rfl
    exact fits (p :: before) q after rfl
  · rintro ⟨nonempty, separate, first, cut⟩
    refine ⟨List.forall_mem_cons.2 ⟨nonempty, cut.nonempty⟩,
      List.isChain_cons.2 ⟨separate, cut.separate⟩, ?_⟩
    intro before q after eq
    cases before with
    | nil =>
        cases eq
        exact first
    | cons b before =>
        cases eq
        exact cut.fits before q after rfl

/-- A text in front of pieces that do not start with one. -/
theorem Cut.cons_text (cut : m.Cut pieces rest) (balanced : Even (text.count m.quote))
    (unmarked : m.Unmarked text (contents pieces ++ rest))
    (separate : ∀ q ∈ pieces.head?, q.1 ≠ .text) (nonempty : text ≠ []) :
    m.Cut ((.text, text) :: pieces) rest :=
  cut_cons.2 ⟨nonempty, fun q first both => separate q first both.2, ⟨balanced, unmarked⟩, cut⟩

/-- One more character of a text. -/
theorem Unmarked.snoc {c : Char} (h : m.Unmarked text (c :: rest))
    (here : Even (text.count m.quote) → c ≠ m.quote → ¬ m.Begins (c :: rest)) :
    m.Unmarked (text ++ [c]) rest := by
  intro before d after eq even unquoted
  rcases List.eq_nil_or_concat' after with rfl | ⟨after, last, rfl⟩
  · obtain ⟨rfl, last⟩ := List.append_inj' eq rfl
    cases List.singleton_inj.1 last
    exact here even unquoted
  · rw [← List.cons_append, ← List.append_assoc] at eq
    obtain ⟨rfl, last⟩ := List.append_inj' eq rfl
    cases List.singleton_inj.1 last
    simpa using h before d after rfl even unquoted

theorem Unmarked.left {more : List Char} (h : m.Unmarked (text ++ more) rest) :
    m.Unmarked text (more ++ rest) := by
  rintro before c after rfl even unquoted
  simpa using h before c (after ++ more) (by simp) even unquoted

theorem unmarked_nil (m : Markers) (rest : List Char) : m.Unmarked [] rest := by
  simp [Unmarked]

/-- The source is cut into these pieces. -/
def Cuts (m : Markers) (source : List Char) (pieces : List Piece) : Prop :=
  contents pieces = source ∧ m.Cut pieces []

end Markers

namespace Token

open Markers

variable {m : Markers} {passed text rest : List Char} {opened : Option Location}
  {pending : Option PendingText} {place : Location} {ts : List Token}

def held (pending : Option PendingText) : List Char := (heldText pending).getD []

@[simp] theorem held_none : held none = [] := rfl

@[simp] theorem held_hold (pending : Option PendingText) (place : Location) (c : Char) :
    held (hold pending place c) = held pending ++ [c] := by
  cases pending <;> simp [held, heldText, hold]

theorem map_bare_flush_of_ne_nil (h : held pending ≠ []) :
    (flush pending).map bare = [(.text, held pending)] := by
  cases pending with
  | none => exact absurd rfl h
  | some p => rfl

/-- The tokens stand one after another, the first behind `passed`. -/
def Placed (passed : List Char) (ts : List Token) : Prop :=
  ∀ before t after, ts = before ++ t :: after →
    t.start = Location.start.after (passed ++ before.flatMap Token.text)

theorem placed_nil (passed : List Char) : Placed passed [] := by
  simp [Placed]

theorem placed_cons {t : Token} :
    Placed passed (t :: ts) ↔
      t.start = Location.start.after passed ∧ Placed (passed ++ t.text) ts := by
  constructor
  · intro placed
    refine ⟨by simpa using placed [] t ts rfl, ?_⟩
    rintro before u after rfl
    simpa using placed (t :: before) u after rfl
  · rintro ⟨first, more⟩ before u after eq
    cases before with
    | nil =>
        cases eq
        simpa using first
    | cons b before =>
        cases eq
        simpa using more before u after rfl

/-- Pending text is not empty, and it starts behind `passed`. -/
def Started (passed : List Char) (pending : Option PendingText) : Prop :=
  ∀ p, pending = some p → p.chars ≠ [] ∧ p.start = Location.start.after passed

/-- What is known of the text that is pending in front of `rest`, behind `passed`: nothing in it is
marked, and a string is open in it from its last quote, or none is. -/
structure Holding (m : Markers) (passed : List Char) (opened : Option Location)
    (pending : Option PendingText) (rest : List Char) : Prop where
  started : Started passed pending
  unmarked : m.Unmarked (held pending) rest
  balanced : opened = none → Even ((held pending).count m.quote)
  unbalanced : ∀ quote, opened = some quote → ∃ text inside,
    held pending = text ++ m.quote :: inside ∧ m.quote ∉ inside ∧ Even (text.count m.quote) ∧
      quote = Location.start.after (passed ++ text)

theorem holding_none (m : Markers) (passed rest : List Char) : Holding m passed none none rest :=
  ⟨by simp [Started], unmarked_nil m rest, by simp, by simp⟩

theorem Started.hold (h : Started passed pending)
    (there : place = Location.start.after (passed ++ held pending)) (c : Char) :
    Started passed (hold pending place c) := by
  rintro p held
  cases pending with
  | none =>
      cases held
      exact ⟨by simp, by simpa using there⟩
  | some p' =>
      cases held
      exact ⟨by simp, (h p' rfl).2⟩

theorem Holding.odd (h : Holding m passed opened pending rest) (inside : opened.isSome) :
    ¬ Even ((held pending).count m.quote) := by
  obtain ⟨quote, rfl⟩ := Option.isSome_iff_exists.1 inside
  obtain ⟨text, inside, eq, free, even, -⟩ := h.unbalanced quote rfl
  rw [eq, List.count_append, List.count_cons_self, List.count_eq_zero_of_not_mem free]
  simpa using even.add_one

/-- A quote opens a string or closes the one that is open. -/
theorem Holding.quote (h : Holding m passed opened pending (m.quote :: rest))
    (there : place = Location.start.after (passed ++ held pending)) :
    Holding m passed (if opened.isSome then none else some place) (hold pending place m.quote)
      rest := by
  refine ⟨h.started.hold there m.quote, ?_, ?_, ?_⟩
  · rw [held_hold]
    exact h.unmarked.snoc fun _ unquoted => absurd rfl unquoted
  · intro closed
    have wasOpen : opened.isSome := by
      cases opened with
      | none => cases closed
      | some => rfl
    rw [held_hold, List.count_append, List.count_singleton_self]
    exact Nat.even_add_one.2 (h.odd wasOpen)
  · intro quote isOpen
    cases opened with
    | some => cases isOpen
    | none =>
        cases isOpen
        exact ⟨held pending, [], by simp, by simp, h.balanced rfl, there⟩

/-- Any other character where no marker is recognised. -/
theorem Holding.other {c : Char} (h : Holding m passed opened pending (c :: rest))
    (there : place = Location.start.after (passed ++ held pending)) (unquoted : c ≠ m.quote)
    (nothing : opened = none → ¬ m.Begins (c :: rest)) :
    Holding m passed opened (hold pending place c) rest := by
  refine ⟨h.started.hold there c, ?_, ?_, ?_⟩
  · rw [held_hold]
    refine h.unmarked.snoc fun even _ => nothing ?_
    cases opened with
    | none => rfl
    | some => exact absurd even (h.odd rfl)
  · intro closed
    rw [held_hold, List.count_append, List.count_singleton]
    simpa [unquoted] using h.balanced closed
  · intro quote isOpen
    obtain ⟨text, inside, eq, free, even, place⟩ := h.unbalanced quote isOpen
    exact ⟨text, inside ++ [c], by simp [eq], by simp [free, Ne.symm unquoted], even, place⟩

/-- The pending text is a piece in front of others. -/
theorem Holding.cut_flush {pieces : List Piece}
    (h : Holding m passed none pending (contents pieces ++ rest)) (cut : m.Cut pieces rest)
    (separate : ∀ q ∈ pieces.head?, q.1 ≠ .text) :
    m.Cut ((flush pending).map bare ++ pieces) rest := by
  cases pending with
  | none => exact cut
  | some p =>
      refine cut.cons_text (h.balanced rfl) h.unmarked separate ?_
      simpa using (h.started p rfl).1

theorem contents_flush (pending : Option PendingText) :
    contents ((flush pending).map bare) = held pending := by
  cases pending <;> simp [flush, bare, held, heldText, contents]

/-- What cutting `text` behind `passed` may end with: a cut of it, each token in its place, or the
quote that opens a string that is never closed, in front of which everything is cut. -/
def Outcome (m : Markers) (passed text : List Char) : Except Flaw (List Token) → Prop
  | .ok ts => m.Cuts text (ts.map bare) ∧ Placed passed ts
  | .error flaw => ∃ pieces inside, text = contents pieces ++ m.quote :: inside ∧
      m.quote ∉ inside ∧ m.Cut pieces (m.quote :: inside) ∧
      flaw = ⟨(Location.start.after (passed ++ contents pieces)).toPlace, .unterminatedString⟩

/-- The end of the source. -/
theorem Holding.outcome_nil (h : Holding m passed opened pending []) :
    Outcome m passed (held pending) (scanFrom m 0 opened pending place []) := by
  cases opened with
  | none =>
      have cut := h.cut_flush (cut_nil m []) (by simp)
      rw [List.append_nil] at cut
      refine ⟨⟨contents_flush pending, cut⟩, ?_⟩
      cases pending with
      | none => exact placed_nil passed
      | some p => exact placed_cons.2 ⟨(h.started p rfl).2, placed_nil _⟩
  | some quote =>
      obtain ⟨text, inside, eq, free, even, rfl⟩ := h.unbalanced quote rfl
      have unmarked := h.unmarked
      rw [eq] at unmarked
      by_cases isEmpty : text = []
      · subst isEmpty
        exact ⟨[], inside, eq, free, cut_nil m _, by simp⟩
      · refine ⟨[(.text, text)], inside, by simpa using eq, free, ?_, by simp⟩
        exact (cut_nil m _).cons_text even (by simpa using unmarked.left) (by simp) isEmpty

/-- A marker, with the pending text in front of it. -/
theorem Outcome.marker {marker : Marker} {delimiter : List Char} {r : Except Flaw (List Token)}
    (h : Holding m passed none pending (delimiter ++ rest))
    (there : place = Location.start.after (passed ++ held pending))
    (unquoted : delimiter.head? ≠ some m.quote)
    (recognised : m.Recognised marker delimiter (delimiter ++ rest))
    (more : Outcome m (passed ++ held pending ++ delimiter) rest r) :
    Outcome m passed (held pending ++ (delimiter ++ rest)) (do
      let ts ← r
      return flush pending ++ ⟨.marker marker, delimiter, place⟩ :: ts) := by
  cases r with
  | ok ts =>
      obtain ⟨⟨rfl, cut⟩, placed⟩ := more
      have cons : m.Cut ((.marker marker, delimiter) :: ts.map bare) [] :=
        cut_cons.2 ⟨recognised.nonempty, by simp, ⟨unquoted, by simpa using recognised⟩, cut⟩
      have whole := Holding.cut_flush (by simpa using h) cons (by simp)
      refine ⟨⟨by simp [contents_flush, bare], by simpa [bare] using whole⟩, ?_⟩
      have behind : Placed (passed ++ held pending) (⟨.marker marker, delimiter, place⟩ :: ts) :=
        placed_cons.2 ⟨there, placed⟩
      cases pending with
      | none => exact (List.append_nil passed) ▸ behind
      | some p => exact placed_cons.2 ⟨(h.started p rfl).2, behind⟩
  | error flaw =>
      obtain ⟨pieces, inside, rfl, free, cut, rfl⟩ := more
      have cons : m.Cut ((.marker marker, delimiter) :: pieces) (m.quote :: inside) :=
        cut_cons.2 ⟨recognised.nonempty, by simp, ⟨unquoted, by simpa using recognised⟩, cut⟩
      refine ⟨(flush pending).map bare ++ (.marker marker, delimiter) :: pieces, inside, ?_, free,
        Holding.cut_flush (by simpa using h) cons (by simp), ?_⟩
      · simp [contents_flush]
      · simp [contents_flush]

/-- From any state in which text is held, what is left is cut, or its last string is not closed. -/
theorem scanFrom_outcome {cs : List Char} {skip : Nat} (within : skip ≤ cs.length)
    (h : Holding m passed opened pending (cs.drop skip))
    (there : place.after (cs.take skip) = Location.start.after (passed ++ held pending)) :
    Outcome m passed (held pending ++ cs.drop skip) (scanFrom m skip opened pending place cs) := by
  -- The characters of a marker are passed one at a time as well: while `skip` counts down, what is
  -- held does not change.
  induction cs generalizing passed skip opened pending place with
  | nil =>
      obtain rfl : skip = 0 := by simpa using within
      simpa using h.outcome_nil
  | cons c cs ih =>
      cases skip with
      | succ skip => exact ih (by simpa using within) h there
      | zero =>
          rw [List.take_zero, Location.after_nil] at there
          have next : (place.advance c).after (cs.take 0) =
              Location.start.after (passed ++ held (hold pending place c)) := by
            rw [held_hold, ← List.append_assoc, Location.after_append, ← there]
            rfl
          rw [scanFrom]
          split
          · next isQuote =>
            subst isQuote
            simpa using ih (Nat.zero_le _) (h.quote there) next
          · next notQuote =>
            split
            · next marker delimiter found =>
              cases opened with
              | some => cases found
              | none =>
                  have recognised := match?_eq_some_iff.1 found
                  obtain ⟨rest, split⟩ := recognised.here
                  obtain ⟨d, ds, rfl⟩ := List.exists_cons_of_ne_nil recognised.nonempty
                  rw [List.cons_append] at split
                  obtain ⟨rfl, rfl⟩ := List.cons.inj split
                  refine Outcome.marker h there (by simpa using notQuote) recognised ?_
                  have behind : (place.advance d).after ((ds ++ rest).take ds.length) =
                      Location.start.after (passed ++ held pending ++ d :: ds ++ held none) := by
                    rw [List.take_left, held_none, List.append_nil,
                      Location.after_append _ (passed ++ _), ← there]
                    rfl
                  simpa using ih (by simp) (holding_none m _ _) behind
            · next found =>
              have nothing : opened = none → ¬ m.Begins (c :: cs) := by
                rintro rfl
                exact match?_eq_none_iff.1 found
              simpa using ih (Nat.zero_le _) (h.other there notQuote nothing) next

theorem scan_outcome (m : Markers) (source : List Char) :
    Outcome m [] source (scan m source) :=
  scanFrom_outcome (Nat.zero_le _) (holding_none m [] source) rfl

theorem outcome_of_scan {source : List Char} {tokens : List Token}
    (scanned : scan m source = .ok tokens) :
    m.Cuts source (tokens.map bare) ∧ Placed [] tokens := by
  have outcome := scan_outcome m source
  rwa [scanned] at outcome

/-- The characters of a marker are passed by. -/
theorem scanFrom_skip (cs rest : List Char) :
    scanFrom m cs.length opened pending place (cs ++ rest) =
      scanFrom m 0 opened pending (place.after cs) rest := by
  induction cs generalizing place with
  | nil => rfl
  | cons c cs ih => exact ih

/-- A text in which nothing is marked becomes pending as a whole. `done` is the part of it that has
been passed. -/
theorem scanFrom_text (opened : Option Location) (pending : Option PendingText) (place : Location)
    (done : List Char) (string : opened.isSome ↔ ¬ Even (done.count m.quote))
    (unmarked : m.Unmarked (done ++ text) rest) :
    ∃ opened' pending', held pending' = held pending ++ text ∧
      (opened'.isSome ↔ ¬ Even ((done ++ text).count m.quote)) ∧
      scanFrom m 0 opened pending place (text ++ rest) =
        scanFrom m 0 opened' pending' (place.after text) rest := by
  induction text generalizing opened pending place done with
  | nil => exact ⟨opened, pending, by simp, by simpa using string, rfl⟩
  | cons c text ih =>
      have rearranged : done ++ c :: text = done ++ [c] ++ text := by simp
      have further : held pending ++ c :: text = held (hold pending place c) ++ text := by simp
      rw [rearranged, further]
      rw [rearranged] at unmarked
      rw [List.cons_append, scanFrom]
      by_cases isQuote : c = m.quote
      · rw [if_pos isQuote]
        refine ih _ _ _ _ ?_ unmarked
        rw [isQuote, List.count_append, List.count_singleton_self, Nat.even_add_one]
        cases opened <;> simp_all
      · rw [if_neg isQuote]
        have nothing : (if opened.isSome then none else m.match? (c :: (text ++ rest))) = none := by
          split
          · rfl
          · next closed =>
            have even : Even (done.count m.quote) := by
              rw [string, not_not] at closed
              exact closed
            exact match?_eq_none_iff.2 (unmarked done c text rearranged.symm even isQuote)
        rw [nothing]
        refine ih _ _ _ _ ?_ unmarked
        rw [List.count_append, List.count_singleton]
        simpa [isQuote] using string

/-- Every cut of what is left is found, whatever text is pending in front of it. -/
theorem scanFrom_of_cut {pieces : List Piece} (pending : Option PendingText) (place : Location)
    (cut : m.Cut pieces []) (separate : pending = none ∨ ∀ q ∈ pieces.head?, q.1 ≠ .text) :
    ∃ ts, scanFrom m 0 none pending place (contents pieces) = .ok (flush pending ++ ts) ∧
      ts.map bare = pieces := by
  induction pieces generalizing pending place with
  | nil => exact ⟨[], by simp [scanFrom], rfl⟩
  | cons p pieces ih =>
      obtain ⟨kind, text⟩ := p
      obtain ⟨nonempty, apart, fits, more⟩ := cut_cons.1 cut
      rw [contents_cons]
      cases kind with
      | text =>
          obtain rfl : pending = none := by simpa using separate
          obtain ⟨even, unmarked⟩ := fits
          rw [List.append_nil] at unmarked
          obtain ⟨opened', pending', isText, string, run⟩ :=
            scanFrom_text none none place [] (by simp) unmarked
          obtain rfl : opened' = none := by simpa [even] using string
          obtain ⟨ts, found, rfl⟩ := ih pending' (place.after text) more
            (.inr fun q first isText => apart q first ⟨rfl, isText⟩)
          refine ⟨flush pending' ++ ts, run.trans found, ?_⟩
          rw [held_none, List.nil_append] at isText
          rw [List.map_append, map_bare_flush_of_ne_nil (by rw [isText]; exact nonempty), isText]
          rfl
      | marker marker =>
          obtain ⟨unquoted, recognised⟩ := fits
          obtain ⟨c, cs, rfl⟩ := List.exists_cons_of_ne_nil nonempty
          obtain ⟨ts, found, rfl⟩ := ih none ((place.advance c).after cs) more (.inl rfl)
          have here : m.match? (c :: (cs ++ contents (ts.map bare))) = some (marker, c :: cs) :=
            match?_eq_some_iff.2 (by simpa using recognised)
          refine ⟨⟨.marker marker, c :: cs, place⟩ :: ts, ?_, rfl⟩
          have behind : scanFrom m ((c :: cs).length - 1) none none (place.advance c)
              (cs ++ contents (ts.map bare)) = .ok ts :=
            (scanFrom_skip cs _).trans found
          rw [List.cons_append, scanFrom, if_neg (by simpa using unquoted)]
          simp only [Option.isSome_none, Bool.false_eq_true, if_false, here, behind]
          rfl

/-- A source with a cut is cut that way, so it has no other; a source without one has a string that
is never closed, and what stands in front of its quote is cut. -/
theorem scan_recognises (m : Markers) (source : List Char) :
    (∃ tokens, scan m source = .ok tokens ∧ m.Cuts source (tokens.map bare) ∧
      ∀ pieces, m.Cuts source pieces → pieces = tokens.map bare) ∨
    ((∀ pieces, ¬ m.Cuts source pieces) ∧ ∃ pieces inside,
      source = contents pieces ++ m.quote :: inside ∧ m.quote ∉ inside ∧
      m.Cut pieces (m.quote :: inside) ∧
      scan m source = .error ⟨⟨1 + (contents pieces).count '\n',
        1 + String.utf8Len ((contents pieces).rtakeWhile (· != '\n'))⟩, .unterminatedString⟩) := by
  have complete (pieces : List Piece) (cuts : m.Cuts source pieces) :
      ∃ ts, scan m source = .ok ts ∧ ts.map bare = pieces := by
    obtain ⟨rfl, cut⟩ := cuts
    exact scanFrom_of_cut none .start cut (.inl rfl)
  have outcome := scan_outcome m source
  cases scanned : scan m source with
  | ok tokens =>
      rw [scanned] at outcome complete
      refine .inl ⟨tokens, rfl, outcome.1, ?_⟩
      intro pieces cuts
      obtain ⟨_, eq, rfl⟩ := complete pieces cuts
      cases eq
      rfl
  | error flaw =>
      rw [scanned] at outcome complete
      obtain ⟨pieces, inside, split, free, cut, rfl⟩ := outcome
      refine .inr ⟨?_, pieces, inside, split, free, cut, ?_⟩
      · intro pieces cuts
        obtain ⟨_, eq, -⟩ := complete pieces cuts
        cases eq
      · rw [List.nil_append, Location.start_after]
        rfl

/-- The token follows `passed` in the source, and its place is the one that is counted there: the
bytes in front of it, which end between two characters, its line, and its column in bytes. -/
structure Counted (source passed : List Char) (t : Token) : Prop where
  nonempty : t.text ≠ []
  here : passed ++ t.text <+: source
  offset : t.start.offset = String.utf8Len passed
  border : String.Pos.Raw.IsValid (String.ofList source) ⟨t.start.offset⟩
  line : t.start.line = 1 + passed.count '\n'
  column : t.start.column = 1 + String.utf8Len (passed.rtakeWhile (· != '\n'))

/-- Every token stands where those in front of it end, and its place is counted there. -/
theorem scan_counted {m : Markers} {source : List Char} {tokens : List Token}
    (scanned : scan m source = .ok tokens) :
    ∀ before t after, tokens = before ++ t :: after →
      Counted source (before.flatMap Token.text) t := by
  obtain ⟨⟨whole, cut⟩, placed⟩ := outcome_of_scan scanned
  rintro before t after rfl
  have start : t.start = Location.start.after (before.flatMap Token.text) :=
    placed before t after rfl
  have split : source = before.flatMap Token.text ++ (t.text ++ after.flatMap Token.text) := by
    rw [← whole, contents_map_bare]
    simp
  have border := Location.isValid_offset (before.flatMap Token.text)
    (t.text ++ after.flatMap Token.text)
  rw [← split, ← start] at border
  rw [Location.start_after] at start
  refine ⟨cut.nonempty t.bare (by simp), ?_, by rw [start], border, by rw [start], by rw [start]⟩
  rw [split, ← List.append_assoc]
  exact List.prefix_append _ _

/-- A delimiter of two characters, one of them a line break and the other of two bytes. -/
theorem scan_counted_guillemets :
    scan { expression := ⟨"«\n", "»"⟩ } "é«\nx»".toList =
        .ok [⟨.text, ['é'], ⟨0, 1, 1⟩⟩, ⟨.marker .expressionOpen, ['«', '\n'], ⟨2, 1, 3⟩⟩,
          ⟨.text, ['x'], ⟨5, 2, 1⟩⟩, ⟨.marker .expressionClose, ['»'], ⟨6, 2, 2⟩⟩] ∧
      Counted "é«\nx»".toList ['é', '«', '\n', 'x']
        ⟨.marker .expressionClose, ['»'], ⟨6, 2, 2⟩⟩ := by
  have scanned : scan { expression := ⟨"«\n", "»"⟩ } "é«\nx»".toList =
      .ok [⟨.text, ['é'], ⟨0, 1, 1⟩⟩, ⟨.marker .expressionOpen, ['«', '\n'], ⟨2, 1, 3⟩⟩,
        ⟨.text, ['x'], ⟨5, 2, 1⟩⟩, ⟨.marker .expressionClose, ['»'], ⟨6, 2, 2⟩⟩] := by
    cbv
  exact ⟨scanned, scan_counted scanned [_, _, _] _ [] rfl⟩

end Token

end Stencil
