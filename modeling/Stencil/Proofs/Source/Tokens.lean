import Mathlib
import Stencil.Proofs.Attempts
import Stencil.Token

/-!
# Cutting a source in two

Where no delimiter reaches out of the first part of a source, the source is cut there as if it ended
there, and cutting goes on in the second part with whatever text is still pending
(`Token.scanFrom_append`). The second part is then cut as it would be on its own, but for the places
of its tokens and the text that is put in front of its first one (`Token.scanFrom_glue`).
-/

namespace Stencil

namespace Markers

variable {m : Markers} {a : Char} {as bs text : List Char}

/-- No delimiter that starts in the first text reaches into the second. An empty one never does. -/
def Apart (m : Markers) (as bs : List Char) : Prop :=
  ∀ marker n, n < as.length → (m.delimiter marker).toList <+: (as ++ bs).drop n →
    n + (m.delimiter marker).toList.length ≤ as.length

theorem Apart.tail (h : m.Apart (a :: as) bs) : m.Apart as bs := by
  intro marker n inside found
  have reaches := h marker (n + 1) (by simpa using inside) (by simpa using found)
  rw [List.length_cons] at reaches
  omega

/-- What is recognised in front of such a border does not depend on what follows it. -/
theorem match?_append (h : m.Apart (a :: as) bs) :
    m.match? (a :: as ++ bs) = m.match? (a :: as) := by
  rw [match?, match?]
  congr 1
  rw [matching, matching]
  refine List.filter_congr ?_
  rintro _ candidate
  obtain ⟨marker, -, rfl⟩ := List.mem_map.1 candidate
  congr 1
  rw [Bool.eq_iff_iff, List.isPrefixOf_iff_prefix, List.isPrefixOf_iff_prefix]
  constructor
  · intro found
    have short := h marker 0 (by simp) (by simpa using found)
    exact List.prefix_of_prefix_length_le found (List.prefix_append _ bs) (by simpa using short)
  · intro found
    exact found.trans (List.prefix_append _ bs)

theorem mem_of_foldl_longer {c : Marker × List Char} :
    ∀ (candidates : List (Marker × List Char)) {best : Option (Marker × List Char)},
      candidates.foldl longer best = some c → c ∈ candidates ∨ best = some c
  | [], _, h => .inr h
  | d :: candidates, best, h => by
    rcases mem_of_foldl_longer candidates h with later | kept
    · exact .inl (List.mem_cons_of_mem d later)
    · cases best with
      | none =>
          cases kept
          exact .inl List.mem_cons_self
      | some b =>
          rw [longer] at kept
          split at kept
          · cases kept
            exact .inl List.mem_cons_self
          · exact .inr kept

/-- A marker that is recognised is one of the six, it is there, and it is not empty. -/
theorem of_match? {marker : Marker} {delimiter : List Char}
    (h : m.match? text = some (marker, delimiter)) :
    delimiter = (m.delimiter marker).toList ∧ delimiter ≠ [] ∧ delimiter <+: text := by
  rcases mem_of_foldl_longer _ h with found | found
  · rw [matching, List.mem_filter, List.mem_map] at found
    obtain ⟨⟨marker', -, eq⟩, here⟩ := found
    cases eq
    simpa [List.isPrefixOf_iff_prefix] using here
  · cases found

end Markers

namespace Token

variable {m : Markers}

/-- A token without its place. -/
def bare (t : Token) : TokenKind × List Char := (t.kind, t.text)

/-- The text that is pending, if there is any. -/
def heldText (pending : Option PendingText) : Option (List Char) := pending.map (·.chars.reverse)

/-- Tokens with some text in front of them, which joins the text that they start with. -/
def glue : Option (List Char) → List (TokenKind × List Char) → List (TokenKind × List Char)
  | none, ts => ts
  | some text, (.text, next) :: ts => (.text, text ++ next) :: ts
  | some text, ts => (.text, text) :: ts

@[simp] theorem glue_none (ts : List (TokenKind × List Char)) : glue none ts = ts := rfl

theorem glue_marker (held : Option (List Char)) (marker : Marker) (text : List Char)
    (ts : List (TokenKind × List Char)) :
    glue held ((.marker marker, text) :: ts) = glue held [] ++ (.marker marker, text) :: ts := by
  cases held <;> rfl

/-- Text in front of text is one text in front of the rest. -/
theorem glue_merge (a b : Option (List Char)) (ts : List (TokenKind × List Char)) :
    glue (Option.merge (· ++ ·) a b) ts = glue a (glue b ts) := by
  cases a with
  | none => cases b <;> rfl
  | some x =>
      cases b with
      | none => rfl
      | some y =>
          match ts with
          | [] => rfl
          | (.text, t) :: ts => simp [Option.merge, glue]
          | (.marker marker, t) :: ts => rfl

theorem map_bare_flush (pending : Option PendingText) :
    (flush pending).map bare = glue (heldText pending) [] := by
  cases pending <;> rfl

theorem heldText_hold (pending : Option PendingText) (place : Location) (c : Char) :
    heldText (hold pending place c) = Option.merge (· ++ ·) (heldText pending) (some [c]) := by
  cases pending with
  | none => rfl
  | some p => simp [heldText, hold, Option.merge]

theorem heldText_merge_none (pending : Option PendingText) :
    heldText pending = Option.merge (· ++ ·) (heldText pending) (heldText none) := by
  cases pending <;> rfl

/-- Holding a further character keeps the text that was in front. -/
theorem heldText_hold_merge {pre : Option (List Char)} {pending pending' : Option PendingText}
    (h : heldText pending' = Option.merge (· ++ ·) pre (heldText pending))
    (place place' : Location) (c : Char) :
    heldText (hold pending' place' c) =
      Option.merge (· ++ ·) pre (heldText (hold pending place c)) := by
  rw [heldText_hold, heldText_hold, h]
  cases pre <;> cases heldText pending <;> simp [Option.merge]

/-- How a text is cut does not depend on where it stands, and text in front of it joins the text
that it starts with. -/
theorem scanFrom_glue {pre : Option (List Char)} {cs : List Char} {skip : Nat}
    {opened opened' : Option Location} {pending pending' : Option PendingText}
    {place : Location} (place' : Location) {ts : List Token}
    (strings : opened'.isSome = opened.isSome)
    (held : heldText pending' = Option.merge (· ++ ·) pre (heldText pending))
    (scanned : scanFrom m skip opened pending place cs = .ok ts) :
    ∃ ts', scanFrom m skip opened' pending' place' cs = .ok ts' ∧
      ts'.map bare = glue pre (ts.map bare) := by
  induction cs generalizing pre skip opened opened' pending pending' place place' ts with
  | nil =>
      cases opened with
      | some quote => cases scanned
      | none =>
          obtain rfl : opened' = none := by simpa using strings
          cases scanned
          exact ⟨flush pending', rfl, by rw [map_bare_flush, map_bare_flush, held, glue_merge]⟩
  | cons c cs ih =>
      cases skip with
      | succ skip => exact ih (place'.advance c) strings held scanned
      | zero =>
          rw [scanFrom] at scanned ⊢
          split at scanned
          · next isQuote =>
            rw [if_pos isQuote]
            refine ih (place'.advance c) ?_ (heldText_hold_merge held place place' c) scanned
            cases opened <;> cases opened' <;> simp_all
          · next notQuote =>
            rw [if_neg notQuote, strings]
            split at scanned
            · next marker text found =>
              obtain ⟨rest, more, eq⟩ := bind_eq_ok.1 scanned
              cases eq
              have again : ∃ rest', scanFrom m (text.length - 1) none none (place'.advance c) cs =
                  .ok rest' ∧ rest'.map bare = glue none (rest.map bare) :=
                ih (place'.advance c) rfl rfl more
              obtain ⟨rest', more', same⟩ := again
              refine ⟨flush pending' ++ ⟨.marker marker, text, place'⟩ :: rest', ?_, ?_⟩
              · rw [more']
                rfl
              · rw [glue_none] at same
                simp only [List.map_append, List.map_cons, map_bare_flush, same, held]
                rw [bare, bare, ← glue_marker, ← glue_marker, glue_merge]
            · exact ih (place'.advance c) strings (heldText_hold_merge held place place' c) scanned

/-- Cutting a source is cutting its first part, up to the text that is pending at its end, and going
on from there. -/
theorem scanFrom_append {as bs : List Char} {skip : Nat} {opened : Option Location}
    {pending : Option PendingText} {place : Location} {ts : List Token}
    (apart : m.Apart as bs) (within : skip ≤ as.length)
    (scanned : scanFrom m skip opened pending place as = .ok ts) :
    ∃ ts₀ pending', ts = ts₀ ++ flush pending' ∧
      scanFrom m skip opened pending place (as ++ bs) =
        (scanFrom m 0 none pending' (place.after as) bs).map (ts₀ ++ ·) := by
  induction as generalizing skip opened pending place ts with
  | nil =>
      obtain rfl : skip = 0 := by simpa using within
      cases opened with
      | some quote => cases scanned
      | none =>
          cases scanned
          refine ⟨[], pending, rfl, ?_⟩
          cases h : scanFrom m 0 none pending place bs <;> simp [h, Except.map]
  | cons a as ih =>
      cases skip with
      | succ skip => exact ih apart.tail (by simpa using within) scanned
      | zero =>
          have recognised := Markers.match?_append apart
          rw [List.cons_append] at recognised
          rw [List.cons_append, scanFrom]
          rw [scanFrom] at scanned
          split at scanned
          · next isQuote =>
            rw [if_pos isQuote]
            exact ih apart.tail (Nat.zero_le _) scanned
          · next notQuote =>
            rw [if_neg notQuote, recognised]
            split at scanned
            · next marker text found =>
              obtain ⟨rest, more, eq⟩ := bind_eq_ok.1 scanned
              cases eq
              have short : text.length - 1 ≤ as.length := by
                split at found
                · cases found
                · have here := (Markers.of_match? found).2.2.length_le
                  rw [List.length_cons] at here
                  omega
              obtain ⟨ts₀, pending', rfl, continued⟩ := ih apart.tail short more
              refine ⟨flush pending ++ ⟨.marker marker, text, place⟩ :: ts₀, pending', by simp, ?_⟩
              rw [continued, Location.after_cons]
              cases scanFrom m 0 none pending' ((place.advance a).after as) bs <;>
                simp [Except.map, bind, Except.bind, pure, Except.pure]
            · exact ih apart.tail (Nat.zero_le _) scanned

end Token

end Stencil
