import Stencil.Proofs.Source.Tokens

/-!
# Which marker is recognised

Delimiters may be equal, or one may be the start of another. The marker that is recognised is the
first in the order whose delimiter is the longest that the text starts with
(`Markers.match?_eq_some_iff`), and one is recognised wherever a delimiter starts
(`Markers.match?_eq_none_iff`). An empty delimiter starts nowhere.
-/

namespace Stencil

namespace Markers

variable {m : Markers} {marker marker' : Marker} {delimiter delimiter' text : List Char}

/-- The text starts with a delimiter. -/
def Begins (m : Markers) (text : List Char) : Prop :=
  ∃ marker, (m.delimiter marker).toList ≠ [] ∧ (m.delimiter marker).toList <+: text

/-- The marker that counts where several delimiters may start: its delimiter is the longest of them,
and it is the first marker that has this delimiter. -/
structure Recognised (m : Markers) (marker : Marker) (delimiter text : List Char) : Prop where
  own : (m.delimiter marker).toList = delimiter
  nonempty : delimiter ≠ []
  here : delimiter <+: text
  longest : ∀ other, (m.delimiter other).toList <+: text →
    (m.delimiter other).toList.length ≤ delimiter.length
  first : ∀ other, (m.delimiter other).toList = delimiter →
    order.idxOf marker ≤ order.idxOf other

theorem mem_order (marker : Marker) : marker ∈ order := by
  cases marker <;> decide

theorem Recognised.begins (h : m.Recognised marker delimiter text) : m.Begins text :=
  ⟨marker, by rw [h.own]; exact h.nonempty, by rw [h.own]; exact h.here⟩

/-- At most one marker is recognised. -/
theorem Recognised.unique (h : m.Recognised marker delimiter text)
    (h' : m.Recognised marker' delimiter' text) : marker = marker' ∧ delimiter = delimiter' := by
  have shorter : delimiter.length ≤ delimiter'.length := by
    have bound := h'.longest marker
    rw [h.own] at bound
    exact bound h.here
  have longer : delimiter'.length ≤ delimiter.length := by
    have bound := h.longest marker'
    rw [h'.own] at bound
    exact bound h'.here
  have same : delimiter = delimiter' :=
    (List.prefix_of_prefix_length_le h.here h'.here shorter).eq_of_length
      (Nat.le_antisymm shorter longer)
  subst same
  have position : order.idxOf marker = order.idxOf marker' :=
    Nat.le_antisymm (h.first marker' h'.own) (h'.first marker h.own)
  exact ⟨(List.idxOf_inj (mem_order marker)).1 position, rfl⟩

theorem length_le_of_mem {c d : Marker × List Char} {before after : List (Marker × List Char)}
    (shorter : ∀ d ∈ before, d.2.length < c.2.length)
    (short : ∀ d ∈ after, d.2.length ≤ c.2.length) (h : d ∈ before ++ c :: after) :
    d.2.length ≤ c.2.length := by
  rw [List.mem_append, List.mem_cons] at h
  rcases h with earlier | rfl | later
  · exact Nat.le_of_lt (shorter d earlier)
  · exact Nat.le_refl _
  · exact short d later

/-- The one that is chosen is longer than all candidates before it, and no candidate after it is
longer. A candidate to begin with is the very first. -/
theorem foldl_longer_eq_some {c : Marker × List Char} {candidates : List (Marker × List Char)}
    {best : Option (Marker × List Char)} (h : candidates.foldl longer best = some c) :
    ∃ before after, best.toList ++ candidates = before ++ c :: after ∧
      (∀ d ∈ before, d.2.length < c.2.length) ∧ ∀ d ∈ after, d.2.length ≤ c.2.length := by
  induction candidates generalizing best with
  | nil => exact ⟨[], [], by simp [show best = some c from h], by simp, by simp⟩
  | cons d candidates ih =>
      cases best with
      | none => exact ih h
      | some b =>
          rw [List.foldl_cons, longer] at h
          split at h
          · next isLonger =>
            obtain ⟨before, after, eq, shorter, short⟩ := ih h
            have notShorter : d.2.length ≤ c.2.length :=
              length_le_of_mem shorter short (eq ▸ List.mem_cons_self)
            refine ⟨b :: before, after, congrArg (b :: ·) eq, ?_, short⟩
            exact List.forall_mem_cons.2 ⟨Nat.lt_of_lt_of_le isLonger notShorter, shorter⟩
          · next isShort =>
            have notLonger : d.2.length ≤ b.2.length := Nat.le_of_not_lt isShort
            obtain ⟨before, after, eq, shorter, short⟩ := ih h
            cases before with
            | nil =>
                cases eq
                exact ⟨[], d :: candidates, rfl, by simp, List.forall_mem_cons.2 ⟨notLonger, short⟩⟩
            | cons b' before =>
                cases eq
                have first := shorter b List.mem_cons_self
                refine ⟨b :: d :: before, after, rfl, ?_, short⟩
                rw [List.forall_mem_cons, List.forall_mem_cons] at *
                exact ⟨first, Nat.lt_of_le_of_lt notLonger first, shorter.2⟩

theorem foldl_longer_eq_none {candidates : List (Marker × List Char)}
    {best : Option (Marker × List Char)} (h : candidates.foldl longer best = none) :
    best = none ∧ candidates = [] := by
  induction candidates generalizing best with
  | nil => exact ⟨h, rfl⟩
  | cons d candidates ih =>
      have none := (ih h).1
      cases best with
      | none => cases none
      | some b =>
          rw [longer] at none
          split at none <;> cases none

theorem mem_matching (h : (m.delimiter marker).toList ≠ [])
    (here : (m.delimiter marker).toList <+: text) :
    (marker, (m.delimiter marker).toList) ∈ m.matching text := by
  refine List.mem_filter.2 ⟨List.mem_map.2 ⟨marker, mem_order marker, rfl⟩, ?_⟩
  simpa [List.isPrefixOf_iff_prefix] using ⟨by simpa using h, here⟩

theorem matching_inOrder (m : Markers) (text : List Char) :
    (m.matching text).Pairwise fun c d => order.idxOf c.1 ≤ order.idxOf d.1 := by
  have inOrder : order.Pairwise fun x y => order.idxOf x ≤ order.idxOf y := by decide
  refine List.Pairwise.filter _ (List.pairwise_map.2 ?_)
  exact inOrder

theorem recognised_of_match? (h : m.match? text = some (marker, delimiter)) :
    m.Recognised marker delimiter text := by
  obtain ⟨own, nonempty, here⟩ := of_match? h
  obtain ⟨before, after, eq, shorter, short⟩ := foldl_longer_eq_some h
  rw [Option.toList_none, List.nil_append] at eq
  have longest : ∀ other, (m.delimiter other).toList <+: text →
      (m.delimiter other).toList.length ≤ delimiter.length := by
    intro other otherHere
    by_cases isEmpty : (m.delimiter other).toList = []
    · simp [isEmpty]
    · have candidate := mem_matching isEmpty otherHere
      rw [eq] at candidate
      exact length_le_of_mem shorter short candidate
  refine ⟨own.symm, nonempty, here, longest, ?_⟩
  intro other sameDelimiter
  have candidate : (other, (m.delimiter other).toList) ∈ m.matching text :=
    mem_matching (by rw [sameDelimiter]; exact nonempty) (by rw [sameDelimiter]; exact here)
  have inOrder := matching_inOrder m text
  rw [eq, List.pairwise_append, List.pairwise_cons] at inOrder
  rw [eq, List.mem_append, List.mem_cons] at candidate
  rcases candidate with earlier | same | later
  · have less := shorter _ earlier
    rw [sameDelimiter] at less
    exact absurd less (Nat.lt_irrefl _)
  · cases same
    exact Nat.le_refl _
  · exact inOrder.2.1.1 _ later

theorem match?_eq_none_iff : m.match? text = none ↔ ¬ m.Begins text := by
  constructor
  · rintro found ⟨marker, nonempty, here⟩
    have candidate := mem_matching nonempty here
    rw [(foldl_longer_eq_none found).2] at candidate
    cases candidate
  · intro nowhere
    cases found : m.match? text with
    | none => rfl
    | some c => exact absurd (recognised_of_match? found).begins nowhere

theorem match?_eq_some_iff :
    m.match? text = some (marker, delimiter) ↔ m.Recognised marker delimiter text := by
  constructor
  · exact recognised_of_match?
  · intro recognised
    cases found : m.match? text with
    | none => exact absurd recognised.begins (match?_eq_none_iff.1 found)
    | some c =>
        obtain ⟨rfl, rfl⟩ := (recognised_of_match? found).unique recognised
        rfl

/-- The start of one delimiter is another. -/
example : ({ block := ⟨"<%", "%>"⟩, expression := ⟨"<", ">"⟩ } : Markers).match? "<% x".toList =
    some (.blockOpen, ['<', '%']) := by
  cbv

end Markers

end Stencil
