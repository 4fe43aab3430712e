import Stencil.Part
import Stencil.Proofs.Source.Tokens

/-!
# The parts of a source, one token after another

A tree is built by adding one token after another to what has been built (`Progress.build_eq`). It
depends on what the tokens are and not on where they stand, and a build that has closed all its
blocks goes on as at the start, behind the parts that it has made (`Progress.build_rebase`). Text
in front of the tokens of a source becomes part of its first text, if it starts with one
(`Progress.build_glue`).
-/

namespace Stencil

mutual

/-- Two parts that differ in nothing but their places. -/
inductive Part.Same : Part → Part → Prop
  | text (text : List Char) : Part.Same (.text text) (.text text)
  | statements (code : List Char) (place place' : Place) :
      Part.Same (.statements code place) (.statements code place')
  | expression (code : List Char) (place place' : Place) :
      Part.Same (.expression code place) (.expression code place')
  | block (header : List Char) (place place' : Place) {body body' : List Part}
      (same : Part.SameAll body body') :
      Part.Same (.block header place body) (.block header place' body')

inductive Part.SameAll : List Part → List Part → Prop
  | nil : Part.SameAll [] []
  | cons {part part' : Part} {parts parts' : List Part} (first : Part.Same part part')
      (rest : Part.SameAll parts parts') : Part.SameAll (part :: parts) (part' :: parts')

end

namespace Part

variable {parts parts' base base' : List Part} {blocks blocks' : List OpenBlock}

theorem SameAll.append {qs qs' : List Part} :
    ∀ {ps ps' : List Part}, SameAll ps ps' → SameAll qs qs' → SameAll (ps ++ qs) (ps' ++ qs')
  | _, _, .nil, more => more
  | _, _, .cons first rest, more => .cons first (rest.append more)

theorem SameAll.reverse :
    ∀ {ps ps' : List Part}, SameAll ps ps' → SameAll ps.reverse ps'.reverse
  | _, _, .nil => .nil
  | _, _, .cons first rest => by
    rw [List.reverse_cons, List.reverse_cons]
    exact rest.reverse.append (.cons first .nil)

theorem SameAll.addText (same : SameAll parts parts') (text : List Char) :
    SameAll (addText text parts) (addText text parts') := by
  rw [Part.addText, Part.addText]
  split
  · exact same
  · exact .cons (.text text) same

theorem addText_append (text : List Char) (parts base : List Part) :
    addText text (parts ++ base) = addText text parts ++ base := by
  rw [addText, addText]
  split <;> rfl

theorem ofCode_same (opening opening' : Token) (closing : Marker) (code : List Char) :
    Same (ofCode opening closing code) (ofCode opening' closing code) := by
  rw [ofCode, ofCode]
  split
  · exact .statements code _ _
  · exact .expression code _ _

/-- Two builds that have done the same since the one had built `base` and the other `base'`: their
open blocks and the parts at the innermost level. -/
inductive Level (base base' : List Part) :
    List OpenBlock → List Part → List OpenBlock → List Part → Prop
  | outermost {parts parts' : List Part} (same : SameAll parts parts') :
      Level base base' [] (parts ++ base) [] (parts' ++ base')
  | inside {b b' : OpenBlock} {blocks blocks' : List OpenBlock} {parts parts' : List Part}
      (header : b.header = b'.header) (same : SameAll parts parts')
      (outer : Level base base' blocks b.before blocks' b'.before) :
      Level base base' (b :: blocks) parts (b' :: blocks') parts'

namespace Level

theorem add {part part' : Part} (same : Same part part')
    (h : Level base base' blocks parts blocks' parts') :
    Level base base' blocks (part :: parts) blocks' (part' :: parts') := by
  cases h with
  | outermost rest => exact .outermost (.cons same rest)
  | inside header rest outer => exact .inside header (.cons same rest) outer

theorem addText (text : List Char) (h : Level base base' blocks parts blocks' parts') :
    Level base base' blocks (addText text parts) blocks' (addText text parts') := by
  cases h with
  | outermost same =>
      rw [addText_append, addText_append]
      exact .outermost (same.addText text)
  | inside header same outer => exact .inside header (same.addText text) outer

/-- A block is opened by its header, and its content may start with text. -/
theorem enter (start start' : Place) (header text : List Char) (place place' : Place)
    (h : Level base base' blocks parts blocks' parts') :
    Level base base' (⟨start, header, place, parts⟩ :: blocks) (Part.addText text [])
      (⟨start', header, place', parts'⟩ :: blocks') (Part.addText text []) :=
  .inside rfl (SameAll.nil.addText text) h

end Level

inductive SameExpecting : Expecting → Expecting → Prop
  | part : SameExpecting .part .part
  | code (opening opening' : Token) (closing : Marker) (read : List (List Char)) :
      SameExpecting (.code opening closing read) (.code opening' closing read)
  | header (opening opening' : Token) : SameExpecting (.header opening) (.header opening')

end Part

structure Progress where
  blocks : List OpenBlock
  parts : List Part
  expecting : Expecting

namespace Progress

def next (s : Progress) (t : Token) : Except Flaw Progress :=
  match s.expecting with
  | .code opening closing read =>
    if t.kind = .marker closing then
      .ok ⟨s.blocks, Part.ofCode opening closing read.reverse.flatten :: s.parts, .part⟩
    else .ok ⟨s.blocks, s.parts, .code opening closing (t.text :: read)⟩
  | .header opening =>
    if t.kind = .text ∧ Text.trim (Part.headerLine t.text) ≠ [] then
      .ok ⟨⟨opening.start.toPlace, Part.headerLine t.text, opening.contentPlace, s.parts⟩ :: s.blocks,
        Part.addText (Part.afterHeader t.text) [], .part⟩
    else .error (Part.missingHeader opening)
  | .part =>
    match t.kind with
    | .text => .ok ⟨s.blocks, Part.addText t.text s.parts, .part⟩
    | .marker .statementOpen => .ok ⟨s.blocks, s.parts, .code t .statementClose []⟩
    | .marker .expressionOpen => .ok ⟨s.blocks, s.parts, .code t .expressionClose []⟩
    | .marker .blockOpen => .ok ⟨s.blocks, s.parts, .header t⟩
    | .marker .blockClose =>
      match s.blocks with
      | b :: blocks => .ok ⟨blocks, .block b.header b.place s.parts.reverse :: b.before, .part⟩
      | [] => .error (Part.nothingToClose t)
    | .marker .statementClose => .error (Part.nothingToClose t)
    | .marker .expressionClose => .error (Part.nothingToClose t)

def finish (m : Markers) (s : Progress) : Except Flaw (List Part) :=
  Part.atEnd m s.blocks s.parts s.expecting

/-- A tree is built one token after another. -/
theorem build_eq (m : Markers) (ts : List Token) (s : Progress) :
    Part.build m s.blocks s.parts s.expecting ts = ts.foldlM next s >>= finish m := by
  induction ts generalizing s with
  | nil => rfl
  | cons t ts ih =>
      obtain ⟨blocks, parts, expecting⟩ := s
      rw [List.foldlM_cons, bind_assoc, Part.build.eq_def, next]
      cases expecting with
      | code opening closing read =>
          dsimp only
          split
          · exact ih ⟨_, _, _⟩
          · exact ih ⟨_, _, _⟩
      | header opening =>
          dsimp only
          split
          · exact ih ⟨_, _, _⟩
          · rfl
      | part =>
          obtain ⟨kind, text, place⟩ := t
          cases kind with
          | text => exact ih ⟨blocks, Part.addText text parts, .part⟩
          | marker marker =>
              cases marker with
              | statementOpen => exact ih ⟨blocks, parts, .code ⟨_, text, place⟩ .statementClose []⟩
              | expressionOpen => exact ih ⟨blocks, parts, .code ⟨_, text, place⟩ .expressionClose []⟩
              | blockOpen => exact ih ⟨blocks, parts, .header ⟨_, text, place⟩⟩
              | blockClose =>
                  cases blocks with
                  | nil => rfl
                  | cons b blocks =>
                      exact ih ⟨blocks, .block b.header b.place parts.reverse :: b.before, .part⟩
              | statementClose => rfl
              | expressionClose => rfl

/-- A build that ends, perhaps with one more text, has closed everything. -/
theorem eq_of_finish_flush {m : Markers} {s : Progress} {pending : Option PendingText}
    {built : List Part} (h : (Token.flush pending).foldlM next s >>= finish m = .ok built) :
    s = ⟨[], s.parts, .part⟩ ∧
      built = (Part.addText ((Token.heldText pending).getD []) s.parts).reverse := by
  obtain ⟨blocks, parts, expecting⟩ := s
  cases pending with
  | none =>
      cases expecting with
      | code => cases h
      | header => cases h
      | part =>
          cases blocks with
          | nil =>
              cases h
              exact ⟨rfl, rfl⟩
          | cons => cases h
  | some p =>
      cases expecting with
      | code => cases h
      | header =>
          rw [Token.flush, List.foldlM_cons, next] at h
          dsimp only at h
          split at h
          · cases h
          · cases h
      | part =>
          cases blocks with
          | nil =>
              cases h
              exact ⟨rfl, rfl⟩
          | cons => cases h

variable {base base' : List Part} {s s' u : Progress} {t t' : Token}

/-- Two builds that have done the same since the one had built `base` and the other `base'`. -/
structure Rebased (base base' : List Part) (s s' : Progress) : Prop where
  level : Part.Level base base' s.blocks s.parts s'.blocks s'.parts
  expecting : Part.SameExpecting s.expecting s'.expecting

theorem rebased_start (base base' : List Part) :
    Rebased base base' ⟨[], base, .part⟩ ⟨[], base', .part⟩ :=
  ⟨.outermost .nil, .part⟩

/-- A token adds the same to both builds, wherever it stands. -/
theorem Rebased.next (h : Rebased base base' s s') (token : t'.bare = t.bare)
    (ok : s.next t = .ok u) : ∃ u', s'.next t' = .ok u' ∧ Rebased base base' u u' := by
  obtain ⟨blocks, parts, expecting⟩ := s
  obtain ⟨blocks', parts', expecting'⟩ := s'
  obtain ⟨level, expected⟩ := h
  obtain ⟨kind, text⟩ := Prod.mk.inj token
  dsimp only at level expected
  rw [Progress.next] at ok ⊢
  cases expected with
  | code opening opening' closing read =>
      simp only [kind, text] at ok ⊢
      split at ok
      · next isClosing =>
        cases ok
        exact ⟨_, if_pos isClosing, level.add (Part.ofCode_same opening opening' closing _), .part⟩
      · next isOther =>
        cases ok
        exact ⟨_, if_neg isOther, level, .code opening opening' closing _⟩
  | header opening opening' =>
      simp only [kind, text] at ok ⊢
      split at ok
      · next isHeader =>
        cases ok
        exact ⟨_, if_pos isHeader, level.enter _ _ _ _ _ _, .part⟩
      · cases ok
  | part =>
      simp only [kind, text] at ok ⊢
      split at ok
      · cases ok
        exact ⟨_, rfl, level.addText _, .part⟩
      · cases ok
        exact ⟨_, rfl, level, .code t t' .statementClose []⟩
      · cases ok
        exact ⟨_, rfl, level, .code t t' .expressionClose []⟩
      · cases ok
        exact ⟨_, rfl, level, .header t t'⟩
      · cases level with
        | outermost => cases ok
        | inside header same outer =>
            cases ok
            simp only [header]
            exact ⟨_, rfl, outer.add (.block _ _ _ same.reverse), .part⟩
      · cases ok
      · cases ok

/-- Tokens add the same to both builds, wherever they stand. -/
theorem Rebased.foldlM {ts ts' : List Token} (h : Rebased base base' s s')
    (tokens : ts'.map Token.bare = ts.map Token.bare) (ok : ts.foldlM Progress.next s = .ok u) :
    ∃ u', ts'.foldlM Progress.next s' = .ok u' ∧ Rebased base base' u u' := by
  induction ts generalizing ts' s s' with
  | nil =>
      obtain rfl : ts' = [] := by simpa using tokens
      cases ok
      exact ⟨s', rfl, h⟩
  | cons t ts ih =>
      obtain ⟨t', ts', rfl, first, rest⟩ := List.map_eq_cons_iff.1 tokens
      rw [List.foldlM_cons] at ok
      obtain ⟨v, ran, more⟩ := bind_eq_ok.1 ok
      obtain ⟨v', ran', rebased⟩ := h.next first ran
      obtain ⟨u', more', last⟩ := ih rebased rest more
      refine ⟨u', ?_, last⟩
      rw [List.foldlM_cons, ran']
      exact more'

theorem Rebased.finish {m : Markers} {built : List Part} (h : Rebased base base' s s')
    (ok : s.finish m = .ok built) :
    ∃ own own', Part.SameAll own own' ∧ built = base.reverse ++ own ∧
      s'.finish m = .ok (base'.reverse ++ own') := by
  obtain ⟨blocks, parts, expecting⟩ := s
  obtain ⟨blocks', parts', expecting'⟩ := s'
  obtain ⟨level, expected⟩ := h
  dsimp only at level expected
  rw [Progress.finish] at ok ⊢
  cases expected with
  | code => cases ok
  | header => cases ok
  | part =>
      cases level with
      | inside => cases ok
      | outermost same =>
          cases ok
          exact ⟨_, _, same.reverse, by simp, by simp [Part.atEnd]⟩

/-- What is built from some tokens depends neither on their places nor on what has been built before
them. -/
theorem build_rebase {m : Markers} {ts ts' : List Token} {built : List Part}
    (tokens : ts'.map Token.bare = ts.map Token.bare) (base base' : List Part)
    (ok : Part.build m [] base .part ts = .ok built) :
    ∃ own own', Part.SameAll own own' ∧ built = base.reverse ++ own ∧
      Part.build m [] base' .part ts' = .ok (base'.reverse ++ own') := by
  rw [build_eq m ts ⟨[], base, .part⟩] at ok
  rw [build_eq m ts' ⟨[], base', .part⟩]
  obtain ⟨u, ran, finished⟩ := bind_eq_ok.1 ok
  obtain ⟨u', ran', rebased⟩ := (rebased_start base base').foldlM tokens ran
  obtain ⟨own, own', same, eq, finished'⟩ := rebased.finish finished
  exact ⟨own, own', same, eq, bind_eq_ok.2 ⟨u', ran', finished'⟩⟩

/-- Where a source could end, everything is closed: further tokens are built behind the parts so
far, of which the pending text is the last if it comes to that. -/
theorem build_append {m : Markers} {ts : List Token} {pending : Option PendingText}
    {built : List Part} (ok : Part.build m [] [] .part (ts ++ Token.flush pending) = .ok built) :
    ∃ parts, built = (Part.addText ((Token.heldText pending).getD []) parts).reverse ∧
      ∀ us, Part.build m [] [] .part (ts ++ us) = Part.build m [] parts .part us := by
  rw [build_eq m _ ⟨[], [], .part⟩, List.foldlM_append, bind_assoc] at ok
  obtain ⟨s, ran, ended⟩ := bind_eq_ok.1 ok
  obtain ⟨closed, eq⟩ := eq_of_finish_flush ended
  refine ⟨s.parts, eq, ?_⟩
  intro us
  rw [build_eq m _ ⟨[], [], .part⟩, build_eq m us ⟨[], s.parts, .part⟩, List.foldlM_append, ran,
    ← closed]
  rfl

theorem build_text {m : Markers} {blocks : List OpenBlock} {parts : List Part} {t : Token}
    (isText : t.kind = .text) (ts : List Token) :
    Part.build m blocks parts .part (t :: ts) =
      Part.build m blocks (Part.addText t.text parts) .part ts := by
  rw [Part.build.eq_def]
  simp only [isText]

/-- Text in front of tokens is a part in front of theirs. -/
theorem build_front {m : Markers} {ts ts' : List Token} {text : List Char} {built : List Part}
    (tokens : ts'.map Token.bare = (.text, text) :: ts.map Token.bare)
    (ok : Part.build m [] [] .part ts = .ok built) (parts : List Part) :
    ∃ own, Part.SameAll built own ∧ Part.build m [] parts .part ts' =
      .ok ((Part.addText text parts).reverse ++ own) := by
  obtain ⟨t', ts', rfl, first, rest⟩ := List.map_eq_cons_iff.1 tokens
  obtain ⟨kind, rfl⟩ := Prod.mk.inj first
  obtain ⟨own, own', same, rfl, built'⟩ := build_rebase rest [] (Part.addText t'.text parts) ok
  exact ⟨own', same, by rw [build_text kind, built']⟩

/-- Text in front of tokens is a part in front of theirs, or it is joined with the text that they
start with. -/
theorem build_glue {m : Markers} {pre : Option (List Char)} {ts ts' : List Token}
    {built : List Part} (tokens : ts'.map Token.bare = Token.glue pre (ts.map Token.bare))
    (ok : Part.build m [] [] .part ts = .ok built) (parts : List Part) :
    (∃ own, Part.SameAll built own ∧ Part.build m [] parts .part ts' =
        .ok ((Part.addText (pre.getD []) parts).reverse ++ own)) ∨
      ∃ a b own own', pre = some a ∧ a ≠ [] ∧ built = .text b :: own ∧ Part.SameAll own own' ∧
        Part.build m [] parts .part ts' = .ok (parts.reverse ++ .text (a ++ b) :: own') := by
  cases pre with
  | none =>
      obtain ⟨own, own', same, rfl, built'⟩ := build_rebase tokens [] parts ok
      exact .inl ⟨own', same, built'⟩
  | some a =>
      match ts with
      | [] => exact .inl (build_front tokens ok parts)
      | ⟨.marker marker, text, place⟩ :: ts => exact .inl (build_front tokens ok parts)
      | ⟨.text, b, place⟩ :: ts =>
          obtain ⟨t', ts', rfl, first, rest⟩ := List.map_eq_cons_iff.1 tokens
          obtain ⟨kind, text⟩ := Prod.mk.inj first
          rw [build_text rfl] at ok
          obtain ⟨own, own', same, rfl, built'⟩ :=
            build_rebase rest (Part.addText b []) (Part.addText (a ++ b) parts) ok
          rw [build_text kind, text, built']
          by_cases emptyB : b = []
          · subst emptyB
            exact .inl ⟨own', same, by rw [List.append_nil]; rfl⟩
          · have partB (qs : List Part) : Part.addText b qs = .text b :: qs := by
              simp [Part.addText, emptyB]
            have partAB : Part.addText (a ++ b) parts = .text (a ++ b) :: parts := by
              simp [Part.addText, emptyB]
            rw [partB, partAB]
            by_cases emptyA : a = []
            · subst emptyA
              exact .inl ⟨.text b :: own', .cons (.text b) same, by simp [Part.addText]⟩
            · exact .inr ⟨a, b, own, own', rfl, emptyA, rfl, same, by simp⟩

end Progress

end Stencil
