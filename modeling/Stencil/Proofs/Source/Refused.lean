import Stencil.Proofs.Script.Keeps
import Stencil.Proofs.Source.Fragments
import Stencil.Proofs.Source.Written

/-!
# Where code is refused

The flaw of a template whose code cannot be read is in some code of its parts
(`Program.flawIn_of_ofParts`). That code stands right behind an opening marker of the source, and
its reader gives up somewhere in it (`Script.Error.On`), so the flaw belongs where the source goes
on from there.

It is found there as long as the opening marker is made of characters of one byte each, none of them
a line break. The place where code starts is told by counting the characters of the marker as
columns, while all other columns are bytes, and by staying on the line of the marker; so behind any
other marker the place is missed, at least for what is refused on the first line of the code
(`Program.place_of_refused`).
-/

namespace Stencil

/-! ### The code in some parts -/

/-- Code that is read on its own: the marker that it stands behind, and the place that it is taken
to start at. -/
structure Embedded where
  opens : Marker
  code : List Char
  place : Place

mutual

/-- The code in a part, at any depth. -/
def Part.embedded : Part → List Embedded
  | .text _ => []
  | .statements code place => [⟨.statementOpen, code, place⟩]
  | .expression code place => [⟨.expressionOpen, code, place⟩]
  | .block header place body => ⟨.blockOpen, header, place⟩ :: embeddedAll body

def embeddedAll : List Part → List Embedded
  | [] => []
  | part :: parts => part.embedded ++ embeddedAll parts

end

/-- The flaw that an alternative is where there is no conditional to go on with. -/
def Fragment.orphan? : Fragment → Option Flaw
  | .further _ _ orphan => some orphan
  | .last _ orphan => some orphan
  | _ => none

namespace Program

/-- The reader of what stands behind a marker refuses it with an error, which makes a defect of the
template. -/
inductive Refuses : Marker → List Char → Script.Error → Defect → Prop
  | statements {code : List Char} {e : Script.Error} (h : Script.readStatements code = .error e) :
      Refuses .statementOpen code e (.invalidScript e.defect.message)
  | expression {code : List Char} {e : Script.Error} (h : Script.readExpression code = .error e) :
      Refuses .expressionOpen code e (.invalidScript e.defect.message)
  | header {code : List Char} {e : Script.Error} (h : Script.readHeader code = .error e) :
      Refuses .blockOpen code e (.malformedHeader (headerText code) e.defect.message)

variable {chain : Option Chain} {flaw : Flaw}

theorem Refuses.on {opens : Marker} {code : List Char} {e : Script.Error} {d : Defect}
    (h : Refuses opens code e d) : e.On code := by
  cases h with
  | statements h => exact Script.on_of_readStatements h
  | expression h => exact Script.on_of_readExpression h
  | header h => exact Script.on_of_readHeader h

theorem readCode_eq_error {α : Type} {place : Place} {result : Except Script.Error α} :
    readCode place result = .error flaw ↔
      ∃ e, result = .error e ∧ flaw = ⟨place.locate e, .invalidScript e.defect.message⟩ := by
  cases result <;> simp [readCode, Except.mapError, eq_comm]

theorem readHeader_eq_error {header : List Char} {place : Place} :
    readHeader header place = .error flaw ↔
      ∃ e, Script.readHeader header = .error e ∧
        flaw = ⟨place.locate e, .malformedHeader (headerText header) e.defect.message⟩ := by
  rw [readHeader]
  cases Script.readHeader header <;> simp [Except.mapError, eq_comm]

/-- A flaw of the program of some parts: some code in them that is refused, or an alternative
without a conditional. -/
def FlawIn (codes : List Embedded) (flaw : Flaw) : Prop :=
  (∃ c ∈ codes, ∃ e, Refuses c.opens c.code e flaw.defect ∧ flaw.place = c.place.locate e) ∨
    ∃ header, flaw.defect = .orphanBranch header

theorem FlawIn.mono {codes codes' : List Embedded} (h : FlawIn codes flaw) (more : codes ⊆ codes') :
    FlawIn codes' flaw := by
  rcases h with ⟨c, inside, refused⟩ | orphan
  · exact .inl ⟨c, more inside, refused⟩
  · exact .inr orphan

theorem orphan_of_fragment {part : Part} {f : Fragment} (made : fragment part = .ok f)
    (orphan : f.orphan? = some flaw) : ∃ header, flaw.defect = .orphanBranch header := by
  cases fragment_eq_ok.1 made with
  | text | statements | expression => cases orphan
  | @block _ _ _ h => cases h <;> cases orphan <;> exact ⟨_, rfl⟩

/-- Parts make no program because the first of them adds nothing, or because the others make none
after it. -/
theorem ofParts_cons_error {part : Part} {parts : List Part}
    (h : ofParts chain (part :: parts) = .error flaw) :
    fragment part = .error flaw ∨ (∃ f, fragment part = .ok f ∧ f.orphan? = some flaw) ∨
      ∃ after, ofParts after parts = .error flaw := by
  rw [ofParts, bind_eq_error] at h
  rcases h with first | ⟨f, made, h⟩
  · exact .inl first
  · refine .inr ?_
    have more {after : Option Chain} {g : Program → Except Flaw Program}
        (h : ofParts after parts >>= g = .error flaw) (ok : ∀ p, g p ≠ .error flaw) :
        ∃ after, ofParts after parts = .error flaw := by
      rcases bind_eq_error.1 h with later | ⟨p, -, h⟩
      · exact ⟨after, later⟩
      · exact absurd h (ok p)
    cases f with
    | statements ss => exact .inr (more h fun p eq => by cases eq)
    | start cond body => exact .inr (more h fun p eq => by cases eq)
    | further cond body orphan =>
        cases chain with
        | none =>
            cases h
            exact .inl ⟨_, made, rfl⟩
        | some c => exact .inr ⟨_, h⟩
    | last body orphan =>
        cases chain with
        | none =>
            cases h
            exact .inl ⟨_, made, rfl⟩
        | some c => exact .inr (more h fun p eq => by cases eq)

mutual

theorem flawIn_of_fragment : ∀ {part : Part}, fragment part = .error flaw →
    FlawIn part.embedded flaw
  | .text _, h => by cases h
  | .statements code place, h => by
    have refused : readCode place (Script.readStatements code) = .error flaw := by
      rw [fragment] at h
      cases result : readCode place (Script.readStatements code) with
      | error flaw' =>
          rw [result] at h
          cases h
          rfl
      | ok ss =>
          rw [result] at h
          cases h
    obtain ⟨e, read, rfl⟩ := readCode_eq_error.1 refused
    exact .inl ⟨_, List.mem_singleton_self _, e, .statements read, rfl⟩
  | .expression code place, h => by
    rw [fragment, bind_eq_error] at h
    rcases h with refused | ⟨e, -, h⟩
    · obtain ⟨e, read, rfl⟩ := readCode_eq_error.1 refused
      exact .inl ⟨_, List.mem_singleton_self _, e, .expression read, rfl⟩
    · cases h
  | .block header place body, h => by
    rw [fragment, bind_eq_error] at h
    rcases h with refused | ⟨read, -, h⟩
    · obtain ⟨e, read, rfl⟩ := readHeader_eq_error.1 refused
      exact .inl ⟨_, List.mem_cons_self, e, .header read, rfl⟩
    · rcases bind_eq_error.1 h with inside | ⟨p, -, h⟩
      · exact (flawIn_of_ofParts inside).mono (List.subset_cons_self _ _)
      · cases h

/-- Where some parts make no program, code in them is refused, or an alternative stands alone. -/
theorem flawIn_of_ofParts : ∀ {chain : Option Chain} {parts : List Part},
    ofParts chain parts = .error flaw → FlawIn (embeddedAll parts) flaw
  | _, [], h => by cases h
  | chain, part :: parts, h => by
    rcases ofParts_cons_error h with first | ⟨f, made, orphan⟩ | ⟨after, later⟩
    · exact (flawIn_of_fragment first).mono (List.subset_append_left _ _)
    · exact .inr (orphan_of_fragment made orphan)
    · exact (flawIn_of_ofParts later).mono (List.subset_append_right _ _)

end

end Program

/-! ### Where code stands -/

/-- The code that some tokens begin with behind an opening marker: all up to the marker that closes
it, or the header in the text that comes first. -/
inductive Behind : Marker → List Char → List Token → Prop
  | code {opens closes : Marker} {part : List Char → Place → Part} {inner after : List Token}
      {closing : Token} (pair : Marker.Encloses opens closes part)
      (inside : ∀ t ∈ inner, t.kind ≠ .marker closes) (last : closing.kind = .marker closes) :
      Behind opens (inner.flatMap Token.text) (inner ++ closing :: after)
  | header {header : Token} {after : List Token} (headed : header.IsHeader) :
      Behind .blockOpen (Part.headerLine header.text) (header :: after)

theorem Behind.append {opens : Marker} {code : List Char} {after : List Token}
    (h : Behind opens code after) (more : List Token) : Behind opens code (after ++ more) := by
  cases h with
  | code pair inside last =>
      rw [List.append_assoc]
      exact .code pair inside last
  | header headed => exact .header headed

/-- The code is what the text of the tokens begins with. -/
theorem Behind.isPrefix {opens : Marker} {code : List Char} {after : List Token}
    (h : Behind opens code after) : code <+: after.flatMap Token.text := by
  cases h with
  | code pair inside last =>
      rw [List.flatMap_append]
      exact List.prefix_append _ _
  | @header header after headed =>
      obtain ⟨ending, -, line⟩ := Part.headerLine_afterHeader header.text
      rw [List.flatMap_cons]
      refine List.IsPrefix.trans ?_ (List.prefix_append _ _)
      exact ⟨ending ++ Part.afterHeader header.text, by rw [← List.append_assoc, line]⟩

/-- Code stands behind a marker among the tokens, and is taken to start at its place. -/
def Embedded.Stands (c : Embedded) (ts : List Token) : Prop :=
  ∃ before opening after, ts = before ++ opening :: after ∧ opening.kind = .marker c.opens ∧
    c.place = opening.contentPlace ∧ Behind c.opens c.code after

theorem Embedded.Stands.within {c : Embedded} {ts : List Token} (h : c.Stands ts)
    (first last : List Token) : c.Stands (first ++ ts ++ last) := by
  obtain ⟨before, opening, after, rfl, kind, place, behind⟩ := h
  exact ⟨first ++ before, opening, after ++ last, by simp, kind, place, behind.append last⟩

theorem embeddedAll_append (ps qs : List Part) :
    embeddedAll (ps ++ qs) = embeddedAll ps ++ embeddedAll qs := by
  induction ps with
  | nil => rfl
  | cons part ps ih => simp [embeddedAll, ih]

@[simp] theorem embeddedAll_ofText (text : List Char) : embeddedAll (Part.ofText text) = [] := by
  rw [Part.ofText]
  split <;> rfl

/-- The code in the parts of a document stands among its tokens. -/
theorem stands_of_doc {ts : List Token} {parts : List Part} (doc : Doc ts parts) :
    ∀ c ∈ embeddedAll parts, c.Stands ts := by
  induction doc with
  | nil => simp [embeddedAll]
  | @text t ts parts _ _ ih =>
      intro c inside
      rw [embeddedAll_append, embeddedAll_ofText, List.nil_append] at inside
      simpa using (ih c inside).within [t] []
  | @code opens closes part opening closing inner ts parts pair first between last _ ih =>
      intro c inside
      rw [embeddedAll, List.mem_append] at inside
      rcases inside with here | later
      · have own : c = ⟨opens, inner.flatMap Token.text, opening.contentPlace⟩ := by
          cases pair <;> exact List.mem_singleton.1 here
        subst own
        exact ⟨[], opening, inner ++ closing :: ts, rfl, first, rfl, .code pair between last⟩
      · simpa using (ih c later).within (opening :: inner ++ [closing]) []
  | @block opening header closing inner ts body parts first headed _ last _ within ih =>
      intro c inside
      rw [embeddedAll, Part.embedded, embeddedAll_append, embeddedAll_ofText, List.nil_append,
        List.cons_append, List.mem_cons, List.mem_append] at inside
      rcases inside with rfl | inner' | later
      · exact ⟨[], opening, header :: inner ++ closing :: ts, rfl, first, rfl, .header headed⟩
      · simpa using (within c inner').within [opening, header] (closing :: ts)
      · simpa using (ih c later).within (opening :: header :: inner ++ [closing]) []

/-! ### Where it is reported -/

/-- Whether a defect is one of code that is refused. A block without a header has an empty one. -/
def Defect.IsOfCode : Defect → Prop
  | .invalidScript _ => True
  | .malformedHeader header _ => header ≠ ""
  | _ => False

/-- What keeps tokens from being parts is no code that is refused. -/
theorem not_isOfCode_of_fault {m : Markers} {ts : List Token} {flaw : Flaw}
    (fault : Fault m ts flaw) : ¬ flaw.defect.IsOfCode := by
  cases fault with
  | stray => exact id
  | headerless => exact fun h => h rfl
  | unterminated => exact id
  | unclosed => exact id

namespace Place

/-- The place that is reported for what stands behind `passed` in code behind an opening marker. -/
def reported (opening : Token) (passed : List Char) : Place :=
  if '\n' ∈ passed then
    ⟨opening.start.line + passed.count '\n', (Location.start.after passed).column⟩
  else
    ⟨opening.start.line, opening.start.column + opening.text.length + String.utf8Len passed⟩

theorem locate_eq_reported {opening : Token} {e : Script.Error} {passed : List Char}
    (h : e.At passed) : opening.contentPlace.locate e = reported opening passed := by
  have line := h.line
  have column := h.column
  rw [Location.line_after] at line
  have first : Location.start.line = 1 := rfl
  rw [locate, reported]
  by_cases broken : '\n' ∈ passed
  · have positive := List.count_pos_iff.2 broken
    rw [if_neg (by omega), if_pos broken, column, line, first]
    simp only [Token.contentPlace, Place.mk.injEq, and_true]
    omega
  · have none := List.count_eq_zero.2 broken
    rw [Location.column_after_of_notMem _ broken] at column
    have start : Location.start.column = 1 := rfl
    rw [if_pos (by omega), if_neg broken, column, start]
    simp only [Token.contentPlace, Place.mk.injEq, true_and]
    omega

/-- The place is the right one just if the marker has no break and as many bytes as characters, of
which the latter makes no difference behind a break. -/
theorem reported_eq_iff (opening : Token) (passed : List Char) :
    reported opening passed = (opening.start.after (opening.text ++ passed)).toPlace ↔
      '\n' ∉ opening.text ∧
        ('\n' ∈ passed ∨ String.utf8Len opening.text = opening.text.length) := by
  rw [reported, Location.toPlace, Location.line_after, List.count_append]
  by_cases broken : '\n' ∈ passed
  · have inside : '\n' ∈ opening.text ++ passed := List.mem_append_right _ broken
    have column : (opening.start.after (opening.text ++ passed)).column =
        (Location.start.after passed).column := by
      rw [Location.after_append]
      exact Location.column_after_of_mem _ _ broken
    rw [if_pos broken, column, Place.mk.injEq, ← List.count_eq_zero]
    constructor
    · rintro ⟨line, -⟩
      exact ⟨by omega, .inl broken⟩
    · rintro ⟨none, -⟩
      exact ⟨by omega, rfl⟩
  · have none := List.count_eq_zero.2 broken
    rw [if_neg broken, Place.mk.injEq, none]
    constructor
    · rintro ⟨line, column⟩
      have free : '\n' ∉ opening.text := List.count_eq_zero.1 (by omega)
      refine ⟨free, .inr ?_⟩
      rw [Location.column_after_of_notMem _ (by simp [free, broken]), String.utf8Len_append]
        at column
      omega
    · rintro ⟨free, here | bytes⟩
      · exact absurd here broken
      · have still := List.count_eq_zero.2 free
        rw [Location.column_after_of_notMem _ (by simp [free, broken]), String.utf8Len_append]
        omega

end Place

namespace Program

/-- A flaw of code is found when the parts have been made. -/
theorem parts_of_error {m : Markers} {source : List Char} (failed : ofSource m source = .error flaw)
    (ofCode : flaw.defect.IsOfCode) : ∃ tokens parts, Token.scan m source = .ok tokens ∧
      Part.ofTokens m tokens = .ok parts ∧ ofParts none parts = .error flaw := by
  rw [ofSource, bind_eq_error] at failed
  rcases failed with unscanned | ⟨tokens, scanned, failed⟩
  · have outcome := Token.scan_outcome m source
    rw [unscanned] at outcome
    obtain ⟨_, _, -, -, -, rfl⟩ := outcome
    exact absurd ofCode id
  · rcases bind_eq_error.1 failed with unbuilt | ⟨parts, built, failed⟩
    · exact absurd ofCode (not_isOfCode_of_fault (Part.fault_of_ofTokens unbuilt))
    · exact ⟨tokens, parts, scanned, built, failed⟩

/-- In a source, the code behind the marker `opening`, which comes after the tokens `before`, is
refused behind `passed` and nowhere else, with a defect. -/
def RefusedIn (m : Markers) (source : List Char) (before : List Token) (opening : Token)
    (passed : List Char) (d : Defect) : Prop :=
  ∃ after opens code e, Token.scan m source = .ok (before ++ opening :: after) ∧
    opening.kind = .marker opens ∧ Behind opens code after ∧ Refuses opens code e d ∧
    ∀ other, other <+: code ∧ e.At other ↔ other = passed

theorem RefusedIn.isPrefix {m : Markers} {source passed : List Char} {before : List Token}
    {opening : Token} {d : Defect} (h : RefusedIn m source before opening passed d) :
    before.flatMap Token.text ++ opening.text ++ passed <+: source := by
  obtain ⟨after, opens, code, e, scanned, -, behind, -, only⟩ := h
  obtain ⟨⟨whole, -⟩, -⟩ := Token.outcome_of_scan scanned
  rw [contents_map_bare, List.flatMap_append, List.flatMap_cons, ← List.append_assoc] at whole
  rw [← whole]
  exact (List.prefix_append_right_inj _).2 (((only passed).2 rfl).1.trans behind.isPrefix)

/-- A template whose code is refused has a marker in its source behind which that code stands. What
is reported is the place of the source where the code is refused exactly if the marker holds no line
break and, unless the code has been refused behind its first line, as many bytes as characters. -/
theorem place_of_refused {m : Markers} {source : List Char} {flaw : Flaw}
    (failed : ofSource m source = .error flaw) (ofCode : flaw.defect.IsOfCode) :
    ∃ before opening passed, RefusedIn m source before opening passed flaw.defect ∧
      before.flatMap Token.text ++ opening.text ++ passed <+: source ∧
      flaw.place = .reported opening passed ∧
      (flaw.place =
          (Location.start.after (before.flatMap Token.text ++ opening.text ++ passed)).toPlace ↔
        '\n' ∉ opening.text ∧
          ('\n' ∈ passed ∨ String.utf8Len opening.text = opening.text.length)) := by
  obtain ⟨tokens, parts, scanned, built, refused⟩ := parts_of_error failed ofCode
  rcases flawIn_of_ofParts refused with ⟨c, inside, e, refuses, place⟩ | ⟨header, orphan⟩
  · obtain ⟨before, opening, after, rfl, kind, start, behind⟩ :=
      stands_of_doc (Part.doc_of_ofTokens built) c inside
    obtain ⟨passed, here, found⟩ := refuses.on
    obtain ⟨-, placed⟩ := Token.outcome_of_scan scanned
    have openingStart : opening.start = Location.start.after (before.flatMap Token.text) :=
      placed before opening after rfl
    have reported : flaw.place = .reported opening passed := by
      rw [place, start, Place.locate_eq_reported found]
    have only (other : List Char) : other <+: c.code ∧ e.At other ↔ other = passed := by
      constructor
      · rintro ⟨here', found'⟩
        exact found'.unique found here' here
      · rintro rfl
        exact ⟨here, found⟩
    have refusedIn : RefusedIn m source before opening passed flaw.defect :=
      ⟨after, c.opens, c.code, e, scanned, kind, behind, refuses, only⟩
    refine ⟨before, opening, passed, refusedIn, refusedIn.isPrefix, reported, ?_⟩
    rw [reported, List.append_assoc, Location.after_append, ← openingStart]
    exact Place.reported_eq_iff opening passed
  · rw [orphan] at ofCode
    exact absurd ofCode id

def flaw? (m : Markers) (source : List Char) : Option Flaw :=
  match ofSource m source with
  | .ok _ => none
  | .error flaw => some flaw

theorem flaw?_eq_some {m : Markers} {source : List Char} {flaw : Flaw} :
    flaw? m source = some flaw ↔ ofSource m source = .error flaw := by
  rw [flaw?]
  cases ofSource m source <;> simp

/-- The marker is one character of two bytes, so the end of the code behind it, which is in the
sixth column, is reported in the fifth. -/
theorem place_of_refused_guillemets :
    ofSource { expression := ⟨"«", "»"⟩ } "«x +»".toList =
        .error ⟨⟨1, 5⟩, .invalidScript "expected expression, found end of input"⟩ ∧
      (Defect.invalidScript "expected expression, found end of input").IsOfCode ∧
      ∃ before opening passed, RefusedIn { expression := ⟨"«", "»"⟩ } "«x +»".toList before opening
          passed (.invalidScript "expected expression, found end of input") ∧
        before.flatMap Token.text ++ opening.text ++ passed <+: "«x +»".toList ∧
        ⟨1, 5⟩ = Place.reported opening passed ∧
        ⟨1, 5⟩ ≠
          (Location.start.after (before.flatMap Token.text ++ opening.text ++ passed)).toPlace := by
  have failed : ofSource { expression := ⟨"«", "»"⟩ } "«x +»".toList =
      .error ⟨⟨1, 5⟩, .invalidScript "expected expression, found end of input"⟩ :=
    flaw?_eq_some.1 (by decide +kernel)
  have scanned : Token.scan { expression := ⟨"«", "»"⟩ } "«x +»".toList =
      .ok [⟨.marker .expressionOpen, ['«'], ⟨0, 1, 1⟩⟩, ⟨.text, ['x', ' ', '+'], ⟨2, 1, 3⟩⟩,
        ⟨.marker .expressionClose, ['»'], ⟨5, 1, 6⟩⟩] := by
    cbv
  obtain ⟨before, opening, passed, refused, here, reported, right⟩ :=
    place_of_refused failed trivial
  refine ⟨failed, trivial, before, opening, passed, refused, here, reported, fun same => ?_⟩
  obtain ⟨-, broken | bytes⟩ := right.1 same
  · have inside : '\n' ∈ "«x +»".toList :=
      here.subset (List.mem_append_right _ broken)
    exact absurd inside (by decide)
  · obtain ⟨after, opens, code, e, tokens, kind, behind, -, -⟩ := refused
    have among : opening ∈ before ++ opening :: after := by simp
    rw [← Except.ok.inj (scanned.symm.trans tokens)] at among
    simp only [List.mem_cons, List.not_mem_nil, or_false] at among
    -- The text is no marker, and nothing is closed behind the last one.
    rcases among with rfl | rfl | rfl
    · exact absurd bytes (by decide)
    · cases kind
    · obtain rfl : Marker.expressionClose = opens := TokenKind.marker.inj kind
      cases behind with
      | code pair inside last => cases pair

end Program

end Stencil
