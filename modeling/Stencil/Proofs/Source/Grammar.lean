import Stencil.Proofs.Source.Parts

/-!
# The grammar of blocks

Which tokens are a document is said without any stack: text, code between its markers, and blocks
that hold a document of their own, one after another (`Doc`). A block has a header, which is the
text right after its opening marker if the first line of that text is not blank.

What a source may have begun with is a document, behind it the openings of blocks that are not
closed yet, each with a document of its own (`Begun`). So the first token that is wrong is one that
cannot follow such a beginning, and where none is wrong something may still be open at the end
(`Fault`). The parts are built exactly of the documents, with the tree of their derivation, and
every other row of tokens has exactly one fault, which is reported (`Part.ofTokens_iff`).
-/

namespace Stencil

/-- A token that can be the header of a block: text with something in its first line. -/
def Token.IsHeader (t : Token) : Prop :=
  t.kind = .text ∧ ∃ c ∈ t.text.takeWhile (· != '\n'), Text.isBlank c = false

/-- The markers around code, and the part that the code makes. -/
inductive Marker.Encloses : Marker → Marker → (List Char → Place → Part) → Prop
  | statements : Encloses .statementOpen .statementClose .statements
  | expression : Encloses .expressionOpen .expressionClose .expression

/-- Text as a part. Empty text is none. -/
def Part.ofText (text : List Char) : List Part := if text.isEmpty then [] else [.text text]

/-- Tokens that are a document, with the parts of their derivation. -/
inductive Doc : List Token → List Part → Prop
  | nil : Doc [] []
  | text {t : Token} {ts : List Token} {parts : List Part} (isText : t.kind = .text)
      (more : Doc ts parts) : Doc (t :: ts) (Part.ofText t.text ++ parts)
  | code {opens closes : Marker} {part : List Char → Place → Part} {opening closing : Token}
      {inner ts : List Token} {parts : List Part} (pair : Marker.Encloses opens closes part)
      (first : opening.kind = .marker opens) (inside : ∀ t ∈ inner, t.kind ≠ .marker closes)
      (last : closing.kind = .marker closes) (more : Doc ts parts) :
      Doc (opening :: inner ++ closing :: ts)
        (part (inner.flatMap Token.text) opening.contentPlace :: parts)
  | block {opening header closing : Token} {inner ts : List Token} {body parts : List Part}
      (first : opening.kind = .marker .blockOpen) (headed : header.IsHeader)
      (inside : Doc inner body) (last : closing.kind = .marker .blockClose) (more : Doc ts parts) :
      Doc (opening :: header :: inner ++ closing :: ts)
        (.block (Part.headerLine header.text) opening.contentPlace
          (Part.ofText (Part.afterHeader header.text) ++ body) :: parts)

/-- Tokens that a document may begin with up to where a part can start. The second list holds the
opening markers and headers of the blocks that are not closed, innermost first. -/
inductive Begun : List Token → List (Token × Token) → Prop
  | doc {ts : List Token} {parts : List Part} (doc : Doc ts parts) : Begun ts []
  | enter {ts inner : List Token} {opened : List (Token × Token)} {opening header : Token}
      {body : List Part} (begun : Begun ts opened) (first : opening.kind = .marker .blockOpen)
      (headed : header.IsHeader) (inside : Doc inner body) :
      Begun (ts ++ opening :: header :: inner) ((opening, header) :: opened)

/-- What keeps some tokens from being a document, and where: the first token, in the order in which
they are read, that closes nothing or opens a block without a header; else code that does not end;
else the innermost block that is not closed. -/
inductive Fault (m : Markers) : List Token → Flaw → Prop
  | stray {before after : List Token} {opened : List (Token × Token)} {t : Token}
      (begun : Begun before opened) (closes : t.kind = .marker .statementClose ∨
        t.kind = .marker .expressionClose ∨ t.kind = .marker .blockClose ∧ opened = []) :
      Fault m (before ++ t :: after) ⟨t.start.toPlace, .unexpectedClose (String.ofList t.text)⟩
  | headerless {before after : List Token} {opened : List (Token × Token)} {t : Token}
      (begun : Begun before opened) (opens : t.kind = .marker .blockOpen)
      (headerless : ∀ header ∈ after.head?, ¬ header.IsHeader) :
      Fault m (before ++ t :: after)
        ⟨t.start.toPlace, .malformedHeader "" "missing header line"⟩
  | unterminated {before inner : List Token} {opened : List (Token × Token)} {t : Token}
      {opens closes : Marker} {part : List Char → Place → Part} (begun : Begun before opened)
      (pair : Marker.Encloses opens closes part) (first : t.kind = .marker opens)
      (inside : ∀ t ∈ inner, t.kind ≠ .marker closes) :
      Fault m (before ++ t :: inner) ⟨t.start.toPlace, .unterminatedCode (m.delimiter closes)⟩
  | unclosed {ts : List Token} {opened : List (Token × Token)} {opening header : Token}
      (begun : Begun ts ((opening, header) :: opened)) :
      Fault m ts ⟨opening.start.toPlace, .unclosedBlock
        (String.ofList (Text.trim (Part.headerLine header.text))) (m.delimiter .blockClose)⟩

theorem Doc.append {ts us : List Token} {ps qs : List Part} (h : Doc ts ps) (h' : Doc us qs) :
    Doc (ts ++ us) (ps ++ qs) := by
  induction h with
  | nil => exact h'
  | text isText _ ih => simpa using ih.text isText
  | code pair first inside last _ ih => simpa using ih.code pair first inside last
  | block first headed inside last _ _ ih => simpa using Doc.block first headed inside last ih

namespace Begun

variable {ts us : List Token} {opened : List (Token × Token)} {opening header closing : Token}

theorem append {parts : List Part} (h : Begun ts opened) (more : Doc us parts) :
    Begun (ts ++ us) opened := by
  cases h with
  | doc doc => exact .doc (doc.append more)
  | enter begun first headed inside =>
      rw [List.append_assoc]
      exact begun.enter first headed (inside.append more)

/-- The innermost block is closed. -/
theorem close (h : Begun ts ((opening, header) :: opened))
    (last : closing.kind = .marker .blockClose) : Begun (ts ++ [closing]) opened := by
  cases h with
  | enter begun first headed inside =>
      rw [List.append_assoc]
      exact begun.append (.block first headed inside last .nil)

end Begun

/-- Code ends at the first marker that closes it, if there is one. -/
theorem code_ends_or (closes : Marker) (ts : List Token) :
    (∀ t ∈ ts, t.kind ≠ .marker closes) ∨ ∃ inner closing rest, ts = inner ++ closing :: rest ∧
      (∀ t ∈ inner, t.kind ≠ .marker closes) ∧ closing.kind = .marker closes := by
  induction ts with
  | nil => exact .inl (by simp)
  | cons t ts ih =>
      by_cases isClosing : t.kind = .marker closes
      · exact .inr ⟨[], t, ts, rfl, by simp, isClosing⟩
      · rcases ih with inside | ⟨inner, closing, rest, rfl, inside, last⟩
        · exact .inl (List.forall_mem_cons.2 ⟨isClosing, inside⟩)
        · have all : ∀ u ∈ t :: inner, u.kind ≠ .marker closes :=
            List.forall_mem_cons.2 ⟨isClosing, inside⟩
          exact .inr ⟨t :: inner, closing, rest, rfl, all, last⟩

/-- Behind a beginning there is a fault, or it goes on by one token or more. -/
theorem Begun.step (m : Markers) {before : List Token} {opened : List (Token × Token)}
    (begun : Begun before opened) (t : Token) (ts : List Token) :
    (∃ flaw, Fault m (before ++ t :: ts) flaw) ∨ ∃ us rest opened', t :: ts = us ++ rest ∧
      us ≠ [] ∧ Begun (before ++ us) opened' := by
  have code {opens closes : Marker} {part : List Char → Place → Part}
      (pair : Marker.Encloses opens closes part) (first : t.kind = .marker opens) :
      (∃ flaw, Fault m (before ++ t :: ts) flaw) ∨ ∃ us rest opened', t :: ts = us ++ rest ∧
        us ≠ [] ∧ Begun (before ++ us) opened' := by
    rcases code_ends_or closes ts with inside | ⟨inner, closing, rest, rfl, inside, last⟩
    · exact .inl ⟨_, .unterminated begun pair first inside⟩
    · refine .inr ⟨t :: inner ++ [closing], rest, opened, by simp, by simp, ?_⟩
      exact begun.append (.code pair first inside last .nil)
  cases kind : t.kind with
  | text => exact .inr ⟨[t], ts, opened, rfl, by simp, begun.append (.text kind .nil)⟩
  | marker marker =>
      cases marker with
      | statementOpen => exact code .statements kind
      | expressionOpen => exact code .expression kind
      | blockOpen =>
          by_cases headerless : ∀ header ∈ ts.head?, ¬ header.IsHeader
          · exact .inl ⟨_, .headerless begun kind headerless⟩
          · cases ts with
            | nil => simp at headerless
            | cons header ts =>
                have headed : header.IsHeader := by simpa using headerless
                exact .inr ⟨[t, header], ts, _, rfl, by simp, begun.enter kind headed .nil⟩
      | blockClose =>
          cases opened with
          | nil => exact .inl ⟨_, .stray begun (.inr (.inr ⟨kind, rfl⟩))⟩
          | cons => exact .inr ⟨[t], ts, _, rfl, by simp, begun.close kind⟩
      | statementClose => exact .inl ⟨_, .stray begun (.inl kind)⟩
      | expressionClose => exact .inl ⟨_, .stray begun (.inr (.inl kind))⟩

/-- Whatever follows a beginning, the whole is a document or has a fault. -/
theorem Begun.doc_or_fault (m : Markers) {before : List Token} {opened : List (Token × Token)}
    (begun : Begun before opened) (ts : List Token) :
    (∃ parts, Doc (before ++ ts) parts) ∨ ∃ flaw, Fault m (before ++ ts) flaw := by
  cases ts with
  | nil =>
      rw [List.append_nil]
      cases opened with
      | nil =>
          cases begun with
          | doc doc => exact .inl ⟨_, doc⟩
      | cons => exact .inr ⟨_, .unclosed begun⟩
  | cons t ts =>
      rcases begun.step m t ts with fault | ⟨us, rest, opened', eq, nonempty, further⟩
      · exact .inr fault
      -- A step may take a whole piece of code, so the recursion is on how many tokens are left.
      · have shorter : rest.length ≤ ts.length := by
          have positive := List.length_pos_of_ne_nil nonempty
          have lengths := congrArg List.length eq
          rw [List.length_cons, List.length_append] at lengths
          omega
        have whole := further.doc_or_fault m rest
        rwa [List.append_assoc, ← eq] at whole
termination_by ts.length

namespace Text

theorem trim_eq_nil_iff {cs : List Char} : trim cs = [] ↔ ∀ c ∈ cs, isBlank c := by
  rw [trim, List.reverse_eq_nil_iff, List.dropWhile_eq_nil_iff]
  simp only [List.mem_reverse]
  constructor
  · intro blank c inside
    rw [← List.takeWhile_append_dropWhile (p := isBlank) (l := cs), List.mem_append] at inside
    rcases inside with first | later
    · exact List.mem_takeWhile_imp first
    · exact blank c later
  · intro blank c inside
    exact blank c ((List.dropWhile_sublist isBlank).mem inside)

end Text

/-- The header of a block is its first line, perhaps without a return at its end. -/
theorem Part.headerLine_append (text : List Char) : ∃ ending,
    (ending = [] ∨ ending = ['\r']) ∧ text.takeWhile (· != '\n') = headerLine text ++ ending := by
  rw [headerLine]
  split
  · next returns =>
    refine ⟨['\r'], .inr rfl, ?_⟩
    exact (List.dropLast_append_getLast? '\r' (by simpa using returns)).symm
  · exact ⟨[], .inl rfl, (List.append_nil _).symm⟩

/-- The first line has something in it just when this is so without the return. -/
theorem Token.isHeader_iff {t : Token} :
    t.IsHeader ↔ t.kind = .text ∧ Text.trim (Part.headerLine t.text) ≠ [] := by
  obtain ⟨ending, ending_eq, line⟩ := Part.headerLine_append t.text
  have blank : ∀ c ∈ ending, Text.isBlank c := by
    have isReturn : Text.isBlank '\r' = true := by decide
    rcases ending_eq with rfl | rfl <;> simp [isReturn]
  rw [IsHeader, line, ne_eq, Text.trim_eq_nil_iff]
  refine and_congr_right fun _ => ?_
  constructor
  · rintro ⟨c, inside, isSolid⟩ allBlank
    rcases List.mem_append.1 inside with first | last
    · simp [allBlank c first] at isSolid
    · simp [blank c last] at isSolid
  · intro notBlank
    push Not at notBlank
    obtain ⟨c, inside, isSolid⟩ := notBlank
    exact ⟨c, List.mem_append_left _ inside, by simpa using isSolid⟩

namespace Part

variable {m : Markers} {blocks : List OpenBlock} {parts : List Part} {opens closes : Marker}
  {part : List Char → Place → Part} {opening : Token}

theorem addText_eq (text : List Char) (parts : List Part) :
    addText text parts = (ofText text).reverse ++ parts := by
  rw [addText, ofText]
  split <;> rfl

theorem ofCode_encloses (pair : Marker.Encloses opens closes part) (opening : Token)
    (code : List Char) : ofCode opening closes code = part code opening.contentPlace := by
  cases pair <;> rfl

theorem build_opening (pair : Marker.Encloses opens closes part)
    (first : opening.kind = .marker opens) (ts : List Token) :
    build m blocks parts .part (opening :: ts) =
      build m blocks parts (.code opening closes []) ts := by
  rw [build.eq_def]
  cases pair <;> simp only [first]

theorem build_inside {inner : List Token} (inside : ∀ t ∈ inner, t.kind ≠ .marker closes)
    (read : List (List Char)) (rest : List Token) :
    build m blocks parts (.code opening closes read) (inner ++ rest) =
      build m blocks parts (.code opening closes ((inner.map Token.text).reverse ++ read))
        rest := by
  induction inner generalizing read with
  | nil => rfl
  | cons t inner ih =>
      obtain ⟨other, inside⟩ := List.forall_mem_cons.1 inside
      rw [List.cons_append, build.eq_def]
      simp only [if_neg other]
      rw [ih inside]
      simp

/-- Code is built up to its own marker, whatever is in it. -/
theorem build_code (pair : Marker.Encloses opens closes part)
    (first : opening.kind = .marker opens) {inner : List Token}
    (inside : ∀ t ∈ inner, t.kind ≠ .marker closes) {closing : Token}
    (last : closing.kind = .marker closes) (rest : List Token) :
    build m blocks parts .part (opening :: (inner ++ closing :: rest)) =
      build m blocks (part (inner.flatMap Token.text) opening.contentPlace :: parts) .part
        rest := by
  rw [build_opening pair first, build_inside inside, build.eq_def]
  simp only [if_pos last]
  rw [ofCode_encloses pair, List.flatMap_def]
  simp

theorem build_header (first : opening.kind = .marker .blockOpen) {header : Token}
    (headed : header.IsHeader) (ts : List Token) :
    build m blocks parts .part (opening :: header :: ts) =
      build m
        (⟨opening.start.toPlace, headerLine header.text, opening.contentPlace, parts⟩ :: blocks)
        (ofText (afterHeader header.text)).reverse .part ts := by
  rw [build.eq_def]
  simp only [first]
  rw [build.eq_def]
  simp only [if_pos (Token.isHeader_iff.1 headed), addText_eq, List.append_nil]

theorem build_close {closing : Token} (last : closing.kind = .marker .blockClose) (b : OpenBlock)
    (ts : List Token) :
    build m (b :: blocks) parts .part (closing :: ts) =
      build m blocks (.block b.header b.place parts.reverse :: b.before) .part ts := by
  rw [build.eq_def]
  simp only [last]

/-- The parts of a document are put behind those that there are. -/
theorem build_doc {us : List Token} {own : List Part} (doc : Doc us own)
    (blocks : List OpenBlock) (parts : List Part) (rest : List Token) :
    build m blocks parts .part (us ++ rest) =
      build m blocks (own.reverse ++ parts) .part rest := by
  induction doc generalizing blocks parts rest with
  | nil => rfl
  | text isText _ ih =>
      rw [List.cons_append, Progress.build_text isText, ih, addText_eq]
      simp
  | code pair first inside last _ ih =>
      rw [List.append_assoc, List.cons_append, List.cons_append,
        build_code pair first inside last, ih]
      simp
  | block first headed _ last _ within ih =>
      rw [List.append_assoc, List.cons_append, List.cons_append, List.cons_append,
        build_header first headed, within, build_close last, ih]
      simp

/-- Where a document has begun, the blocks that are not closed are open. -/
theorem build_begun {before : List Token} {opened : List (Token × Token)}
    (begun : Begun before opened) : ∃ blocks parts,
    blocks.map (fun b => (b.start, b.header)) =
      opened.map (fun o => (o.1.start.toPlace, headerLine o.2.text)) ∧
    ∀ rest, build m [] [] .part (before ++ rest) = build m blocks parts .part rest := by
  induction begun with
  | doc doc => exact ⟨[], _, rfl, build_doc doc [] []⟩
  | @enter ts inner opened opening header body _ first headed inside ih =>
      obtain ⟨blocks, parts, same, eq⟩ := ih
      refine ⟨⟨opening.start.toPlace, headerLine header.text, opening.contentPlace, parts⟩ ::
        blocks, body.reverse ++ (ofText (afterHeader header.text)).reverse, ?_, fun rest => ?_⟩
      · rw [List.map_cons, List.map_cons, same]
      · rw [List.append_assoc, eq, List.cons_append, List.cons_append, build_header first headed,
          build_doc inside]

theorem ofTokens_doc {ts : List Token} {parts : List Part} (doc : Doc ts parts) :
    ofTokens m ts = .ok parts := by
  have built := build_doc (m := m) doc [] [] []
  rw [List.append_nil, List.append_nil] at built
  rw [ofTokens, built]
  simp [build, atEnd]

theorem ofTokens_fault {ts : List Token} {flaw : Flaw} (fault : Fault m ts flaw) :
    ofTokens m ts = .error flaw := by
  rw [ofTokens]
  cases fault with
  | stray begun closes =>
      obtain ⟨blocks, parts, same, eq⟩ := build_begun begun
      rw [eq, build.eq_def]
      rcases closes with kind | kind | ⟨kind, rfl⟩
      · simp only [kind]
        rfl
      · simp only [kind]
        rfl
      · obtain rfl : blocks = [] := List.map_eq_nil_iff.1 same
        simp only [kind]
        rfl
  | @headerless before after opened t begun opens headerless =>
      obtain ⟨blocks, parts, -, eq⟩ := build_begun begun
      rw [eq, build.eq_def]
      simp only [opens]
      cases after with
      | nil => rfl
      | cons header after =>
          have notHeader : ¬ header.IsHeader := headerless header rfl
          rw [build.eq_def]
          simp only [if_neg (fun headed => notHeader (Token.isHeader_iff.2 headed))]
          rfl
  | @unterminated before inner opened t opens closes part begun pair first inside =>
      obtain ⟨blocks, parts, -, eq⟩ := build_begun begun
      have ended : build m blocks parts (.code t closes []) (inner ++ []) = _ :=
        build_inside inside [] []
      rw [List.append_nil] at ended
      rw [eq, build_opening pair first, ended, build, atEnd]
  | unclosed begun =>
      obtain ⟨blocks, parts, same, eq⟩ := build_begun begun
      cases blocks with
      | nil => cases same
      | cons b blocks =>
          obtain ⟨start, header⟩ := Prod.mk.inj (List.cons.inj same).1
          have ended := eq []
          rw [List.append_nil] at ended
          rw [ended, build, atEnd, start, header]
          rfl

theorem doc_of_ofTokens {ts : List Token} {parts : List Part} (built : ofTokens m ts = .ok parts) :
    Doc ts parts := by
  rcases (Begun.doc .nil).doc_or_fault m ts with ⟨parts', doc⟩ | ⟨flaw, fault⟩
  · cases built.symm.trans (ofTokens_doc doc)
    exact doc
  · cases built.symm.trans (ofTokens_fault fault)

theorem fault_of_ofTokens {ts : List Token} {flaw : Flaw} (refused : ofTokens m ts = .error flaw) :
    Fault m ts flaw := by
  rcases (Begun.doc .nil).doc_or_fault m ts with ⟨parts, doc⟩ | ⟨flaw', fault⟩
  · cases refused.symm.trans (ofTokens_doc doc)
  · cases refused.symm.trans (ofTokens_fault fault)
    exact fault

/-- Exactly the documents are built, as the tree of their derivation, and for all other tokens the
first fault is reported. -/
theorem ofTokens_iff (m : Markers) (ts : List Token) :
    (∀ parts, ofTokens m ts = .ok parts ↔ Doc ts parts) ∧
      ∀ flaw, ofTokens m ts = .error flaw ↔ Fault m ts flaw :=
  ⟨fun _ => ⟨doc_of_ofTokens, ofTokens_doc⟩, fun _ => ⟨fault_of_ofTokens, ofTokens_fault⟩⟩

end Part

end Stencil
