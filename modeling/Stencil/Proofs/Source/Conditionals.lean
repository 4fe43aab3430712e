import Stencil.Proofs.Source.Fragments

/-!
# Conditionals among the parts of a template

A conditional is written as blocks next to each other: a first one, any number that go on with it,
and at most one that ends it. The last two kinds are the alternatives. Some parts make a program if
and only if, wherever in their tree parts stand side by side, all of them can be read and every
alternative comes right behind a block that it can go on with (`Program.exists_ofParts_tree`).

The program is then the one that the relation `Program.Translates` gives, which is about the headers
of the blocks alone and knows of no conditional that is still open: every longest run of a first
branch and its alternatives is one statement, with the branches in their order, and every other part
makes its own statements in its place.
-/

namespace Stencil

namespace Part

/-- The part is a block with this header. -/
def HeadedBy (h : Script.Header) : Part → Prop
  | .block header _ _ => Script.readHeader header = .ok h
  | _ => False

/-- A block that an alternative may follow: the first branch of a conditional, or a further one. -/
def LeadsOn (part : Part) : Prop :=
  ∃ cond, part.HeadedBy (.ifTrue cond) ∨ part.HeadedBy (.elseIf cond)

/-- A block that goes on with a conditional or ends it. -/
def IsAlternative (part : Part) : Prop :=
  part.HeadedBy .otherwise ∨ ∃ cond, part.HeadedBy (.elseIf cond)

/-- The code or the header of a part can be read. The content of a block is not looked at. -/
def IsRead : Part → Prop
  | .text _ => True
  | .statements code _ => ∃ ss, Script.readStatements code = .ok ss
  | .expression code _ => ∃ e, Script.readExpression code = .ok e
  | .block header _ _ => ∃ h, Script.readHeader header = .ok h

/-- The parts that stand side by side somewhere in a tree: all those at its top, or all those in a
block. -/
inductive Siblings (tree : List Part) : List Part → Prop
  | top : Siblings tree tree
  | inside {siblings body : List Part} {header : List Char} {place : Place}
      (outer : Siblings tree siblings) (holds : .block header place body ∈ siblings) :
      Siblings tree body

/-- Every alternative comes right behind a block that leads on to it, when `front` stands in front
of the siblings. -/
def ChainedBehind (front siblings : List Part) : Prop :=
  ∀ before part after, siblings = before ++ part :: after → part.IsAlternative →
    ∃ previous ∈ (front ++ before).getLast?, previous.LeadsOn

/-- Every alternative comes right behind a block that leads on to it. -/
def Chained (siblings : List Part) : Prop := ChainedBehind [] siblings

/-- What is true of siblings when it is true of the content of their blocks is true of all. -/
theorem siblings_induction {motive : List Part → Prop}
    (step : ∀ siblings, (∀ header place body, .block header place body ∈ siblings → motive body) →
      motive siblings) (siblings : List Part) : motive siblings := by
  refine step siblings fun header place body holds => ?_
  have smaller : sizeOf body < sizeOf siblings := by
    have here := List.sizeOf_lt_of_mem holds
    simp only [block.sizeOf_spec] at here
    omega
  exact siblings_induction step body
termination_by sizeOf siblings

theorem Siblings.trans {tree siblings body : List Part} (outer : Siblings tree siblings)
    (inner : Siblings siblings body) : Siblings tree body := by
  induction inner with
  | top => exact outer
  | inside _ holds ih => exact ih.inside holds

theorem chainedBehind_nil (front : List Part) : ChainedBehind front [] := by
  intro before part after eq
  simp at eq

theorem chainedBehind_cons {front parts : List Part} {part : Part} :
    ChainedBehind front (part :: parts) ↔
      (part.IsAlternative → ∃ previous ∈ front.getLast?, previous.LeadsOn) ∧
        ChainedBehind (front ++ [part]) parts := by
  constructor
  · intro chained
    refine ⟨fun alternative => ?_, fun before other after eq alternative => ?_⟩
    · simpa using chained [] part parts rfl alternative
    · simpa using chained (part :: before) other after (by rw [eq]; rfl) alternative
  · rintro ⟨first, others⟩ before other after eq alternative
    cases before with
    | nil =>
        cases eq
        simpa using first alternative
    | cons head before =>
        obtain ⟨rfl, rest⟩ := List.cons.inj eq
        simpa using others before other after rest alternative

variable {part : Part} {f : Fragment}

/-- Only an alternative needs a conditional to go on with. -/
theorem Adds.enter_none (h : part.Adds f) : f.enter none = none ↔ part.IsAlternative := by
  cases h with
  | text | statements | expression => simp [Fragment.enter, IsAlternative, HeadedBy]
  | @block header place body h b read inside =>
      cases h <;> simp [Fragment.ofBlock, Fragment.enter, IsAlternative, HeadedBy, read]

/-- A conditional may go on after the blocks that lead on, and after no other part. -/
theorem Adds.leadsOn (h : part.Adds f) {chain after : Option Chain} {out : List Stmt}
    (entered : f.enter chain = some (out, after)) : after.isSome ↔ part.LeadsOn := by
  cases h with
  | text | statements | expression =>
      cases entered
      simp [LeadsOn, HeadedBy]
  | @block header place body h b read inside =>
      cases h <;> cases chain <;> cases entered <;> simp [LeadsOn, HeadedBy, read]

/-- A part adds something if it can be read itself and its content makes a program. -/
theorem exists_adds_iff : (∃ f, part.Adds f) ↔ part.IsRead ∧
    ∀ header place body, part = .block header place body →
      ∃ b, Program.ofParts none body = .ok b := by
  constructor
  · rintro ⟨f, adds⟩
    cases adds with
    | text => simp [IsRead]
    | statements read | expression read => simp [IsRead, read]
    | block read inside => simp [IsRead, read, inside]
  · rintro ⟨isRead, contents⟩
    cases part with
    | text text => exact ⟨_, .text⟩
    | statements code place =>
        obtain ⟨ss, read⟩ := isRead
        exact ⟨_, .statements read⟩
    | expression code place =>
        obtain ⟨e, read⟩ := isRead
        exact ⟨_, .expression read⟩
    | block header place body =>
        obtain ⟨h, read⟩ := isRead
        obtain ⟨b, inside⟩ := contents header place body rfl
        exact ⟨_, .block read inside⟩

end Part

theorem Fragment.exists_enter {f : Fragment} {chain : Option Chain} :
    (∃ out after, f.enter chain = some (out, after)) ↔ (f.enter none = none → chain.isSome) := by
  cases f <;> cases chain <;> simp [enter]

namespace Program

variable {chain : Option Chain} {parts : List Part} {p : Program}

/-! ### Which parts make a program -/

/-- The invariant of siblings: a conditional is open if and only if the part before leads on. -/
theorem exists_ofParts_iff {front : List Part}
    (isOpen : chain.isSome ↔ ∃ previous ∈ front.getLast?, previous.LeadsOn) :
    (∃ p, ofParts chain parts = .ok p) ↔
      (∀ part ∈ parts, ∃ f, part.Adds f) ∧ Part.ChainedBehind front parts := by
  -- The parts in front are needed for the last of them alone, which says what is open now.
  induction parts generalizing chain front with
  | nil => simp [ofParts, Part.chainedBehind_nil]
  | cons part parts ih =>
      have next {f : Fragment} {out : List Stmt} {after : Option Chain} (adds : part.Adds f)
          (entered : f.enter chain = some (out, after)) :
          after.isSome ↔ ∃ previous ∈ (front ++ [part]).getLast?, previous.LeadsOn := by
        simp [adds.leadsOn entered]
      rw [Part.chainedBehind_cons, List.forall_mem_cons]
      constructor
      · rintro ⟨p, made⟩
        obtain ⟨f, out, after, rest, first, entered, remaining, -⟩ := ofParts_cons.1 made
        have adds := fragment_eq_ok.1 first
        obtain ⟨others, chained⟩ := (ih (next adds entered)).1 ⟨rest, remaining⟩
        refine ⟨⟨⟨f, adds⟩, others⟩, fun alternative => isOpen.1 ?_, chained⟩
        exact Fragment.exists_enter.1 ⟨out, after, entered⟩ (adds.enter_none.2 alternative)
      · rintro ⟨⟨⟨f, adds⟩, others⟩, first, chained⟩
        obtain ⟨out, after, entered⟩ := Fragment.exists_enter.2 fun none =>
          isOpen.2 (first (adds.enter_none.1 none))
        obtain ⟨rest, remaining⟩ := (ih (next adds entered)).2 ⟨others, chained⟩
        exact ⟨_, ofParts_cons.2
          ⟨f, out, after, rest, fragment_eq_ok.2 adds, entered, remaining, rfl⟩⟩

theorem exists_ofParts_none : (∃ p, ofParts none parts = .ok p) ↔
    (∀ part ∈ parts, ∃ f, part.Adds f) ∧ Part.Chained parts :=
  exists_ofParts_iff (by simp)

/-- Parts that are a program on their own do not begin with an alternative. -/
theorem not_isAlternative_of_ofParts (made : ofParts none parts = .ok p) :
    ∀ part ∈ parts.head?, ¬ part.IsAlternative := by
  intro part first alternative
  have chained := (exists_ofParts_none.1 ⟨p, made⟩).2
  cases parts with
  | nil => simp at first
  | cons head parts =>
      obtain rfl : head = part := by simpa using first
      simpa using (Part.chainedBehind_cons.1 chained).1 alternative

theorem exists_ofParts_siblings {siblings : List Part} (made : ofParts none parts = .ok p)
    (h : Part.Siblings parts siblings) : ∃ q, ofParts none siblings = .ok q := by
  induction h with
  | top => exact ⟨p, made⟩
  | inside _ holds ih =>
      have adds := (exists_ofParts_none.1 ih).1 _ holds
      exact (Part.exists_adds_iff.1 adds).2 _ _ _ rfl

/-- A tree of parts makes a program if all of it can be read and every alternative has something to
go on with. -/
theorem exists_ofParts_tree (parts : List Part) : (∃ p, ofParts none parts = .ok p) ↔
    ∀ siblings, Part.Siblings parts siblings →
      (∀ part ∈ siblings, part.IsRead) ∧ Part.Chained siblings := by
  constructor
  · rintro ⟨p, made⟩ siblings somewhere
    obtain ⟨all, chained⟩ := exists_ofParts_none.1 (exists_ofParts_siblings made somewhere)
    exact ⟨fun part inside => (Part.exists_adds_iff.1 (all part inside)).1, chained⟩
  · induction parts using Part.siblings_induction with
    | step parts ih =>
        intro fine
        obtain ⟨isRead, chained⟩ := fine parts .top
        refine exists_ofParts_none.2 ⟨fun part inside => ?_, chained⟩
        refine Part.exists_adds_iff.2 ⟨isRead part inside, ?_⟩
        rintro header place body rfl
        refine ih header place body inside fun siblings somewhere => ?_
        exact fine siblings ((Part.Siblings.top.inside inside).trans somewhere)

/-! ### Which program they make -/

mutual

inductive Translates : List Part → Program → Prop
  | nil : Translates [] []
  | text {text : List Char} {parts : List Part} {p : Program} (rest : Translates parts p) :
      Translates (.text text :: parts) (.emitText (String.ofList text) :: p)
  | statements {code : List Char} {place : Place} {ss : List Stmt} {parts : List Part}
      {p : Program} (read : Script.readStatements code = .ok ss) (rest : Translates parts p) :
      Translates (.statements code place :: parts) (ss ++ p)
  | expression {code : List Char} {place : Place} {e : Expr} {parts : List Part} {p : Program}
      (read : Script.readExpression code = .ok e) (rest : Translates parts p) :
      Translates (.expression code place :: parts) (.emit e :: p)
  | forLoop {header : List Char} {place : Place} {body : List Part} {var : String}
      {iterable : Expr} {b : Program} {parts : List Part} {p : Program}
      (read : Script.readHeader header = .ok (.forEach var iterable)) (inside : Translates body b)
      (rest : Translates parts p) :
      Translates (.block header place body :: parts) (.forLoop var iterable b :: p)
  | whileLoop {header : List Char} {place : Place} {body : List Part} {cond : Expr}
      {b : Program} {parts : List Part} {p : Program}
      (read : Script.readHeader header = .ok (.whileTrue cond)) (inside : Translates body b)
      (rest : Translates parts p) :
      Translates (.block header place body :: parts) (.whileLoop cond b :: p)
  /-- A first branch with all the alternatives that follow it. -/
  | conditional {header : List Char} {place : Place} {body : List Part} {cond : Expr}
      {b : Program} {more : List Part} {otherwise : Else} {parts : List Part} {p : Program}
      (read : Script.readHeader header = .ok (.ifTrue cond)) (inside : Translates body b)
      (alternatives : Alternatives more otherwise)
      (maximal : ∀ part ∈ parts.head?, ¬ part.IsAlternative) (rest : Translates parts p) :
      Translates (.block header place body :: (more ++ parts)) (.branch cond b otherwise :: p)

/-- What a conditional does when its conditions so far have failed, given by the blocks that
follow. -/
inductive Alternatives : List Part → Else → Prop
  | nothing : Alternatives [] .nothing
  | otherwise {header : List Char} {place : Place} {body : List Part} {b : Program}
      (read : Script.readHeader header = .ok .otherwise) (inside : Translates body b) :
      Alternatives [.block header place body] (.block b)
  | elseIf {header : List Char} {place : Place} {body : List Part} {cond : Expr} {b : Program}
      {more : List Part} {otherwise : Else}
      (read : Script.readHeader header = .ok (.elseIf cond)) (inside : Translates body b)
      (alternatives : Alternatives more otherwise) :
      Alternatives (.block header place body :: more) (.elif cond b otherwise)

end

mutual

theorem ofParts_of_translates : ∀ {parts : List Part} {p : Program}, Translates parts p →
    ofParts none parts = .ok p
  | _, _, .nil => rfl
  | _, _, .text rest =>
    ofParts_cons.2 ⟨_, _, none, _, rfl, rfl, ofParts_of_translates rest, rfl⟩
  | _, _, .statements read rest =>
    ofParts_cons.2 ⟨_, _, none, _, fragment_eq_ok.2 (.statements read), rfl,
      ofParts_of_translates rest, rfl⟩
  | _, _, .expression read rest =>
    ofParts_cons.2 ⟨_, _, none, _, fragment_eq_ok.2 (.expression read), rfl,
      ofParts_of_translates rest, rfl⟩
  | _, _, .forLoop read inside rest =>
    ofParts_cons.2 ⟨_, _, none, _, fragment_eq_ok.2 (.block read (ofParts_of_translates inside)),
      rfl, ofParts_of_translates rest, rfl⟩
  | _, _, .whileLoop read inside rest =>
    ofParts_cons.2 ⟨_, _, none, _, fragment_eq_ok.2 (.block read (ofParts_of_translates inside)),
      rfl, ofParts_of_translates rest, rfl⟩
  | _, _, .conditional read inside alternatives _ rest =>
    ofParts_cons.2 ⟨_, [], some ⟨_, _, []⟩, _,
      fragment_eq_ok.2 (.block read (ofParts_of_translates inside)), rfl,
      ofParts_of_alternatives alternatives ⟨_, _, []⟩ (ofParts_of_translates rest), rfl⟩

theorem ofParts_of_alternatives : ∀ {more : List Part} {otherwise : Else},
    Alternatives more otherwise → ∀ (c : Chain) {parts : List Part} {p : Program},
      ofParts none parts = .ok p → ofParts (some c) (more ++ parts) = .ok (c.close otherwise :: p)
  | _, _, .nothing, c, _, _, rest => ofParts_flush rest (some c)
  | _, _, .otherwise read inside, _, _, _, rest =>
    ofParts_cons.2 ⟨_, _, none, _, fragment_eq_ok.2 (.block read (ofParts_of_translates inside)),
      rfl, rest, rfl⟩
  | _, _, .elseIf read inside alternatives, c, _, _, rest =>
    ofParts_cons.2 ⟨_, [], some (c.add _ _), _,
      fragment_eq_ok.2 (.block read (ofParts_of_translates inside)), rfl,
      ofParts_of_alternatives alternatives (c.add _ _) rest, rfl⟩

end

/-- What becomes of an open conditional: it ends in front of the first part, or the first part is an
alternative that goes on with it or ends it. -/
theorem ofParts_some {c : Chain} (made : ofParts (some c) parts = .ok p) :
    (∃ q, ofParts none parts = .ok q ∧ p = c.close .nothing :: q) ∨
      ∃ header place body b rest, parts = .block header place body :: rest ∧
        ofParts none body = .ok b ∧
          ((∃ cond, Script.readHeader header = .ok (.elseIf cond) ∧
              ofParts (some (c.add cond b)) rest = .ok p) ∨
            ∃ q, Script.readHeader header = .ok .otherwise ∧ ofParts none rest = .ok q ∧
              p = c.close (.block b) :: q) := by
  cases parts with
  | nil =>
      cases made
      exact .inl ⟨[], rfl, rfl⟩
  | cons part parts =>
      obtain ⟨f, out, after, rest, first, entered, remaining, rfl⟩ := ofParts_cons.1 made
      -- A part that would stand where nothing is open does not go on with a conditional.
      cases alone : f.enter none with
      | some added =>
          have ended := Fragment.enter_flush alone (some c)
          cases entered.symm.trans ended
          exact .inl ⟨_, ofParts_cons.2 ⟨f, _, _, rest, first, alone, remaining, rfl⟩, rfl⟩
      | none =>
          cases fragment_eq_ok.1 first with
          | text | statements | expression => cases alone
          | @block header place body h b read inside =>
              refine .inr ⟨header, place, body, b, parts, rfl, inside, ?_⟩
              cases h with
              | elseIf cond =>
                  cases entered
                  exact .inl ⟨cond, read, remaining⟩
              | otherwise =>
                  cases entered
                  exact .inr ⟨rest, read, remaining, rfl⟩
              | forEach | whileTrue | ifTrue => cases alone

/-- The blocks that go on with an open conditional are cut off. -/
theorem alternatives_of_ofParts {c : Chain}
    (bodies : ∀ header place body, .block header place body ∈ parts →
      ∀ b, ofParts none body = .ok b → Translates body b)
    (made : ofParts (some c) parts = .ok p) :
    ∃ more rest otherwise q, parts = more ++ rest ∧ Alternatives more otherwise ∧
      ofParts none rest = .ok q ∧ p = c.close otherwise :: q := by
  induction parts generalizing c p with
  | nil =>
      cases made
      exact ⟨[], [], .nothing, [], rfl, .nothing, rfl, rfl⟩
  | cons part parts ih =>
      obtain ⟨q, ended, rfl⟩ | ⟨header, place, body, b, rest, eq, inside, goesOn⟩ :=
        ofParts_some made
      · exact ⟨[], part :: parts, .nothing, q, rfl, .nothing, ended, rfl⟩
      · obtain ⟨rfl, rfl⟩ := List.cons.inj eq
        have translated := bodies header place body List.mem_cons_self b inside
        obtain ⟨cond, read, further⟩ | ⟨q, read, ended, rfl⟩ := goesOn
        · obtain ⟨more, others, otherwise, q, rfl, alternatives, ended, rfl⟩ :=
            ih (fun header place body holds => bodies header place body (.tail _ holds)) further
          exact ⟨_, others, _, q, rfl, .elseIf read translated alternatives, ended, rfl⟩
        · exact ⟨_, parts, _, q, rfl, .otherwise read translated, ended, rfl⟩

/-- Siblings are translated when the content of their blocks is. -/
theorem translates_of_bodies {parts : List Part} {p : Program}
    (bodies : ∀ header place body, .block header place body ∈ parts →
      ∀ b, ofParts none body = .ok b → Translates body b)
    (made : ofParts none parts = .ok p) : Translates parts p := by
  cases parts with
  | nil =>
      cases made
      exact .nil
  | cons part parts =>
      have others : ∀ header place body, .block header place body ∈ parts →
          ∀ b, ofParts none body = .ok b → Translates body b := fun header place body holds =>
        bodies header place body (.tail _ holds)
      obtain ⟨f, out, after, rest, first, entered, remaining, rfl⟩ := ofParts_cons.1 made
      cases fragment_eq_ok.1 first with
      | text =>
          cases entered
          exact .text (translates_of_bodies others remaining)
      | statements read =>
          cases entered
          exact .statements read (translates_of_bodies others remaining)
      | expression read =>
          cases entered
          exact .expression read (translates_of_bodies others remaining)
      | @block header place body h b read inside =>
          have translated := bodies header place body List.mem_cons_self b inside
          cases h with
          | forEach var iterable =>
              cases entered
              exact .forLoop read translated (translates_of_bodies others remaining)
          | whileTrue cond =>
              cases entered
              exact .whileLoop read translated (translates_of_bodies others remaining)
          | ifTrue cond =>
              cases entered
              obtain ⟨more, parts, otherwise, q, rfl, alternatives, ended, rfl⟩ :=
                alternatives_of_ofParts others remaining
              refine .conditional read translated alternatives
                (not_isAlternative_of_ofParts ended) (translates_of_bodies ?_ ended)
              exact fun header place body holds =>
                others header place body (List.mem_append_right _ holds)
          | elseIf cond => cases entered
          | otherwise => cases entered
-- What comes after a conditional is any suffix of the parts, not their tail.
termination_by parts.length

theorem translates_of_ofParts (parts : List Part) :
    ∀ p, ofParts none parts = .ok p → Translates parts p := by
  induction parts using Part.siblings_induction with
  | step parts bodies => exact fun p => translates_of_bodies bodies

/-- Parts make a program if and only if all of them can be read and every alternative comes right
behind a block that leads on to it, at the top and in every block; and they make no program but the
one that they are translated to. -/
theorem ofParts_iff_translates (parts : List Part) :
    ((∃ p, ofParts none parts = .ok p) ↔ ∀ siblings, Part.Siblings parts siblings →
        (∀ part ∈ siblings, part.IsRead) ∧ Part.Chained siblings) ∧
      ∀ p, ofParts none parts = .ok p ↔ Translates parts p :=
  ⟨exists_ofParts_tree parts, fun p => ⟨translates_of_ofParts parts p, ofParts_of_translates⟩⟩

/- Code without a statement comes between a conditional and its alternative as well. -/
example : ofParts none [.block "if a".toList ⟨1, 4⟩ [.text "x".toList],
    .statements [] ⟨2, 4⟩, .block "else".toList ⟨3, 4⟩ []] =
      .error ⟨⟨3, 4⟩, .orphanBranch "else"⟩ := by
  cbv

end Program

end Stencil
