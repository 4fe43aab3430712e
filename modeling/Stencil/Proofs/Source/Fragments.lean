import Stencil.Program
import Stencil.Proofs.Source.Parts

/-!
# The program of some parts

A program is made one part after another: what a part adds to it depends on the conditional that may
still go on, and leaves such a conditional or none (`Program.ofParts_cons`). A program can therefore
be cut in two between any two parts (`Program.ofParts_split`), and a second half that is a program
on its own is the same after any first half, since it cannot go on with a conditional that it does
not start (`Program.ofParts_append`). Places make no difference to it.
-/

namespace Stencil

namespace Fragment

/-- What a fragment makes of the conditional that may still go on: the statements that are finished
with it, and the conditional that may go on after it. -/
def enter : Fragment → Option Chain → Option (List Stmt × Option Chain)
  | .statements ss, chain => some (Chain.flush chain ++ ss, none)
  | .start cond body, chain => some (Chain.flush chain, some ⟨cond, body, []⟩)
  | .further cond body _, some c => some ([], some (c.add cond body))
  | .last body _, some c => some ([c.close (.block body)], none)
  | .further _ _ _, none => none
  | .last _ _, none => none

/-- A fragment that needs no conditional leaves one that is there as it is. -/
theorem enter_flush {f : Fragment} {out : List Stmt} {after : Option Chain}
    (h : f.enter none = some (out, after)) (chain : Option Chain) :
    f.enter chain = some (Chain.flush chain ++ out, after) := by
  cases f with
  | statements ss =>
      cases h
      rfl
  | start cond body =>
      cases h
      simp [enter, Chain.flush]
  | further => cases h
  | last => cases h

/-- Two fragments that differ in nothing but the flaw that they may turn out to be. -/
inductive Same : Fragment → Fragment → Prop
  | statements (ss : List Stmt) : Same (.statements ss) (.statements ss)
  | start (cond : Expr) (body : List Stmt) : Same (.start cond body) (.start cond body)
  | further (cond : Expr) (body : List Stmt) (orphan orphan' : Flaw) :
      Same (.further cond body orphan) (.further cond body orphan')
  | last (body : List Stmt) (orphan orphan' : Flaw) : Same (.last body orphan) (.last body orphan')

theorem Same.enter {f f' : Fragment} (h : Same f f') (chain : Option Chain) :
    f'.enter chain = f.enter chain := by
  cases h <;> cases chain <;> rfl

theorem ofBlock_same (h : Script.Header) (body : List Stmt) (orphan orphan' : Flaw) :
    Same (ofBlock h body orphan) (ofBlock h body orphan') := by
  cases h <;> constructor

end Fragment

/-- What a part adds to the program of its level when all that is in it can be read. -/
inductive Part.Adds : Part → Fragment → Prop
  | text {text : List Char} : Adds (.text text) (.statements [.emitText (String.ofList text)])
  | statements {code : List Char} {place : Place} {ss : List Stmt}
      (read : Script.readStatements code = .ok ss) : Adds (.statements code place) (.statements ss)
  | expression {code : List Char} {place : Place} {e : Expr}
      (read : Script.readExpression code = .ok e) :
      Adds (.expression code place) (.statements [.emit e])
  | block {header : List Char} {place : Place} {body : List Part} {h : Script.Header} {b : Program}
      (read : Script.readHeader header = .ok h) (inside : Program.ofParts none body = .ok b) :
      Adds (.block header place body)
        (.ofBlock h b ⟨place, .orphanBranch (Program.headerText header)⟩)

namespace Program

theorem readCode_eq_ok {α : Type} {place : Place} {result : Except Script.Error α} {a : α} :
    readCode place result = .ok a ↔ result = .ok a := by
  cases result <;> simp [readCode, Except.mapError]

theorem readHeader_eq_ok {header : List Char} {place : Place} {h : Script.Header} :
    readHeader header place = .ok h ↔ Script.readHeader header = .ok h := by
  rw [readHeader]
  cases Script.readHeader header <;> simp [Except.mapError]

/-- What one part adds to a program. -/
theorem ofParts_cons {chain : Option Chain} {part : Part} {parts : List Part} {p : Program} :
    ofParts chain (part :: parts) = .ok p ↔
      ∃ f out after rest, fragment part = .ok f ∧ f.enter chain = some (out, after) ∧
        ofParts after parts = .ok rest ∧ p = out ++ rest := by
  rw [ofParts, bind_eq_ok]
  simp only [exists_and_left]
  refine exists_congr fun f => and_congr_right fun _ => ?_
  cases f <;> cases chain <;>
    simp [Fragment.enter, bind_eq_ok, pure, Except.pure, Chain.flush, @eq_comm _ p]

theorem fragment_eq_ok {part : Part} {f : Fragment} : fragment part = .ok f ↔ part.Adds f := by
  constructor
  · intro made
    cases part with
    | text text =>
        cases made
        exact .text
    | statements code place =>
        rw [fragment] at made
        cases read : Script.readStatements code with
        | error e =>
            rw [read] at made
            cases made
        | ok ss =>
            rw [read] at made
            cases made
            exact .statements read
    | expression code place =>
        rw [fragment, bind_eq_ok] at made
        obtain ⟨e, read, eq⟩ := made
        cases eq
        exact .expression (readCode_eq_ok.1 read)
    | block header place body =>
        rw [fragment, bind_eq_ok] at made
        obtain ⟨h, read, made⟩ := made
        obtain ⟨b, inside, eq⟩ := bind_eq_ok.1 made
        cases eq
        exact .block (readHeader_eq_ok.1 read) inside
  · intro adds
    cases adds with
    | text => rfl
    | statements read =>
        rw [fragment, read]
        rfl
    | expression read =>
        rw [fragment, read]
        rfl
    | block read inside =>
        rw [fragment, bind_eq_ok]
        exact ⟨_, readHeader_eq_ok.2 read, bind_eq_ok.2 ⟨_, inside, rfl⟩⟩

mutual

/-- The places of parts make no difference to what they add to a program. -/
theorem fragment_same : ∀ {part part' : Part} {f : Fragment}, Part.Same part part' →
    fragment part = .ok f → ∃ f', fragment part' = .ok f' ∧ Fragment.Same f f'
  | _, _, _, .text text, h => by
    cases h
    exact ⟨_, rfl, .statements _⟩
  | _, _, f, .statements code place place', h => by
    cases fragment_eq_ok.1 h with
    | statements read => exact ⟨_, fragment_eq_ok.2 (.statements read), .statements _⟩
  | _, _, f, .expression code place place', h => by
    cases fragment_eq_ok.1 h with
    | expression read => exact ⟨_, fragment_eq_ok.2 (.expression read), .statements _⟩
  | _, _, f, .block header place place' same, h => by
    cases fragment_eq_ok.1 h with
    | block read inside =>
        have inside := ofParts_same same inside
        exact ⟨_, fragment_eq_ok.2 (.block read inside), Fragment.ofBlock_same _ _ _ _⟩

theorem ofParts_same : ∀ {chain : Option Chain} {ps ps' : List Part} {p : Program},
    Part.SameAll ps ps' → ofParts chain ps = .ok p → ofParts chain ps' = .ok p
  | _, _, _, _, .nil, h => h
  | _, _, _, _, .cons first rest, h => by
    obtain ⟨f, out, after, more, made, entered, remaining, rfl⟩ := ofParts_cons.1 h
    obtain ⟨f', made', same⟩ := fragment_same first made
    exact ofParts_cons.2 ⟨f', out, after, more, made', by rw [same.enter, entered],
      ofParts_same rest remaining, rfl⟩

end

/-- A program is cut in two: the first half leaves a conditional or none to any second half. -/
theorem ofParts_split {chain : Option Chain} {ps qs : List Part} {p : Program}
    (h : ofParts chain (ps ++ qs) = .ok p) :
    ∃ after first second, ofParts after qs = .ok second ∧ p = first ++ second ∧
      ∀ qs' second', ofParts after qs' = .ok second' →
        ofParts chain (ps ++ qs') = .ok (first ++ second') := by
  induction ps generalizing chain p with
  | nil => exact ⟨chain, [], p, h, rfl, fun _ _ h' => h'⟩
  | cons part ps ih =>
      obtain ⟨f, out, after, rest, made, entered, remaining, rfl⟩ := ofParts_cons.1 h
      obtain ⟨last, first, second, ended, rfl, any⟩ := ih remaining
      refine ⟨last, out ++ first, second, ended, by simp, ?_⟩
      intro qs' second' h'
      exact ofParts_cons.2 ⟨f, out, after, first ++ second', made, entered, any qs' second' h',
        by simp⟩

/-- A conditional ends where parts follow that are a program on their own. -/
theorem ofParts_flush {qs : List Part} {q : Program} (h : ofParts none qs = .ok q)
    (chain : Option Chain) : ofParts chain qs = .ok (Chain.flush chain ++ q) := by
  cases qs with
  | nil =>
      cases h
      simp [ofParts, Chain.flush]
  | cons part qs =>
      obtain ⟨f, out, after, rest, made, entered, remaining, rfl⟩ := ofParts_cons.1 h
      exact ofParts_cons.2 ⟨f, _, after, rest, made, Fragment.enter_flush entered chain, remaining,
        by simp⟩

theorem ofParts_append {ps qs : List Part} {p q : Program} (hp : ofParts none ps = .ok p)
    (hq : ofParts none qs = .ok q) : ofParts none (ps ++ qs) = .ok (p ++ q) := by
  rw [← List.append_nil ps] at hp
  obtain ⟨after, first, second, ended, rfl, any⟩ := ofParts_split hp
  cases ended
  rw [any qs _ (ofParts_flush hq after), List.append_assoc]

/-- Parts that begin with text. -/
theorem ofParts_text {chain : Option Chain} {text : List Char} {ps : List Part} {p : Program} :
    ofParts chain (.text text :: ps) = .ok p ↔
      ∃ rest, ofParts none ps = .ok rest ∧
        p = Chain.flush chain ++ .emitText (String.ofList text) :: rest := by
  rw [ofParts_cons]
  constructor
  · rintro ⟨f, out, after, rest, made, entered, remaining, rfl⟩
    cases made
    cases entered
    exact ⟨rest, remaining, by simp⟩
  · rintro ⟨rest, remaining, rfl⟩
    exact ⟨_, _, none, rest, rfl, rfl, remaining, by simp⟩

theorem ofSource_eq_ok {m : Markers} {source : List Char} {p : Program} :
    ofSource m source = .ok p ↔ ∃ tokens parts, Token.scan m source = .ok tokens ∧
      Part.build m [] [] .part tokens = .ok parts ∧ ofParts none parts = .ok p := by
  rw [ofSource, bind_eq_ok]
  refine exists_congr fun tokens => ?_
  rw [bind_eq_ok]
  simp only [exists_and_left]
  rfl

end Program

end Stencil
