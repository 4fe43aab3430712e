import Stencil.Proofs.Source.Cuts
import Stencil.Proofs.Source.Parts

/-!
# Parts in a table

Parts can be kept in one table: each has a number, a block names its children by their numbers, and
the parts at the outermost level are listed apart (`Arena`). Such a table grows at its end only. A
new part is added to the children of the innermost block that is open, which is found by its number,
and code is cut out of the source between two offsets (`OpenArena.next`).

The table that comes of the tokens of a source is that of the parts that are built of them, numbered
in the order in which they begin (`Arena.build_eq`): after every token it holds what has been built
(`OpenArena.ofBlocks`), since a token that comes next adds the same to both.
-/

namespace Stencil

inductive Node where
  | text (text : List Char)
  | statements (code : List Char) (place : Place)
  | expression (code : List Char) (place : Place)
  | block (header : List Char) (place : Place) (children : List Nat)
deriving DecidableEq

structure Arena where
  nodes : List Node
  /-- The parts at the outermost level. -/
  root : List Nat
deriving DecidableEq

/-- A table that is being made. -/
structure OpenArena where
  nodes : List Node
  root : List Nat
  /-- The blocks that are open, innermost first, and where their opening markers stand. -/
  stack : List (Nat × Place)

/-- What the next token is taken for. -/
inductive Awaiting where
  | part
  | code (opening : Token) (closing : Marker)
  | header (opening : Token)

namespace Text

/-- The characters of the first bytes, which have to end between two characters. -/
def takeBytes : Nat → List Char → Option (List Char)
  | 0, _ => some []
  | _ + 1, [] => none
  | n + 1, c :: cs =>
    if c.utf8Size ≤ n + 1 then (takeBytes (n + 1 - c.utf8Size) cs).map (c :: ·) else none

/-- The text between two offsets. There is none where these are not borders of characters. -/
def slice (source : List Char) (first last : Nat) : List Char :=
  ((dropBytes first source).bind (takeBytes (last - first))).getD []

theorem takeBytes_append (cs ds : List Char) :
    takeBytes (String.utf8Len cs) (cs ++ ds) = some cs := by
  induction cs with
  | nil => simp [takeBytes]
  | cons c cs ih =>
      obtain ⟨n, size⟩ := Nat.exists_eq_add_one.2 c.utf8Size_pos
      rw [String.utf8Len_cons, size, ← Nat.add_assoc, List.cons_append, takeBytes, size]
      simpa [Nat.add_assoc] using ih

theorem slice_append (before code after : List Char) :
    slice (before ++ code ++ after) (String.utf8Len before) (String.utf8Len (before ++ code)) =
      code := by
  rw [slice, List.append_assoc, dropBytes_append, String.utf8Len_append, Nat.add_sub_cancel_left,
    Option.bind_some, takeBytes_append, Option.getD_some]

end Text

namespace Node

/-- The parts inside a part, which only a block has. -/
def children : Node → List Nat
  | .block _ _ children => children
  | _ => []

/-- Adds children to a block. Other parts stay as they are. -/
def adopt (ids : List Nat) : Node → Node
  | .block header place children => .block header place (children ++ ids)
  | node => node

/-- The part made of code in front of `closing`. -/
def ofCode (closing : Marker) (code : List Char) (place : Place) : Node :=
  if closing = .statementClose then .statements code place else .expression code place

@[simp] theorem adopt_nil (node : Node) : node.adopt [] = node := by
  cases node <;> simp [adopt]

theorem adopt_adopt (ids ids' : List Nat) (node : Node) :
    (node.adopt ids).adopt ids' = node.adopt (ids ++ ids') := by
  cases node <;> simp [adopt]

end Node

namespace OpenArena

/-- Adds parts at the end of the table. Those whose numbers are `ids` go to the innermost block that
is open, or to the outermost level. -/
def attach (s : OpenArena) (ids : List Nat) (nodes : List Node) : OpenArena :=
  match s.stack with
  | [] => { s with nodes := s.nodes ++ nodes, root := s.root ++ ids }
  | (parent, _) :: _ => { s with nodes := (s.nodes ++ nodes).modify parent (Node.adopt ids) }

/-- Adds one part. Its number is the length of the table so far. -/
def insert (s : OpenArena) (node : Node) : OpenArena := s.attach [s.nodes.length] [node]

def insertText (s : OpenArena) (text : List Char) : OpenArena :=
  if text.isEmpty then s else s.insert (.text text)

def openBlock (s : OpenArena) (header : List Char) (place start : Place) : OpenArena :=
  { s.insert (.block header place []) with stack := (s.nodes.length, start) :: s.stack }

/-- The header of the block with a number. -/
def headerOf (s : OpenArena) (id : Nat) : List Char :=
  match s.nodes[id]? with
  | some (.block header _ _) => header
  | _ => []

def next (source : List Char) (s : OpenArena × Awaiting) (t : Token) :
    Except Flaw (OpenArena × Awaiting) :=
  match s.2 with
  | .code opening closing =>
    if t.kind = .marker closing then
      let first := opening.start.offset + String.utf8Len opening.text
      let code := Text.slice source first t.start.offset
      .ok (s.1.insert (.ofCode closing code opening.contentPlace), .part)
    else .ok (s.1, .code opening closing)
  | .header opening =>
    if t.kind = .text ∧ Text.trim (Part.headerLine t.text) ≠ [] then
      let header := Part.headerLine t.text
      let opened := s.1.openBlock header opening.contentPlace opening.start.toPlace
      .ok (opened.insertText (Part.afterHeader t.text), .part)
    else .error (Part.missingHeader opening)
  | .part =>
    match t.kind with
    | .text => .ok (s.1.insertText t.text, .part)
    | .marker .statementOpen => .ok (s.1, .code t .statementClose)
    | .marker .expressionOpen => .ok (s.1, .code t .expressionClose)
    | .marker .blockOpen => .ok (s.1, .header t)
    | .marker .blockClose =>
      match s.1.stack with
      | _ :: stack => .ok ({ s.1 with stack := stack }, .part)
      | [] => .error (Part.nothingToClose t)
    | .marker .statementClose => .error (Part.nothingToClose t)
    | .marker .expressionClose => .error (Part.nothingToClose t)

def finish (m : Markers) (s : OpenArena × Awaiting) : Except Flaw Arena :=
  match s.2 with
  | .code opening closing =>
    .error ⟨opening.start.toPlace, .unterminatedCode (m.delimiter closing)⟩
  | .header opening => .error (Part.missingHeader opening)
  | .part =>
    match s.1.stack with
    | [] => .ok ⟨s.1.nodes, s.1.root⟩
    | (id, start) :: _ =>
      .error ⟨start, .unclosedBlock (String.ofList (Text.trim (s.1.headerOf id))) m.block.closing⟩

end OpenArena

/-- The parts of a source in a table. -/
def Arena.build (m : Markers) (source : List Char) (tokens : List Token) : Except Flaw Arena :=
  tokens.foldlM (OpenArena.next source) (⟨[], [], []⟩, .part) >>= OpenArena.finish m

namespace Part

mutual

/-- The table of a part whose number is `n`, from that number on. -/
def nodes (n : Nat) : Part → List Node
  | .text cs => [.text cs]
  | .statements code place => [.statements code place]
  | .expression code place => [.expression code place]
  | .block header place body => .block header place (numbers (n + 1) body) :: nodesAll (n + 1) body

/-- The table of some parts, from the number `n` on. -/
def nodesAll (n : Nat) : List Part → List Node
  | [] => []
  | part :: parts => part.nodes n ++ nodesAll (n + (part.nodes n).length) parts

/-- The numbers of some parts, each after all that is in the one before it. -/
def numbers (n : Nat) : List Part → List Nat
  | [] => []
  | part :: parts => n :: numbers (n + (part.nodes n).length) parts

end

end Part

def Arena.ofParts (parts : List Part) : Arena := ⟨Part.nodesAll 0 parts, Part.numbers 0 parts⟩

namespace Part

theorem nodesAll_append (n : Nat) (ps qs : List Part) :
    nodesAll n (ps ++ qs) = nodesAll n ps ++ nodesAll (n + (nodesAll n ps).length) qs := by
  induction ps generalizing n with
  | nil => simp [nodesAll]
  | cons part ps ih => simp [nodesAll, ih, Nat.add_assoc]

theorem numbers_append (n : Nat) (ps qs : List Part) :
    numbers n (ps ++ qs) = numbers n ps ++ numbers (n + (nodesAll n ps).length) qs := by
  induction ps generalizing n with
  | nil => simp [nodesAll, numbers]
  | cons part ps ih => simp [nodesAll, numbers, ih, Nat.add_assoc]

theorem nodesAll_block (n : Nat) (header : List Char) (place : Place) (body : List Part) :
    nodesAll n [.block header place body] =
      .block header place (numbers (n + 1) body) :: nodesAll (n + 1) body := by
  simp [nodesAll, nodes]

end Part

section Lists

variable {α : Type} {f : α → α}

theorem modify_append_left {i : Nat} {xs : List α} (inside : i < xs.length) (ys : List α) :
    (xs ++ ys).modify i f = xs.modify i f ++ ys := by
  induction xs generalizing i with
  | nil => cases inside
  | cons x xs ih =>
      cases i with
      | zero => rfl
      | succ i =>
          have shorter : i < xs.length := by simpa using inside
          rw [List.cons_append, List.modify_succ_cons, List.modify_succ_cons, ih shorter,
            List.cons_append]

theorem modify_append_length (xs ys : List α) (x : α) :
    (xs ++ x :: ys).modify xs.length f = xs ++ f x :: ys := by
  induction xs with
  | nil => rfl
  | cons y xs ih =>
      rw [List.cons_append, List.length_cons, List.modify_succ_cons, ih, List.cons_append]

end Lists

namespace OpenArena

variable {s : OpenArena}

/-- The blocks that are open are in the table. -/
def Valid (s : OpenArena) : Prop := ∀ e ∈ s.stack, e.1 < s.nodes.length

@[simp] theorem attach_stack (s : OpenArena) (ids : List Nat) (nodes : List Node) :
    (s.attach ids nodes).stack = s.stack := by
  rw [attach]
  split <;> rfl

@[simp] theorem length_attach (s : OpenArena) (ids : List Nat) (nodes : List Node) :
    (s.attach ids nodes).nodes.length = s.nodes.length + nodes.length := by
  rw [attach]
  split <;> simp

theorem attach_attach (valid : s.Valid) (ids ids' : List Nat) (nodes nodes' : List Node) :
    (s.attach ids nodes).attach ids' nodes' = s.attach (ids ++ ids') (nodes ++ nodes') := by
  obtain ⟨all, root, stack⟩ := s
  cases stack with
  | nil => simp [attach]
  | cons e stack =>
      have inside : e.1 < all.length := valid e List.mem_cons_self
      have later : e.1 < (all ++ nodes).length := by
        rw [List.length_append]
        omega
      simp only [attach]
      rw [← modify_append_left later, List.modify_modify_eq, List.append_assoc]
      congr 2
      funext node
      exact Node.adopt_adopt ids ids' node

theorem attach_nil (s : OpenArena) : s.attach [] [] = s := by
  obtain ⟨all, root, stack⟩ := s
  cases stack with
  | nil => simp [attach]
  | cons e stack =>
      have same : Node.adopt [] = id := funext Node.adopt_nil
      simp [attach, same]

theorem Valid.attach (valid : s.Valid) (ids : List Nat) (nodes : List Node) :
    (s.attach ids nodes).Valid := by
  intro e inside
  rw [attach_stack] at inside
  rw [length_attach]
  have bound := valid e inside
  omega

theorem Valid.openBlock (valid : s.Valid) (header : List Char) (place start : Place) :
    (s.openBlock header place start).Valid := by
  intro e inside
  rw [OpenArena.openBlock, insert, length_attach]
  rcases List.mem_cons.1 inside with rfl | outer
  · simp
  · have bound := valid e outer
    omega

def plant (s : OpenArena) (parts : List Part) : OpenArena :=
  s.attach (Part.numbers s.nodes.length parts) (Part.nodesAll s.nodes.length parts)

theorem plant_nil (s : OpenArena) : s.plant [] = s := attach_nil s

theorem plant_append (valid : s.Valid) (ps qs : List Part) :
    (s.plant ps).plant qs = s.plant (ps ++ qs) := by
  rw [plant, plant, plant, length_attach, attach_attach valid, Part.numbers_append,
    Part.nodesAll_append]

/-- What is added stands at the end of the table, whatever it is. -/
theorem Valid.attach_eq (valid : s.Valid) (ids : List Nat) : ∃ front root,
    front.length = s.nodes.length ∧
      ∀ nodes, s.attach ids nodes = ⟨front ++ nodes, root, s.stack⟩ := by
  obtain ⟨all, root, stack⟩ := s
  cases stack with
  | nil => exact ⟨all, root ++ ids, rfl, fun _ => rfl⟩
  | cons e stack =>
      have inside : e.1 < all.length := valid e List.mem_cons_self
      refine ⟨all.modify e.1 (Node.adopt ids), root, by simp, fun nodes => ?_⟩
      rw [← modify_append_left inside]
      rfl

/-- A block that has been closed is a part like others. -/
theorem plant_block (valid : s.Valid) (header : List Char) (place start : Place)
    (body : List Part) :
    { (s.openBlock header place start).plant body with stack := s.stack } =
      s.plant [.block header place body] := by
  obtain ⟨front, root, length, added⟩ := valid.attach_eq [s.nodes.length]
  have behind : (front ++ [Node.block header place []]).length = s.nodes.length + 1 := by
    simp [length]
  have alone : Part.numbers s.nodes.length [.block header place body] = [s.nodes.length] := rfl
  -- On the left the body is added to a block that is in the table already, on the right the block
  -- is added with its body.
  rw [openBlock, insert, added, plant, plant, alone, added, Part.nodesAll_block]
  simp only [attach, behind]
  rw [List.append_assoc, ← length]
  congr 1
  exact modify_append_length front _ _

/-- The table of a build that has come so far. -/
def ofBlocks : List OpenBlock → List Part → OpenArena
  | [], parts => plant ⟨[], [], []⟩ parts.reverse
  | b :: blocks, parts =>
    ((ofBlocks blocks b.before).openBlock b.header b.place b.start).plant parts.reverse

theorem valid_ofBlocks (blocks : List OpenBlock) (parts : List Part) :
    (ofBlocks blocks parts).Valid := by
  induction blocks generalizing parts with
  | nil => exact Valid.attach (by simp [Valid]) _ _
  | cons b blocks ih => exact ((ih b.before).openBlock _ _ _).attach _ _

theorem plant_ofBlocks (blocks : List OpenBlock) (parts own : List Part) :
    (ofBlocks blocks parts).plant own = ofBlocks blocks (own.reverse ++ parts) := by
  cases blocks with
  | nil =>
      rw [ofBlocks, plant_append (by simp [Valid]), ofBlocks]
      simp
  | cons b blocks =>
      rw [ofBlocks, plant_append ((valid_ofBlocks blocks b.before).openBlock _ _ _), ofBlocks]
      simp

theorem insertText_ofBlocks (blocks : List OpenBlock) (parts : List Part) (text : List Char) :
    (ofBlocks blocks parts).insertText text = ofBlocks blocks (Part.addText text parts) := by
  rw [insertText, Part.addText]
  split
  · rfl
  · exact plant_ofBlocks blocks parts [.text text]

theorem openBlock_ofBlocks (blocks : List OpenBlock) (b : OpenBlock) :
    (ofBlocks blocks b.before).openBlock b.header b.place b.start = ofBlocks (b :: blocks) [] := by
  rw [ofBlocks, List.reverse_nil, plant_nil]

theorem insert_ofBlocks (blocks : List OpenBlock) (parts : List Part) (closing : Marker)
    (code : List Char) (opening : Token) :
    (ofBlocks blocks parts).insert (.ofCode closing code opening.contentPlace) =
      ofBlocks blocks (Part.ofCode opening closing code :: parts) := by
  have added := plant_ofBlocks blocks parts [Part.ofCode opening closing code]
  rw [List.reverse_singleton, List.singleton_append] at added
  rw [← added, Part.ofCode, Node.ofCode]
  split <;> rfl

theorem stack_ofBlocks_cons (b : OpenBlock) (blocks : List OpenBlock) (parts : List Part) :
    (ofBlocks (b :: blocks) parts).stack =
      ((ofBlocks blocks b.before).nodes.length, b.start) :: (ofBlocks blocks b.before).stack :=
  attach_stack _ _ _

/-- The innermost block is closed. -/
theorem close_ofBlocks (b : OpenBlock) (blocks : List OpenBlock) (parts : List Part) :
    { ofBlocks (b :: blocks) parts with stack := (ofBlocks blocks b.before).stack } =
      ofBlocks blocks (.block b.header b.place parts.reverse :: b.before) := by
  rw [ofBlocks, plant_block (valid_ofBlocks blocks b.before), plant_ofBlocks]
  rfl

theorem headerOf_ofBlocks (b : OpenBlock) (blocks : List OpenBlock) (parts : List Part) :
    (ofBlocks (b :: blocks) parts).headerOf (ofBlocks blocks b.before).nodes.length = b.header := by
  obtain ⟨front, root, length, added⟩ := (valid_ofBlocks blocks b.before).attach_eq
    (Part.numbers (ofBlocks blocks b.before).nodes.length [.block b.header b.place parts.reverse])
  have closed := congrArg OpenArena.nodes (plant_block (valid_ofBlocks blocks b.before) b.header
    b.place b.start parts.reverse)
  have planted : (ofBlocks blocks b.before).plant [.block b.header b.place parts.reverse] = _ :=
    added _
  rw [planted, Part.nodesAll_block] at closed
  have here : (ofBlocks (b :: blocks) parts).nodes = _ := closed
  rw [headerOf, here, ← length]
  simp

/-- What is awaited where a build has come so far. -/
def awaiting : Expecting → Awaiting
  | .part => .part
  | .code opening closing _ => .code opening closing
  | .header opening => .header opening

/-- The table of a build that has come so far, and what is awaited. -/
def ofProgress (s : Progress) : OpenArena × Awaiting :=
  (ofBlocks s.blocks s.parts, awaiting s.expecting)

end OpenArena

namespace Progress

/-- Code that is being read started behind its opening marker, and what has been read of it are the
characters from there to where the source has been passed. -/
def ReadFrom (passed : List Char) : Expecting → Prop
  | .code opening _ read => ∃ before, opening.start = Location.start.after before ∧
      passed = before ++ opening.text ++ read.reverse.flatten
  | _ => True

variable {s s' : Progress} {t : Token} {passed : List Char}

theorem readFrom_next (reading : ReadFrom passed s.expecting)
    (there : t.start = Location.start.after passed) (ok : s.next t = .ok s') :
    ReadFrom (passed ++ t.text) s'.expecting := by
  obtain ⟨blocks, parts, expecting⟩ := s
  rw [next] at ok
  cases expecting with
  | code opening closing read =>
      obtain ⟨before, start, rfl⟩ := reading
      simp only at ok
      split at ok
      · cases ok
        trivial
      · cases ok
        exact ⟨before, start, by simp⟩
  | header opening =>
      simp only at ok
      split at ok
      · cases ok
        trivial
      · cases ok
  | part =>
      have opens (closing : Marker) : ReadFrom (passed ++ t.text) (.code t closing []) :=
        ⟨passed, there, by simp⟩
      simp only at ok
      split at ok
      · cases ok
        trivial
      · cases ok
        exact opens _
      · cases ok
        exact opens _
      · cases ok
        trivial
      · split at ok
        · cases ok
          trivial
        · cases ok
      · cases ok
      · cases ok

end Progress

namespace OpenArena

variable {s : Progress} {t : Token} {passed rest : List Char}

/-- A token adds the same to the table as to the parts. -/
theorem next_ofProgress (reading : Progress.ReadFrom passed s.expecting)
    (there : t.start = Location.start.after passed) :
    next (passed ++ rest) (ofProgress s) t = (s.next t).map ofProgress := by
  obtain ⟨blocks, parts, expecting⟩ := s
  rw [next, Progress.next]
  cases expecting with
  | code opening closing read =>
      obtain ⟨before, start, rfl⟩ := reading
      -- The code was read token by token; the slice has it at once, between two offsets.
      have cut : Text.slice (before ++ opening.text ++ read.reverse.flatten ++ rest)
          (opening.start.offset + String.utf8Len opening.text) t.start.offset =
          read.reverse.flatten := by
        have content := Text.slice_append (before ++ opening.text) read.reverse.flatten rest
        rw [there, start, Location.start_after, Location.start_after, ← String.utf8Len_append]
        exact content
      simp only [ofProgress, awaiting, cut]
      split
      · rw [insert_ofBlocks]
        rfl
      · rfl
  | header opening =>
      simp only [ofProgress, awaiting]
      split
      · have opened := openBlock_ofBlocks blocks ⟨opening.start.toPlace, Part.headerLine t.text,
          opening.contentPlace, parts⟩
        simp only at opened
        rw [opened, insertText_ofBlocks]
        rfl
      · rfl
  | part =>
      obtain ⟨kind, text, place⟩ := t
      cases kind with
      | text =>
          simp only [ofProgress, awaiting, insertText_ofBlocks]
          rfl
      | marker marker =>
          cases marker with
          | statementOpen => rfl
          | expressionOpen => rfl
          | blockOpen => rfl
          | blockClose =>
              cases blocks with
              | nil => rfl
              | cons b blocks =>
                  simp only [ofProgress, awaiting, stack_ofBlocks_cons, close_ofBlocks]
                  rfl
          | statementClose => rfl
          | expressionClose => rfl

/-- The end of the source is the same to both. -/
theorem finish_ofProgress (m : Markers) (s : Progress) :
    finish m (ofProgress s) = (s.finish m).map Arena.ofParts := by
  obtain ⟨blocks, parts, expecting⟩ := s
  cases expecting with
  | code opening closing read => rfl
  | header opening => rfl
  | part =>
      cases blocks with
      | nil =>
          simp [finish, ofProgress, awaiting, ofBlocks, plant, attach, Progress.finish,
            Part.atEnd, Except.map, Arena.ofParts]
      | cons b blocks =>
          simp only [finish, ofProgress, awaiting, stack_ofBlocks_cons, headerOf_ofBlocks]
          rfl

/-- The tokens of a source add the same to the table as to the parts. -/
theorem foldlM_ofProgress {ts : List Token} (reading : Progress.ReadFrom passed s.expecting)
    (placed : Token.Placed passed ts) :
    ts.foldlM (next (passed ++ ts.flatMap Token.text)) (ofProgress s) =
      (ts.foldlM Progress.next s).map ofProgress := by
  induction ts generalizing s passed with
  | nil => rfl
  | cons t ts ih =>
      obtain ⟨there, more⟩ := Token.placed_cons.1 placed
      rw [List.foldlM_cons, List.foldlM_cons, next_ofProgress reading there]
      cases stepped : s.next t with
      | error flaw => rfl
      | ok s' =>
          have further := ih (Progress.readFrom_next reading there stepped) more
          rw [List.append_assoc] at further
          exact further

end OpenArena

/-- The table of a source holds the parts of the source, each with its number, and where the parts
cannot be built the flaw is the same. -/
theorem Arena.build_eq {m : Markers} {source : List Char} {tokens : List Token}
    (scanned : Token.scan m source = .ok tokens) :
    build m source tokens = (Part.ofTokens m tokens).map ofParts := by
  obtain ⟨⟨whole, -⟩, placed⟩ := Token.outcome_of_scan scanned
  have folded := OpenArena.foldlM_ofProgress (s := ⟨[], [], .part⟩) trivial placed
  rw [List.nil_append, ← contents_map_bare, whole] at folded
  rw [build, Part.ofTokens, Progress.build_eq m tokens ⟨[], [], .part⟩]
  have start : OpenArena.ofProgress ⟨[], [], .part⟩ = (⟨[], [], []⟩, .part) := rfl
  rw [← start, folded]
  cases tokens.foldlM Progress.next ⟨[], [], .part⟩ with
  | error flaw => rfl
  | ok s => exact OpenArena.finish_ofProgress m s

end Stencil
