import Stencil.Proofs.Source.Arena
import Stencil.Proofs.Source.Grammar

/-!
# Nothing is lost in the tree

The parts of a source, written in their order with the markers around code and blocks, are the
source again (`Part.Written`). Only the break behind a header is not kept, nor a return in front of
it, so what parts are written as is a relation: a header may have ended in any of four ways.

In their table every part is reached exactly once, from the outermost level or from one block that
began before it (`Arena.Sound`). This is so because the numbers that are listed anywhere are those
of the entries (`Part.links_perm`).
-/

namespace Stencil

/-- How the line of a header may end. -/
def headerEndings : List (List Char) := [[], ['\r'], ['\n'], ['\r', '\n']]

/-- What parts are written as. Text is never empty. -/
inductive Part.Written (m : Markers) : List Part → List Char → Prop
  | nil : Written m [] []
  | text {text out : List Char} {parts : List Part} (nonempty : text ≠ [])
      (more : Written m parts out) : Written m (.text text :: parts) (text ++ out)
  | code {opens closes : Marker} {part : List Char → Place → Part} {code out : List Char}
      {parts : List Part} (pair : Marker.Encloses opens closes part) (place : Place)
      (more : Written m parts out) :
      Written m (part code place :: parts)
        ((m.delimiter opens).toList ++ code ++ (m.delimiter closes).toList ++ out)
  | block {header ending inner out : List Char} {body parts : List Part} (place : Place)
      (ends : ending ∈ headerEndings) (inside : Written m body inner) (more : Written m parts out) :
      Written m (.block header place body :: parts)
        ((m.delimiter .blockOpen).toList ++ header ++ ending ++ inner ++
          (m.delimiter .blockClose).toList ++ out)

namespace Part

variable {m : Markers}

/-- A header, the end of its line and what follows are the text that it was read from. -/
theorem headerLine_afterHeader (text : List Char) : ∃ ending ∈ headerEndings,
    headerLine text ++ ending ++ afterHeader text = text := by
  obtain ⟨ret, isReturn, line⟩ := headerLine_append text
  have split := List.takeWhile_append_dropWhile (p := (· != '\n')) (l := text)
  rw [line] at split
  rw [afterHeader]
  cases rest : text.dropWhile (· != '\n') with
  | nil =>
      rw [rest] at split
      refine ⟨ret, ?_, split⟩
      rcases isReturn with rfl | rfl <;> simp [headerEndings]
  | cons c cs =>
      have isBreak : c = '\n' := by
        have first := List.head?_dropWhile_not (· != '\n') text
        rw [rest] at first
        simpa using first
      subst isBreak
      rw [rest] at split
      refine ⟨ret ++ ['\n'], ?_, by simpa using split⟩
      rcases isReturn with rfl | rfl <;> simp [headerEndings]

theorem Written.ofText {parts : List Part} {out : List Char} (written : Written m parts out)
    (text : List Char) : Written m (ofText text ++ parts) (text ++ out) := by
  rw [Part.ofText]
  split
  · next isEmpty =>
    obtain rfl : text = [] := by simpa using isEmpty
    exact written
  · next nonempty => exact written.text (by simpa using nonempty)

/-- The parts of a document are written as its tokens are, if each marker stands there as its
delimiter. -/
theorem written_of_doc {ts : List Token} {parts : List Part} (doc : Doc ts parts)
    (texts : ∀ t ∈ ts, ∀ marker, t.kind = .marker marker → t.text = (m.delimiter marker).toList) :
    Written m parts (ts.flatMap Token.text) := by
  induction doc with
  | nil => exact .nil
  | @text t ts parts isText _ ih =>
      rw [List.flatMap_cons]
      exact (ih fun t inside => texts t (List.mem_cons_of_mem _ inside)).ofText t.text
  | @code opens closes part opening closing inner ts parts pair first _ last _ ih =>
      have more := ih fun t inside => texts t (by simp [inside])
      have written : Written m (part (inner.flatMap Token.text) opening.contentPlace :: parts) _ :=
        .code pair opening.contentPlace more
      rw [← texts opening (by simp) _ first, ← texts closing (by simp) _ last] at written
      simpa using written
  | @block opening header closing inner ts body parts first _ _ last _ within ih =>
      obtain ⟨ending, ends, line⟩ := headerLine_afterHeader header.text
      have inside := (within fun t inside => texts t (by simp [inside])).ofText
        (afterHeader header.text)
      have more := ih fun t inside => texts t (by simp [inside])
      have written : Written m (.block (headerLine header.text) opening.contentPlace
          (ofText (afterHeader header.text) ++ body) :: parts) _ :=
        .block opening.contentPlace ends inside more
      have joined (rest : List Char) : headerLine header.text ++
          (ending ++ (afterHeader header.text ++ rest)) = header.text ++ rest := by
        rw [← List.append_assoc, ← List.append_assoc, line]
      rw [← texts opening (by simp) _ first, ← texts closing (by simp) _ last] at written
      simpa [joined] using written

/-- No text in a table is empty if the parts can be written. -/
theorem Written.text_ne_nil {parts : List Part} {out : List Char} (written : Written m parts out)
    (n : Nat) : ∀ text, .text text ∈ nodesAll n parts → text ≠ [] := by
  induction written generalizing n with
  | nil => simp [nodesAll]
  | text nonempty _ ih =>
      intro text inside
      rw [nodesAll, List.mem_append] at inside
      rcases inside with first | later
      · obtain rfl : text = _ := by simpa [nodes] using first
        exact nonempty
      · exact ih _ text later
  | code pair place _ ih =>
      intro text inside
      rw [nodesAll, List.mem_append] at inside
      rcases inside with first | later
      · cases pair <;> simp [nodes] at first
      · exact ih _ text later
  | block place _ _ _ within ih =>
      intro text inside
      rw [nodesAll, nodes, List.mem_append, List.mem_cons] at inside
      rcases inside with (first | inner) | later
      · cases first
      · exact within _ text inner
      · exact ih _ text later

end Part

/-- The part that an entry stands for, with the parts inside it. -/
def Node.part (body : List Part) : Node → Part
  | .text cs => .text cs
  | .statements code place => .statements code place
  | .expression code place => .expression code place
  | .block header place _ => .block header place body

/-- What is found from some numbers on, by following the numbers of children, is these parts. -/
inductive Arena.Reads (nodes : List Node) : List Nat → List Part → Prop
  | nil : Reads nodes [] []
  | cons {id : Nat} {node : Node} {ids : List Nat} {body parts : List Part}
      (here : nodes[id]? = some node) (inside : Reads nodes node.children body)
      (more : Reads nodes ids parts) : Reads nodes (id :: ids) (node.part body :: parts)

namespace Part

open Arena (Reads)

mutual

theorem reads_nodes : ∀ (part : Part) (before after : List Node), ∃ node body,
    (before ++ part.nodes before.length ++ after)[before.length]? = some node ∧
      Reads (before ++ part.nodes before.length ++ after) node.children body ∧
      node.part body = part
  | .text cs, before, after => ⟨.text cs, [], by simp [nodes], .nil, rfl⟩
  | .statements code place, before, after =>
    ⟨.statements code place, [], by simp [nodes], .nil, rfl⟩
  | .expression code place, before, after =>
    ⟨.expression code place, [], by simp [nodes], .nil, rfl⟩
  | .block header place body, before, after => by
    refine ⟨.block header place (numbers (before.length + 1) body), body, by simp [nodes], ?_, rfl⟩
    have inside := reads_nodesAll body
      (before ++ [.block header place (numbers (before.length + 1) body)]) after
    rw [List.length_append, List.length_singleton] at inside
    simpa [nodes, Node.children] using inside

theorem reads_nodesAll : ∀ (parts : List Part) (before after : List Node),
    Reads (before ++ nodesAll before.length parts ++ after) (numbers before.length parts) parts
  | [], _, _ => .nil
  | part :: parts, before, after => by
    obtain ⟨node, body, here, inside, eq⟩ := reads_nodes part before
      (nodesAll (before.length + (part.nodes before.length).length) parts ++ after)
    have more := reads_nodesAll parts (before ++ part.nodes before.length) after
    subst eq
    rw [List.length_append] at more
    rw [nodesAll, numbers]
    simp only [List.append_assoc] at here inside more ⊢
    exact .cons here inside more

end

mutual

/-- The number of a part and those of all that is in it are those of its entries. -/
theorem links_perm_nodes : ∀ (part : Part) (n : Nat),
    (n :: (part.nodes n).flatMap Node.children).Perm (List.range' n (part.nodes n).length)
  | .text _, _ => .refl _
  | .statements _ _, _ => .refl _
  | .expression _ _, _ => .refl _
  | .block header place body, n => by
    rw [nodes, List.flatMap_cons, List.length_cons, List.range'_succ]
    exact (links_perm body (n + 1)).cons n

/-- The numbers of some parts and those of all that is in them are those of their entries. -/
theorem links_perm : ∀ (parts : List Part) (n : Nat),
    (numbers n parts ++ (nodesAll n parts).flatMap Node.children).Perm
      (List.range' n (nodesAll n parts).length)
  | [], _ => .refl _
  | part :: parts, n => by
    have first := links_perm_nodes part n
    have more := links_perm parts (n + (part.nodes n).length)
    rw [numbers, nodesAll, List.flatMap_append, List.length_append, ← List.range'_append_1]
    -- The numbers of `parts` have to come behind all that is in `part`.
    refine List.Perm.trans ?_ (first.append more)
    rw [List.cons_append, List.cons_append]
    refine List.Perm.cons n ?_
    rw [← List.append_assoc, ← List.append_assoc]
    exact List.perm_append_comm.append_right _

end

theorem children_of_getElem? {leaf node : Node} {k : Nat} (none : leaf.children = [])
    (here : [leaf][k]? = some node) : node.children = [] := by
  obtain rfl : node = leaf := List.mem_singleton.1 (List.mem_of_getElem? here)
  exact none

mutual

/-- The parts in a block begin after it. -/
theorem lt_children_nodes : ∀ (part : Part) (n k : Nat) (node : Node),
    (part.nodes n)[k]? = some node → ∀ id ∈ node.children, n + k < id
  | .text _, _, _, _, here => by simp [children_of_getElem? rfl here]
  | .statements _ _, _, _, _, here => by simp [children_of_getElem? rfl here]
  | .expression _ _, _, _, _, here => by simp [children_of_getElem? rfl here]
  | .block header place body, n, k, node, here => by
    intro id child
    rw [nodes] at here
    cases k with
    | zero =>
        obtain rfl : Node.block header place (numbers (n + 1) body) = node := by simpa using here
        have inside : id ∈ List.range' (n + 1) (nodesAll (n + 1) body).length :=
          (links_perm body (n + 1)).mem_iff.1 (List.mem_append_left _ child)
        have bound := (List.mem_range'_1.1 inside).1
        omega
    | succ k =>
        have later := lt_children body (n + 1) k node (by simpa using here) id child
        omega

theorem lt_children : ∀ (parts : List Part) (n k : Nat) (node : Node),
    (nodesAll n parts)[k]? = some node → ∀ id ∈ node.children, n + k < id
  | [], _, _, _, here => by simp [nodesAll] at here
  | part :: parts, n, k, node, here => by
    intro id child
    rw [nodesAll] at here
    by_cases first : k < (part.nodes n).length
    · rw [List.getElem?_append_left first] at here
      exact lt_children_nodes part n k node here id child
    · have behind : (part.nodes n).length ≤ k := Nat.le_of_not_lt first
      rw [List.getElem?_append_right behind] at here
      have later := lt_children parts _ _ node here id child
      omega

end

end Part

namespace Arena

/-- Every number that is listed, at the outermost level or in a block. -/
def links (a : Arena) : List Nat := a.root ++ a.nodes.flatMap Node.children

/-- A table that is a tree: every entry is listed once, at the outermost level or in one block,
which comes before it. No text is empty. -/
structure Sound (a : Arena) : Prop where
  once : ∀ id < a.nodes.length, a.links.count id = 1
  known : ∀ id ∈ a.links, id < a.nodes.length
  earlier : ∀ (id : Nat) (node : Node), a.nodes[id]? = some node →
    ∀ child ∈ node.children, id < child
  owner : ∀ node ∈ a.nodes, node.children ≠ [] →
    ∃ header place, node = .block header place node.children
  nonempty : ∀ text, .text text ∈ a.nodes → text ≠ []

theorem sound_ofParts {m : Markers} {parts : List Part} {out : List Char}
    (written : Part.Written m parts out) : (ofParts parts).Sound := by
  have perm : (ofParts parts).links.Perm (List.range (ofParts parts).nodes.length) := by
    rw [List.range_eq_range']
    exact Part.links_perm parts 0
  refine ⟨?_, ?_, ?_, ?_, written.text_ne_nil 0⟩
  · intro id inside
    rw [perm.count_eq]
    exact List.count_eq_one_of_mem List.nodup_range (List.mem_range.2 inside)
  · intro id listed
    exact List.mem_range.1 (perm.mem_iff.1 listed)
  · intro id node here child listed
    have later := Part.lt_children parts 0 id node here child listed
    omega
  · intro node _ parent
    cases node with
    | block header place children => exact ⟨header, place, rfl⟩
    | text => exact absurd rfl parent
    | statements => exact absurd rfl parent
    | expression => exact absurd rfl parent

theorem reads_ofParts (parts : List Part) :
    Reads (ofParts parts).nodes (ofParts parts).root parts := by
  have reads := Part.reads_nodesAll parts [] []
  rwa [List.append_nil, List.nil_append] at reads

end Arena

theorem Token.text_of_scan {m : Markers} {source : List Char} {tokens : List Token}
    (scanned : scan m source = .ok tokens) :
    ∀ t ∈ tokens, ∀ marker, t.kind = .marker marker → t.text = (m.delimiter marker).toList := by
  intro t inside marker isMarker
  obtain ⟨before, after, rfl⟩ := List.append_of_mem inside
  obtain ⟨⟨-, cut⟩, -⟩ := outcome_of_scan scanned
  have fits := cut.fits (before.map bare) t.bare (after.map bare) (by simp)
  rw [Markers.Fits, bare, isMarker] at fits
  exact fits.2.own.symm

/-- The parts of a source are written as that source. In a table, made by cutting code out of the
source, they are reached from the outermost level in the same order, each exactly once. -/
theorem Part.written_of_ofTokens {m : Markers} {source : List Char} {tokens : List Token}
    {parts : List Part} (scanned : Token.scan m source = .ok tokens)
    (built : ofTokens m tokens = .ok parts) :
    Written m parts source ∧ ∃ arena, Arena.build m source tokens = .ok arena ∧
      Arena.Reads arena.nodes arena.root parts ∧ arena.Sound := by
  have written : Written m parts source := by
    obtain ⟨⟨whole, -⟩, -⟩ := Token.outcome_of_scan scanned
    rw [← whole, contents_map_bare]
    exact written_of_doc (doc_of_ofTokens built) (Token.text_of_scan scanned)
  refine ⟨written, Arena.ofParts parts, ?_, Arena.reads_ofParts parts, Arena.sound_ofParts written⟩
  rw [Arena.build_eq scanned, built]
  rfl

namespace Conditional

/-- A block behind text, whose header line ends with a return and a break. -/
def source : List Char := "a//: if x\r\nb\x7b\x7by\x7d\x7d//!".toList

def tokens : List Token :=
  [⟨.text, ['a'], ⟨0, 1, 1⟩⟩, ⟨.marker .blockOpen, ['/', '/', ':'], ⟨1, 1, 2⟩⟩,
    ⟨.text, [' ', 'i', 'f', ' ', 'x', '\r', '\n', 'b'], ⟨4, 1, 5⟩⟩,
    ⟨.marker .expressionOpen, ['\x7b', '\x7b'], ⟨12, 2, 2⟩⟩, ⟨.text, ['y'], ⟨14, 2, 4⟩⟩,
    ⟨.marker .expressionClose, ['\x7d', '\x7d'], ⟨15, 2, 5⟩⟩,
    ⟨.marker .blockClose, ['/', '/', '!'], ⟨17, 2, 7⟩⟩]

def parts : List Part :=
  [.text ['a'], .block [' ', 'i', 'f', ' ', 'x'] ⟨1, 5⟩ [.text ['b'], .expression ['y'] ⟨2, 4⟩]]

/-- The end of the header line is in no part, and the source can be written again. -/
theorem written_of_ofTokens_conditional :
    Token.scan {} source = .ok tokens ∧ Part.ofTokens {} tokens = .ok parts ∧
      Part.Written {} parts source ∧ ∃ arena, Arena.build {} source tokens = .ok arena ∧
        Arena.Reads arena.nodes arena.root parts ∧ arena.Sound := by
  have scanned : Token.scan {} source = .ok tokens := by cbv
  have built : Part.ofTokens {} tokens = .ok parts := by cbv
  exact ⟨scanned, built, Part.written_of_ofTokens scanned built⟩

end Conditional

end Stencil
