import Stencil.Proofs.Script.Dump
import Stencil.Proofs.Script.Names

/-!
# The text of a template is accepted

The text of a compiled template is read, and what it is read as has the same text, as long as the
reader does not run out of levels: the call that the text shows for output takes levels that the
template itself did not need. Then it says so. Only comparisons that are chained can fail in another
way, for the text leaves their parentheses out.
-/

namespace Stencil

section Calls

mutual

/-- Output and the calls that are read for it have one text. -/
theorem Stmt.chars_asCalls (depth : Nat) (tail : List Char) :
    ∀ s : Stmt, s.asCalls.chars depth ++ tail = s.chars depth ++ tail
  | .emitText text => congrArg (· ++ tail) (Stmt.chars_emitText text).symm
  | .emit e => congrArg (· ++ tail) (Stmt.chars_emit e).symm
  | .declare .. | .assign .. | .expr _ | .breakLoop | .continueLoop => by rw [Stmt.asCalls] <;> simp
  | .branch cond body otherwise => by
    simp [Stmt.asCalls, Stmt.chars_branch, Stmt.braced_append,
      blockChars_asCalls (depth + 1) _ body, Else.chars_asCalls depth tail otherwise]
  | .forLoop var iterable body => by
    simp [Stmt.asCalls, Stmt.chars_forLoop, Stmt.braced_append,
      blockChars_asCalls (depth + 1) _ body]
  | .whileLoop cond body => by
    simp [Stmt.asCalls, Stmt.chars_whileLoop, Stmt.braced_append,
      blockChars_asCalls (depth + 1) _ body]

theorem Else.chars_asCalls (depth : Nat) (tail : List Char) :
    ∀ o : Else, Stmt.elseChars depth o.asCalls ++ tail = Stmt.elseChars depth o ++ tail
  | .nothing => by rw [Else.asCalls]
  | .block body => by
    simp [Else.asCalls, Stmt.elseChars_block, Stmt.braced_append,
      blockChars_asCalls (depth + 1) _ body]
  | .elif cond body otherwise => by
    simp [Else.asCalls, Stmt.elseChars_elif, Stmt.braced_append,
      blockChars_asCalls (depth + 1) _ body, Else.chars_asCalls depth tail otherwise]

theorem blockChars_asCalls (depth : Nat) (tail : List Char) :
    ∀ ss : List Stmt,
      Stmt.blockChars depth (blockAsCalls ss) ++ tail = Stmt.blockChars depth ss ++ tail
  | [] => by rw [blockAsCalls]
  | s :: ss => by
    rw [blockAsCalls, Stmt.blockChars_cons, Stmt.blockChars_cons,
      Stmt.chars_asCalls depth _ s, blockChars_asCalls depth tail ss]

end

end Calls

namespace Program

theorem text_asCalls (p : Program) : p.asCalls.text = p.text := by
  have chars := blockChars_asCalls 0 [] p
  rw [List.append_nil, List.append_nil] at chars
  rw [text, text, asCalls, chars]

theorem text_asNames (p : Program) : text (blockAsNames p) = p.text := by
  have chars := blockChars_asNames 0 [] p
  rw [List.append_nil, List.append_nil] at chars
  rw [text, text, chars]

/-- The text of a program whose numbers have no sign is read as a program with this text, and the
levels are enough for it then; or reading it fails with something that the program excuses. -/
theorem readStatements_text_unsigned {p : Program}
    (legible : BlockIsLegible Literal.IsUnsigned p) :
    (∃ q, Script.readStatements p.text.toList = .ok q ∧ text q = p.text ∧
      (blockClimb p).peak ≤ Script.maxDepth) ∨
    ∃ err, Script.readStatements p.text.toList = .error err ∧
      Script.Excuse (blockClimb p) (blockChains p) 0 err := by
  have result := readStatements_text (blockIsLegible_asNames legible)
  rw [text_asNames, blockClimb_asNames, blockChains_asNames] at result
  rcases result with ⟨q, read, rfl, fits⟩ | failed
  · refine .inl ⟨_, read, ?_, fits⟩
    rw [text_asCalls, text_asNames]
  · exact .inr failed

end Program

/-- The text of a template without chained comparisons is read as statements with the same text
where the levels of the reader are enough for it, and refused for being nested too deeply where they
are not. -/
theorem Template.readStatements_dump (t : Template) (unchained : blockChains t.program = false) :
    if (blockClimb t.program).peak ≤ Script.maxDepth then
      ∃ q, Script.readStatements t.dump.toList = .ok q ∧ Program.text q = t.dump
    else
      ∃ err, Script.readStatements t.dump.toList = .error err ∧ err.defect = .nestedTooDeeply := by
  rcases Program.readStatements_text_unsigned (Program.ofSource_isLegible t.compiled) with
    ⟨q, read, same, fits⟩ | ⟨err, failed, chained | ⟨deep, few⟩⟩
  · rw [if_pos fits]
    exact ⟨q, read, same⟩
  · rw [unchained] at chained
    cases chained
  · rw [if_neg (by omega)]
    exact ⟨err, failed, deep⟩

/-- The text of the template with prices is read, and is the text of what it is read as. -/
theorem Template.priced_accepted :
    blockChains Template.priced.program = false ∧
      ∃ q, Script.readStatements Template.priced.dump.toList = .ok q ∧
        Program.text q = Template.priced.dump := by
  have unchained : blockChains Template.priced.program = false := by decide
  have fits : (blockClimb Template.priced.program).peak ≤ Script.maxDepth := by decide
  have accepted := Template.readStatements_dump Template.priced unchained
  rw [if_pos fits] at accepted
  exact ⟨unchained, accepted⟩

/-- What the reader finds wrong with the text of a template. -/
def Template.defect? (t : Template) : Option Script.Defect :=
  match Script.readStatements t.dump.toList with
  | .ok _ => none
  | .error err => some err.defect

theorem Template.exists_of_defect? {name : Option String} {markers : Markers} {source : String}
    {d : Script.Defect}
    (found : (Template.compile name markers source).toOption.bind Template.defect? = some d) :
    ∃ t, Template.compile name markers source = .ok t ∧
      ∃ err, Script.readStatements t.dump.toList = .error err ∧ err.defect = d := by
  cases compiled : Template.compile name markers source with
  | error e =>
      rw [compiled] at found
      cases found
  | ok t =>
      rw [compiled] at found
      have found' : t.defect? = some d := found
      rw [Template.defect?] at found'
      split at found'
      · cases found'
      · next err failed => exact ⟨t, rfl, err, failed, Option.some.inj found'⟩

/-- A template with many minus signs in a row compiles, but the levels do not suffice for its text.
Where the outcome of a comparison is compared, the text has lost the parentheses. -/
theorem Template.dumps_refused :
    (∃ t, Template.compile none {}
          ("\x7b\x7b " ++ String.ofList (List.replicate 126 '-') ++ "x \x7d\x7d") = .ok t ∧
      ∃ err, Script.readStatements t.dump.toList = .error err ∧ err.defect = .nestedTooDeeply) ∧
    ∃ t, Template.compile none {} "\x7b\x7b (a < b) < c \x7d\x7d" = .ok t ∧
      ∃ err, Script.readStatements t.dump.toList = .error err ∧
        err.defect = .expectedToken ")" (.text "< c)") :=
  ⟨Template.exists_of_defect? (by decide +kernel), Template.exists_of_defect? (by decide +kernel)⟩

end Stencil
