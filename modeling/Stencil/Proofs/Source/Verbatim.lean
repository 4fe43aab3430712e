import Stencil.Proofs.Source.Append
import Stencil.Proofs.Source.Written
import Stencil.Template

/-!
# Text is copied

A template without blocks is rendered from the left to the right of its source. Text goes to the
output as it is, and code with the markers around it is replaced by what its statements write, or by
the text of its expression, when they are run where it stands (`Copied`). So a render of such a
template comes to a text exactly if all its code can be run in this way, and which text that is
depends on the source and on what each piece of code writes alone (`Copied.run`, `Copied.of_run`).

Where no marker is found there is no code at all, and the render is the source.
-/

namespace Stencil

/-- The statements that the code behind an opening marker is read as. -/
inductive Marker.Reads : Marker → List Char → Program → Prop
  | statements {code : List Char} {p : Program} (read : Script.readStatements code = .ok p) :
      Reads .statementOpen code p
  | expression {code : List Char} {e : Expr} (read : Script.readExpression code = .ok e) :
      Reads .expressionOpen code [.emit e]

theorem Marker.Reads.unique {opens : Marker} {code : List Char} {p q : Program}
    (h : opens.Reads code p) (h' : opens.Reads code q) : p = q := by
  cases h with
  | statements read =>
      cases h' with
      | statements read' => exact Except.ok.inj (read.symm.trans read')
  | expression read =>
      cases h' with
      | expression read' =>
          cases read.symm.trans read'
          rfl

/-- How the parts of a source are rendered if none is a block, from one state to another: what the
source is in which they stand, and what is written for it. -/
inductive Copied (m : Markers) (context : Context) (limit : Nat) :
    State → List Part → List Char → String → State → Prop
  | nil (s : State) : Copied m context limit s [] [] "" s
  | text {s t : State} {text source : List Char} {parts : List Part} {out : String}
      (more : Copied m context limit (s.write (String.ofList text)) parts source out t) :
      Copied m context limit s (.text text :: parts) (text ++ source)
        (String.ofList text ++ out) t
  | code {s t u : State} {opens closes : Marker} {part : List Char → Place → Part}
      {code source : List Char} {parts : List Part} {p : Program} {written out : String}
      (pair : Marker.Encloses opens closes part) (place : Place) (read : opens.Reads code p)
      (ran : (runBlock context limit p).outcome s = some (.ok .normal, u))
      (wrote : u.output = s.output ++ written)
      (more : Copied m context limit u parts source out t) :
      Copied m context limit s (part code place :: parts)
        ((m.delimiter opens).toList ++ code ++ (m.delimiter closes).toList ++ source)
        (written ++ out) t

namespace Copied

variable {m : Markers} {context : Context} {limit : Nat} {s t : State} {parts : List Part}
  {source : List Char} {out : String} {p : Program}

/-- What is written for the source is what the output grows by. -/
theorem output (h : Copied m context limit s parts source out t) :
    t.output = s.output ++ out := by
  induction h with
  | nil s => simp
  | text _ ih => rw [ih, State.write, String.append_assoc]
  | code pair place read ran wrote _ ih => rw [ih, wrote, String.append_assoc]

theorem fragment_code {opens closes : Marker} {part : List Char → Place → Part}
    (pair : Marker.Encloses opens closes part) {code : List Char} {place : Place} {f : Fragment} :
    Program.fragment (part code place) = .ok f ↔ ∃ p, opens.Reads code p ∧ f = .statements p := by
  rw [Program.fragment_eq_ok]
  cases pair with
  | statements =>
      constructor
      · intro adds
        cases adds with
        | statements read => exact ⟨_, .statements read, rfl⟩
      · rintro ⟨p, reads, rfl⟩
        cases reads with
        | statements read => exact .statements read
  | expression =>
      constructor
      · intro adds
        cases adds with
        | expression read => exact ⟨_, .expression read, rfl⟩
      · rintro ⟨p, reads, rfl⟩
        cases reads with
        | expression read => exact .expression read

/-- Parts that begin with code. -/
theorem ofParts_code {opens closes : Marker} {part : List Char → Place → Part}
    (pair : Marker.Encloses opens closes part) {code : List Char} {place : Place} :
    Program.ofParts none (part code place :: parts) = .ok p ↔
      ∃ q rest, opens.Reads code q ∧ Program.ofParts none parts = .ok rest ∧ p = q ++ rest := by
  rw [Program.ofParts_cons]
  constructor
  · rintro ⟨f, out, after, rest, made, entered, remaining, rfl⟩
    obtain ⟨q, read, rfl⟩ := (fragment_code pair).1 made
    cases entered
    exact ⟨q, rest, read, remaining, rfl⟩
  · rintro ⟨q, rest, read, remaining, rfl⟩
    exact ⟨.statements q, q, none, rest, (fragment_code pair).2 ⟨q, read, rfl⟩, rfl, remaining,
      rfl⟩

/-- Two programs in a row come to an end if the first does, and the second does after it. -/
theorem outcome_append_eq_ok {q : Program} {flow : Flow} (outside : s.loops = 0) :
    (runBlock context limit (p ++ q)).outcome s = some (.ok flow, t) ↔
      ∃ u, (runBlock context limit p).outcome s = some (.ok .normal, u) ∧
        (runBlock context limit q).outcome u = some (.ok flow, t) := by
  rw [runBlock_append_outside p q s outside, Run.outcome_bind]
  constructor
  · intro ran
    split at ran
    · next first u before =>
      obtain rfl := runBlock_calm p s first u outside before
      exact ⟨u, before, ran⟩
    · cases ran
    · cases ran
  · rintro ⟨u, before, after⟩
    rw [before]
    exact after

/-- Running some statements leaves the number of loops, and only adds to the output. -/
theorem moved_of_run {flow : Except Stop Flow}
    (ran : (runBlock context limit p).outcome s = some (flow, t)) :
    t.loops = s.loops ∧ ∃ written, t.output = s.output ++ written := by
  have moved := runBlock_moves p (List.Subset.refl _) s flow t ran
  exact ⟨moved.loops, moved.output⟩

/-- What is rendered part by part is run in the same way as one program. -/
theorem run (h : Copied m context limit s parts source out t) (outside : s.loops = 0)
    (made : Program.ofParts none parts = .ok p) :
    (runBlock context limit p).outcome s = some (.ok .normal, t) := by
  induction h generalizing p with
  | nil s =>
      cases made
      rfl
  | text _ ih =>
      obtain ⟨rest, remaining, rfl⟩ := Program.ofParts_text.1 made
      exact (Program.outcome_emitText _ rest _).trans (ih outside remaining)
  | code pair place read ran _ _ ih =>
      obtain ⟨q, rest, read', remaining, rfl⟩ := (ofParts_code pair).1 made
      obtain rfl := read.unique read'
      have still := (moved_of_run ran).1.trans outside
      exact (outcome_append_eq_ok outside).2 ⟨_, ran, ih still remaining⟩

/-- Parts without blocks that are run as one program to its end are rendered part by part. -/
theorem of_run {flow : Flow} (written : Part.Written m parts source)
    (leaves : ∀ header place body, .block header place body ∉ parts) (outside : s.loops = 0)
    (made : Program.ofParts none parts = .ok p)
    (ran : (runBlock context limit p).outcome s = some (.ok flow, t)) :
    ∃ out, Copied m context limit s parts source out t := by
  induction written generalizing s p with
  | nil =>
      cases made
      cases ran
      exact ⟨"", .nil t⟩
  | @text text _ _ nonempty _ ih =>
      obtain ⟨rest, remaining, rfl⟩ := Program.ofParts_text.1 made
      have after := (Program.outcome_emitText _ rest s).symm.trans ran
      have still : (s.write (String.ofList text)).loops = 0 := outside
      obtain ⟨out, more⟩ := ih (fun _ _ _ later => leaves _ _ _ (List.mem_cons_of_mem _ later))
        still remaining after
      exact ⟨_, .text more⟩
  | code pair place _ ih =>
      obtain ⟨q, rest, read, remaining, rfl⟩ := (ofParts_code pair).1 made
      obtain ⟨u, first, after⟩ := (outcome_append_eq_ok outside).1 ran
      obtain ⟨still, written, wrote⟩ := moved_of_run first
      obtain ⟨out, more⟩ := ih (fun _ _ _ later => leaves _ _ _ (List.mem_cons_of_mem _ later))
        (still.trans outside) remaining after
      exact ⟨_, .code pair place read first wrote more⟩
  | block => exact absurd List.mem_cons_self (leaves _ _ _)

end Copied

/-- No two texts stand side by side. -/
theorem Token.atMostOne_of_texts {tokens : List Token}
    (separate : (tokens.map bare).IsChain fun p q => ¬ (p.1 = .text ∧ q.1 = .text))
    (texts : ∀ t ∈ tokens, t.kind = .text) : tokens = [] ∨ ∃ t, tokens = [t] := by
  match tokens with
  | [] => exact .inl rfl
  | [t] => exact .inr ⟨t, rfl⟩
  | t :: u :: rest =>
    have both := (List.isChain_cons_cons.1 separate).1
    exact absurd ⟨texts t (by simp), texts u (by simp)⟩ both

/-- A source is cut into text alone exactly if no delimiter starts in it outside of strings, all of
which are closed. -/
theorem Token.scan_texts_iff {m : Markers} {source : List Char} :
    (∃ tokens, scan m source = .ok tokens ∧ ∀ t ∈ tokens, t.kind = .text) ↔
      m.Unmarked source [] ∧ Even (source.count m.quote) := by
  constructor
  · rintro ⟨tokens, scanned, texts⟩
    obtain ⟨⟨whole, cut⟩, -⟩ := outcome_of_scan scanned
    rcases atMostOne_of_texts cut.separate texts with rfl | ⟨t, rfl⟩
    · obtain rfl : [] = source := whole
      exact ⟨m.unmarked_nil [], by simp⟩
    · have isText := texts t (List.mem_singleton_self t)
      have text : t.text = source := by simpa [bare] using whole
      have fits := cut.fits [] t.bare [] rfl
      rw [Markers.Fits, bare, isText, text] at fits
      exact ⟨fits.2, fits.1⟩
  · rintro ⟨unmarked, balanced⟩
    by_cases empty : source = []
    · subst empty
      exact ⟨[], rfl, by simp⟩
    · have cut : m.Cut [(.text, source)] [] :=
        (m.cut_nil []).cons_text balanced unmarked (by simp) empty
      obtain ⟨ts, scanned, pieces⟩ := scanFrom_of_cut none .start cut (.inl rfl)
      rw [contents_cons, contents_nil, List.append_nil] at scanned
      refine ⟨ts, scanned, ?_⟩
      intro t inside
      have piece : t.bare ∈ [(TokenKind.text, source)] := pieces ▸ List.mem_map_of_mem inside
      exact congrArg Prod.fst (List.mem_singleton.1 piece)

namespace Template

theorem render_eq_ok {t : Template} {context : Context} {limit : Nat} {out : String} :
    t.render context limit = some (.ok out) ↔ ∃ flow s,
      (runBlock context limit t.program).outcome .start = some (.ok flow, s) ∧ s.output = out := by
  rw [render, Program.run, Program.runFrom_eq]
  cases (runBlock context limit t.program).outcome .start with
  | none => simp
  | some end_ =>
      obtain ⟨result, s⟩ := end_
      cases result <;> simp [Except.map, Except.mapError]

/-- Text alone is written as it stands. -/
theorem ofSource_texts {m : Markers} {source : List Char} {tokens : List Token}
    (scanned : Token.scan m source = .ok tokens) (texts : ∀ t ∈ tokens, t.kind = .text) :
    ∃ p, Program.ofSource m source = .ok p ∧ ∀ context limit s,
      (runBlock context limit p).outcome s =
        some (.ok .normal, s.write (String.ofList source)) := by
  obtain ⟨⟨whole, cut⟩, -⟩ := Token.outcome_of_scan scanned
  rcases Token.atMostOne_of_texts cut.separate texts with rfl | ⟨t, rfl⟩
  · obtain rfl : [] = source := whole
    refine ⟨[], rfl, ?_⟩
    intro context limit s
    rw [String.ofList_nil, State.write_empty]
    rfl
  · have isText := texts t (List.mem_singleton_self t)
    have text : t.text = source := by simpa [Token.bare] using whole
    have nonempty : source ≠ [] := text ▸ cut.nonempty t.bare (List.mem_singleton_self _)
    have built : Part.build m [] [] .part [t] = .ok [.text source] := by
      simp [Part.build, isText, text, Part.addText, nonempty, Part.atEnd]
    refine ⟨[.emitText (String.ofList source)], ?_, ?_⟩
    · exact Program.ofSource_eq_ok.2 ⟨_, _, scanned, built, rfl⟩
    · intro context limit s
      exact Program.outcome_emitText _ [] s

/-- A template without blocks comes to a text exactly if it can be rendered part by part, text being
copied and code replaced by what it writes, and that text is what this gives. A source of text
alone, which is one without delimiters outside of strings and with all strings closed, comes to
itself in every context. -/
theorem render_verbatim :
    (∀ (t : Template) (tokens : List Token) (parts : List Part) (context : Context) (limit : Nat)
        (out : String),
      Token.scan t.markers t.source.toList = .ok tokens →
      Part.ofTokens t.markers tokens = .ok parts →
      (∀ header place body, .block header place body ∉ parts) →
      (t.render context limit = some (.ok out) ↔
        ∃ s, Copied t.markers context limit .start parts t.source.toList out s)) ∧
    ∀ (name : Option String) (m : Markers) (source : String),
      ((∃ tokens, Token.scan m source.toList = .ok tokens ∧ ∀ t ∈ tokens, t.kind = .text) ↔
        m.Unmarked source.toList [] ∧ Even (source.toList.count m.quote)) ∧
      (m.Unmarked source.toList [] → Even (source.toList.count m.quote) →
        ∃ t, compile name m source = .ok t ∧
          ∀ context limit, t.render context limit = some (.ok source)) := by
  constructor
  · intro t tokens parts context limit out scanned built leaves
    have made : Program.ofParts none parts = .ok t.program := by
      obtain ⟨_, _, scanned', built', made⟩ := Program.ofSource_eq_ok.1 t.compiled
      cases scanned.symm.trans scanned'
      cases built.symm.trans built'
      exact made
    have written := (Part.written_of_ofTokens scanned built).1
    rw [render_eq_ok]
    constructor
    · rintro ⟨flow, s, ran, rfl⟩
      obtain ⟨out, copied⟩ := Copied.of_run written leaves rfl made ran
      have whole : s.output = out := by simpa [State.start] using copied.output
      exact ⟨s, whole ▸ copied⟩
    · rintro ⟨s, copied⟩
      exact ⟨.normal, s, copied.run rfl made, by simpa [State.start] using copied.output⟩
  · intro name m source
    refine ⟨Token.scan_texts_iff, ?_⟩
    intro unmarked balanced
    obtain ⟨tokens, scanned, texts⟩ := Token.scan_texts_iff.2 ⟨unmarked, balanced⟩
    obtain ⟨p, made, runs⟩ := ofSource_texts scanned texts
    refine ⟨_, compile_of_ofSource made, ?_⟩
    intro context limit
    refine render_eq_ok.2 ⟨.normal, _, runs context limit .start, ?_⟩
    simp [State.write, State.start]

namespace Quoted

set_option maxRecDepth 2000 in
/-- An opening marker in a string, a break of two characters, an expression and statements that
change what it has read. -/
def template : Template where
  name := none
  markers := {}
  source := "\"\x7b\x7b\"\r\n\x7b\x7bx\x7d\x7d/*:x=2;emit(x):*/é"
  program :=
    [.emitText "\"\x7b\x7b\"\r\n", .emit (.var "x"), .assign "x" .set (.literal (.int 2)),
      .expr (.call "emit" [.var "x"]), .emitText "é"]
  compiled := by cbv

def tokens : List Token :=
  [⟨.text, "\"\x7b\x7b\"\r\n".toList, ⟨0, 1, 1⟩⟩,
    ⟨.marker .expressionOpen, ['\x7b', '\x7b'], ⟨6, 2, 1⟩⟩, ⟨.text, ['x'], ⟨8, 2, 3⟩⟩,
    ⟨.marker .expressionClose, ['\x7d', '\x7d'], ⟨9, 2, 4⟩⟩,
    ⟨.marker .statementOpen, ['/', '*', ':'], ⟨11, 2, 6⟩⟩,
    ⟨.text, "x=2;emit(x)".toList, ⟨14, 2, 9⟩⟩,
    ⟨.marker .statementClose, [':', '*', '/'], ⟨25, 2, 20⟩⟩, ⟨.text, ['é'], ⟨28, 2, 23⟩⟩]

def parts : List Part :=
  [.text "\"\x7b\x7b\"\r\n".toList, .expression ['x'] ⟨2, 3⟩,
    .statements "x=2;emit(x)".toList ⟨2, 9⟩, .text ['é']]

/-- The string and the break are copied. In place of the expression stands what the context binds
the name to, and in place of the statements what they write. -/
theorem render_verbatim_quoted :
    Token.scan {} template.source.toList = .ok tokens ∧ Part.ofTokens {} tokens = .ok parts ∧
      template.render (.ofList [("x", .int 1)]) 1 = some (.ok "\"\x7b\x7b\"\r\n12é") ∧
      (∃ s, Copied {} (.ofList [("x", .int 1)]) 1 .start parts template.source.toList
        "\"\x7b\x7b\"\r\n12é" s) ∧
      ∃ t, compile none {} "\"\x7b\x7b\"\r\né" = .ok t ∧
        ∀ context limit, t.render context limit = some (.ok "\"\x7b\x7b\"\r\né") := by
  have scanned : Token.scan {} template.source.toList = .ok tokens := by cbv
  have built : Part.ofTokens {} tokens = .ok parts := by cbv
  have leaves : ∀ header place body, .block header place body ∉ parts := by simp [parts]
  have rendered : template.render (.ofList [("x", .int 1)]) 1 =
      some (.ok "\"\x7b\x7b\"\r\n12é") := rfl
  have texts := (render_verbatim.2 none {} "\"\x7b\x7b\"\r\né").1
  have unmarked := texts.1 ⟨[⟨.text, "\"\x7b\x7b\"\r\né".toList, ⟨0, 1, 1⟩⟩], by cbv, by simp⟩
  exact ⟨scanned, built, rendered,
    (render_verbatim.1 template tokens parts _ 1 _ scanned built leaves).1 rendered,
    (render_verbatim.2 none {} "\"\x7b\x7b\"\r\né").2 unmarked.1 unmarked.2⟩

end Quoted

end Template

end Stencil
