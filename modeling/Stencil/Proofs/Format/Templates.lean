import Stencil.Proofs.Json.Laws
import Stencil.Proofs.Source.Refused

/-!
# Templates are loaded as they were saved

What is saved of a template is all that it is determined by, so loading it compiles the same
template again, with the same program (`Template.Recorded.load_save`). Any other object that gives a
source, and perhaps a name and markers, is loaded in the same way: it is compiled with what it
gives, and where that fails it is not loaded and the error is made of the text of the compiler's
(`Template.Recorded.load_object`).
-/

namespace Stencil

variable {Doc E : Type} {f : Format Doc} {markers : Codec Doc Markers}

/-- Delimiters are read back whatever they are. -/
theorem Delimiters.again_eq (faithful : f.Faithful) (d : Delimiters) :
    (codec f).again d = some d := by
  have read : (f.pair f.string f.string).again (d.opening, d.closing) =
      some (d.opening, d.closing) := by
    simp [faithful.pair, faithful.string]
  exact congrArg (Option.map _) read

namespace Markers

/-- The members that markers are written as give those markers. -/
theorem ofFields?_members (faithful : f.Faithful) (m : Markers) :
    ofFields? f (Entries.find? · (m.members f)) = some m := by
  have delimiters (d : Delimiters) := Delimiters.again_eq faithful d
  have quote := faithful.char m.quote
  simp only [Codec.again] at delimiters quote
  simp [ofFields?, members, Codec.required?, Entries.find?_cons, delimiters, quote]

theorem Recorded.again_eq (recorded : Recorded f markers) (faithful : f.Faithful) (m : Markers) :
    markers.again m = some m := by
  rw [Codec.again, recorded.write_eq]
  exact recorded.read?_object _ (by simp [members]) m (ofFields?_members faithful m)

end Markers

namespace Template

variable {save : Template → Doc} {saved : Doc → Except E Saved}

/-- The members that a template is written as say what it was compiled from. -/
theorem ofFields?_members (faithful : f.Faithful) (told : f.SelfDescribing)
    (marked : Markers.Recorded f markers) (t : Template) :
    Saved.ofFields? f markers (Entries.find? · (t.members f markers)) =
      some ⟨t.name, t.markers, t.source⟩ := by
  have name : (f.optional f.string).again t.name = some t.name := by
    cases t.name with
    | none => exact faithful.optional_none f.string
    | some name =>
      rw [faithful.optional_some f.string name (by simp [told.kind_string]), faithful.string]
      rfl
  have given := marked.again_eq faithful t.markers
  have source := faithful.string t.source
  simp only [Codec.again] at name given source
  simp [Saved.ofFields?, members, Codec.required?, Codec.defaulted?, Entries.find?_cons, name,
    given, source]

/-- Loading is compiling what the members of an object say. -/
theorem Recorded.load_object (custom : String → E) (recorded : Recorded f markers save saved)
    {fields : List (String × Doc)} {s : Saved} (once : (fields.map Prod.fst).Nodup)
    (given : Saved.ofFields? f markers (Entries.find? · fields) = some s) :
    load saved custom (f.object fields) = (compile s.name s.markers s.source).mapError fun e =>
      custom ("Failed to compile template: " ++ e.message) := by
  rw [load, recorded.saved_object fields once s given]
  rfl

theorem Recorded.load_save (custom : String → E) (recorded : Recorded f markers save saved)
    (faithful : f.Faithful) (told : f.SelfDescribing) (marked : Markers.Recorded f markers)
    (t : Template) : load saved custom (save t) = .ok t := by
  rw [recorded.save_eq, recorded.load_object custom (by simp [members])
    (ofFields?_members faithful told marked t), compile_eq_ok.2 ⟨rfl, rfl, rfl⟩]
  rfl

/-- In every format that keeps its laws a saved template is loaded as it was. An object that says
what to compile a template from is loaded if and only if that compiles, as the template that it
compiles to; otherwise the error is made of the text of the error that compiling ends with. -/
theorem load_saved (custom : String → E) (faithful : f.Faithful) (told : f.SelfDescribing)
    (marked : Markers.Recorded f markers) (recorded : Recorded f markers save saved) :
    (∀ t : Template, load saved custom (save t) = .ok t) ∧
      ∀ fields s, (fields.map Prod.fst).Nodup →
        Saved.ofFields? f markers (Entries.find? · fields) = some s →
          (∀ t, load saved custom (f.object fields) = .ok t ↔
            compile s.name s.markers s.source = .ok t) ∧
          ∀ e, compile s.name s.markers s.source = .error e →
            load saved custom (f.object fields) =
              .error (custom ("Failed to compile template: " ++ e.message)) := by
  refine ⟨recorded.load_save custom faithful told marked, fun fields s once given => ?_⟩
  rw [recorded.load_object custom once given]
  constructor
  · intro t
    cases compile s.name s.markers s.source <;> simp [Except.mapError]
  · intro e failed
    rw [failed]
    rfl

/-- Of two objects the first gives other delimiters and another quote, and the second nothing but a
source whose block is never closed. -/
theorem load_saved_members :
    let m : Markers := { expression := ⟨"<", ">"⟩, quote := 'q' }
    let fields := [("source", Json.string "<x>q<q"), ("syntax", m.toJson)]
    (∃ t, compile none m "<x>q<q" = .ok t ∧ ofJson (.object fields) = .ok t) ∧
      ofJson (.object [("source", .string "//: for x in xs\nnever closed")]) =
        .error (.custom ("Failed to compile template: Syntax error in <anonymous> at line 1, " ++
          "column 1: unclosed partial block 'for x in xs' (expected '//!')")) := by
  intro m fields
  have loads := load_saved LoadError.custom Json.faithful Json.selfDescribing
    Markers.recorded_json recorded_json
  constructor
  · have given : Saved.ofFields? Json.format Markers.json (Entries.find? · fields) =
        some ⟨none, m, "<x>q<q"⟩ := by
      have read : Markers.json.read? m.toJson = some m :=
        Markers.recorded_json.again_eq Json.faithful m
      simp [Saved.ofFields?, fields, Codec.defaulted?, Codec.required?, Entries.find?_cons, read,
        Json.format, Json.string?]
    have made : Program.ofSource m "<x>q<q".toList = .ok [.emit (.var "x"), .emitText "q<q"] := by
      cbv
    have compiled : compile none m "<x>q<q" = .ok ⟨none, m, _, _, made⟩ := compile_of_ofSource made
    exact ⟨_, compiled, ((loads.2 fields _ (by decide) given).1 _).2 compiled⟩
  · have failed : Program.ofSource {} "//: for x in xs\nnever closed".toList =
        .error ⟨⟨1, 1⟩, .unclosedBlock "for x in xs" "//!"⟩ :=
      Program.flaw?_eq_some.1 (by decide +kernel)
    exact (loads.2 [("source", .string "//: for x in xs\nnever closed")] ⟨none, {}, _⟩
      (by decide) rfl).2 _ (compile_of_flaw failed)

end Template

end Stencil
