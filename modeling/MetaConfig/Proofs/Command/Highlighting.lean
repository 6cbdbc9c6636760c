import MetaConfig.Proofs.Command.Steps
import MetaConfig.Proofs.Highlight.Json

/-!
Highlighting from the command line. It ends at the first step that fails, and then nothing is
printed, or it prints what the library gives for the same document. JSON has another layout there,
but the same lines come back from it. No file is changed.
-/

namespace MetaConfig

open Text

namespace HighlightFormat

theorem parse_of_some {word : Text} {format : HighlightFormat}
    (named : parse? word = some format) : parse word = .ok format := by
  rw [parse, named]

theorem parse_of_none {word : Text} (unknown : parse? word = none) :
    ∃ expected, parse word = .error (.unknownFormat word expected) :=
  ⟨_, by rw [parse, unknown]⟩

end HighlightFormat

namespace Command

/-! ## Where a highlighting ends -/

inductive HighlightEnd where
  | unknownFormat
  | unreadMarkers
  | invalidMarkers
  | unreadSource
  | done (format : HighlightFormat) (markers : Markers) (source : Text)

namespace HighlightEnd

def exitCode : HighlightEnd → Nat
  | unknownFormat => 1
  | unreadMarkers => 3
  | invalidMarkers => 1
  | unreadSource => 3
  | done .. => 0

def code? : HighlightEnd → Option Text
  | unknownFormat => some "M0201".toList
  | invalidMarkers => some "M0301".toList
  | _ => none

end HighlightEnd

def markersIn (path text : Text) : Except Problem Markers :=
  if hasExtension ["yaml".toList, "yml".toList] path then Markers.ofYaml text
  else Markers.ofJson text

section

variable {State Place : Type} (host : Host (StateM State))

def fileText? (path : Text) (state : State) : Option Text :=
  textOf? ((host.readFile path).run state).1

def endAtSource (file : Text) (format : HighlightFormat) (markers : Markers) (state : State) :
    HighlightEnd :=
  match sourceText? host file state with
  | none => .unreadSource
  | some source => .done format markers source

def highlightEnd (file : Text) (markers : Option Text) (word : Text) (state : State) :
    HighlightEnd :=
  match HighlightFormat.parse? word, markers with
  | none, _ => .unknownFormat
  | some format, none => endAtSource host file format .empty state
  | some format, some path =>
      match fileText? host path state with
      | none => .unreadMarkers
      | some text =>
          match markersIn path text with
          | .error _ => .invalidMarkers
          | .ok given => endAtSource host file format given ((host.readFile path).run state).2

theorem exists_of_markersIn {path text : Text} {problem : Problem}
    (refused : markersIn path text = .error problem) : ∃ cause, problem = .invalidMarkers cause := by
  unfold markersIn at refused
  split at refused
  · unfold Markers.ofYaml at refused
    split at refused
    · contradiction
    · exact ⟨_, (Except.error.inj refused).symm⟩
  · unfold Markers.ofJson at refused
    split at refused
    · contradiction
    · exact ⟨_, (Except.error.inj refused).symm⟩

theorem run_readMarkers_of_some {path text : Text} {state : State}
    (read : fileText? host path state = some text) :
    (readMarkers host path).run.run state =
      (markersIn path text, ((host.readFile path).run state).2) := by
  have content : (readFile host path).run.run state =
      (.ok text, ((host.readFile path).run state).2) :=
    congrArg (Prod.mk · ((host.readFile path).run state).2) (decodeContent_of_some read)
  refine (run_bind_ok content).trans ?_
  unfold markersIn
  split <;> rfl

theorem run_readMarkers_of_none {path : Text} {state : State}
    (unread : fileText? host path state = none) :
    ∃ cause, (readMarkers host path).run.run state =
      (.error (.io cause), ((host.readFile path).run state).2) := by
  obtain ⟨cause, failed⟩ := decodeContent_of_none path unread
  have content : (readFile host path).run.run state =
      (.error (.io cause), ((host.readFile path).run state).2) :=
    congrArg (Prod.mk · ((host.readFile path).run state).2) failed
  exact ⟨cause, run_bind_error content⟩

inductive HighlightEnd.Gives (plain : Bool) : HighlightEnd → Except Problem Answer → Prop
  | done (format : HighlightFormat) (markers : Markers) (source : Text) :
      Gives plain (.done format markers source)
        (.ok (.success (showLines format plain (Document.render markers source) ++ ['\n'])))
  | failure {ending : HighlightEnd} {problem : Problem} :
      exitCodeOf problem = ending.exitCode → problem.code? = ending.code? →
      Gives plain ending (.error problem)

def showSource (file : Text) (format : HighlightFormat) (markers : Markers) (plain : Bool) :
    ExceptT Problem (StateM State) Answer := do
  let source ← readSource host file
  return .success (showLines format plain (Document.render markers source) ++ ['\n'])

theorem run_showSource (file : Text) (format : HighlightFormat) (markers : Markers) (plain : Bool)
    (state : State) :
    ∃ result, (showSource host file format markers plain).run.run state =
        (result, ((fetch host file).run state).2) ∧
      (endAtSource host file format markers state).Gives plain result := by
  unfold showSource endAtSource
  cases read : sourceText? host file state with
  | none =>
      obtain ⟨cause, failed⟩ := run_readSource_of_none host read
      exact ⟨_, run_bind_error failed, .failure rfl rfl⟩
  | some source =>
      exact ⟨_, run_bind_ok (run_readSource_of_some host read), .done format markers source⟩

/-! ## The whole highlighting -/

variable {host} {view : State → FileView Place}

theorem run_runHighlight (lawful : host.Lawful view) (file : Text) (markers : Option Text)
    (word : Text) (plain : Bool) (state : State) :
    ∃ result after,
      (runHighlight host file markers word plain).run.run state = (result, after) ∧
      view after = view state ∧
      (highlightEnd host file markers word state).Gives plain result := by
  unfold highlightEnd
  cases named : HighlightFormat.parse? word with
  | none =>
      obtain ⟨expected, failed⟩ := HighlightFormat.parse_of_none named
      refine ⟨.error (.unknownFormat word expected), state, ?_, rfl, .failure rfl rfl⟩
      rw [runHighlight, failed]
      rfl
  | some format =>
      rw [runHighlight, HighlightFormat.parse_of_some named]
      cases markers with
      | none =>
          obtain ⟨result, ran, given⟩ := run_showSource host file format .empty plain state
          exact ⟨result, _, ran, lawful.fetch_keeps file state, given⟩
      | some path =>
          have kept := lawful.readFile_keeps path state
          dsimp only
          cases read : fileText? host path state with
          | none =>
              obtain ⟨cause, failed⟩ := run_readMarkers_of_none host read
              exact ⟨_, _, (run_bind_error failed :), kept, .failure rfl rfl⟩
          | some text =>
              have ran := run_readMarkers_of_some host read
              dsimp only
              cases listed : markersIn path text with
              | error problem =>
                  obtain ⟨cause, rfl⟩ := exists_of_markersIn listed
                  rw [listed] at ran
                  exact ⟨_, _, (run_bind_error ran :), kept, .failure rfl rfl⟩
              | ok given =>
                  rw [listed] at ran
                  obtain ⟨result, shown, gives⟩ := run_showSource host file format given plain
                    ((host.readFile path).run state).2
                  refine ⟨result, _, (run_bind_ok ran).trans shown, ?_, gives⟩
                  rw [lawful.fetch_keeps, kept]

/-- What is shown is what the library gives, but that colours may be left out, and that JSON is
laid out in its own way. -/
def ShownAs (format : HighlightFormat) (plain : Bool) (markers : Markers) (source shown : Text) :
    Prop :=
  match format, plain with
  | .ansi, true => shown = Terminal.highlight .plain (Document.render markers source)
  | .json, _ =>
      Json.linesOfText? shown = Json.linesOfText? (highlight .json markers source) ∧
        ((Document.lines source).length < twoTo 64 →
          Json.linesOfText? shown = some (Document.render markers source))
  | _, _ => shown = highlight format markers source

theorem shownAs_showLines (format : HighlightFormat) (plain : Bool) (markers : Markers)
    (source : Text) :
    ShownAs format plain markers source
      (showLines format plain (Document.render markers source)) := by
  cases format with
  | ansi => cases plain <;> rfl
  | html => cases plain <;> rfl
  | json =>
      refine ⟨Json.linesOfText?_highlight_layout .indented .compact _, fun fit => ?_⟩
      exact Json.linesOfText?_highlight_render .indented markers fit

/-- A highlighting that the command line asks for has the exit code of its first failing step, and
its problem the code of that step; then nothing is printed. Where no step fails, what is printed
is what the library gives, and a line break. No file is changed in either case. -/
theorem run_highlight_agrees (lawful : host.Lawful view) {arguments : List Text} {file word : Text}
    {markers : Option Text} {plain : Bool}
    (accepted : Task.ofArguments arguments = .ok (.highlight file markers word plain))
    (state : State) :
    let ending := highlightEnd host file markers word state
    ∃ answer after, (run host arguments).run state = (answer, after) ∧
      view after = view state ∧
      answer.exitCode = ending.exitCode ∧
      answer.problem.bind Problem.code? = ending.code? ∧
      (answer.exitCode ≠ 0 → answer.output = []) ∧
      (answer.exitCode = 0 → ∃ format given source shown,
        ending = .done format given source ∧ answer.output = shown ++ ['\n'] ∧
        ShownAs format plain given source shown) := by
  intro ending
  obtain ⟨result, after, ran, kept, gives⟩ :=
    run_runHighlight lawful file markers word plain state
  have answered := run_run_of_task accepted ran
  change ending.Gives plain result at gives
  clear_value ending
  cases gives with
  | done format given source =>
      refine ⟨_, after, answered, kept, rfl, rfl, fun failed => absurd rfl failed, fun _ => ?_⟩
      exact ⟨format, given, source, _, rfl, rfl, shownAs_showLines format plain given source⟩
  | @failure _ problem exitCode code =>
      refine ⟨_, after, answered, kept, exitCode, code, fun _ => rfl, fun success => ?_⟩
      exact absurd success (exitCodeOf_ne_zero problem)

end

theorem run_highlight_agrees_of_marked_line :
    let source := "user:string ada".toList
    let listing := "[[1,\"Who?\",\"warning\"]]".toList
    let storage : Storage :=
      { files := [(["a.meta".toList], encodeUtf8 source), (["m.json".toList], encodeUtf8 listing)] }
    let given := Markers.ofList [⟨1, "Who?".toList, .warning⟩]
    ∃ answer after shown,
      (run Storage.host (["highlight", "a.meta", "--markers=m.json", "-fJSON"].map String.toList)).run
        storage = (answer, after) ∧
      after.view = storage.view ∧ answer.exitCode = 0 ∧ answer.output = shown ++ ['\n'] ∧
      Json.linesOfText? shown = some (Document.render given source) := by
  intro source listing storage given
  have accepted : Task.ofArguments
      (["highlight", "a.meta", "--markers=m.json", "-fJSON"].map String.toList) =
      .ok (.highlight "a.meta".toList (some "m.json".toList) "JSON".toList false) := rfl
  have named : HighlightFormat.parse? "JSON".toList = some .json := by decide
  have content : (Storage.host.readFile "m.json".toList).run storage =
      (.ok (encodeUtf8 listing), storage) := Storage.run_readFile_of_ne (by decide) storage
  have markersRead : fileText? Storage.host "m.json".toList storage = some listing := by
    rw [fileText?, content]
    exact decodeUtf8?_encodeUtf8 listing
  have listed : Markers.Json.read listing = .ok [⟨1, "Who?".toList, .warning⟩] := by
    rfl
  have accepts : markersIn "m.json".toList listing = .ok given := by
    rw [markersIn, if_neg (by decide), Markers.ofJson, listed]
  have read : sourceText? Storage.host "a.meta".toList storage = some source :=
    decodeUtf8?_encodeUtf8 source
  have ends : highlightEnd Storage.host "a.meta".toList (some "m.json".toList) "JSON".toList
      storage = .done .json given source := by
    simp only [highlightEnd, named, markersRead, accepts, endAtSource, content, read]
  obtain ⟨answer, after, ran, kept, code, -, -, shows⟩ :=
    run_highlight_agrees Storage.lawful_host accepted storage
  have success : answer.exitCode = 0 := by
    rw [code, ends]
    rfl
  obtain ⟨format, markers, document, shown, same, printed, shownAs⟩ := shows success
  obtain ⟨rfl, rfl, rfl⟩ := HighlightEnd.done.inj (ends.symm.trans same)
  have fit : (Document.lines source).length < twoTo 64 := by decide
  exact ⟨answer, after, shown, ran, kept, success, printed, shownAs.2 fit⟩

end Command

end MetaConfig
