import MetaConfig.Proofs.Command.Steps
import MetaConfig.Proofs.Source.Malformed

/-!
A conversion from the command line does all of its work or none. The first step that fails
decides on the exit code, and then nothing is written; otherwise the whole of the converted text
goes to the output or to one file.
-/

namespace MetaConfig.Command

open Text

/-! ## What each step gives -/

def formatFor? (word : Option Text) (file : Text) : Option SourceFormat :=
  match word with
  | some word => SourceFormat.parse? word
  | none => some ((SourceFormat.detectPath? file).getD .env)

theorem chooseFormat_of_some {word : Option Text} {file : Text} {format : SourceFormat}
    (chosen : formatFor? word file = some format) : chooseFormat word file = .ok format := by
  cases word with
  | none => exact congrArg Except.ok (Option.some.inj chosen)
  | some word =>
      have parsed : SourceFormat.parse? word = some format := chosen
      simp only [chooseFormat, SourceFormat.parse, parsed]

theorem chooseFormat_of_none {word : Option Text} {file : Text}
    (unknown : formatFor? word file = none) :
    ∃ problem, chooseFormat word file = .error problem ∧ exitCodeOf problem = 1 := by
  cases word with
  | none => contradiction
  | some word =>
      have unparsed : SourceFormat.parse? word = none := unknown
      exact ⟨_, by simp only [chooseFormat, SourceFormat.parse, unparsed]; rfl, rfl⟩

theorem exitCodeOf_of_convert {framing : Framing} {format : SourceFormat} {source : Text}
    {problem : Problem} (failed : convert framing format source = .error problem) :
    exitCodeOf problem = 1 := by
  obtain ⟨-, ⟨fault, -, rfl⟩ | ⟨help, rfl⟩⟩ := cases_of_convert failed
  · rfl
  · rfl

section

variable {State Place : Type} (host : Host (StateM State))

def store (path output : Text) : StateM State (Except Text Unit) := do
  let path := if ← host.isDirectory path then joinPath path defaultOutputName else path
  host.writeFile path (encodeUtf8 output)

/-- What is answered depends on the files only through what storing the text gives. -/
theorem run_writeOutput (path output : Text) (state : State) :
    ∃ target, (writeOutput host path output).run.run state =
      (match ((store host path output).run state).1 with
        | .ok () => pure { exitCode := 0, errorOutput := "Wrote ".toList ++ target ++ ['\n'] }
        | .error reason => throw
            (.io ("failed to write ".toList ++ target ++ ": ".toList ++ reason)) :
          ExceptT Problem (StateM State) Answer).run.run
        ((store host path output).run state).2 :=
  ⟨if ((host.isDirectory path).run state).1 then joinPath path defaultOutputName else path, rfl⟩

variable {host} {view : State → FileView Place}

def FileView.outputPath (files : FileView Place) (path : Text) : Text :=
  if files.isDirectory path then joinPath path defaultOutputName else path

theorem run_store (lawful : host.Lawful view) (path output : Text) (state : State) :
    (store host path output).run state =
      (host.writeFile ((view state).outputPath path) (encodeUtf8 output)).run
        ((host.isDirectory path).run state).2 := by
  rw [FileView.outputPath, ← lawful.isDirectory_eq]
  rfl

theorem Host.Lawful.store_error (lawful : host.Lawful view) {path output reason : Text}
    {state : State} (failed : ((store host path output).run state).1 = .error reason) :
    view ((store host path output).run state).2 = view state := by
  rw [run_store lawful] at failed ⊢
  rw [lawful.writeFile_error _ _ _ _ failed, lawful.isDirectory_keeps]

theorem Host.Lawful.store_ok (lawful : host.Lawful view) {path output : Text} {state : State}
    (stored : ((store host path output).run state).1 = .ok ()) :
    (view state).Writes ((view state).outputPath path) (encodeUtf8 output)
      (view ((store host path output).run state).2) := by
  rw [run_store lawful] at stored ⊢
  have written := lawful.writeFile_ok _ _ _ stored
  rwa [lawful.isDirectory_keeps] at written

/-! ## The whole conversion -/

variable (host) in
def conversionExitCode (file : Text) (word output : Option Text) (framing : Framing)
    (state : State) : Nat :=
  match formatFor? word file with
  | none => 1
  | some format =>
      match sourceText? host file state with
      | none => 3
      | some source =>
          match convert framing format source, output with
          | .error _, _ => 1
          | .ok _, none => 0
          | .ok converted, some path =>
              match ((store host path converted).run ((fetch host file).run state).2).1 with
              | .error _ => 3
              | .ok () => 0

variable (host) in
def convertedText? (file : Text) (word : Option Text) (framing : Framing) (state : State) :
    Option Text := do
  let format ← formatFor? word file
  let source ← sourceText? host file state
  (convert framing format source).toOption

/-- All of a converted text is printed, or it is what the content of the one file that is written
is read as. -/
def Delivered (before : FileView Place) (output : Option Text) (converted : Text)
    (printed : Text) (after : FileView Place) : Prop :=
  match output with
  | none => printed = converted ∧ after = before
  | some path => printed = [] ∧ ∃ content, decodeUtf8? content = some converted ∧
      before.Writes (before.outputPath path) content after

theorem run_runConvert_of_source {file source : Text} {word : Option Text} {format : SourceFormat}
    {state : State} (known : chooseFormat word file = .ok format)
    (read : sourceText? host file state = some source) (output : Option Text)
    (environmentTag version : Text) :
    (runConvert host file word output environmentTag version).run.run state =
      (match convert ((Framing.default.withEnvironmentTag environmentTag).withVersion version)
          format source, output with
        | .error problem, _ => throw problem
        | .ok converted, some path => writeOutput host path converted
        | .ok converted, none => pure (.success converted) :
          ExceptT Problem (StateM State) Answer).run.run ((fetch host file).run state).2 := by
  rw [runConvert, known]
  refine (run_bind_ok (run_readSource_of_some host read)).trans ?_
  dsimp only
  cases convert ((Framing.default.withEnvironmentTag environmentTag).withVersion version)
      format source with
  | error problem => rfl
  | ok converted => cases output <;> rfl

theorem run_runConvert_of_problem {file : Text} {word : Option Text} {format : SourceFormat}
    {state after : State} {problem : Problem} (known : chooseFormat word file = .ok format)
    (failed : (readSource host file).run.run state = (.error problem, after))
    (output : Option Text) (environmentTag version : Text) :
    (runConvert host file word output environmentTag version).run.run state =
      (.error problem, after) := by
  rw [runConvert, known]
  exact (run_bind_error failed :)

theorem run_runConvert (lawful : host.Lawful view) (file : Text) (word output : Option Text)
    (environmentTag version : Text) (state : State) :
    let framing := (Framing.default.withEnvironmentTag environmentTag).withVersion version
    ∃ result after,
      (runConvert host file word output environmentTag version).run.run state =
        (result, after) ∧
      ((∃ problem, result = .error problem ∧ view after = view state ∧
          exitCodeOf problem = conversionExitCode host file word output framing state) ∨
        ∃ answer converted, result = .ok answer ∧ answer.exitCode = 0 ∧
          conversionExitCode host file word output framing state = 0 ∧
          convertedText? host file word framing state = some converted ∧
          Delivered (view state) output converted answer.output (view after)) := by
  intro framing
  have kept := lawful.fetch_keeps file state
  cases chosen : formatFor? word file with
  | none =>
      obtain ⟨problem, failed, code⟩ := chooseFormat_of_none chosen
      refine ⟨.error problem, state, ?_, .inl ⟨problem, rfl, rfl, ?_⟩⟩
      · rw [runConvert, failed]
        rfl
      · simp only [conversionExitCode, chosen, code]
  | some format =>
      have known := chooseFormat_of_some chosen
      cases read : sourceText? host file state with
      | none =>
          obtain ⟨cause, failed⟩ := run_readSource_of_none host read
          refine ⟨_, _, ?_, .inl ⟨.io cause, rfl, kept, ?_⟩⟩
          · exact run_runConvert_of_problem known failed output environmentTag version
          · simp only [conversionExitCode, chosen, read, exitCodeOf]
      | some source =>
          have opened := run_runConvert_of_source known read output environmentTag version
          cases converts : convert framing format source with
          | error problem =>
              rw [converts] at opened
              refine ⟨_, _, opened, .inl ⟨problem, rfl, kept, ?_⟩⟩
              simp only [conversionExitCode, chosen, read, converts, exitCodeOf_of_convert converts]
          | ok converted =>
              have text : convertedText? host file word framing state = some converted := by
                simp [convertedText?, chosen, read, converts, Except.toOption]
              rw [converts] at opened
              cases output with
              | none =>
                  refine ⟨_, _, opened, .inr ⟨.success converted, converted, rfl, rfl, ?_, text,
                    rfl, kept⟩⟩
                  simp only [conversionExitCode, chosen, read, converts]
              | some path =>
                  obtain ⟨target, written⟩ :=
                    run_writeOutput host path converted ((fetch host file).run state).2
                  cases stored : ((store host path converted).run
                      ((fetch host file).run state).2).1 with
                  | error reason =>
                      rw [stored] at written
                      refine ⟨_, _, opened.trans written, .inl ⟨_, rfl, ?_, ?_⟩⟩
                      · exact (lawful.store_error stored).trans kept
                      · simp only [conversionExitCode, chosen, read, converts, stored, exitCodeOf]
                  | ok done =>
                      rw [stored] at written
                      have delivered := lawful.store_ok stored
                      rw [kept] at delivered
                      refine ⟨_, _, opened.trans written, .inr ⟨_, converted, rfl, rfl, ?_, text,
                        rfl, encodeUtf8 converted, decodeUtf8?_encodeUtf8 converted, delivered⟩⟩
                      simp only [conversionExitCode, chosen, read, converts, stored]

/-- A conversion that the command line asks for has the exit code of its first failing step. With
any other code than zero nothing is printed and every file is as it was; with zero, the converted
text is all that is printed, or all that one file holds. -/
theorem run_convert_allOrNothing (lawful : host.Lawful view) {arguments : List Text}
    {file : Text} {word output : Option Text} {environmentTag version : Text}
    (accepted : Task.ofArguments arguments =
      .ok (.convert file word output environmentTag version)) (state : State) :
    let framing := (Framing.default.withEnvironmentTag environmentTag).withVersion version
    ∃ answer after, (run host arguments).run state = (answer, after) ∧
      answer.exitCode = conversionExitCode host file word output framing state ∧
      (answer.exitCode ≠ 0 → answer.output = [] ∧ view after = view state) ∧
      (answer.exitCode = 0 → ∃ converted,
        convertedText? host file word framing state = some converted ∧
        Delivered (view state) output converted answer.output (view after)) := by
  intro framing
  obtain ⟨result, after, ran, outcome⟩ :=
    run_runConvert lawful file word output environmentTag version state
  have answered := run_run_of_task accepted ran
  rcases outcome with ⟨problem, rfl, kept, code⟩ |
    ⟨answer, converted, rfl, success, code, text, delivered⟩
  · refine ⟨.failure problem, after, answered, code, fun _ => ⟨rfl, kept⟩, fun zero => ?_⟩
    exact absurd zero (exitCodeOf_ne_zero problem)
  · refine ⟨answer, after, answered, success.trans code.symm, fun failed => ?_, fun _ => ?_⟩
    · exact absurd success failed
    · exact ⟨converted, text, delivered⟩

end

theorem run_convert_allOrNothing_into_directory :
    let storage : Storage :=
      { directories := [["out".toList]]
        files := [(["a.env".toList], encodeUtf8 "A=1".toList)] }
    let converted := Framing.default.frame .env [⟨"a".toList, ⟨"1".toList, .int⟩⟩]
    ∃ answer after content,
      (run Storage.host (["convert", "a.env", "-o", "out"].map String.toList)).run storage =
        (answer, after) ∧
      answer.exitCode = 0 ∧ answer.output = [] ∧ decodeUtf8? content = some converted ∧
      storage.view.Writes "out/config.meta".toList content after.view := by
  intro storage converted
  have accepted : Task.ofArguments (["convert", "a.env", "-o", "out"].map String.toList) =
      .ok (.convert "a.env".toList none (some "out".toList) "@common".toList "1.0.0".toList) := rfl
  have read : sourceText? Storage.host "a.env".toList storage = some "A=1".toList :=
    decodeUtf8?_encodeUtf8 _
  have chosen : formatFor? none "a.env".toList = some .env := by decide
  obtain ⟨answer, after, ran, code, -, delivers⟩ :=
    run_convert_allOrNothing Storage.lawful_host accepted storage
  have success : answer.exitCode = 0 := by
    rw [code]
    simp only [conversionExitCode, chosen, read]
    rfl
  obtain ⟨delivered, text, printed, content, reread, written⟩ := delivers success
  have same : some converted = some delivered := by
    rw [← text]
    simp only [convertedText?, chosen, read]
    rfl
  obtain rfl := Option.some.inj same
  exact ⟨answer, after, content, ran, success, printed, reread, written⟩

end MetaConfig.Command
