import MetaConfig.Command.Run
import MetaConfig.Proofs.Command.Files

/-!
What the steps of a task give that come before its own work: reading a text from a file or from
the input, and going on with what has been read. No step of these changes a file.
-/

namespace MetaConfig.Command

open Text

theorem decodeUtf8?_encodeUtf8 (text : Text) : decodeUtf8? (encodeUtf8 text) = some text := by
  have decoded : String.fromUTF8? (String.ofList text).toUTF8 = some (String.ofList text) := by
    rw [String.fromUTF8?, String.toUTF8_eq_toByteArray, dif_pos (String.ofList text).isValidUTF8]
    rfl
  rw [decodeUtf8?, encodeUtf8, decoded, Option.map_some, String.toList_ofList]

theorem exitCodeOf_ne_zero (problem : Problem) : exitCodeOf problem ≠ 0 := by
  cases problem <;> simp [exitCodeOf]

def textOf? : Except Text ByteArray → Option Text
  | .ok content => decodeUtf8? content
  | .error _ => none

theorem decodeContent_of_some {name text : Text} {content : Except Text ByteArray}
    (read : textOf? content = some text) : decodeContent name content = .ok text := by
  cases content with
  | error reason => contradiction
  | ok content =>
      have decoded : decodeUtf8? content = some text := read
      simp only [decodeContent, decoded]

theorem decodeContent_of_none (name : Text) {content : Except Text ByteArray}
    (unread : textOf? content = none) :
    ∃ cause, decodeContent name content = .error (.io cause) := by
  cases content with
  | error reason => exact ⟨_, rfl⟩
  | ok content =>
      have undecoded : decodeUtf8? content = none := unread
      exact ⟨_, by simp only [decodeContent, undecoded]; rfl⟩

section

variable {State Place : Type}

/-! ## One step after another -/

theorem run_bind_ok {first second : Type} {step : ExceptT Problem (StateM State) first}
    {next : first → ExceptT Problem (StateM State) second} {state after : State} {value : first}
    (result : step.run.run state = (.ok value, after)) :
    (step >>= next).run.run state = (next value).run.run after := by
  have opened : (step >>= next).run.run state =
      (ExceptT.bindCont next (step.run.run state).1).run (step.run.run state).2 := rfl
  rw [opened, result]
  rfl

theorem run_bind_error {first second : Type} {step : ExceptT Problem (StateM State) first}
    {next : first → ExceptT Problem (StateM State) second} {state after : State}
    {problem : Problem} (result : step.run.run state = (.error problem, after)) :
    (step >>= next).run.run state = (.error problem, after) := by
  have opened : (step >>= next).run.run state =
      (ExceptT.bindCont next (step.run.run state).1).run (step.run.run state).2 := rfl
  rw [opened, result]
  rfl

variable {host : Host (StateM State)}

def Answer.ofResult : Except Problem Answer → Answer
  | .ok answer => answer
  | .error problem => .failure problem

theorem run_run_of_task {arguments : List Text} {task : Task}
    (accepted : Task.ofArguments arguments = .ok task) {state after : State}
    {result : Except Problem Answer} (ran : (runTask host task).run.run state = (result, after)) :
    (run host arguments).run state = (Answer.ofResult result, after) := by
  have opened : (run host arguments).run state =
      (match ((runTask host task).run.run state).1 with
        | .ok answer => pure answer
        | .error problem => pure (.failure problem) : StateM State Answer).run
          ((runTask host task).run.run state).2 := by
    rw [run, accepted]
    rfl
  rw [opened, ran]
  cases result <;> rfl

/-! ## Reading texts -/

variable (host)

def fetch (file : Text) : StateM State (Except Text ByteArray) :=
  if isInput file then host.readInput else host.readFile file

def sourceText? (file : Text) (state : State) : Option Text :=
  match ((fetch host file).run state).1 with
  | .ok content => decodeUtf8? content
  | .error _ => none

theorem run_readSource (file : Text) (state : State) :
    ∃ name, (readSource host file).run.run state =
      (decodeContent name ((fetch host file).run state).1, ((fetch host file).run state).2) := by
  unfold readSource fetch
  by_cases input : isInput file
  · refine ⟨"stdin".toList, ?_⟩
    simp only [input, if_true]
    rfl
  · refine ⟨file, ?_⟩
    simp only [input, if_false, Bool.false_eq_true]
    rfl

theorem run_readSource_of_some {file text : Text} {state : State}
    (read : sourceText? host file state = some text) :
    (readSource host file).run.run state = (.ok text, ((fetch host file).run state).2) := by
  obtain ⟨name, result⟩ := run_readSource host file state
  have fetched : textOf? ((fetch host file).run state).1 = some text := read
  rw [result, decodeContent_of_some fetched]

theorem run_readSource_of_none {file : Text} {state : State}
    (unread : sourceText? host file state = none) :
    ∃ cause, (readSource host file).run.run state =
      (.error (.io cause), ((fetch host file).run state).2) := by
  obtain ⟨name, result⟩ := run_readSource host file state
  have fetched : textOf? ((fetch host file).run state).1 = none := unread
  obtain ⟨cause, failed⟩ := decodeContent_of_none name fetched
  exact ⟨cause, by rw [result, failed]⟩

variable {host} {view : State → FileView Place}

theorem Host.Lawful.fetch_keeps (lawful : host.Lawful view) (file : Text) (state : State) :
    view ((fetch host file).run state).2 = view state := by
  unfold fetch
  split
  · exact lawful.readInput_keeps state
  · exact lawful.readFile_keeps file state

end

end MetaConfig.Command
