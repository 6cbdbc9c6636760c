import MetaConfig.Text.Basic

/-!
The command line. Options may stand before and after the file, short ones may share a dash, and
a value may be joined to its option; after two dashes nothing is an option.
-/

namespace MetaConfig.Command

open Text

inductive Task where
  | convert (file : Text) (format output : Option Text) (environmentTag version : Text)
  | highlight (file : Text) (markers : Option Text) (format : Text) (plain : Bool)
  | lex (file : Text)
  deriving DecidableEq, Repr

inductive Ending where
  | version
  | help
  | misuse
  deriving DecidableEq, Repr

inductive CommandName where
  | convert
  | highlight
  | lex
  deriving DecidableEq, Repr

def CommandName.ofWord? (word : Text) : Option CommandName :=
  if word = "convert".toList then some .convert
  else if word = "highlight".toList then some .highlight
  else if word = "lex".toList then some .lex
  else none

def helpWord : Text := "help".toList

/-- What an option does: it ends the command line, is counted, is set once, or takes a value,
which may have to be other than empty. -/
inductive OptionKind where
  | ending (ending : Ending)
  | count
  | flag
  | value (mayBeEmpty : Bool)
  deriving DecidableEq, Repr

structure OptionSpec where
  long : Text
  short : Option Char
  kind : OptionKind
  deriving DecidableEq, Repr

def helpOption : OptionSpec := ⟨"help".toList, some 'h', .ending .help⟩

def verboseOption : OptionSpec := ⟨"verbose".toList, some 'v', .count⟩

def optionsOf : Option CommandName → List OptionSpec
  | none => [helpOption, verboseOption, ⟨"version".toList, some 'V', .ending .version⟩]
  | some .convert =>
      [ helpOption, verboseOption,
        ⟨"from".toList, none, .value true⟩,
        ⟨"output".toList, some 'o', .value false⟩,
        ⟨"env-tag".toList, none, .value true⟩,
        ⟨"version-tag".toList, none, .value true⟩ ]
  | some .highlight =>
      [ helpOption, verboseOption,
        ⟨"markers".toList, none, .value false⟩,
        ⟨"format".toList, some 'f', .value true⟩,
        ⟨"no-color".toList, none, .flag⟩ ]
  | some .lex => [helpOption, verboseOption]

structure Reading where
  command : Option CommandName := none
  file : Option Text := none
  topics : Option (List Text) := none
  given : List (Text × Text) := []
  awaiting : Option OptionSpec := none
  onlyFiles : Bool := false
  deriving DecidableEq, Repr

namespace Reading

def option? (reading : Reading) (matching : OptionSpec → Bool) : Except Ending OptionSpec :=
  match (optionsOf reading.command).find? matching with
  | some spec => .ok spec
  | none => .error .misuse

def value? (reading : Reading) (long : String) : Option Text := reading.given.lookup long.toList

def give (spec : OptionSpec) (value : Text) (reading : Reading) : Except Ending Reading :=
  if spec.kind ≠ .count ∧ (reading.given.lookup spec.long).isSome then .error .misuse
  else .ok { reading with given := reading.given ++ [(spec.long, value)] }

def giveValue (spec : OptionSpec) (value : Text) (reading : Reading) : Except Ending Reading :=
  if value.isEmpty && spec.kind == .value false then .error .misuse
  else { reading with awaiting := none }.give spec value

def takeLong (body : Text) (reading : Reading) : Except Ending Reading := do
  let (name, joined) :=
    match splitOnce '=' body with
    | some (name, value) => (name, some value)
    | none => (body, none)
  let spec ← reading.option? fun spec => spec.long == name
  match spec.kind, joined with
  | .value _, some value => reading.giveValue spec value
  | .value _, none => .ok { reading with awaiting := some spec }
  | .ending ending, none => .error ending
  | .count, none => reading.give spec []
  | .flag, none => reading.give spec []
  | _, some _ => .error .misuse

/-- Options of one letter behind a dash. The value of one may be joined to it, with or without
an equals sign. -/
def takeShort : (letters : Text) → Reading → Except Ending Reading
  | [], reading => .ok reading
  | letter :: rest, reading => do
      let spec ← reading.option? fun spec => spec.short == some letter
      match spec.kind, rest with
      | .value _, [] => .ok { reading with awaiting := some spec }
      | .value _, '=' :: value => reading.giveValue spec value
      | .value _, value => reading.giveValue spec value
      | .ending ending, _ => .error ending
      | .count, _ => do takeShort rest (← reading.give spec [])
      | .flag, _ => do takeShort rest (← reading.give spec [])

def takeWord (word : Text) (reading : Reading) : Except Ending Reading :=
  match reading.command, reading.file with
  | none, _ =>
      if reading.onlyFiles then .error .misuse
      else if word = helpWord then .ok { reading with topics := some [] }
      else
        match CommandName.ofWord? word with
        | some command => .ok { reading with command := some command }
        | none => .error .misuse
  | some _, none => if word.isEmpty then .error .misuse else .ok { reading with file := some word }
  | some _, some _ => .error .misuse

def take (reading : Reading) (argument : Text) : Except Ending Reading :=
  match reading.topics with
  | some topics => .ok { reading with topics := some (topics ++ [argument]) }
  | none =>
      match reading.onlyFiles, reading.awaiting, argument with
      | true, _, _ => reading.takeWord argument
      | false, some spec, ['-'] => reading.giveValue spec ['-']
      | false, some _, '-' :: _ => .error .misuse
      | false, some spec, _ => reading.giveValue spec argument
      | false, none, ['-'] => reading.takeWord ['-']
      | false, none, ['-', '-'] => .ok { reading with onlyFiles := true }
      | false, none, '-' :: '-' :: body => reading.takeLong body
      | false, none, '-' :: letters => reading.takeShort letters
      | false, none, _ => reading.takeWord argument

def endingOfTopics : List Text → Ending
  | [] => .help
  | [topic] =>
      if topic = helpWord || (CommandName.ofWord? topic).isSome then .help else .misuse
  | _ => .misuse

def task (reading : Reading) : Except Ending Task :=
  match reading.topics, reading.awaiting, reading.command, reading.file with
  | some topics, _, _, _ => .error (endingOfTopics topics)
  | none, none, some .convert, some file =>
      .ok (.convert file (reading.value? "from") (reading.value? "output")
        ((reading.value? "env-tag").getD "@common".toList)
        ((reading.value? "version-tag").getD "1.0.0".toList))
  | none, none, some .highlight, some file =>
      .ok (.highlight file (reading.value? "markers")
        ((reading.value? "format").getD "ansi".toList) (reading.value? "no-color").isSome)
  | none, none, some .lex, some file => .ok (.lex file)
  | none, _, _, _ => .error .misuse

end Reading

def Task.ofArguments (arguments : List Text) : Except Ending Task := do
  (← arguments.foldlM Reading.take {}).task

end MetaConfig.Command
