import MetaConfig.Command.Arguments
import MetaConfig.Command.Host
import MetaConfig.Highlight.Format
import MetaConfig.Markers.Json
import MetaConfig.Markers.Yaml
import MetaConfig.Source.Convert

/-!
Running the program: it answers with the texts that it writes, an exit code, and the problem
that it met, if any. Nothing is written unless all has been read and converted.
-/

namespace MetaConfig.Command

open Text

structure Answer where
  exitCode : Nat
  output : Text := []
  errorOutput : Text := []
  problem : Option Problem := none

def Answer.success (output : Text) : Answer := { exitCode := 0, output }

def exitCodeOf : Problem → Nat
  | .io _ => 3
  | _ => 1

def Answer.failure (problem : Problem) : Answer :=
  { exitCode := exitCodeOf problem
    errorOutput := "Error: ".toList ++ problem.message ++ ['\n']
    problem := some problem }

def versionText : Text := "meta 0.1.0\n".toList

/-- A summary in words of its own. What is fixed of help is the stream that it is written to and
the exit code. -/
def helpText : Text :=
  joinWith ['\n']
    [ "Highlights meta source and converts .env, JSON and YAML into it.".toList,
      [],
      "Usage: meta [OPTIONS] <COMMAND>".toList,
      [],
      "  convert [--from FORMAT] [-o PATH] [--env-tag TAG] [--version-tag VERSION] FILE".toList,
      "  highlight [--markers PATH] [-f FORMAT] [--no-color] FILE".toList,
      [] ]

def Answer.ofEnding : Ending → Answer
  | .version => .success versionText
  | .help => .success helpText
  | .misuse => { exitCode := 2, errorOutput := helpText }

def isInput (file : Text) : Bool := file == ['-'] || file == Storage.inputDevice

variable {m : Type → Type} [Monad m] (host : Host m)

def decodeContent (name : Text) : Except Text ByteArray → Except Problem Text
  | .error reason =>
      .error (.io ("failed to read ".toList ++ name ++ ": ".toList ++ reason))
  | .ok content =>
      match decodeUtf8? content with
      | some text => .ok text
      | none =>
          .error (.io ("failed to read ".toList ++ name ++
            ": stream did not contain valid UTF-8".toList))

def readFile (file : Text) : ExceptT Problem m Text := do
  decodeContent file (← host.readFile file)

def readSource (file : Text) : ExceptT Problem m Text := do
  if isInput file then decodeContent "stdin".toList (← host.readInput)
  else readFile host file

/-- Whether the name of a file ends in one of these endings, and does not consist of it. -/
def hasExtension (endings : List Text) (file : Text) : Bool :=
  file.fileName?.any fun name =>
    endings.any fun ending => endsWith ('.' :: ending) name && name.length != ending.length + 1

def readMarkers (file : Text) : ExceptT Problem m Markers := do
  let text ← readFile host file
  if hasExtension ["yaml".toList, "yml".toList] file then Markers.ofYaml text
  else Markers.ofJson text

def joinPath (directory name : Text) : Text :=
  if endsWith ['/'] directory then directory ++ name else directory ++ ['/'] ++ name

def chooseFormat (word : Option Text) (file : Text) : Except Problem SourceFormat :=
  match word with
  | some word => SourceFormat.parse word
  | none => .ok ((SourceFormat.detectPath? file).getD .env)

def writeOutput (path output : Text) : ExceptT Problem m Answer := do
  let path := if ← host.isDirectory path then joinPath path defaultOutputName else path
  match ← host.writeFile path (encodeUtf8 output) with
  | .ok () =>
      return { exitCode := 0, errorOutput := "Wrote ".toList ++ path ++ ['\n'] }
  | .error reason =>
      throw (.io ("failed to write ".toList ++ path ++ ": ".toList ++ reason))

def runConvert (file : Text) (format output : Option Text) (environmentTag version : Text) :
    ExceptT Problem m Answer := do
  let format ← chooseFormat format file
  let source ← readSource host file
  let framing := (Framing.default.withEnvironmentTag environmentTag).withVersion version
  let converted ← convert framing format source
  match output with
  | some path => writeOutput host path converted
  | none => return .success converted

def showLines (format : HighlightFormat) (plain : Bool) (lines : List RenderedLine) : Text :=
  match format with
  | .ansi => Terminal.highlight (if plain then .plain else .default) lines
  | .html => Html.highlight Html.defaultContainerClass lines
  | .json => Json.highlight .indented lines

def runHighlight (file : Text) (markers : Option Text) (format : Text) (plain : Bool) :
    ExceptT Problem m Answer := do
  let format ← HighlightFormat.parse format
  let markers ← match markers with
    | some path => readMarkers host path
    | none => pure .empty
  let source ← readSource host file
  return .success (showLines format plain (Document.render markers source) ++ ['\n'])

def detail : Line → Text
  | .declaration found =>
      found.key ++ [':'] ++ found.type.keyword ++
        (match found.reference with
        | some reference => " env(".toList ++ reference.argument ++ [')']
        | none => [])
  | .tag name _ => name
  | _ => []

def listLine (numbered : NumberedLine) : Text :=
  padStart 4 (ofNat numbered.number) ++ [' ', ' '] ++ padEnd 12 numbered.line.kind.name ++
    [' '] ++ detail numbered.line

def runLex (file : Text) : ExceptT Problem m Answer := do
  let source ← readSource host file
  let heading := ["Lines from ".toList ++ file ++ [':'], List.replicate 60 '-']
  let lines := heading ++ (Document.read source).map listLine
  return .success (lines.flatMap fun line => line ++ ['\n'])

def runTask : Task → ExceptT Problem m Answer
  | .convert file format output environmentTag version =>
      runConvert host file format output environmentTag version
  | .highlight file markers format plain => runHighlight host file markers format plain
  | .lex file => runLex host file

def run (arguments : List Text) : m Answer := do
  match Task.ofArguments arguments with
  | .error ending => return .ofEnding ending
  | .ok task =>
      match ← (runTask host task).run with
      | .ok answer => return answer
      | .error problem => return .failure problem

end MetaConfig.Command
