import MetaConfig.Yaml.Lexer

/-!
The events of a YAML text: documents, and in them scalars, aliases, and the beginnings and ends
of collections. A stack holds what is still open, with what may come next there.
-/

namespace MetaConfig.Yaml

open Text

structure Properties where
  anchor : Option Text := none
  tag : Option TagText := none
  deriving DecidableEq, Repr

inductive EventKind where
  | streamStart
  | streamEnd
  | documentStart
  | documentEnd
  | alias (name : Text)
  | scalar (properties : Properties) (text : Text) (style : ScalarStyle)
  | sequenceStart (properties : Properties)
  | sequenceEnd
  | mappingStart (properties : Properties)
  | mappingEnd
  deriving DecidableEq, Repr

structure Event where
  kind : EventKind
  mark : Mark
  deriving DecidableEq, Repr

inductive Stage where
  | streamStart
  | implicitDocumentStart
  | documentStart
  | documentContent
  | documentEnd
  | blockNode
  | blockSequenceEntry (first : Bool)
  | indentlessSequenceEntry
  | blockMappingKey (first : Bool)
  | blockMappingValue
  | flowSequenceEntry (first : Bool)
  | pairKey
  | pairValue
  | pairEnd
  | flowMappingKey (first : Bool)
  | flowMappingValue
  | flowMappingEmptyValue
  | finished
  deriving DecidableEq, Repr

structure TagDefinition where
  handle : Text
  lead : TagText

structure Parser where
  tokens : List Token
  fault : Option Fault
  stage : Stage
  stages : List Stage
  began : List Mark
  definitions : List TagDefinition

namespace Parser

def start (source : Text) : Parser :=
  let (tokens, fault) := Token.scan source
  { tokens, fault, stage := .streamStart, stages := [], began := [], definitions := [] }

abbrev Outcome := Except Fault (Event × Parser)

def peek (parser : Parser) : Except Fault Token :=
  match parser.tokens with
  | token :: _ => .ok token
  | [] => .error (parser.fault.getD (.malformed "did not find expected token".toList .start none))

def skip (parser : Parser) : Parser := { parser with tokens := parser.tokens.drop 1 }

def goTo (parser : Parser) (stage : Stage) : Parser := { parser with stage }

def leave (parser : Parser) : Parser :=
  { parser with stage := parser.stages.headD .finished, stages := parser.stages.drop 1 }

def close (parser : Parser) : Parser :=
  { parser.leave with began := parser.began.drop 1 }

def push (parser : Parser) (stage : Stage) : Parser :=
  { parser with stages := stage :: parser.stages }

def emit (parser : Parser) (kind : EventKind) (mark : Mark) : Outcome := .ok (⟨kind, mark⟩, parser)

def emitEmpty (parser : Parser) (stage : Stage) (mark : Mark) : Outcome :=
  (parser.goTo stage).emit (.scalar {} [] .plain) mark

def problem {result : Type} (problem : String) (mark : Mark) : Except Fault result :=
  .error (.malformed problem.toList mark none)

def problemInside {result : Type} (parser : Parser) (context problem : String) (mark : Mark) :
    Except Fault result :=
  .error (.malformed problem.toList mark
    (some (context.toList, parser.began.headD .start)))

def enter (parser : Parser) (first : Bool) : Except Fault Parser :=
  if first then do
    let token ← parser.peek
    .ok { parser.skip with began := token.start :: parser.began }
  else .ok parser

structure NodeHead where
  start : Mark
  anchor : Option Text
  tag : Option (Text × TagText × Mark)

def parseNodeHead (parser : Parser) : Except Fault (NodeHead × Parser) := do
  let first ← parser.peek
  match first.kind with
  | .anchor name => do
      let second ← parser.skip.peek
      match second.kind with
      | .tag handle suffix =>
          .ok (⟨first.start, some name, some (handle, suffix, second.start)⟩, parser.skip.skip)
      | _ => .ok (⟨first.start, some name, none⟩, parser.skip)
  | .tag handle suffix => do
      let tag := some (handle, suffix, first.start)
      let second ← parser.skip.peek
      match second.kind with
      | .anchor name => .ok (⟨first.start, some name, tag⟩, parser.skip.skip)
      | _ => .ok (⟨first.start, none, tag⟩, parser.skip)
  | _ => .ok (⟨first.start, none, none⟩, parser)

def resolveTag (parser : Parser) (head : NodeHead) : Except Fault (Option TagText) :=
  match head.tag with
  | none => .ok none
  | some (handle, suffix, place) =>
      if handle.isEmpty then .ok (some suffix)
      else
        match parser.definitions.find? fun definition => definition.handle == handle with
        | some definition => .ok (some (definition.lead ++ suffix))
        | none =>
            .error (.malformed "found undefined tag handle".toList place
              (some ("while parsing a node".toList, head.start)))

def parseNode (block indentless : Bool) (parser : Parser) : Outcome := do
  let first ← parser.peek
  match first.kind with
  | .alias name => parser.skip.leave.emit (.alias name) first.start
  | _ =>
      let (head, parser) ← parser.parseNodeHead
      let token ← parser.peek
      let tag ← parser.resolveTag head
      let properties : Properties := ⟨head.anchor, tag⟩
      let collection (stage : Stage) (kind : EventKind) : Outcome :=
        (parser.goTo stage).emit kind head.start
      match token.kind, block, indentless with
      | .blockEntry, _, true =>
          collection .indentlessSequenceEntry (.sequenceStart properties)
      | .scalar text style, _, _ =>
          parser.skip.leave.emit (.scalar properties text style) head.start
      | .flowSequenceStart, _, _ =>
          collection (.flowSequenceEntry true) (.sequenceStart properties)
      | .flowMappingStart, _, _ =>
          collection (.flowMappingKey true) (.mappingStart properties)
      | .blockSequenceStart, true, _ =>
          collection (.blockSequenceEntry true) (.sequenceStart properties)
      | .blockMappingStart, true, _ =>
          collection (.blockMappingKey true) (.mappingStart properties)
      | _, _, _ =>
          if head.anchor.isSome || tag.isSome then
            parser.leave.emit (.scalar properties [] .plain) head.start
          else
            .error (.malformed "did not find expected node content".toList token.start
              (some ((if block then "while parsing a block node"
                else "while parsing a flow node").toList, head.start)))

def defaultDefinitions : List TagDefinition :=
  [⟨['!'], .ofText ['!']⟩, ⟨['!', '!'], .ofText "tag:yaml.org,2002:".toList⟩]

def parseDirectives (versionSeen : Bool) : (fuel : Nat) → Parser → Except Fault Parser
  | 0, parser => .ok parser
  | fuel + 1, parser => do
      let token ← parser.peek
      match token.kind with
      | .versionDirective major minor =>
          if versionSeen then problem "found duplicate %YAML directive" token.start
          else if major ≠ 1 ∨ (minor ≠ 1 ∧ minor ≠ 2) then
            problem "found incompatible YAML document" token.start
          else parseDirectives true fuel parser.skip
      | .tagDirective handle lead =>
          if parser.definitions.any fun definition => definition.handle == handle then
            problem "found duplicate %TAG directive" token.start
          else
            parseDirectives versionSeen fuel
              { parser.skip with definitions := parser.definitions ++ [⟨handle, lead⟩] }
      | _ => .ok { parser with definitions := parser.definitions ++ defaultDefinitions }

def skipDocumentEnds (parser : Parser) : Parser :=
  { parser with tokens := parser.tokens.dropWhile fun token => token.kind == .documentEnd }

def parseDocumentStart (implicit : Bool) (parser : Parser) : Outcome := do
  let parser := if implicit then parser else parser.skipDocumentEnds
  let token ← parser.peek
  let explicit : Except Fault (Event × Parser) := do
    let parser ← parseDirectives false (parser.tokens.length + 1) parser
    let marker ← parser.peek
    if marker.kind = .documentStart then
      ((parser.skip.push .documentEnd).goTo .documentContent).emit .documentStart
        token.start
    else problem "did not find expected <document start>" marker.start
  match token.kind with
  | .streamEnd => (parser.skip.goTo .finished).emit .streamEnd token.start
  | .versionDirective _ _ => explicit
  | .tagDirective _ _ => explicit
  | .documentStart => explicit
  | _ =>
      if implicit then do
        let parser ← parseDirectives false 1 parser
        ((parser.push .documentEnd).goTo .blockNode).emit .documentStart token.start
      else explicit

def parseDocumentContent (parser : Parser) : Outcome := do
  let token ← parser.peek
  let missing := parser.leave.emit (.scalar {} [] .plain) token.start
  match token.kind with
  | .versionDirective _ _ => missing
  | .tagDirective _ _ => missing
  | .documentStart => missing
  | .documentEnd => missing
  | .streamEnd => missing
  | _ => parser.parseNode true false

def parseDocumentEnd (parser : Parser) : Outcome := do
  let token ← parser.peek
  let parser := if token.kind = .documentEnd then parser.skip else parser
  { parser with stage := .documentStart, definitions := [] }.emit .documentEnd token.start

/-! ## Block collections -/

def parseBlockSequenceEntry (first : Bool) (parser : Parser) : Outcome := do
  let parser ← parser.enter first
  let token ← parser.peek
  match token.kind with
  | .blockEntry => do
      let parser := parser.skip
      let following ← parser.peek
      if following.kind = .blockEntry ∨ following.kind = .blockEnd then
        parser.emitEmpty (.blockSequenceEntry false) token.stop
      else (parser.push (.blockSequenceEntry false)).parseNode true false
  | .blockEnd => parser.skip.close.emit .sequenceEnd token.start
  | _ =>
      parser.problemInside "while parsing a block collection"
        "did not find expected '-' indicator" token.start

/-- An entry of a sequence that is a value of a mapping and not indented by more than it. -/
def parseIndentlessSequenceEntry (parser : Parser) : Outcome := do
  let token ← parser.peek
  match token.kind with
  | .blockEntry => do
      let parser := parser.skip
      let following ← parser.peek
      match following.kind with
      | .blockEntry => parser.emitEmpty .indentlessSequenceEntry token.stop
      | .key => parser.emitEmpty .indentlessSequenceEntry token.stop
      | .value => parser.emitEmpty .indentlessSequenceEntry token.stop
      | .blockEnd => parser.emitEmpty .indentlessSequenceEntry token.stop
      | _ => (parser.push .indentlessSequenceEntry).parseNode true false
  | _ => parser.leave.emit .sequenceEnd token.start

def parseBlockPart (indicator : Token) (stage : Stage) (parser : Parser) : Outcome := do
  let parser := parser.skip
  let following ← parser.peek
  match following.kind with
  | .key => parser.emitEmpty stage indicator.stop
  | .value => parser.emitEmpty stage indicator.stop
  | .blockEnd => parser.emitEmpty stage indicator.stop
  | _ => (parser.push stage).parseNode true true

def parseBlockMappingKey (first : Bool) (parser : Parser) : Outcome := do
  let parser ← parser.enter first
  let token ← parser.peek
  match token.kind with
  | .key => parser.parseBlockPart token .blockMappingValue
  | .blockEnd => parser.skip.close.emit .mappingEnd token.start
  | _ =>
      parser.problemInside "while parsing a block mapping" "did not find expected key"
        token.start

def parseBlockMappingValue (parser : Parser) : Outcome := do
  let token ← parser.peek
  match token.kind with
  | .value => parser.parseBlockPart token (.blockMappingKey false)
  | _ => parser.emitEmpty (.blockMappingKey false) token.start

/-! ## Flow collections -/

def parseComma (first : Bool) (context problem : String) (parser : Parser) :
    Except Fault Parser := do
  let token ← parser.peek
  if first then .ok parser
  else if token.kind = .flowEntry then .ok parser.skip
  else parser.problemInside context problem token.start

def parseFlowSequenceEntry (first : Bool) (parser : Parser) : Outcome := do
  let parser ← parser.enter first
  let token ← parser.peek
  if token.kind = .flowSequenceEnd then parser.skip.close.emit .sequenceEnd token.start
  else
    let parser ←
      parser.parseComma first "while parsing a flow sequence"
        "did not find expected ',' or ']'"
    let token ← parser.peek
    match token.kind with
    | .key =>
        let parser := (parser.skip.goTo .pairKey)
        parser.emit (.mappingStart {}) token.start
    | .flowSequenceEnd => parser.skip.close.emit .sequenceEnd token.start
    | _ => (parser.push (.flowSequenceEntry false)).parseNode false false

def parsePairKey (parser : Parser) : Outcome := do
  let token ← parser.peek
  match token.kind with
  | .value => parser.skip.emitEmpty .pairValue token.stop
  | .flowEntry => parser.skip.emitEmpty .pairValue token.stop
  | .flowSequenceEnd => parser.skip.emitEmpty .pairValue token.stop
  | _ => (parser.push .pairValue).parseNode false false

def parsePairValue (parser : Parser) : Outcome := do
  let token ← parser.peek
  if token.kind = .value then
    let parser := parser.skip
    let following ← parser.peek
    if following.kind = .flowEntry ∨ following.kind = .flowSequenceEnd then
      parser.emitEmpty .pairEnd following.start
    else (parser.push .pairEnd).parseNode false false
  else parser.emitEmpty .pairEnd token.start

def parsePairEnd (parser : Parser) : Outcome := do
  let token ← parser.peek
  { parser with stage := .flowSequenceEntry false }.emit .mappingEnd token.start

def parseFlowMappingKey (first : Bool) (parser : Parser) : Outcome := do
  let parser ← parser.enter first
  let token ← parser.peek
  if token.kind = .flowMappingEnd then parser.skip.close.emit .mappingEnd token.start
  else
    let parser ←
      parser.parseComma first "while parsing a flow mapping"
        "did not find expected ',' or '\x7d'"
    let token ← parser.peek
    match token.kind with
    | .key => do
        let parser := parser.skip
        let following ← parser.peek
        match following.kind with
        | .value => parser.emitEmpty .flowMappingValue following.start
        | .flowEntry => parser.emitEmpty .flowMappingValue following.start
        | .flowMappingEnd => parser.emitEmpty .flowMappingValue following.start
        | _ => (parser.push .flowMappingValue).parseNode false false
    | .flowMappingEnd => parser.skip.close.emit .mappingEnd token.start
    | _ => (parser.push .flowMappingEmptyValue).parseNode false false

def parseFlowMappingValue (parser : Parser) : Outcome := do
  let token ← parser.peek
  if token.kind = .value then
    let parser := parser.skip
    let following ← parser.peek
    if following.kind = .flowEntry ∨ following.kind = .flowMappingEnd then
      parser.emitEmpty (.flowMappingKey false) following.start
    else (parser.push (.flowMappingKey false)).parseNode false false
  else parser.emitEmpty (.flowMappingKey false) token.start

def parseFlowMappingEmptyValue (parser : Parser) : Outcome := do
  let token ← parser.peek
  parser.emitEmpty (.flowMappingKey false) token.start

def next (parser : Parser) : Outcome :=
  match parser.stage with
  | .streamStart => do
      let token ← parser.peek
      (parser.skip.goTo .implicitDocumentStart).emit .streamStart token.start
  | .implicitDocumentStart => parser.parseDocumentStart true
  | .documentStart => parser.parseDocumentStart false
  | .documentContent => parser.parseDocumentContent
  | .documentEnd => parser.parseDocumentEnd
  | .blockNode => parser.parseNode true false
  | .blockSequenceEntry first => parser.parseBlockSequenceEntry first
  | .indentlessSequenceEntry => parser.parseIndentlessSequenceEntry
  | .blockMappingKey first => parser.parseBlockMappingKey first
  | .blockMappingValue => parser.parseBlockMappingValue
  | .flowSequenceEntry first => parser.parseFlowSequenceEntry first
  | .pairKey => parser.parsePairKey
  | .pairValue => parser.parsePairValue
  | .pairEnd => parser.parsePairEnd
  | .flowMappingKey first => parser.parseFlowMappingKey first
  | .flowMappingValue => parser.parseFlowMappingValue
  | .flowMappingEmptyValue => parser.parseFlowMappingEmptyValue
  | .finished => do
      let token ← parser.peek
      parser.emit .streamEnd token.start

def events : (fuel : Nat) → Parser → List Event × Option Fault
  | 0, _ => ([], none)
  | fuel + 1, parser =>
      match parser.next with
      | .error fault => ([], some fault)
      | .ok (event, parser) =>
          if event.kind = .streamEnd then ([event], none)
          else
            let (others, fault) := parser.events fuel
            (event :: others, fault)

end Parser

def Event.parse (source : Text) : List Event × Option Fault :=
  let parser := Parser.start source
  parser.events (4 * parser.tokens.length + 8)

end MetaConfig.Yaml
