import MetaConfig.Yaml.Property
import MetaConfig.Yaml.Scalar

/-!
Cutting a YAML text into tokens. A token that may turn out to be the key of a mapping is held
back until it is clear whether a colon follows it; then the tokens that announce the key, and
perhaps the mapping, are put before it.
-/

namespace MetaConfig.Yaml

/-- A token that may be a key, by its number. A required one has to be. -/
structure KeyCandidate where
  required : Bool
  token : Nat
  mark : Mark

structure Lexer where
  cursor : Cursor
  indent : Int
  outerIndents : List Int
  candidate : Option KeyCandidate
  outerCandidates : List (Option KeyCandidate)
  keyAllowed : Bool
  held : List Token
  released : Nat

namespace Lexer

def start (source : Text) : Lexer :=
  { cursor := .ofText source
    indent := -1
    outerIndents := []
    candidate := none
    outerCandidates := []
    keyAllowed := true
    held := [⟨.streamStart, .start, .start⟩]
    released := 0 }

def inFlow (lexer : Lexer) : Bool := !lexer.outerCandidates.isEmpty

def emit (lexer : Lexer) (token : Token) : Lexer := { lexer with held := lexer.held ++ [token] }

def emitBefore (lexer : Lexer) (number : Nat) (kind : TokenKind) (mark : Mark) : Lexer :=
  let place := number - lexer.released
  { lexer with held := lexer.held.take place ++ [⟨kind, mark, mark⟩] ++ lexer.held.drop place }

def emitNext (lexer : Lexer) (kind : TokenKind) (length : Nat) : Lexer :=
  let after := lexer.cursor.skipMany length
  { lexer.emit ⟨kind, lexer.cursor.mark, after.mark⟩ with cursor := after }

def emitScanned (lexer : Lexer) (scanned : Token × Cursor) : Lexer :=
  { lexer.emit scanned.1 with cursor := scanned.2 }

def fault {result : Type} (lexer : Lexer) (problem : String) : Except Fault result :=
  .error (.malformed problem.toList lexer.cursor.mark none)

/-! ## Candidates for keys -/

def giveUp (cursor : Cursor) : Option KeyCandidate → Except Fault (Option KeyCandidate)
  | none => .ok none
  | some candidate =>
      if candidate.required then
        cursor.fault "while scanning a simple key" candidate.mark "could not find expected ':'"
      else .ok none

/-- A key ends in the line in which it begins, within 1024 bytes. -/
def dropIfStale (cursor : Cursor) (candidate : Option KeyCandidate) :
    Except Fault (Option KeyCandidate) :=
  let stale := candidate.any fun candidate =>
    candidate.mark.line < cursor.mark.line || candidate.mark.index + 1024 < cursor.mark.index
  if stale then giveUp cursor candidate else .ok candidate

def dropStale (lexer : Lexer) : Except Fault Lexer := do
  let outer ← lexer.outerCandidates.reverse.mapM (dropIfStale lexer.cursor)
  let candidate ← dropIfStale lexer.cursor lexer.candidate
  .ok { lexer with candidate := candidate, outerCandidates := outer.reverse }

def dropCandidate (lexer : Lexer) : Except Fault Lexer := do
  .ok { lexer with candidate := ← giveUp lexer.cursor lexer.candidate }

def saveCandidate (lexer : Lexer) : Except Fault Lexer :=
  if lexer.keyAllowed then do
    let lexer ← lexer.dropCandidate
    let candidate : KeyCandidate :=
      { required := !lexer.inFlow && lexer.indent == lexer.cursor.mark.column
        token := lexer.released + lexer.held.length
        mark := lexer.cursor.mark }
    .ok { lexer with candidate := some candidate }
  else .ok lexer

def closeBlocks (column : Int) (lexer : Lexer) : (fuel : Nat) → Lexer
  | 0 => lexer
  | fuel + 1 =>
      if lexer.indent ≤ column then lexer
      else
        let mark := lexer.cursor.mark
        closeBlocks column
          { lexer.emit ⟨.blockEnd, mark, mark⟩ with
            indent := lexer.outerIndents.headD (-1)
            outerIndents := lexer.outerIndents.drop 1 }
          fuel

def closeTo (column : Int) (lexer : Lexer) : Lexer :=
  if lexer.inFlow then lexer else lexer.closeBlocks column (lexer.outerIndents.length + 1)

def openBlock (kind : TokenKind) (number : Nat) (mark : Mark) (lexer : Lexer) : Lexer :=
  if lexer.inFlow || mark.column ≤ lexer.indent then lexer
  else
    { lexer.emitBefore number kind mark with
      indent := mark.column
      outerIndents := lexer.indent :: lexer.outerIndents }

def openBlockHere (kind : TokenKind) (lexer : Lexer) : Lexer :=
  lexer.openBlock kind (lexer.released + lexer.held.length) lexer.cursor.mark

/-! ## Tokens -/

/-- Moves over blanks, comments and line breaks. A tab is no blank where a key may stand in a
block, and a line break in a block allows a key. -/
def skipToToken : (fuel : Nat) → Lexer → Lexer
  | 0, lexer => lexer
  | fuel + 1, lexer =>
      let cursor := lexer.cursor
      let cursor :=
        if cursor.mark.column = 0 ∧ cursor.startsWith '\ufeff' then cursor.skip else cursor
      let tabs := lexer.inFlow || !lexer.keyAllowed
      let cursor := cursor.skipWhile fun char => char == ' ' || (tabs && char == '\t')
      let cursor := cursor.skipComment
      if cursor.atBreak then
        skipToToken fuel
          { lexer with cursor := cursor.skipBreak, keyAllowed := lexer.keyAllowed || !lexer.inFlow }
      else { lexer with cursor }

def lexStreamEnd (lexer : Lexer) : Except Fault Lexer := do
  let mark := lexer.cursor.mark
  let mark := if mark.column = 0 then mark else ⟨mark.index, mark.line + 1, 0⟩
  let lexer := { lexer with cursor := { lexer.cursor with mark } }
  let lexer ← (lexer.closeTo (-1)).dropCandidate
  .ok ({ lexer with keyAllowed := false }.emitNext .streamEnd 0)

def lexDirective (lexer : Lexer) : Except Fault Lexer := do
  let lexer ← (lexer.closeTo (-1)).dropCandidate
  .ok ({ lexer with keyAllowed := false }.emitScanned (← scanDirective lexer.cursor))

def lexDocumentMarker (kind : TokenKind) (lexer : Lexer) : Except Fault Lexer := do
  let lexer ← (lexer.closeTo (-1)).dropCandidate
  .ok ({ lexer with keyAllowed := false }.emitNext kind 3)

def lexFlowStart (kind : TokenKind) (lexer : Lexer) : Except Fault Lexer := do
  let lexer ← lexer.saveCandidate
  let lexer :=
    { lexer with
      candidate := none
      outerCandidates := lexer.candidate :: lexer.outerCandidates
      keyAllowed := true }
  .ok (lexer.emitNext kind 1)

def lexFlowEnd (kind : TokenKind) (lexer : Lexer) : Except Fault Lexer := do
  let lexer ← lexer.dropCandidate
  let lexer :=
    match lexer.outerCandidates with
    | [] => lexer
    | candidate :: outer => { lexer with candidate, outerCandidates := outer }
  .ok ({ lexer with keyAllowed := false }.emitNext kind 1)

def lexFlowEntry (lexer : Lexer) : Except Fault Lexer := do
  let lexer ← lexer.dropCandidate
  .ok ({ lexer with keyAllowed := true }.emitNext .flowEntry 1)

def lexBlockEntry (lexer : Lexer) : Except Fault Lexer := do
  if !lexer.inFlow && !lexer.keyAllowed then
    lexer.fault "block sequence entries are not allowed in this context"
  else
    let lexer ← (lexer.openBlockHere .blockSequenceStart).dropCandidate
    .ok ({ lexer with keyAllowed := true }.emitNext .blockEntry 1)

def lexKey (lexer : Lexer) : Except Fault Lexer := do
  if !lexer.inFlow && !lexer.keyAllowed then
    lexer.fault "mapping keys are not allowed in this context"
  else
    let lexer ← (lexer.openBlockHere .blockMappingStart).dropCandidate
    .ok ({ lexer with keyAllowed := !lexer.inFlow }.emitNext .key 1)

def lexValue (lexer : Lexer) : Except Fault Lexer :=
  match lexer.candidate with
  | some candidate =>
      let lexer := lexer.emitBefore candidate.token .key candidate.mark
      let lexer := lexer.openBlock .blockMappingStart candidate.token candidate.mark
      .ok ({ lexer with candidate := none, keyAllowed := false }.emitNext .value 1)
  | none =>
      if !lexer.inFlow && !lexer.keyAllowed then
        lexer.fault "mapping values are not allowed in this context"
      else
        let lexer := lexer.openBlockHere .blockMappingStart
        .ok ({ lexer with keyAllowed := !lexer.inFlow }.emitNext .value 1)

def lexCandidate (lexer : Lexer) (scan : Cursor → Except Fault (Token × Cursor)) :
    Except Fault Lexer := do
  let lexer ← lexer.saveCandidate
  .ok ({ lexer with keyAllowed := false }.emitScanned (← scan lexer.cursor))

def lexBlockScalar (folded : Bool) (lexer : Lexer) : Except Fault Lexer := do
  let lexer ← lexer.dropCandidate
  .ok ({ lexer with keyAllowed := true }.emitScanned
    (← scanBlock folded lexer.indent lexer.cursor))

def lexPlain (lexer : Lexer) : Except Fault Lexer := do
  let lexer ← lexer.saveCandidate
  let (token, after, brokeLine) ←
    scanPlain lexer.inFlow (lexer.indent + 1).toNat lexer.cursor
  .ok ({ lexer with keyAllowed := brokeLine }.emitScanned (token, after))

def startsPlain (lexer : Lexer) (char : Char) : Bool :=
  let cursor := lexer.cursor
  (!cursor.atGap && !"-?:,[]\x7b\x7d#&*!|>'\"%@`".toList.contains char) ||
    (char == '-' && !(cursor.ahead? 1).any isBlank) ||
    (!lexer.inFlow && (char == '?' || char == ':') && !cursor.isGapAhead 1)

def lexNext (lexer : Lexer) : Except Fault Lexer := do
  let lexer ← (skipToToken (lexer.cursor.rest.length + 1) lexer).dropStale
  let lexer := lexer.closeTo lexer.cursor.mark.column
  let cursor := lexer.cursor
  let gapAhead := cursor.isGapAhead 1
  match cursor.char? with
  | none => lexer.lexStreamEnd
  | some char =>
      if char = '%' ∧ cursor.mark.column = 0 then lexer.lexDirective
      else if cursor.atDocumentMarker '-' then lexer.lexDocumentMarker .documentStart
      else if cursor.atDocumentMarker '.' then lexer.lexDocumentMarker .documentEnd
      else if char = '[' then lexer.lexFlowStart .flowSequenceStart
      else if char = '\x7b' then lexer.lexFlowStart .flowMappingStart
      else if char = ']' then lexer.lexFlowEnd .flowSequenceEnd
      else if char = '\x7d' then lexer.lexFlowEnd .flowMappingEnd
      else if char = ',' then lexer.lexFlowEntry
      else if char = '-' ∧ gapAhead then lexer.lexBlockEntry
      else if char = '?' ∧ (lexer.inFlow || gapAhead) then lexer.lexKey
      else if char = ':' ∧ (lexer.inFlow || gapAhead) then lexer.lexValue
      else if char = '*' then lexer.lexCandidate (scanAnchor true)
      else if char = '&' then lexer.lexCandidate (scanAnchor false)
      else if char = '!' then lexer.lexCandidate (scanTag lexer.inFlow)
      else if char = '|' ∧ !lexer.inFlow then lexer.lexBlockScalar false
      else if char = '>' ∧ !lexer.inFlow then lexer.lexBlockScalar true
      else if char = '\'' then lexer.lexCandidate (scanQuoted '\'')
      else if char = '"' then lexer.lexCandidate (scanQuoted '"')
      else if lexer.startsPlain char then lexer.lexPlain
      else
        cursor.fault "while scanning for the next token" cursor.mark
          "found character that cannot start any token"

def firstIsCandidate (lexer : Lexer) : Bool :=
  (lexer.candidate :: lexer.outerCandidates).any fun candidate =>
    candidate.any fun candidate => candidate.token == lexer.released

def next : (fuel : Nat) → Lexer → Except Fault (Token × Lexer)
  | 0, lexer => lexer.fault "did not find expected token"
  | fuel + 1, lexer =>
      match lexer.held with
      | [] => do next fuel (← lexer.lexNext)
      | token :: held => do
          let lexer ← lexer.dropStale
          if lexer.firstIsCandidate then next fuel (← lexer.lexNext)
          else .ok (token, { lexer with held, released := lexer.released + 1 })

def tokens : (fuel : Nat) → Lexer → List Token × Option Fault
  | 0, _ => ([], none)
  | fuel + 1, lexer =>
      match lexer.next (lexer.cursor.rest.length + 3) with
      | .error fault => ([], some fault)
      | .ok (token, lexer) =>
          if token.kind = .streamEnd then ([token], none)
          else
            let (others, fault) := lexer.tokens fuel
            (token :: others, fault)

end Lexer

def forbiddenCharacter? (offset : Nat) : Text → Option Nat
  | [] => none
  | char :: rest =>
      let code := char.toNat
      let allowed :=
        code == 0x09 || code == 0x0A || code == 0x0D || (0x20 ≤ code && code ≤ 0x7E) ||
          code == 0x85 || (0xA0 ≤ code && code ≤ 0xD7FF) || (0xE000 ≤ code && code ≤ 0xFFFD) ||
          0x10000 ≤ code
      if allowed then forbiddenCharacter? (offset + char.utf8Size) rest else some offset

def Token.scan (source : Text) : List Token × Option Fault :=
  match forbiddenCharacter? 0 source with
  | some offset => ([], some (.forbiddenCharacter offset))
  | none => (Lexer.start source).tokens (4 * source.length + 4)

end MetaConfig.Yaml
