import MetaConfig.Yaml.Cursor
import MetaConfig.Yaml.Token

/-!
The scalars of a YAML text: quoted, plain and in blocks. A single line break inside a scalar
that is not a literal block counts as a blank; of several, the first is left out.
-/

namespace MetaConfig.Yaml

open Text

structure Fold where
  first : Text
  others : Text

def Fold.text (fold : Fold) : Text :=
  if fold.first.head? = some '\n' then
    if fold.others.isEmpty then [' '] else fold.others
  else fold.first ++ fold.others

inductive Between where
  | blanks (text : Text)
  | breaks (fold : Fold)

def Between.text : Between → Text
  | blanks text => text
  | breaks fold => fold.text

def Between.hasBreaks : Between → Bool
  | blanks _ => false
  | breaks _ => true

/-- The run of blanks and breaks at the cursor, after those that have been seen. After a break,
blanks do not count, and a tab before the column `tabsFrom` is not allowed. -/
def scanBetween (tabsFrom : Nat) (began : Mark) :
    (fuel : Nat) → Between → Cursor → Except Fault (Between × Cursor)
  | 0, between, cursor => .ok (between, cursor)
  | fuel + 1, between, cursor =>
      match cursor.char? with
      | none => .ok (between, cursor)
      | some char =>
          if isBlank char then
            match between with
            | .blanks text =>
                scanBetween tabsFrom began fuel (.blanks (text ++ [char])) cursor.skip
            | .breaks fold =>
                if char = '\t' ∧ cursor.mark.column < tabsFrom then
                  cursor.fault "while scanning a plain scalar" began
                    "found a tab character that violates indentation"
                else scanBetween tabsFrom began fuel (.breaks fold) cursor.skip
          else if isBreak char then
            let (line, after) := cursor.takeBreak
            match between with
            | .blanks _ => scanBetween tabsFrom began fuel (.breaks ⟨line, []⟩) after
            | .breaks fold =>
                scanBetween tabsFrom began fuel (.breaks { fold with others := fold.others ++ line })
                  after
          else .ok (between, cursor)

/-! ## Quoted scalars -/

def shortEscape? : Char → Option Char
  | '0' => some '\x00'
  | 'a' => some '\x07'
  | 'b' => some '\x08'
  | 't' => some '\t'
  | '\t' => some '\t'
  | 'n' => some '\n'
  | 'v' => some '\x0b'
  | 'f' => some '\x0c'
  | 'r' => some '\r'
  | 'e' => some '\x1b'
  | ' ' => some ' '
  | '"' => some '"'
  | '/' => some '/'
  | '\\' => some '\\'
  | 'N' => some '\u0085'
  | '_' => some '\u00a0'
  | 'L' => some '\u2028'
  | 'P' => some '\u2029'
  | _ => none

def codeLength? : Char → Option Nat
  | 'x' => some 2
  | 'u' => some 4
  | 'U' => some 8
  | _ => none

def scanEscape (began : Mark) (cursor : Cursor) : Except Fault (Char × Cursor) :=
  let context := "while parsing a quoted scalar"
  match cursor.ahead? 1 with
  | none => cursor.fault context began "found unknown escape character"
  | some letter =>
      match shortEscape? letter, codeLength? letter with
      | some meant, _ => .ok (meant, cursor.skipMany 2)
      | none, none => cursor.fault context began "found unknown escape character"
      | none, some length =>
          let after := cursor.skipMany 2
          let digits := after.rest.take length
          match nat? 16 digits with
          | none => after.fault context began "did not find expected hexadecimal number"
          | some code =>
              if digits.length < length then
                after.fault context began "did not find expected hexadecimal number"
              else if (0xD800 ≤ code ∧ code ≤ 0xDFFF) ∨ 0x10FFFF < code then
                after.fault context began "found invalid Unicode character escape code"
              else .ok (Char.ofNat code, after.skipMany length)

def scanQuotedRun (quote : Char) (began : Mark) :
    (fuel : Nat) → Cursor → Except Fault (Text × Bool × Cursor)
  | 0, cursor => .ok ([], false, cursor)
  | fuel + 1, cursor =>
      if cursor.atGap then .ok ([], false, cursor)
      else if quote = '\'' ∧ cursor.rest.take 2 = ['\'', '\''] then do
        let (others, escapedBreak, after) ← scanQuotedRun quote began fuel (cursor.skipMany 2)
        .ok ('\'' :: others, escapedBreak, after)
      else if cursor.startsWith quote then .ok ([], false, cursor)
      else if quote = '"' ∧ cursor.startsWith '\\' then
        if cursor.skip.atBreak then .ok ([], true, cursor.skip.skipBreak)
        else do
          let (meant, after) ← scanEscape began cursor
          let (others, escapedBreak, after) ← scanQuotedRun quote began fuel after
          .ok (meant :: others, escapedBreak, after)
      else do
        let (others, escapedBreak, after) ← scanQuotedRun quote began fuel cursor.skip
        .ok (cursor.rest.take 1 ++ others, escapedBreak, after)

def scanQuotedText (quote : Char) (began : Mark) :
    (fuel : Nat) → Cursor → Except Fault (Text × Cursor)
  | 0, cursor => .ok ([], cursor)
  | fuel + 1, cursor =>
      let context := "while scanning a quoted scalar"
      if cursor.atAnyDocumentMarker then
        cursor.fault context began "found unexpected document indicator"
      else if cursor.atEnd then
        cursor.fault context began "found unexpected end of stream"
      else do
        let (run, escapedBreak, after) ←
          scanQuotedRun quote began (cursor.rest.length + 1) cursor
        if after.startsWith quote then .ok (run, after)
        else
          let seen := if escapedBreak then .breaks ⟨[], []⟩ else .blanks []
          let (between, after) ← scanBetween 0 began (after.rest.length + 1) seen after
          let (others, after) ← scanQuotedText quote began fuel after
          .ok (run ++ between.text ++ others, after)

def scanQuoted (quote : Char) (cursor : Cursor) : Except Fault (Token × Cursor) := do
  let (text, after) ← scanQuotedText quote cursor.mark (cursor.rest.length + 1) cursor.skip
  let after := after.skip
  let style := if quote = '"' then .doubleQuoted else .singleQuoted
  .ok (⟨.scalar text style, cursor.mark, after.mark⟩, after)

/-! ## Plain scalars -/

def isFlowIndicator (char : Char) : Bool := ",[]\x7b\x7d".toList.contains char

def endsPlain (inFlow : Bool) (cursor : Cursor) : Bool :=
  (cursor.startsWith ':' && cursor.isGapAhead 1) || (inFlow && cursor.char?.any isFlowIndicator)

def atMisplacedColon (inFlow : Bool) (cursor : Cursor) : Bool :=
  inFlow && cursor.startsWith ':' &&
    (cursor.ahead? 1).any fun char => char == '?' || isFlowIndicator char

def scanPlainRun (inFlow : Bool) (began : Mark) :
    (fuel : Nat) → Cursor → Except Fault (Text × Cursor)
  | 0, cursor => .ok ([], cursor)
  | fuel + 1, cursor =>
      if cursor.atGap then .ok ([], cursor)
      else if atMisplacedColon inFlow cursor then
        cursor.fault "while scanning a plain scalar" began "found unexpected ':'"
      else if endsPlain inFlow cursor then .ok ([], cursor)
      else do
        let (others, after) ← scanPlainRun inFlow began fuel cursor.skip
        .ok (cursor.rest.take 1 ++ others, after)

structure PlainEnd where
  stop : Mark
  cursor : Cursor
  brokeLine : Bool

def scanPlainText (inFlow : Bool) (indent : Nat) (began : Mark) :
    (fuel : Nat) → (stop : Mark) → Between → Cursor → Except Fault (Text × PlainEnd)
  | 0, stop, between, cursor => .ok ([], ⟨stop, cursor, between.hasBreaks⟩)
  | fuel + 1, stop, between, cursor =>
      if cursor.atAnyDocumentMarker || cursor.startsWith '#' then
        .ok ([], ⟨stop, cursor, between.hasBreaks⟩)
      else do
        let (run, after) ← scanPlainRun inFlow began (cursor.rest.length + 1) cursor
        let text := if run.isEmpty then [] else between.text ++ run
        let stop := if run.isEmpty then stop else after.mark
        let seen := if run.isEmpty then between else .blanks []
        if !(after.atBlank || after.atBreak) then .ok (text, ⟨stop, after, seen.hasBreaks⟩)
        else
          let (between, after) ← scanBetween indent began (after.rest.length + 1) seen after
          if !inFlow && after.mark.column < indent then
            .ok (text, ⟨stop, after, between.hasBreaks⟩)
          else
            let (others, ending) ← scanPlainText inFlow indent began fuel stop between after
            .ok (text ++ others, ending)

def scanPlain (inFlow : Bool) (indent : Nat) (cursor : Cursor) :
    Except Fault (Token × Cursor × Bool) := do
  let (text, ending) ←
    scanPlainText inFlow indent cursor.mark (cursor.rest.length + 1) cursor.mark (.blanks [])
      cursor
  .ok (⟨.scalar text .plain, cursor.mark, ending.stop⟩, ending.cursor, ending.brokeLine)

/-! ## Block scalars -/

inductive Chomping where
  | clip
  | strip
  | keep
  deriving DecidableEq, Repr

def chomping? (cursor : Cursor) : Option Chomping :=
  if cursor.startsWith '+' then some .keep
  else if cursor.startsWith '-' then some .strip
  else none

def scanIndentDigit (began : Mark) (cursor : Cursor) : Except Fault (Option Nat × Cursor) :=
  match cursor.char?.bind (digit? 10) with
  | none => .ok (none, cursor)
  | some digit =>
      if digit = 0 then
        cursor.fault "while scanning a block scalar" began
          "found an indentation indicator equal to 0"
      else .ok (some digit, cursor.skip)

def scanBlockHead (began : Mark) (cursor : Cursor) :
    Except Fault (Chomping × Option Nat × Cursor) := do
  match chomping? cursor with
  | some chomping =>
      let (digit, after) ← scanIndentDigit began cursor.skip
      .ok (chomping, digit, after)
  | none =>
      let (digit, after) ← scanIndentDigit began cursor
      match digit, chomping? after with
      | some _, some chomping => .ok (chomping, digit, after.skip)
      | _, _ => .ok (.clip, digit, after)

def scanEmptyLines (indent : Option Nat) (began : Mark) :
    (fuel : Nat) → (stop : Mark) → (largest : Nat) → Cursor →
      Except Fault (Text × Mark × Nat × Cursor)
  | 0, stop, largest, cursor => .ok ([], stop, largest, cursor)
  | fuel + 1, stop, largest, cursor =>
      let blanks := (cursor.rest.takeWhile (· == ' ')).length
      let after :=
        cursor.skipMany
          (match indent with
            | none => blanks
            | some indent => min blanks (indent - cursor.mark.column))
      let largest := max largest after.mark.column
      let insideIndent := indent.all fun indent => after.mark.column < indent
      if insideIndent && after.startsWith '\t' then
        after.fault "while scanning a block scalar" began
          "found a tab character where an indentation space is expected"
      else if !after.atBreak then .ok ([], stop, largest, after)
      else do
        let (line, after) := after.takeBreak
        let (others, stop, largest, after) ←
          scanEmptyLines indent began fuel after.mark largest after
        .ok (line ++ others, stop, largest, after)

/-- The lines of a block that are indented by `indent`, after a line with the given break and
the empty lines after it; `afterBlank` tells whether that line began with a blank. Also
returned are the breaks at the end of the block. -/
def scanBlockLines (folded : Bool) (indent : Nat) (began : Mark) :
    (fuel : Nat) → (lineBreak emptyLines : Text) → (afterBlank : Bool) → (stop : Mark) →
      Cursor → Except Fault (Text × Text × Text × Mark × Cursor)
  | 0, lineBreak, emptyLines, _, stop, cursor => .ok ([], lineBreak, emptyLines, stop, cursor)
  | fuel + 1, lineBreak, emptyLines, afterBlank, stop, cursor =>
      if cursor.mark.column ≠ indent ∨ cursor.atEnd then
        .ok ([], lineBreak, emptyLines, stop, cursor)
      else do
        let startsBlank := cursor.atBlank
        let joined :=
          if folded && lineBreak.head? == some '\n' && !afterBlank && !startsBlank then
            if emptyLines.isEmpty then [' '] else []
          else lineBreak
        let content := cursor.rest.takeWhile fun char => !isBreak char
        let (newBreak, after) := (cursor.skipMany content.length).takeBreak
        let (newEmptyLines, stop, _, after) ←
          scanEmptyLines (some indent) began (after.rest.length + 1) after.mark 0 after
        let (others, lastBreak, lastEmptyLines, stop, after) ←
          scanBlockLines folded indent began fuel newBreak newEmptyLines startsBlank stop after
        .ok (joined ++ emptyLines ++ content ++ others, lastBreak, lastEmptyLines, stop, after)

def scanBlock (folded : Bool) (outerIndent : Int) (cursor : Cursor) :
    Except Fault (Token × Cursor) := do
  let began := cursor.mark
  let (chomping, digit, after) ← scanBlockHead began cursor.skip
  let after := after.skipBlanks.skipComment
  if !after.atBreakOrEnd then
    after.fault "while scanning a block scalar" began
      "did not find expected comment or line break"
  else
    let after := after.skipBreak
    let told := digit.map fun digit => digit + outerIndent.toNat
    let (emptyLines, stop, largest, after) ←
      scanEmptyLines told began (after.rest.length + 1) after.mark 0 after
    let indent := told.getD (max largest (max (outerIndent + 1).toNat 1))
    let (text, lastBreak, lastEmptyLines, stop, after) ←
      scanBlockLines folded indent began (after.rest.length + 1) [] emptyLines false stop after
    let ending :=
      match chomping with
      | .strip => []
      | .clip => lastBreak
      | .keep => lastBreak ++ lastEmptyLines
    let style := if folded then .folded else .literal
    .ok (⟨.scalar (text ++ ending) style, began, stop⟩, after)

end MetaConfig.Yaml
