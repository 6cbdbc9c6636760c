import MetaConfig.Text.Basic
import MetaConfig.Text.CaseTable

/-!
The lower case of a text by Unicode's full mapping. Only two characters do not map one to one
and on their own: a capital I with a dot keeps the dot as a combining mark, and a capital sigma
at the end of a word becomes a final sigma.
-/

namespace MetaConfig.Text

def lowerChar (char : Char) : Char :=
  let code := char.toNat
  match caseRuns.find? fun run => code ≤ run.last with
  | some run =>
      if run.first ≤ code ∧ (code - run.first) % run.step = 0
      then Char.ofNat (run.target + (code - run.first))
      else char
  | none => char

def meetsCased (text : Text) : Bool :=
  match text.dropWhile (liesWithin caseIgnorableBounds) with
  | [] => false
  | char :: _ => liesWithin casedBounds char

/-- Lower case of a text, given the characters before it, the nearest first. -/
def lowerAfter : (before : Text) → Text → Text
  | _, [] => []
  | before, char :: rest =>
      let lowered :=
        if char = 'Σ' then
          if meetsCased before && !meetsCased rest then ['ς'] else ['σ']
        else if char = 'İ' then ['i', '\u0307']
        else [lowerChar char]
      lowered ++ lowerAfter (char :: before) rest

def lower (text : Text) : Text := lowerAfter [] text

end MetaConfig.Text
