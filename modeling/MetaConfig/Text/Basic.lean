/-!
Texts as lists of characters, with the few ways of cutting and joining them that a line
format needs.
-/

namespace MetaConfig

abbrev Text := List Char

namespace Text

def splitOnce (separator : Char) : Text → Option (Text × Text)
  | [] => none
  | char :: rest =>
      if char = separator then some ([], rest)
      else (splitOnce separator rest).map fun (before, after) => (char :: before, after)

/-- The maximal runs between separators; there is one piece more than there are separators. -/
def pieces (separator : Char) : Text → List Text
  | [] => [[]]
  | char :: rest =>
      if char = separator then [] :: pieces separator rest
      else match pieces separator rest with
        | [] => [[char]]
        | first :: others => (char :: first) :: others

def joinWith (separator : Text) : List Text → Text
  | [] => []
  | [last] => last
  | first :: others => first ++ separator ++ joinWith separator others

def after? : (lead : Text) → Text → Option Text
  | [], text => some text
  | _ :: _, [] => none
  | expected :: lead, char :: rest => if expected = char then after? lead rest else none

def startsWith (lead text : Text) : Bool := (after? lead text).isSome

def endsWith (ending text : Text) : Bool := startsWith ending.reverse text.reverse

def dropLastChar (char : Char) (text : Text) : Text :=
  if text.getLast? = some char then text.dropLast else text

def padEnd (width : Nat) (text : Text) : Text :=
  text ++ List.replicate (width - text.length) ' '

def padStart (width : Nat) (text : Text) : Text :=
  List.replicate (width - text.length) ' ' ++ text

theorem pieces_ne_nil (separator : Char) (text : Text) : pieces separator text ≠ [] := by
  cases text with
  | nil => simp [pieces]
  | cons char rest =>
      simp only [pieces]
      split
      · simp
      · split <;> simp

theorem after?_append (lead rest : Text) : after? lead (lead ++ rest) = some rest := by
  induction lead with
  | nil => rfl
  | cons char lead ih => simp [after?, ih]

theorem eq_append_of_after? {lead text rest : Text} (found : after? lead text = some rest) :
    text = lead ++ rest := by
  induction lead generalizing text with
  | nil => simpa [after?] using found
  | cons expected lead ih =>
      cases text with
      | nil => simp [after?] at found
      | cons char others =>
          simp only [after?] at found
          split at found
          · rename_i same
            rw [same, ih found, List.cons_append]
          · simp at found

end Text

end MetaConfig
