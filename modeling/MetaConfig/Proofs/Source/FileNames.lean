import Mathlib.Tactic.SplitIfs
import MetaConfig.Command.Run
import MetaConfig.Page
import MetaConfig.Proofs.Text.Cutting

/-!
The format that a file is read in. The command looks at the last name of a path and the page looks
at the whole text, and both find the same, since no ending that tells a format has a slash in it.
Only slashes and single points after the last name make a difference.
-/

namespace MetaConfig

open Text

/-! ## Endings -/

namespace Text

theorem startsWith_append_cons {stop : Char} {lead : Text} (absent : stop ∉ lead)
    (text rest : Text) : startsWith lead (text ++ stop :: rest) = startsWith lead text := by
  induction lead generalizing text with
  | nil => rfl
  | cons expected lead ih =>
      simp only [List.mem_cons, not_or] at absent
      cases text with
      | nil => simp [startsWith, after?, Ne.symm absent.1]
      | cons char others =>
          by_cases same : expected = char
          · simpa [startsWith, after?, same] using ih absent.2 others
          · simp [startsWith, after?, same]

theorem endsWith_append_cons {stop : Char} {ending : Text} (absent : stop ∉ ending)
    (first last : Text) : endsWith ending (first ++ stop :: last) = endsWith ending last := by
  have reversed : stop ∉ ending.reverse := by simpa using absent
  simpa [endsWith] using startsWith_append_cons reversed last.reverse first.reverse

theorem exists_append_of_endsWith {ending text : Text} (ends : endsWith ending text = true) :
    ∃ front, text = front ++ ending := by
  obtain ⟨front, found⟩ := Option.isSome_iff_exists.mp ends
  refine ⟨front.reverse, ?_⟩
  rw [← List.reverse_inj, eq_append_of_after? found]
  simp

theorem exists_last_piece (separator : Char) (text : Text) :
    ∃ parts last, pieces separator text = parts ++ [last] ∧
      (text = last ∨ ∃ front, text = front ++ separator :: last) := by
  by_cases member : separator ∈ text
  · obtain ⟨last, front, cut, absent⟩ :=
      List.eq_append_cons_of_mem (List.mem_reverse.mpr member)
    have whole : text = front.reverse ++ separator :: last.reverse := by
      rw [← List.reverse_inj, cut]
      simp
    have lastAbsent : separator ∉ last.reverse := by simpa using absent
    refine ⟨pieces separator front.reverse, last.reverse, ?_, .inr ⟨_, whole⟩⟩
    rw [whole, pieces_append_cons, pieces_of_not_mem lastAbsent]
  · exact ⟨[], text, pieces_of_not_mem member, .inl rfl⟩

end Text

/-! ## Names -/

def Text.dropSteps : Text → Text
  | '/' :: rest => dropSteps rest
  | '.' :: '/' :: rest => dropSteps rest
  | reversed => reversed

/-- The path without the slashes, and the slashes with a single point, that it ends in. -/
def Text.upToName (path : Text) : Text := (dropSteps path.reverse).reverse

namespace Text

theorem fileName?_append_slash (path : Text) : fileName? (path ++ ['/']) = fileName? path := by
  have cut := pieces_append_cons '/' path []
  simp [fileName?, cut, pieces]

theorem fileName?_append_slash_point (path : Text) :
    fileName? (path ++ ['/', '.']) = fileName? path := by
  have cut := pieces_append_cons '/' path ['.']
  simp [fileName?, cut, pieces]

theorem fileName?_of_last {path last : Text} {parts : List Text}
    (cut : pieces '/' path = parts ++ [last]) (nonempty : last ≠ []) (notPoint : last ≠ ['.']) :
    fileName? path = if last = ['.', '.'] then none else some last := by
  simp [fileName?, cut, nonempty, notPoint, Option.filter]

theorem dropSteps_eq_self {reversed : Text} (noSlash : startsWith ['/'] reversed = false)
    (noPoint : startsWith ['.', '/'] reversed = false) : dropSteps reversed = reversed := by
  unfold dropSteps
  split
  · simp [startsWith, after?] at noSlash
  · simp [startsWith, after?] at noPoint
  · rfl

theorem upToName_eq_self {path : Text} (noSlash : endsWith ['/'] path = false)
    (noPoint : endsWith ['/', '.'] path = false) : upToName path = path := by
  rw [upToName, dropSteps_eq_self noSlash noPoint, List.reverse_reverse]

theorem endsWith_upToName (path : Text) :
    endsWith ['/'] path.upToName = false ∧ endsWith ['/', '.'] path.upToName = false := by
  simp only [endsWith, upToName, List.reverse_reverse]
  fun_induction dropSteps path.reverse with
  | case1 rest ih => exact ih
  | case2 rest ih => exact ih
  | case3 reversed noSlash noPoint =>
      rw [Bool.eq_false_iff, Bool.eq_false_iff]
      constructor
      · intro starts
        obtain ⟨rest, found⟩ := Option.isSome_iff_exists.mp starts
        exact noSlash rest (eq_append_of_after? found)
      · intro starts
        obtain ⟨rest, found⟩ := Option.isSome_iff_exists.mp starts
        exact noPoint rest (eq_append_of_after? found)

end Text

namespace SourceFormat

theorem detect?_append_cons (front last : Text) :
    detect? (front ++ '/' :: last) = detect? last := by
  have json : '/' ∉ ".json".toList := by decide
  have yaml : '/' ∉ ".yaml".toList := by decide
  have yml : '/' ∉ ".yml".toList := by decide
  have env : '/' ∉ ".env".toList := by decide
  simp only [detect?, endsWith_append_cons json, endsWith_append_cons yaml,
    endsWith_append_cons yml, endsWith_append_cons env]

theorem exists_ending_of_detect? {name : Text} {format : SourceFormat}
    (found : detect? name = some format) :
    ∃ ending ∈ [".json".toList, ".yaml".toList, ".yml".toList, ".env".toList],
      ∃ front, name = front ++ ending := by
  unfold detect? at found
  split_ifs at found with json yaml env
  · exact ⟨_, by simp, exists_append_of_endsWith json⟩
  · rcases Bool.or_eq_true_iff.mp yaml with long | short
    · exact ⟨_, by simp, exists_append_of_endsWith long⟩
    · exact ⟨_, by simp, exists_append_of_endsWith short⟩
  · exact ⟨_, by simp, exists_append_of_endsWith env⟩

theorem upToName_of_detect? {name : Text} {format : SourceFormat}
    (found : detect? name = some format) : upToName name = name := by
  obtain ⟨ending, known, front, rfl⟩ := exists_ending_of_detect? found
  simp only [List.mem_cons, List.not_mem_nil, or_false] at known
  rcases known with rfl | rfl | rfl | rfl <;>
    exact upToName_eq_self (by simp [endsWith, startsWith, after?])
      (by simp [endsWith, startsWith, after?])

theorem detectPath?_of_last {path last : Text} {parts : List Text}
    (cut : pieces '/' path = parts ++ [last]) (nonempty : last ≠ []) (notPoint : last ≠ ['.']) :
    detectPath? path = detect? last := by
  rw [detectPath?, fileName?_of_last cut nonempty notPoint]
  split
  · rename_i twoPoints
    rw [twoPoints]
    rfl
  · rfl

theorem detectPath?_reverse (reversed : Text) :
    detectPath? reversed.reverse = detect? (dropSteps reversed).reverse := by
  fun_induction dropSteps reversed with
  | case1 rest ih =>
      rw [← ih, List.reverse_cons, detectPath?, fileName?_append_slash, detectPath?]
  | case2 rest ih =>
      have written : ('.' :: '/' :: rest).reverse = rest.reverse ++ ['/', '.'] := by simp
      rw [← ih, written, detectPath?, fileName?_append_slash_point, detectPath?]
  | case3 reversed noSlash noPoint =>
      obtain ⟨parts, last, cut, whole | ⟨front, whole⟩⟩ := exists_last_piece '/' reversed.reverse
      · by_cases nameless : last = [] ∨ last = ['.']
        · rw [whole]
          rcases nameless with rfl | rfl <;> rfl
        · obtain ⟨nonempty, notPoint⟩ := not_or.mp nameless
          rw [detectPath?_of_last cut nonempty notPoint, whole]
      · have written : reversed = last.reverse ++ '/' :: front.reverse := by
          rw [← List.reverse_inj, whole]
          simp
        have nonempty : last ≠ [] := by
          rintro rfl
          exact noSlash _ written
        have notPoint : last ≠ ['.'] := by
          rintro rfl
          exact noPoint _ written
        rw [detectPath?_of_last cut nonempty notPoint, whole, detect?_append_cons]

/-- The last name of a path tells what the text up to that name tells. -/
theorem detectPath?_eq_detect?_upToName (path : Text) :
    detectPath? path = detect? path.upToName := by
  simpa [upToName] using detectPath?_reverse path.reverse

/-- A format that a text tells is the one that it tells as a path, and what it tells as a path is
what its text up to the last name tells. So the command and the page choose the same format for
every name that ends in no slash and in no point behind a slash. -/
theorem detect?_agrees (name : Text) :
    (∀ format, detect? name = some format → detectPath? name = some format) ∧
      detectPath? name = detect? name.upToName ∧
      (endsWith ['/'] name = false → endsWith ['/', '.'] name = false →
        ∃ format, Command.chooseFormat none name = .ok format ∧
          Page.detectFormat name SourceFormat.env.name = format.name) := by
  refine ⟨?_, detectPath?_eq_detect?_upToName name, ?_⟩
  · intro format found
    rw [detectPath?_eq_detect?_upToName, upToName_of_detect? found, found]
  · intro noSlash noPoint
    refine ⟨_, rfl, ?_⟩
    rw [Page.detectFormat, detectPath?_eq_detect?_upToName, upToName_eq_self noSlash noPoint]
    cases detect? name <;> rfl

theorem detect?_agrees_of_directories :
    detect? "a.env/b.json".toList = some json ∧ detectPath? "a.env/b.json".toList = some json ∧
      detect? "a.env//./".toList = none ∧ detectPath? "a.env//./".toList = some env ∧
      detectPath? "a.env//./".toList = detect? (upToName "a.env//./".toList) ∧
      ∃ format, Command.chooseFormat none "a.env/..".toList = .ok format ∧
        Page.detectFormat "a.env/..".toList SourceFormat.env.name = format.name := by
  have told : detect? "a.env/b.json".toList = some json := by decide
  exact ⟨told, (detect?_agrees _).1 json told, by decide, by decide, (detect?_agrees _).2.1,
    (detect?_agrees _).2.2 (by decide) (by decide)⟩

end SourceFormat

end MetaConfig
