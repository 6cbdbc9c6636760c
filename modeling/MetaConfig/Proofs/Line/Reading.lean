import MetaConfig.Proofs.Line.Classification

/-!
Which line each text is read as, as a relation, and the way back: the text that a line is
printed as is read as that line again. A printed line has no characters but those of its text
and blanks between its parts, and it ends in no blank that its text does not end in.
-/

namespace MetaConfig

namespace Line

open Text

inductive Reads : Text → Line → Prop
  | comment {text rest} : trim text = '#' :: rest → Reads text (comment text)
  | tag {text word rest} : ' ' ∉ word → trim text = (tag ('@' :: word) rest).print →
      Reads text (tag ('@' :: word) rest)
  | declaration {text separator found} : found.Spells separator text →
      Reads text (declaration found)
  | blank {text} : trim text = [] → Reads text blank
  | other {text char rest} : trim text = char :: rest → char ≠ '#' → char ≠ '@' →
      Declaration.parse? text = none → Reads text (other text)

theorem reads_tag {text rest : Text} (trimmed : trim text = '@' :: rest) :
    ∃ name others, (splitOnce ' ' (trim text)).getD (trim text, []) = (name, others) ∧
      Reads text (tag name others) := by
  cases cut : splitOnce ' ' (trim text) with
  | none =>
      have noBlank := not_mem_of_splitOnce cut
      rw [trimmed] at noBlank
      refine ⟨_, _, rfl, ?_⟩
      rw [trimmed]
      apply Reads.tag
      · exact fun member => noBlank (List.mem_cons_of_mem _ member)
      · simp [print, trimmed]
  | some parts =>
      obtain ⟨name, others⟩ := parts
      have printed := print_tag_of_splitOnce cut
      obtain ⟨whole, noBlank⟩ := eq_append_of_splitOnce cut
      refine ⟨name, others, rfl, ?_⟩
      cases name with
      | nil => simp [trimmed] at whole
      | cons first word =>
          obtain ⟨rfl, _⟩ := List.cons.inj (trimmed.symm.trans whole)
          apply Reads.tag
          · exact fun member => noBlank (List.mem_cons_of_mem _ member)
          · exact printed.symm

theorem reads_classify (text : Text) : Reads text (classify text) := by
  cases parsed : Declaration.parse? text with
  | some found =>
      obtain ⟨separator, spells⟩ := (Declaration.parse?_eq_some_iff text found).mp parsed
      rw [classify_of_parse? parsed]
      exact .declaration spells
  | none =>
      simp only [classify, parsed]
      split
      · rename_i rest trimmed
        exact .comment trimmed
      · rename_i rest trimmed
        obtain ⟨name, others, cut, reads⟩ := reads_tag trimmed
        rw [cut]
        exact reads
      · rename_i notComment notTag
        cases trimmed : trim text with
        | nil => exact .blank trimmed
        | cons char rest =>
            refine .other trimmed ?_ ?_ parsed
            · rintro rfl
              exact notComment rest trimmed
            · rintro rfl
              exact notTag rest trimmed

theorem Reads.classify_eq {text : Text} {line : Line} (reads : Reads text line) :
    classify text = line := by
  cases reads with
  | comment trimmed => simp only [classify, trimmed]
  | @tag word rest noBlank trimmed =>
      have nameSolid : ' ' ∉ '@' :: word := by
        simpa using noBlank
      by_cases bare : rest = []
      · subst rest
        have whole : trim text = '@' :: word := by
          simpa [Line.print] using trimmed
        simp [classify, whole, splitOnce_of_not_mem nameSolid]
      · have whole : trim text = '@' :: word ++ ' ' :: rest := by
          simpa [Line.print, bare] using trimmed
        have cut := splitOnce_append_cons nameSolid rest
        rw [← whole] at cut
        simp only [classify, cut]
        simp [whole]
  | declaration spells =>
      exact classify_of_parse? ((Declaration.parse?_eq_some_iff text _).mpr ⟨_, spells⟩)
  | blank trimmed =>
      cases parsed : Declaration.parse? text with
      | none => simp [classify, trimmed, parsed]
      | some found =>
          obtain ⟨separator, spells⟩ := (Declaration.parse?_eq_some_iff text found).mp parsed
          obtain ⟨char, rest, _, solid⟩ := trim_of_spells spells
          rw [trimmed] at solid
          contradiction
  | other trimmed notComment notTag unparsed =>
      simp only [classify, trimmed, unparsed]
      split
      · rename_i same
        exact absurd (List.cons.inj same).1 notComment
      · rename_i same
        exact absurd (List.cons.inj same).1 notTag
      · rfl

theorem Reads.print {text : Text} {line : Line} (reads : Reads text line) :
    Reads line.print line := by
  cases reads with
  | comment trimmed => exact .comment trimmed
  | tag noBlank trimmed => exact .tag noBlank (by rw [← trimmed, trim_trim])
  | @declaration separator found spells =>
      have oneBlank : ∀ char ∈ [' '], isBlank char = true := List.forall_mem_singleton.mpr rfl
      have text_eq : (Line.declaration found).print = found.indent ++ found.key ++ [':'] ++
          found.type.keyword ++ ([' '] ++ found.value) := by
        simp [Line.print, Declaration.print]
      exact .declaration ⟨spells.indentBlank, spells.key, by simp, oneBlank, spells.value,
        spells.reference, text_eq⟩
  | blank trimmed => exact .blank rfl
  | other trimmed notComment notTag unparsed => exact .other trimmed notComment notTag unparsed

theorem Reads.mem_of_mem_print {text : Text} {line : Line} (reads : Reads text line)
    {char : Char} (member : char ∈ line.print) : char ∈ text ∨ char = ' ' := by
  cases reads with
  | comment trimmed => exact .inl member
  | tag noBlank trimmed =>
      rw [← trimmed] at member
      exact .inl (mem_of_mem_trim member)
  | declaration spells =>
      rw [spells.text_eq]
      simp only [Line.print, Declaration.print, List.mem_append, List.mem_singleton] at member ⊢
      tauto
  | blank trimmed => simp [Line.print] at member
  | other trimmed notComment notTag unparsed => exact .inl member

theorem Reads.getLast?_of_print {text : Text} {line : Line} (reads : Reads text line)
    {char : Char} (last : line.print.getLast? = some char) (blank : isBlank char = true) :
    text.getLast? = some char := by
  cases reads with
  | comment trimmed => exact last
  | tag noBlank trimmed =>
      rw [← trimmed] at last
      have solid := getLast?_trimEnd (trimStart text) char last
      rw [blank] at solid
      contradiction
  | @declaration separator found spells =>
      have sameEnd (before : Text) : (before ++ found.value).getLast? = found.value.getLast? := by
        rw [List.getLast?_append, List.getLast?_eq_some_getLast spells.value.nonempty,
          Option.some_or]
      rw [Line.print, Declaration.print, sameEnd] at last
      rw [spells.text_eq, ← List.append_assoc, sameEnd, last]
  | blank trimmed => simp [Line.print] at last
  | other trimmed notComment notTag unparsed => exact last

/-- The text that a line is printed as is classified as that line, with all its parts. -/
theorem classify_print_classify (text : Text) : classify (classify text).print = classify text :=
  (reads_classify text).print.classify_eq

-- One blank is left before a value that is a blank, and the parts of a tag are one blank apart.
example : (classify "a:int\n\t\u2003".toList).print = "a:int \u2003".toList := by decide

example : (classify " @v  1 ".toList).print = "@v  1".toList := by decide

end Line

end MetaConfig
