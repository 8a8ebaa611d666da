import PostingTerminal.Proofs.CommandLine.Rules

/-!
# Lines without tokens

A line that cannot be split has no tokens to give, and is not taken for one that has none.  Only
blank lines have none: what is not blank begins a word, and a word that has begun is not lost, even
if nothing is ever added to it.

* `Mode.InWord` — the splitter has begun a word.  It stays in it until the word ends
  (`Mode.InWord.next`).
* `tokens_eq_nil_iff` — **a line has no tokens exactly if it is blank**.
* `tokens_trimmed_ne_nil` — what is left of a line without its blanks has tokens, or fails.
-/

namespace PostingTerminal.CommandLine

variable {m : Mode} {c : Char}

/-! ## Words that have begun -/

/-- The splitter has begun a word that has not ended. -/
def Mode.InWord : Mode → Prop
  | .outside word => word.isSome = true
  | .escaped _ | .double _ | .doubleEscaped _ | .single _ => True
  | .comment => False

/-- A character that has no meaning between words begins or continues a word. -/
theorem inWord_literalStep (word : Option (List Char)) (c : Char) :
    (literalStep word c).InWord := by
  unfold literalStep
  split
  · trivial
  split
  · trivial
  split
  · trivial
  · rfl

/-- **At a character a word ends or goes on.** -/
theorem Mode.InWord.next (h : m.InWord) (r : Rules) (c : Char) :
    (m.ended c).isSome = true ∨ (m.next r c).InWord := by
  cases m with
  | outside word =>
    obtain ⟨w, rfl⟩ := Option.isSome_iff_exists.1 h
    by_cases hc : isSeparator c = true
    · left
      rw [Mode.ended, if_pos hc]
      rfl
    · right
      simp only [Mode.next, if_neg hc, Option.isNone_some, Bool.false_eq_true, and_false, if_false]
      exact inWord_literalStep _ c
  | escaped w => exact .inr rfl
  | double w =>
    right
    simp only [Mode.next, Mode.step]
    split
    · rfl
    split <;> trivial
  | doubleEscaped w =>
    right
    simp only [Mode.next, Mode.step]
    split
    · trivial
    split <;> trivial
  | single w =>
    right
    simp only [Mode.next, Mode.step]
    split
    · rfl
    · trivial
  | comment => exact h.elim

/-- **A word that has begun is not lost**: at the end of the line it is one of the words, or the
line cannot be split. -/
theorem Mode.InWord.wordsBy_ne_nil (h : m.InWord) (r : Rules) (cs : List Char) :
    wordsBy r m cs ≠ some [] := by
  induction cs generalizing m with
  | nil =>
    cases m with
    | outside word =>
      obtain ⟨w, rfl⟩ := Option.isSome_iff_exists.1 h
      simp [wordsBy, Mode.finish, consWord]
    | comment => exact h.elim
    | _ => simp [wordsBy, Mode.finish]
  | cons c cs ih =>
    rw [wordsBy]
    rcases h.next r c with hended | hnext
    · obtain ⟨w, hw⟩ := Option.isSome_iff_exists.1 hended
      simp [hw, consWord]
    · intro hnil
      obtain ⟨ws, hws, hcons⟩ := Option.map_eq_some_iff.1 hnil
      cases hended : m.ended c with
      | none =>
        rw [hended] at hcons
        obtain rfl : ws = [] := hcons
        exact ih hnext hws
      | some w =>
        rw [hended] at hcons
        cases hcons

/-! ## The first character of a line -/

/-- What separates words is blank. -/
theorem isBlank_of_isSeparator (h : isSeparator c = true) : Text.isBlank c = true := by
  simp only [isSeparator, Bool.or_eq_true, beq_iff_eq] at h
  rcases h with (rfl | rfl) | rfl <;> rfl

/-- **What is not blank begins a word**, a `#` because it is guarded. -/
theorem inWord_first (hc : Text.isBlank c = false) :
    ((Mode.outside none).through .all (Rules.all.guarded (.outside true) c)).InWord := by
  have hseparator : isSeparator c = false :=
    Bool.eq_false_iff.2 fun h => Bool.false_ne_true (hc.symm.trans (isBlank_of_isSeparator h))
  by_cases hhash : c = '#'
  · subst hhash
    rfl
  · have hguarded : Rules.all.guarded (.outside true) c = [c] := by
      simp [Rules.guarded, Rules.marks, Guard.marksDollar, Guard.marksHash, hhash]
    rw [hguarded]
    show (Mode.next .all (.outside none) c).InWord
    simp only [Mode.next, hseparator, Bool.false_eq_true, if_false, hhash, false_and, and_false]
    exact inWord_literalStep none c

/-- **A line has no tokens exactly if it is blank.** -/
theorem tokens_eq_nil_iff (line : String) :
    tokens line = .ok [] ↔ Text.allBlank line.toList = true := by
  have hchars : tokens line = .ok [] ↔ tokenCharsBy .all line.toList = some [] := by
    rw [tokens_eq_tokensBy, tokensBy]
    cases tokenCharsBy .all line.toList <;> simp
  rw [hchars, tokenCharsBy, ← Text.trim_eq_nil_iff]
  have hfirst := Text.head?_trim line.toList
  generalize Text.trim line.toList = cs at hfirst
  cases cs with
  | nil => exact ⟨fun _ => rfl, fun _ => rfl⟩
  | cons c cs =>
    have hc : Text.isBlank c = false := hfirst c rfl
    have hended : (Mode.outside none).ended c = none := by simp [Mode.ended]
    rw [guardBy, wordsBy_guarded, hended, map_consWord_none]
    refine ⟨fun h => ?_, fun h => by cases h⟩
    obtain ⟨ws, hws, hnil⟩ := Option.map_eq_some_iff.1 h
    rw [List.map_eq_nil_iff.1 hnil] at hws
    exact absurd hws ((inWord_first hc).wordsBy_ne_nil .all _)

/-- What is left of a line that has been trimmed has tokens or cannot be split. -/
theorem tokens_trimmed_ne_nil {line : String} (h : Text.trimmed line ≠ "") :
    tokens (Text.trimmed line) ≠ .ok [] := by
  intro hnil
  rw [tokens_eq_nil_iff, ← Text.trim_eq_nil_iff, Text.trimmed, String.toList_ofList,
    Text.trim_trim] at hnil
  exact h (by rw [Text.trimmed, hnil])

/-- A word can be empty, and a `#` can be one. -/
example : tokens "\t''\u00a0" = .ok [""] ∧ tokens "#" = .ok ["#"] := ⟨rfl, rfl⟩

end PostingTerminal.CommandLine
