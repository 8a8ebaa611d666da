import PostingTerminal.Proofs.CommandLine.Rules
import PostingTerminal.Proofs.CommandLine.Unguard

/-!
# Writing words so that they are read back

Any text can be written as a word: between single quotes, with each single quote of its own put
between double quotes outside the single ones.  A line is made of such words with a blank
between them.

* `quoted`, `quotedLine` — **a word and a line so written**.
* `wordsBy_quotedTail` — in the pieces of a quoted word guard and splitter stay in step, and of
  the word that the splitter makes the text is left once it has been unguarded.
* `tokens_quotedLine` — **the tokens of such a line are the words that it was written for**.

The guard marks every `$` between the single quotes.  The splitter keeps that backslash there,
and it is this one that is taken off again, even behind a backslash of the text.
-/

namespace PostingTerminal.CommandLine

/-! ## Quoted words and lines -/

/-- What a character is written as between single quotes.  A single quote closes the quotes,
comes between double quotes, and opens them again. -/
def quotedChar (c : Char) : List Char :=
  if c = '\'' then ['\'', '"', '\'', '"', '\''] else [c]

/-- The characters of a quoted word. -/
def quotedChars (text : List Char) : List Char := '\'' :: text.flatMap quotedChar ++ ['\'']

/-- A text as a quoted word. -/
def quoted (text : String) : String := String.ofList (quotedChars text.toList)

/-- The characters of a line of quoted words, with one blank between them. -/
def quotedLineChars (texts : List (List Char)) : List Char :=
  [' '].intercalate (texts.map quotedChars)

/-- Texts as a line of quoted words. -/
def quotedLine (texts : List String) : String := " ".intercalate (texts.map quoted)

/-- The characters of a line of quoted words. -/
theorem toList_quotedLine (texts : List String) :
    (quotedLine texts).toList = quotedLineChars (texts.map String.toList) := by
  have hwords : (texts.map quoted).map String.toList
      = (texts.map String.toList).map quotedChars := by
    simp [quoted]
  rw [quotedLine, quotedLineChars, String.toList_intercalate, hwords]
  rfl

/-- One word has no blank beside it. -/
theorem quotedLineChars_singleton (text : List Char) :
    quotedLineChars [text] = quotedChars text := List.intercalate_singleton

/-- Between two words there is a blank. -/
theorem quotedLineChars_cons_cons (text text' : List Char) (texts : List (List Char)) :
    quotedLineChars (text :: text' :: texts)
      = quotedChars text ++ ' ' :: quotedLineChars (text' :: texts) := by
  rw [quotedLineChars, List.map_cons, List.map_cons, List.intercalate_cons_cons, List.append_assoc]
  rfl

/-- A line of quoted words goes from one single quote to another, unless it is empty. -/
theorem ends_quotedLineChars (text : List Char) (texts : List (List Char)) :
    (quotedLineChars (text :: texts)).head? = some '\'' ∧
      (quotedLineChars (text :: texts)).getLast? = some '\'' := by
  induction texts generalizing text with
  | nil =>
    rw [quotedLineChars_singleton, quotedChars, List.getLast?_append]
    exact ⟨rfl, rfl⟩
  | cons text' texts ih =>
    rw [quotedLineChars_cons_cons, List.getLast?_append, List.getLast?_cons, (ih text').2]
    exact ⟨rfl, rfl⟩

/-- A line of quoted words has no blanks at its ends. -/
theorem trim_quotedLineChars (texts : List (List Char)) :
    Text.trim (quotedLineChars texts) = quotedLineChars texts := by
  cases texts with
  | nil => rfl
  | cons text texts =>
    obtain ⟨hhead, hlast⟩ := ends_quotedLineChars text texts
    apply Text.trim_eq_self
    · rw [hhead]
      rintro c ⟨⟩
      rfl
    · rw [hlast]
      rintro c ⟨⟩
      rfl

/-! ## Reading a quoted word -/

/-- A character that ends no word is taken in by guard and splitter. -/
theorem wordsBy_guardBy_cons {g : Guard} {m : Mode} {c : Char} (h : m.ended c = none)
    (cs : List Char) :
    wordsBy .all m (guardBy .all g (c :: cs))
      = wordsBy .all (m.through .all (Rules.all.guarded g c)) (guardBy .all (g.next c cs) cs) := by
  rw [guardBy, wordsBy_guarded, h, map_consWord_none]

/-- Between single quotes a character other than a single quote is added to the word, a `$` with
the backslash of the guard. -/
theorem exists_through_single {c : Char} (hc : c ≠ '\'') (w : List Char) :
    ∃ w', (Mode.single w).through .all (Rules.all.guarded (.span '\'') c) = .single w' ∧
      unguard w'.reverse = unguard w.reverse ++ [c] := by
  by_cases hdollar : c = '$'
  · subst hdollar
    exact ⟨'$' :: '\\' :: w, rfl, unguard_reverse_dollar w⟩
  · have hguarded : Rules.all.guarded (.span '\'') c = [c] := by
      simp [Rules.guarded, Rules.marks, Guard.marksDollar, Guard.marksHash, hdollar]
    refine ⟨c :: w, ?_, unguard_reverse_cons fun h => hdollar h.1⟩
    rw [hguarded]
    show (Mode.single w).next .all c = .single (c :: w)
    simp only [Mode.next, Mode.step, if_neg hc]

/-- A single quote that is written between double quotes is added to the word. -/
theorem wordsBy_quotedQuote (w : List Char) {rest : List Char} (hrest : '\'' ∈ rest) :
    wordsBy .all (.single w)
        (guardBy .all (.span '\'') ('\'' :: '"' :: '\'' :: '"' :: '\'' :: rest))
      = wordsBy .all (.single ('\'' :: w)) (guardBy .all (.span '\'') rest) := by
  have hreopened : (Guard.outside false).next '\'' rest = .span '\'' := by
    simp [Guard.next, isQuote, hrest]
  have hopened : (Guard.outside false).next '"' ('\'' :: '"' :: '\'' :: rest) = .span '"' := by
    simp [Guard.next, isQuote]
  rw [wordsBy_guardBy_cons rfl, wordsBy_guardBy_cons rfl]
  show wordsBy .all (.double w) (guardBy .all ((Guard.outside false).next '"' _) _) = _
  rw [hopened, wordsBy_guardBy_cons rfl, wordsBy_guardBy_cons rfl, wordsBy_guardBy_cons rfl]
  show wordsBy .all (.single ('\'' :: w))
    (guardBy .all ((Guard.outside false).next '\'' rest) rest) = _
  rw [hreopened]

/-- **Behind the opening quote of a quoted word** guard and splitter come to its end in step, and
the text is added to the word. -/
theorem wordsBy_quotedTail (text w rest : List Char) :
    ∃ w', unguard w'.reverse = unguard w.reverse ++ text ∧
      wordsBy .all (.single w)
          (guardBy .all (.span '\'') (text.flatMap quotedChar ++ '\'' :: rest))
        = wordsBy .all (.outside (some w')) (guardBy .all (.outside false) rest) := by
  induction text generalizing w with
  | nil => exact ⟨w, (List.append_nil _).symm, wordsBy_guardBy_cons rfl rest⟩
  | cons c text ih =>
    rw [List.flatMap_cons, List.append_assoc, quotedChar]
    by_cases hc : c = '\''
    · subst hc
      obtain ⟨w', hw', htail⟩ := ih ('\'' :: w)
      refine ⟨w', ?_, ?_⟩
      · rw [hw', unguard_reverse_cons (by simp), List.append_assoc]
        rfl
      · rw [if_pos rfl, ← htail]
        exact wordsBy_quotedQuote w (by simp)
    · obtain ⟨w₁, hthrough, hw₁⟩ := exists_through_single hc w
      obtain ⟨w', hw', htail⟩ := ih w₁
      have hguard : (Guard.span '\'').next c (text.flatMap quotedChar ++ '\'' :: rest)
          = .span '\'' := if_neg hc
      refine ⟨w', ?_, ?_⟩
      · rw [hw', hw₁, List.append_assoc]
        rfl
      · rw [if_neg hc, ← htail, List.singleton_append, wordsBy_guardBy_cons rfl, hthrough, hguard]

/-- **Where a word can begin, a quoted word is read** up to its end. -/
theorem wordsBy_quotedChars (text rest : List Char) :
    ∃ w, unguard w.reverse = text ∧
      wordsBy .all (.outside none) (guardBy .all (.outside true) (quotedChars text ++ rest))
        = wordsBy .all (.outside (some w)) (guardBy .all (.outside false) rest) := by
  obtain ⟨w, hw, htail⟩ := wordsBy_quotedTail text [] rest
  refine ⟨w, hw, ?_⟩
  have hopened : (Guard.outside true).next '\'' (text.flatMap quotedChar ++ '\'' :: rest)
      = .span '\'' := by
    simp [Guard.next, isQuote]
  have hchars : quotedChars text ++ rest
      = '\'' :: (text.flatMap quotedChar ++ '\'' :: rest) := by simp [quotedChars]
  rw [← htail, hchars, wordsBy_guardBy_cons rfl, hopened]
  rfl

/-! ## Reading a line of quoted words -/

/-- A blank ends a word, and what is behind it is read from the beginning. -/
theorem wordsBy_guardBy_blank (w rest : List Char) :
    wordsBy .all (.outside (some w)) (guardBy .all (.outside false) (' ' :: rest))
      = (wordsBy .all (.outside none) (guardBy .all (.outside true) rest)).map
          (consWord (some w)) :=
  wordsBy_guarded .all (.outside false) (.outside (some w)) ' ' _

/-- **The words of a line of quoted words** are the texts that it was written for. -/
theorem words_quotedLineChars (texts : List (List Char)) :
    (wordsBy .all (.outside none) (guardBy .all (.outside true) (quotedLineChars texts))).map
      (fun ws => ws.map unguard) = some texts := by
  induction texts with
  | nil => rfl
  | cons text texts ih =>
    cases texts with
    | nil =>
      obtain ⟨w, hw, hread⟩ := wordsBy_quotedChars text []
      rw [quotedLineChars_singleton, ← List.append_nil (quotedChars text), hread, ← hw]
      rfl
    | cons text' texts =>
      obtain ⟨w, hw, hread⟩ :=
        wordsBy_quotedChars text (' ' :: quotedLineChars (text' :: texts))
      rw [quotedLineChars_cons_cons, hread, wordsBy_guardBy_blank, Option.map_map]
      have hwords : (fun ws => ws.map unguard) ∘ consWord (some w)
          = (text :: ·) ∘ fun ws => ws.map unguard := by
        funext ws
        simp only [Function.comp_apply, map_unguard_consWord, ← hw]
        rfl
      rw [hwords, ← Option.map_map, ih]
      rfl

/-- **The tokens of a line of quoted words** are the texts that it was written for. -/
theorem tokens_quotedLine (texts : List String) : tokens (quotedLine texts) = .ok texts := by
  have hchars : tokenCharsBy .all (quotedLine texts).toList
      = some (texts.map String.toList) := by
    rw [tokenCharsBy, toList_quotedLine, trim_quotedLineChars]
    exact words_quotedLineChars _
  have htexts : (texts.map String.toList).map String.ofList = texts := by
    simp [Function.comp_def]
  rw [tokens_eq_tokensBy, tokensBy, hchars]
  exact congrArg Except.ok htexts

end PostingTerminal.CommandLine
