import PostingTerminal.Proofs.CommandLine.Rules
import PostingTerminal.Proofs.CommandLine.Unguard

/-!
# Lines without a backslash

In a line without a backslash only separators and quotes have a meaning.  Separators outside
quotes end a word, a quote runs to the next quote of its kind, and every other character stands
for itself; a `#` and a `$` are characters like others.

* `plainFrom`, `plainTokens` — **this reading of a line**, which knows neither a guard nor a
  backslash.
* `HasOpenQuote` — a quote of a text is not closed, seen from the left.
* `InStep` — guard, splitter and this reading are in step.
* `InStep.next`, `words_plain` — **they stay in step along a line without a backslash**.
* `tokens_plain` — hence such a line has the tokens of this reading.

A backslash is put into the line by the guard only, and always before a `$` or a `#`.  Where the
guard finds no partner for a quote it goes on as if outside quotes, and is out of step; but there
the splitter never gets out of the quote again.
-/

namespace PostingTerminal.CommandLine

/-! ## Reading a line -/

/-- Splits the rest of a line in which only separators and quotes have a meaning.  `quote` is the
quote that has been opened and is not closed yet, and `word` is the word that has been begun. -/
def plainFrom : (quote : Option Char) → (word : Option (List Char)) → List Char →
    Option (List (List Char))
  | none, word, [] => some word.toList
  | some _, _, [] => none
  | none, word, c :: cs =>
    if isSeparator c then (plainFrom none none cs).map (word.toList ++ ·)
    else if isQuote c then plainFrom (some c) (some (word.getD [])) cs
    else plainFrom none (some (word.getD [] ++ [c])) cs
  | some q, word, c :: cs =>
    if c = q then plainFrom none word cs
    else plainFrom (some q) (some (word.getD [] ++ [c])) cs

/-- The tokens of a line in which only separators and quotes have a meaning. -/
def plainTokens (line : String) : Except Error (List String) :=
  match plainFrom none none (Text.trim line.toList) with
  | none => .error (.parse .unbalanced)
  | some ws => .ok (ws.map String.ofList)

/-- The quote that is open behind a character. -/
def quoteAfter : Option Char → Char → Option Char
  | none, c => if isQuote c then some c else none
  | some q, c => if c = q then none else some q

/-- The quote that is open behind a text. -/
def openQuote (text : List Char) : Option Char := text.foldl quoteAfter none

/-- A quote that is opened in a text, read from the left, is never closed. -/
def HasOpenQuote (text : List Char) : Prop :=
  ∃ before q after, text = before ++ q :: after ∧ openQuote before = none ∧ isQuote q = true ∧
    q ∉ after

/-- Characters without a meaning are added to the word. -/
theorem plainFrom_append {text : List Char}
    (h : ∀ c ∈ text, isSeparator c = false ∧ isQuote c = false) (word rest : List Char) :
    plainFrom none (some word) (text ++ rest) = plainFrom none (some (word ++ text)) rest := by
  induction text generalizing word with
  | nil => rw [List.nil_append, List.append_nil]
  | cons c text ih =>
    obtain ⟨hseparator, hquote⟩ := h c List.mem_cons_self
    have htext := ih (fun d hd => h d (List.mem_cons_of_mem c hd)) (word ++ [c])
    rw [List.cons_append, plainFrom, hseparator, hquote, if_neg (by simp), if_neg (by simp)]
    rw [List.append_assoc] at htext
    exact htext

/-- A line cannot be read exactly if a quote is open at its end. -/
theorem plainFrom_eq_none_iff {quote : Option Char} {word : Option (List Char)}
    {cs : List Char} : plainFrom quote word cs = none ↔ cs.foldl quoteAfter quote ≠ none := by
  induction cs generalizing quote word with
  | nil => cases quote <;> simp [plainFrom]
  | cons c cs ih =>
    rw [List.foldl_cons]
    cases quote with
    | none =>
      rw [plainFrom, quoteAfter]
      by_cases hseparator : isSeparator c = true
      · have hquote : isQuote c = false := by
          simp only [isSeparator, Bool.or_eq_true, beq_iff_eq] at hseparator
          rcases hseparator with (rfl | rfl) | rfl <;> rfl
        rw [if_pos hseparator, hquote, Option.map_eq_none_iff]
        exact ih
      · rw [if_neg hseparator]
        by_cases hquote : isQuote c = true
        · rw [if_pos hquote, if_pos hquote]
          exact ih
        · rw [if_neg hquote, if_neg hquote]
          exact ih
    | some q =>
      rw [plainFrom, quoteAfter]
      by_cases hc : c = q
      · rw [if_pos hc, if_pos hc]
        exact ih
      · rw [if_neg hc, if_neg hc]
        exact ih

/-- Which quote is open behind a text: the one that was open before and does not come again, or
the last one that was opened in the text. -/
theorem foldl_quoteAfter_eq_some_iff {quote : Option Char} {cs : List Char} {q : Char} :
    cs.foldl quoteAfter quote = some q ↔ (quote = some q ∧ q ∉ cs) ∨
      ∃ before after, cs = before ++ q :: after ∧ before.foldl quoteAfter quote = none ∧
        isQuote q = true ∧ q ∉ after := by
  induction cs generalizing quote with
  | nil => simp
  | cons c cs ih =>
    rw [List.foldl_cons, ih]
    constructor
    · rintro (⟨hopen, hnot⟩ | ⟨before, after, rfl, hclosed, hquote, hnot⟩)
      · cases quote with
        | none =>
          rw [quoteAfter] at hopen
          split at hopen
          · rename_i hquote
            obtain rfl : c = q := Option.some.inj hopen
            exact .inr ⟨[], cs, rfl, rfl, hquote, hnot⟩
          · cases hopen
        | some q' =>
          rw [quoteAfter] at hopen
          split at hopen
          · cases hopen
          · rename_i hne
            obtain rfl : q' = q := Option.some.inj hopen
            exact .inl ⟨rfl, by simp [Ne.symm hne, hnot]⟩
      · exact .inr ⟨c :: before, after, rfl, hclosed, hquote, hnot⟩
    · rintro (⟨rfl, hnot⟩ | ⟨before, after, hcs, hclosed, hquote, hnot⟩)
      · rw [List.mem_cons, not_or] at hnot
        exact .inl ⟨if_neg (Ne.symm hnot.1), hnot.2⟩
      · cases before with
        | nil =>
          obtain ⟨rfl, rfl⟩ := List.cons.inj hcs
          obtain rfl : quote = none := hclosed
          exact .inl ⟨if_pos hquote, hnot⟩
        | cons b before =>
          obtain ⟨rfl, rfl⟩ := List.cons.inj hcs
          exact .inr ⟨before, after, rfl, hclosed, hquote, hnot⟩

/-- **A line cannot be read exactly if a quote of it is never closed.** -/
theorem plainFrom_eq_none_iff_hasOpenQuote {cs : List Char} :
    plainFrom none none cs = none ↔ HasOpenQuote cs := by
  rw [plainFrom_eq_none_iff, Option.ne_none_iff_exists']
  constructor
  · rintro ⟨q, hq⟩
    rcases foldl_quoteAfter_eq_some_iff.1 hq with ⟨hopen, -⟩ | ⟨before, after, h⟩
    · cases hopen
    · exact ⟨before, q, after, h⟩
  · rintro ⟨before, q, after, h⟩
    exact ⟨q, foldl_quoteAfter_eq_some_iff.2 (.inr ⟨before, after, h⟩)⟩

/-! ## A quote that is never closed -/

/-- The mode of the splitter behind a quote. -/
def quoteMode (q : Char) (w : List Char) : Mode := if q = '"' then .double w else .single w

/-- A quote is a double or a single one. -/
theorem isQuote_iff {q : Char} : isQuote q = true ↔ q = '"' ∨ q = '\'' := by
  simp [isQuote]

/-- The splitter cannot end between double quotes, nor behind a backslash there. -/
theorem wordsBy_double_eq_none {r : Rules} {text : List Char} (h : '"' ∉ text) (w : List Char) :
    wordsBy r (.double w) text = none ∧ wordsBy r (.doubleEscaped w) text = none := by
  induction text generalizing w with
  | nil => exact ⟨rfl, rfl⟩
  | cons c text ih =>
    have hc : c ≠ '"' := fun hc => h (hc ▸ List.mem_cons_self)
    have htext := ih fun hmem => h (List.mem_cons_of_mem c hmem)
    constructor
    · rw [wordsBy, Option.map_eq_none_iff]
      simp only [Mode.next, Mode.step, if_neg hc]
      split
      · exact (htext w).2
      · exact (htext (c :: w)).1
    · rw [wordsBy, Option.map_eq_none_iff]
      simp only [Mode.next, Mode.step]
      split
      · exact (htext (c :: w)).1
      split
      · exact (htext w).1
      · exact (htext (c :: '\\' :: w)).1

/-- The splitter cannot end between single quotes. -/
theorem wordsBy_single_eq_none {r : Rules} {text : List Char} (h : '\'' ∉ text) (w : List Char) :
    wordsBy r (.single w) text = none := by
  induction text generalizing w with
  | nil => rfl
  | cons c text ih =>
    have hc : c ≠ '\'' := fun hc => h (hc ▸ List.mem_cons_self)
    rw [wordsBy, Option.map_eq_none_iff]
    simp only [Mode.next, Mode.step, if_neg hc]
    exact ih (fun hmem => h (List.mem_cons_of_mem c hmem)) (c :: w)

/-- **The splitter cannot end in a quote** that does not come again. -/
theorem wordsBy_quoteMode_eq_none {r : Rules} {q : Char} {text : List Char} (hq : isQuote q = true)
    (h : q ∉ text) (w : List Char) : wordsBy r (quoteMode q w) text = none := by
  rcases isQuote_iff.1 hq with rfl | rfl
  · exact (wordsBy_double_eq_none h w).1
  · exact wordsBy_single_eq_none h w

/-- The guard adds backslashes only. -/
theorem mem_guardBy {r : Rules} {g : Guard} {cs : List Char} {c : Char} (hc : c ≠ '\\')
    (h : c ∈ guardBy r g cs) : c ∈ cs := by
  induction cs generalizing g with
  | nil => exact h
  | cons d cs ih =>
    rw [guardBy, List.mem_append] at h
    rcases h with h | h
    · rcases r.guarded_cases g d with hguarded | ⟨hguarded, -⟩
      · rw [hguarded, List.mem_singleton] at h
        exact h ▸ List.mem_cons_self
      · rw [hguarded, List.mem_cons, List.mem_singleton] at h
        exact (h.resolve_left hc) ▸ List.mem_cons_self
    · exact List.mem_cons_of_mem d (ih h)

/-! ## Guard, splitter and reading in step -/

/-- The word of the splitter, in reverse, is the word that is read once it has been unguarded. -/
structure Tracks (w p : List Char) : Prop where
  same : unguard w.reverse = p
  head : w.head? ≠ some '\\'

namespace Tracks

variable {w p : List Char}

/-- At the beginning of a word nothing has been read. -/
theorem nil : Tracks [] [] := ⟨rfl, nofun⟩

/-- A character other than a backslash is added to both. -/
theorem push (h : Tracks w p) {c : Char} (hc : c ≠ '\\') : Tracks (c :: w) (p ++ [c]) := by
  refine ⟨?_, fun hhead => hc (Option.some.inj hhead)⟩
  rw [unguard_reverse_cons fun hdollar => h.head hdollar.2, h.same]

/-- A `$` with a backslash of its own is added to the one, and a `$` to the other. -/
theorem marked (h : Tracks w p) : Tracks ('$' :: '\\' :: w) (p ++ ['$']) := by
  refine ⟨?_, fun hhead => absurd (Option.some.inj hhead) (by decide)⟩
  rw [unguard_reverse_dollar, h.same]

end Tracks

/-- Guard, splitter and reading are in step: all three are outside quotes or all three are in the
same one, and where the splitter is between words the guard knows that it is behind a blank. -/
inductive InStep : Guard → Mode → Option Char → Option (List Char) → Prop
  | between : InStep (.outside true) (.outside none) none none
  | inWord (wordStart : Bool) {w p : List Char} (h : Tracks w p) :
      InStep (.outside wordStart) (.outside (some w)) none (some p)
  | quoted {q : Char} (hq : isQuote q = true) {w p : List Char} (h : Tracks w p) :
      InStep (.span q) (quoteMode q w) (some q) (some p)

section step

variable {wordStart : Bool} {o : Option (List Char)} {c q : Char} {w p : List Char}

/-- Outside quotes a character without a meaning, guarded or not, is added to the word. -/
theorem through_letter (hc : c ≠ '\\') (hseparator : isSeparator c = false)
    (hquote : isQuote c = false) (hstart : o = none → wordStart = true) :
    (Mode.outside o).through .all (Rules.all.guarded (.outside wordStart) c)
      = .outside (some (c :: o.getD [])) := by
  by_cases hhash : c = '#'
  · subst hhash
    cases wordStart with
    | true => rfl
    | false =>
      cases o with
      | none => cases hstart rfl
      | some w => rfl
  · have hguarded : Rules.all.guarded (.outside wordStart) c = [c] := by
      cases wordStart <;>
        simp [Rules.guarded, Rules.marks, Guard.marksDollar, Guard.marksHash, hhash]
    have hdouble : c ≠ '"' := fun h => by simp [h, isQuote] at hquote
    have hsingle : c ≠ '\'' := fun h => by simp [h, isQuote] at hquote
    rw [hguarded]
    show (Mode.outside o).next .all c = _
    simp [Mode.next, literalStep, hseparator, hhash, hdouble, hsingle, hc]

/-- A quote is opened as it is. -/
theorem through_opened (hq : isQuote q = true) :
    (Mode.outside o).through .all (Rules.all.guarded (.outside wordStart) q)
      = quoteMode q (o.getD []) := by
  rcases isQuote_iff.1 hq with rfl | rfl <;> cases wordStart <;> rfl

/-- A quote is closed as it is. -/
theorem through_closed (hq : isQuote q = true) :
    (quoteMode q w).through .all (Rules.all.guarded (.span q) q) = .outside (some w) := by
  rcases isQuote_iff.1 hq with rfl | rfl <;> rfl

/-- In a quote a character other than it and a backslash is added to the word, a `$` with a
backslash that will be taken off it or without. -/
theorem exists_through_quoted (hq : isQuote q = true) (hne : c ≠ q) (hc : c ≠ '\\')
    (h : Tracks w p) :
    ∃ w', (quoteMode q w).through .all (Rules.all.guarded (.span q) c) = quoteMode q w' ∧
      Tracks w' (p ++ [c]) := by
  by_cases hdollar : c = '$'
  · subst hdollar
    rcases isQuote_iff.1 hq with rfl | rfl
    · exact ⟨'$' :: w, rfl, h.push hc⟩
    · exact ⟨'$' :: '\\' :: w, rfl, h.marked⟩
  · have hguarded : Rules.all.guarded (.span q) c = [c] := by
      simp [Rules.guarded, Rules.marks, Guard.marksDollar, Guard.marksHash, hdollar]
    refine ⟨c :: w, ?_, h.push hc⟩
    rw [hguarded]
    rcases isQuote_iff.1 hq with rfl | rfl
    · show (Mode.double w).next .all c = .double (c :: w)
      simp [Mode.next, Mode.step, hne, hc]
    · show (Mode.single w).next .all c = .single (c :: w)
      simp [Mode.next, Mode.step, hne]

end step

/-- The words that end at a character, once they have been unguarded. -/
def endedWords (m : Mode) (c : Char) : List (List Char) :=
  ((m.ended c).map fun w => unguard w.reverse).toList

section next

variable {o p : Option (List Char)}

/-- Outside quotes a character leaves guard, splitter and reading in step, if it opens no quote
without a partner. -/
theorem inStep_next_outside {wordStart : Bool} {c : Char} {cs : List Char} (hc : c ≠ '\\')
    (hpartner : isQuote c = true → c ∈ cs) (hstart : o = none → wordStart = true)
    (hword : o.map (fun w => unguard w.reverse) = p) (htracks : Tracks (o.getD []) (p.getD [])) :
    ∃ quote' word', InStep (Guard.next (.outside wordStart) c cs)
        ((Mode.outside o).through .all (Rules.all.guarded (.outside wordStart) c)) quote' word' ∧
      plainFrom none p (c :: cs)
        = (plainFrom quote' word' cs).map (endedWords (.outside o) c ++ ·) := by
  rw [plainFrom, endedWords]
  by_cases hseparator : isSeparator c = true
  · -- a word ends, and behind it all three begin anew
    refine ⟨none, none, ?_, ?_⟩
    · simp only [isSeparator, Bool.or_eq_true, beq_iff_eq] at hseparator
      rcases hseparator with (rfl | rfl) | rfl <;> cases wordStart <;> exact .between
    · rw [if_pos hseparator, Mode.ended, if_pos hseparator, hword]
  · have hended := Mode.ended_of_not_separator (Bool.eq_false_iff.2 hseparator) (.outside o)
    rw [if_neg hseparator, hended]
    simp only [Option.map_none, Option.toList_none, List.nil_append, Option.map_id']
    by_cases hquote : isQuote c = true
    · have hguard : Guard.next (.outside wordStart) c cs = .span c := by
        simp [Guard.next, hquote, hpartner hquote]
      rw [if_pos hquote, hguard, through_opened hquote]
      exact ⟨some c, some (p.getD []), .quoted hquote htracks, rfl⟩
    · have hletter : isQuote c = false := Bool.eq_false_iff.2 hquote
      have hguard : Guard.next (.outside wordStart) c cs = .outside (Text.isBlank c) := by
        simp [Guard.next, hletter]
      rw [if_neg hquote, hguard,
        through_letter hc (Bool.eq_false_iff.2 hseparator) hletter hstart]
      exact ⟨none, some (p.getD [] ++ [c]), .inWord _ (htracks.push hc), rfl⟩

/-- **A character leaves guard, splitter and reading in step**, if it is no backslash and opens
no quote without a partner. -/
theorem InStep.next {g : Guard} {m : Mode} {quote : Option Char} {word : Option (List Char)}
    {c : Char} {cs : List Char} (h : InStep g m quote word) (hc : c ≠ '\\')
    (hpartner : quote = none → isQuote c = true → c ∈ cs) :
    ∃ quote' word',
      InStep (g.next c cs) (m.through .all (Rules.all.guarded g c)) quote' word' ∧
      plainFrom quote word (c :: cs) = (plainFrom quote' word' cs).map (endedWords m c ++ ·) := by
  cases h with
  | between => exact inStep_next_outside hc (hpartner rfl) (fun _ => rfl) rfl .nil
  | inWord wordStart h =>
    exact inStep_next_outside hc (hpartner rfl) nofun (congrArg some h.same) h
  | @quoted q hq w p h =>
    have hended : endedWords (quoteMode q w) c = [] := by
      rcases isQuote_iff.1 hq with rfl | rfl <;> rfl
    rw [plainFrom, Guard.next, hended]
    simp only [List.nil_append, Option.map_id']
    by_cases hclose : c = q
    · subst hclose
      rw [if_pos rfl, if_pos rfl, through_closed hq]
      exact ⟨none, some p, .inWord false h, rfl⟩
    · obtain ⟨w', hthrough, htracks⟩ := exists_through_quoted hq hclose hc h
      rw [if_neg hclose, if_neg hclose, hthrough]
      exact ⟨some q, some (p ++ [c]), .quoted hq htracks, rfl⟩

/-- At a quote that is never closed neither the line can be split nor be read. -/
theorem InStep.not_closed {g : Guard} {m : Mode} {word : Option (List Char)} {q : Char}
    {cs : List Char} (h : InStep g m none word) (hq : isQuote q = true) (hopen : q ∉ cs)
    (g' : Guard) :
    wordsBy .all (m.through .all (Rules.all.guarded g q)) (guardBy .all g' cs) = none ∧
      plainFrom none word (q :: cs) = none := by
  have hslash : q ≠ '\\' := by rcases isQuote_iff.1 hq with rfl | rfl <;> decide
  constructor
  · have hguarded : q ∉ guardBy .all g' cs := fun hmem => hopen (mem_guardBy hslash hmem)
    cases h with
    | between | inWord =>
      rw [through_opened hq]
      exact wordsBy_quoteMode_eq_none hq hguarded _
  · have hbehind : quoteAfter none q = some q := if_pos hq
    have hlast : cs.foldl quoteAfter (some q) = some q :=
      foldl_quoteAfter_eq_some_iff.2 (.inl ⟨rfl, hopen⟩)
    rw [plainFrom_eq_none_iff, List.foldl_cons, hbehind, hlast]
    nofun

end next

/-- **The words of the rest of a line** without a backslash are those that are read, if guard,
splitter and reading are in step. -/
theorem words_plain {g : Guard} {m : Mode} {quote : Option Char} {word : Option (List Char)}
    (h : InStep g m quote word) {cs : List Char} (hcs : '\\' ∉ cs) :
    (wordsBy .all m (guardBy .all g cs)).map (fun ws => ws.map unguard)
      = plainFrom quote word cs := by
  induction cs generalizing g m quote word with
  | nil =>
    cases h with
    | between => rfl
    | inWord _ h =>
      show some [unguard _] = some [_]
      rw [h.same]
    | @quoted q hq => rcases isQuote_iff.1 hq with rfl | rfl <;> rfl
  | cons c cs ih =>
    have hc : c ≠ '\\' := fun hc => hcs (hc ▸ List.mem_cons_self)
    have hrest : '\\' ∉ cs := fun hmem => hcs (List.mem_cons_of_mem c hmem)
    rw [guardBy, wordsBy_guarded, Option.map_map]
    by_cases hpartner : quote = none → isQuote c = true → c ∈ cs
    · obtain ⟨quote', word', hnext, hplain⟩ := h.next hc hpartner
      rw [hplain, ← ih hnext hrest, Option.map_map]
      congr 1
      funext ws
      exact map_unguard_consWord _ ws
    · simp only [Classical.not_imp] at hpartner
      obtain ⟨rfl, hquote, hopen⟩ := hpartner
      obtain ⟨hsplit, hplain⟩ := h.not_closed hquote hopen (g.next c cs)
      rw [hsplit, hplain]
      rfl

/-! ## The tokens of a line -/

/-- Trimming a text leaves characters of the text. -/
theorem mem_of_mem_trim {c : Char} {cs : List Char} (h : c ∈ Text.trim cs) : c ∈ cs := by
  have hend : c ∈ (Text.trimStart cs).reverse.dropWhile Text.isBlank := by
    simpa [Text.trim, Text.trimEnd] using h
  have hstart := (List.dropWhile_sublist _).mem hend
  exact (List.dropWhile_sublist _).mem (List.mem_reverse.1 hstart)

/-- A line without a backslash is read and split alike. -/
theorem tokenCharsBy_plain {line : List Char} (h : '\\' ∉ line) :
    tokenCharsBy .all line = plainFrom none none (Text.trim line) :=
  words_plain .between fun hmem => h (mem_of_mem_trim hmem)

/-- **A line without a backslash has the tokens of the plain reading.** -/
theorem tokens_eq_plainTokens {line : String} (h : '\\' ∉ line.toList) :
    tokens line = plainTokens line := by
  have hchars := tokenCharsBy_plain h
  cases hplain : plainFrom none none (Text.trim line.toList) with
  | none | some words =>
    rw [hplain] at hchars
    simp only [tokens_eq_tokensBy, tokensBy, plainTokens, hchars, hplain]

/-- Characters without a meaning make a word. -/
theorem plainFrom_word {text : List Char} (hne : text ≠ [])
    (h : ∀ c ∈ text, isSeparator c = false ∧ isQuote c = false) (rest : List Char) :
    plainFrom none none (text ++ rest) = plainFrom none (some text) rest := by
  cases text with
  | nil => exact absurd rfl hne
  | cons c text =>
    obtain ⟨hseparator, hquote⟩ := h c List.mem_cons_self
    rw [List.cons_append, plainFrom, if_neg (by simp [hseparator]), if_neg (by simp [hquote])]
    exact plainFrom_append (fun d hd => h d (List.mem_cons_of_mem c hd)) [c] rest

/-- A character that has no meaning anywhere in a line and is not taken off its ends. -/
def isPlain (c : Char) : Bool := !Text.isBlank c && !isQuote c && c != '\\'

/-- What a plain character is not. -/
theorem isPlain_iff {c : Char} : isPlain c = true ↔
    Text.isBlank c = false ∧ isQuote c = false ∧ c ≠ '\\' := by
  simp [isPlain, and_assoc]

/-- A plain character does not separate words. -/
theorem isSeparator_of_isPlain {c : Char} (h : isPlain c = true) : isSeparator c = false := by
  rw [Bool.eq_false_iff]
  intro hseparator
  simp only [isSeparator, Bool.or_eq_true, beq_iff_eq] at hseparator
  rcases hseparator with (rfl | rfl) | rfl <;> revert h <;> decide

/-- Two plain words with a blank between them have no blanks at their ends. -/
theorem trim_two_words {text text' : List Char} (hne : text ≠ []) (hne' : text' ≠ [])
    (h : ∀ c ∈ text, isPlain c = true) (h' : ∀ c ∈ text', isPlain c = true) :
    Text.trim (text ++ ' ' :: text') = text ++ ' ' :: text' := by
  apply Text.trim_eq_self
  · obtain ⟨d, rest, rfl⟩ := List.exists_cons_of_ne_nil hne
    intro c hc
    obtain rfl : d = c := Option.some.inj hc
    exact (isPlain_iff.1 (h d List.mem_cons_self)).1
  · have hlast : (text ++ ' ' :: text').getLast? = some (text'.getLast hne') := by
      rw [List.getLast?_append, List.getLast?_cons, List.getLast?_eq_some_getLast hne']
      rfl
    intro c hc
    rw [hlast] at hc
    obtain rfl := Option.some.inj hc
    exact (isPlain_iff.1 (h' _ (List.getLast_mem hne'))).1

/-- **Two plain words with a blank between them** are the tokens of the line that they make. -/
theorem tokens_two_words {word word' : String} (hne : word.toList ≠ []) (hne' : word'.toList ≠ [])
    (h : ∀ c ∈ word.toList, isPlain c = true) (h' : ∀ c ∈ word'.toList, isPlain c = true) :
    Text.trimmed (word ++ " " ++ word') = word ++ " " ++ word' ∧
      tokens (word ++ " " ++ word') = .ok [word, word'] := by
  have hchars : (word ++ " " ++ word').toList = word.toList ++ ' ' :: word'.toList := by simp
  have htrim : Text.trim (word ++ " " ++ word').toList = (word ++ " " ++ word').toList := by
    rw [hchars]
    exact trim_two_words hne hne' h h'
  have hslash : '\\' ∉ (word ++ " " ++ word').toList := by
    rw [hchars, List.mem_append, List.mem_cons]
    rintro (hmem | hmem | hmem)
    · exact (isPlain_iff.1 (h _ hmem)).2.2 rfl
    · cases hmem
    · exact (isPlain_iff.1 (h' _ hmem)).2.2 rfl
  have hletters {text : List Char} (htext : ∀ c ∈ text, isPlain c = true) :
      ∀ c ∈ text, isSeparator c = false ∧ isQuote c = false := fun c hc =>
    ⟨isSeparator_of_isPlain (htext c hc), (isPlain_iff.1 (htext c hc)).2.1⟩
  have hread : plainFrom none none (word ++ " " ++ word').toList
      = some [word.toList, word'.toList] := by
    have hword' := plainFrom_word hne' (hletters h') []
    rw [List.append_nil] at hword'
    have hblank : isSeparator ' ' = true := rfl
    rw [hchars, plainFrom_word hne (hletters h), plainFrom, if_pos hblank, hword']
    rfl
  constructor
  · rw [Text.trimmed, htrim, String.ofList_toList]
  · rw [tokens_eq_plainTokens hslash, plainTokens, htrim, hread]
    simp

/-- **The tokens of a line without a backslash** are those of the plain reading of the trimmed
line.  The line fails, for not being balanced, exactly if a quote that this reading opens is
never closed. -/
theorem tokens_plain (line : String) (h : '\\' ∉ line.toList) :
    tokens line = plainTokens line ∧
      (tokens line = .error (.parse .unbalanced) ↔ HasOpenQuote (Text.trim line.toList)) ∧
      ∀ e, tokens line = .error e → e = .parse .unbalanced := by
  rw [tokens_eq_plainTokens h, plainTokens, ← plainFrom_eq_none_iff_hasOpenQuote]
  cases plainFrom none none (Text.trim line.toList) with
  | none => exact ⟨rfl, by simp, fun e he => (Except.error.inj he).symm⟩
  | some ws => exact ⟨rfl, by simp, nofun⟩

/-- Pieces that touch are one word, and an apostrophe without a partner cannot be read. -/
theorem tokens_plain_pieces :
    tokens " post \"it's #1\"$5'' '' #x " = .ok ["post", "it's #1$5", "", "#x"] ∧
      tokens "it's" = .error (.parse .unbalanced) := by
  constructor
  · exact (tokens_plain " post \"it's #1\"$5'' '' #x " (by decide)).1
  · rw [(tokens_plain "it's" (by decide)).2.1]
    exact ⟨['i', 't'], '\'', ['s'], rfl, rfl, rfl, by decide⟩

end PostingTerminal.CommandLine
