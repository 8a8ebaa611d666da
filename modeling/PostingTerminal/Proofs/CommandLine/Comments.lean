import PostingTerminal.Proofs.CommandLine.Rules
import PostingTerminal.Proofs.CommandLine.Unguard

/-!
# Lines with a `#`

A line has no comments: a `#` is a character like others.  The splitter takes one that begins a
word for the beginning of a comment, so the guard puts a backslash before every `#` behind a
blank.  But the guard, which knows no backslashes, and the splitter can differ about what is
quoted.  Then a `#` may be guarded where the backslash is not taken off again, and may be left
alone where it begins a word.

* `HashFits` — guard and splitter agree about a `#`.
* `words_eq_of_hashFits`, `hashFits_of_words_eq` — the words are those that are split without
  comments if guard and splitter agree about every `#`, and if there are words, only then.
* `tokens_comments_iff` — **when a line has no comments**.
* `tokens_comments_differ` — a line can have one.

Only if: a `#` that is guarded without need makes its word longer, and a comment swallows a `#`
that stays in the words otherwise.  Lengths of words do not tell the second case, since behind a
comment the two runs have nothing to do with each other any more; the number of `#` does.
-/

namespace PostingTerminal.CommandLine

/-! ## Guard and splitter at a `#` -/

/-- Whether a backslash before a `#` leaves no trace: outside quotes it is taken off, behind
another backslash between double quotes it stands for the one that is kept otherwise. -/
def Mode.absorbsEscape : Mode → Bool
  | .outside _ | .doubleEscaped _ | .comment => true
  | .escaped _ | .double _ | .single _ => false

/-- A `#` fits where it stands: the guard puts a backslash before it only where this leaves no
trace, and does so where the splitter is between words. -/
def HashFits (g : Guard) (m : Mode) (c : Char) : Prop :=
  c = '#' → (g.marksHash c = true → m.absorbsEscape = true) ∧
    (m = .outside none → g.marksHash c = true)

instance Mode.decidableBetween (m : Mode) : Decidable (m = .outside none) :=
  match m with
  | .outside none => .isTrue rfl
  | .outside (some _) | .escaped _ | .double _ | .doubleEscaped _ | .single _ | .comment =>
    .isFalse nofun

instance HashFits.decidable (g : Guard) (m : Mode) (c : Char) : Decidable (HashFits g m c) :=
  inferInstanceAs (Decidable (_ → _ ∧ _))

/-- A `#` is guarded by the one procedure only. -/
theorem guarded_hash (g : Guard) :
    Rules.all.guarded g '#' = (if g.marksHash '#' = true then ['\\', '#'] else ['#']) ∧
      Rules.withoutComments.guarded g '#' = ['#'] := by
  have hdollar : g.marksDollar '#' = false := g.marksDollar_of_ne (by decide)
  simp [Rules.guarded, Rules.marks, Rules.all, Rules.withoutComments, hdollar]

/-- The rules differ at a `#` only. -/
theorem guarded_of_ne_hash (g : Guard) {c : Char} (hc : c ≠ '#') :
    Rules.withoutComments.guarded g c = Rules.all.guarded g c := by
  have hhash : g.marksHash c = false := g.marksHash_of_ne hc
  simp [Rules.guarded, Rules.marks, Rules.all, Rules.withoutComments, hhash]

/-- Only a `#` can begin a comment. -/
theorem Mode.next_of_ne_hash (m : Mode) {c : Char} (hc : c ≠ '#') :
    m.next .withoutComments c = m.next .all c := by
  cases m with
  | outside word => simp [Mode.next, hc]
  | _ => rfl

/-- Both procedures go on alike behind any other character. -/
theorem Mode.through_of_ne_hash (m : Mode) (g : Guard) {c : Char} (hc : c ≠ '#') :
    m.through .withoutComments (Rules.all.guarded g c)
      = m.through .all (Rules.all.guarded g c) := by
  rcases Rules.all.guarded_cases g c with hguarded | ⟨hguarded, -⟩
  · rw [hguarded]
    exact m.next_of_ne_hash hc
  · rw [hguarded]
    show (m.next .withoutComments '\\').next .withoutComments c = (m.next .all '\\').next .all c
    rw [Mode.next_of_ne_hash _ hc, Mode.next_of_ne_hash _ (by decide)]

/-- **Both procedures go on alike behind a `#` that fits.** -/
theorem through_hash_of_fits {g : Guard} {m : Mode} (hfits : HashFits g m '#') :
    m.through .withoutComments (Rules.withoutComments.guarded g '#')
      = m.through .all (Rules.all.guarded g '#') := by
  obtain ⟨habsorbs, hopen⟩ := hfits rfl
  rw [(guarded_hash g).1, (guarded_hash g).2]
  by_cases hmarks : g.marksHash '#' = true
  · rw [if_pos hmarks]
    cases m with
    | outside word => rfl
    | doubleEscaped w => rfl
    | comment => rfl
    | escaped w => cases habsorbs hmarks
    | double w => cases habsorbs hmarks
    | single w => cases habsorbs hmarks
  · rw [if_neg hmarks]
    cases m with
    | outside word =>
      cases word with
      | none => exact absurd (hopen rfl) hmarks
      | some w => rfl
    | _ => rfl

/-- **The words of the rest of a line** are those that are split without comments if every `#`
fits. -/
theorem words_eq_of_hashFits (g : Guard) (m : Mode) (cs : List Char)
    (hfits : Along .withoutComments HashFits g m cs) :
    wordsBy .all m (guardBy .all g cs)
      = wordsBy .withoutComments m (guardBy .withoutComments g cs) := by
  induction cs generalizing g m with
  | nil => rfl
  | cons c cs ih =>
    obtain ⟨hc, hrest⟩ := hfits
    have hthrough : m.through .withoutComments (Rules.withoutComments.guarded g c)
        = m.through .all (Rules.all.guarded g c) := by
      by_cases hhash : c = '#'
      · subst hhash
        exact through_hash_of_fits hc
      · rw [guarded_of_ne_hash g hhash]
        exact m.through_of_ne_hash g hhash
    rw [guardBy, guardBy, wordsBy_guarded, wordsBy_guarded, ← hthrough,
      ih (g.next c cs) _ hrest]

/-! ## The number of `#` -/

/-- Backslashes are the only characters that the guard adds. -/
theorem count_guardBy (r : Rules) (g : Guard) (cs : List Char) :
    (guardBy r g cs).count '#' = cs.count '#' := by
  induction cs generalizing g with
  | nil => rfl
  | cons c cs ih =>
    have hguarded : (r.guarded g c).count '#' = [c].count '#' := by
      rcases r.guarded_cases g c with hguarded | ⟨hguarded, -⟩ <;> rw [hguarded]
      exact List.count_cons_of_ne (by decide)
    rw [guardBy, List.count_append, hguarded, ih, ← List.count_append]
    rfl

/-- A `#` more in front is counted. -/
theorem count_push (c : Char) (cs : List Char) :
    (c :: cs).count '#' = cs.count '#' + [c].count '#' := by
  rw [← List.singleton_append, List.count_append, Nat.add_comm]

/-- Outside quotes a `#` goes into the word, unless it begins a comment. -/
theorem count_literalStep (word : Option (List Char)) (c : Char) :
    (literalStep word c).word.count '#' = (word.getD []).count '#' + [c].count '#' := by
  unfold literalStep
  split
  case isTrue hc => subst hc; rfl
  split
  case isTrue hc => subst hc; rfl
  split
  case isTrue hc => subst hc; rfl
  exact count_push c _

/-- A `#` goes into a word where there are no comments. -/
theorem count_next_literal {r : Rules} (hr : r.comments = false) {m : Mode} (hm : m ≠ .comment)
    (c : Char) :
    ((m.ended c).getD []).count '#' + (m.next r c).word.count '#'
      = m.word.count '#' + [c].count '#' := by
  cases m with
  | outside word =>
    by_cases hc : isSeparator c = true
    · have hcount : [c].count '#' = 0 := by
        simp only [isSeparator, Bool.or_eq_true, beq_iff_eq] at hc
        rcases hc with (rfl | rfl) | rfl <;> rfl
      simp only [Mode.ended, Mode.next, if_pos hc, hcount]
      rfl
    · simp only [Mode.ended, Mode.next, if_neg hc, hr, Bool.false_eq_true, false_and, if_false,
        count_literalStep]
      exact Nat.zero_add _
  | escaped w =>
    refine (Nat.zero_add _).trans ?_
    simp only [Mode.next, Mode.step, Mode.word, Option.getD_some]
    split
    case isTrue hc => subst hc; rfl
    case isFalse => exact count_push c w
  | double w =>
    refine (Nat.zero_add _).trans ?_
    simp only [Mode.next, Mode.step]
    split
    case isTrue hc => subst hc; rfl
    split
    case isTrue hc => subst hc; rfl
    exact count_push c w
  | doubleEscaped w =>
    refine (Nat.zero_add _).trans ?_
    simp only [Mode.next, Mode.step]
    split
    case isTrue => exact count_push c w
    split
    case isTrue hc => subst hc; rfl
    exact (count_push c _).trans (congrArg (· + [c].count '#') (count_push '\\' w))
  | single w =>
    refine (Nat.zero_add _).trans ?_
    simp only [Mode.next, Mode.step]
    split
    case isTrue hc => subst hc; rfl
    exact count_push c w
  | comment => exact absurd rfl hm

/-- No character leads into a comment where there are none. -/
theorem next_ne_comment {r : Rules} (hr : r.comments = false) {m : Mode} (hm : m ≠ .comment)
    (c : Char) : m.next r c ≠ .comment := by
  cases m with
  | outside word =>
    simp only [Mode.next, hr, Bool.false_eq_true, false_and, if_false, literalStep]
    repeat' split
    all_goals simp
  | comment => exact absurd rfl hm
  | _ =>
    simp only [Mode.next, Mode.step]
    repeat' split
    all_goals simp

/-- A character begins a comment, or leads where it does without comments. -/
theorem next_eq_comment_or (r : Rules) (m : Mode) (c : Char) :
    (m.next r c = .comment ∧ m.ended c = none) ∨ m.next r c = m.next .withoutComments c := by
  cases m with
  | outside word =>
    by_cases hc : isSeparator c = true
    · exact .inr (by simp only [Mode.next, if_pos hc])
    · by_cases hbegins : r.comments = true ∧ c = '#' ∧ word.isNone
      · exact .inl ⟨by simp only [Mode.next, if_neg hc, if_pos hbegins], if_neg hc⟩
      · refine .inr ?_
        simp only [Mode.next, if_neg hc, if_neg hbegins, Rules.withoutComments,
          Bool.false_eq_true, false_and, if_false]
  | _ => exact .inr rfl

/-- No character brings a `#` into a word that is not one. -/
theorem count_next_le (r : Rules) (m : Mode) (c : Char) :
    ((m.ended c).getD []).count '#' + (m.next r c).word.count '#'
      ≤ m.word.count '#' + [c].count '#' := by
  rcases next_eq_comment_or r m c with ⟨hnext, hended⟩ | hnext
  · rw [hnext, hended]
    exact Nat.zero_le _
  · by_cases hm : m = .comment
    · subst hm
      simp only [Mode.next, Mode.step]
      split <;> exact Nat.zero_le _
    · rw [hnext]
      exact Nat.le_of_eq (count_next_literal rfl hm c)

/-- Putting a word in front of others adds its `#`. -/
theorem count_consWord (word : Option (List Char)) (ws : List (List Char)) :
    (consWord word ws).flatten.count '#' = (word.getD []).count '#' + ws.flatten.count '#' := by
  cases word with
  | none => exact (Nat.zero_add _).symm
  | some w => rw [consWord, List.flatten_cons, List.count_append, List.count_reverse]; rfl

/-- **No `#` comes into the words** that is not in the line or in the word before. -/
theorem count_words_le {r : Rules} {m : Mode} {cs : List Char} {ws : List (List Char)}
    (h : wordsBy r m cs = some ws) : ws.flatten.count '#' ≤ m.word.count '#' + cs.count '#' := by
  induction cs generalizing m ws with
  | nil =>
    cases m with
    | outside word =>
      cases h
      rw [count_consWord]
      exact Nat.le_refl _
    | comment => cases h; exact Nat.le_refl _
    | _ => cases h
  | cons c cs ih =>
    rw [wordsBy, Option.map_eq_some_iff] at h
    obtain ⟨ws', hws', rfl⟩ := h
    have hrest := ih hws'
    have hnext := count_next_le r m c
    rw [count_consWord, count_push c cs]
    omega

/-- **Every `#` comes into the words** where there are no comments. -/
theorem count_words_eq {r : Rules} (hr : r.comments = false) {m : Mode} (hm : m ≠ .comment)
    {cs : List Char} {ws : List (List Char)} (h : wordsBy r m cs = some ws) :
    ws.flatten.count '#' = m.word.count '#' + cs.count '#' := by
  induction cs generalizing m ws with
  | nil =>
    cases m with
    | outside word =>
      cases h
      exact count_consWord word []
    | comment => exact absurd rfl hm
    | _ => cases h
  | cons c cs ih =>
    rw [wordsBy, Option.map_eq_some_iff] at h
    obtain ⟨ws', hws', rfl⟩ := h
    have hrest := ih (next_ne_comment hr hm c) hws'
    have hnext := count_next_literal hr hm c
    rw [count_consWord, count_push c cs]
    omega

/-- Taking backslashes off leaves every `#`. -/
theorem count_flatten_unguard (ws : List (List Char)) :
    (ws.map unguard).flatten.count '#' = ws.flatten.count '#' := by
  induction ws with
  | nil => rfl
  | cons w ws ih =>
    rw [List.map_cons, List.flatten_cons, List.count_append, count_unguard (by decide), ih,
      List.flatten_cons, List.count_append]

/-! ## A backslash that stays -/

/-- A word in which every `#` has been guarded that the guard took for the beginning of a word,
and the same word without a guard, both in reverse, if `n` backslashes stay. -/
structure Pads (n : Nat) (w₁ w₂ : List Char) : Prop where
  length : (unguard w₁.reverse).length = (unguard w₂.reverse).length + n
  head : w₁.head? = w₂.head?

namespace Pads

variable {n : Nat} {w₁ w₂ : List Char}

/-- No backslash stays of nothing. -/
theorem nil : Pads 0 [] [] := ⟨rfl, rfl⟩

/-- Nothing has no backslash. -/
theorem eq_zero (h : Pads n [] []) : n = 0 := by simpa [unguard] using h.length.symm

/-- Words that are the same when they end have no backslash that stays. -/
theorem eq_zero_of_ended (h : Pads n w₁ w₂) (heq : unguard w₁.reverse = unguard w₂.reverse) :
    n = 0 := by
  have hlength := h.length
  rw [heq] at hlength
  omega

/-- A character that both words get adds none. -/
theorem push (h : Pads n w₁ w₂) (c : Char) : Pads n (c :: w₁) (c :: w₂) := by
  refine ⟨?_, rfl⟩
  have hlength := h.length
  rw [length_unguard_reverse_cons, length_unguard_reverse_cons, h.head]
  omega

/-- A `#` that one word gets with a backslash adds one. -/
theorem pad (h : Pads n w₁ w₂) : Pads (n + 1) ('#' :: '\\' :: w₁) ('#' :: w₂) := by
  refine ⟨?_, rfl⟩
  have hlength := h.length
  rw [unguard_reverse_cons (fun hc => absurd hc.1 (by decide)),
    unguard_reverse_cons (fun hc => absurd hc.1 (by decide)),
    unguard_reverse_cons (fun hc => absurd hc.1 (by decide))]
  simp only [List.length_append, List.length_cons, List.length_nil]
  omega

end Pads

/-! ## Two runs over a line -/

section run

variable {n : Nat} {m₁ m₂ : Mode}

/-- In alike modes a `#` fits or does not. -/
theorem hashFits_of_alike {R : List Char → List Char → Prop} {g : Guard} (h : m₁.Alike R m₂)
    (hfits : HashFits g m₂ '#') : HashFits g m₁ '#' := by
  intro hc
  obtain ⟨habsorbs, hopen⟩ := hfits hc
  cases h with
  | between h => exact ⟨habsorbs, hopen⟩
  | _ => exact ⟨habsorbs, fun hm => (by cases hm)⟩

/-- A `#` that both words get as it is. -/
theorem alike_next_hash (h : m₁.Alike (Pads n) m₂) :
    (m₁.next .withoutComments '#').Alike (Pads n) (m₂.next .withoutComments '#') := by
  rcases h.next .withoutComments (fun _ _ hw => hw.push '#') (fun _ _ hw => hw.push '\\') with
    ⟨-, -, hnext⟩ | ⟨hsep, -⟩
  · exact hnext
  · cases hsep

/-- **A `#` that begins no comment leaves modes alike**, and no backslash stays exactly if none
did and it fits. -/
theorem alike_hash {g : Guard} (hopen : m₂ = .outside none → g.marksHash '#' = true)
    (h : m₁.Alike (Pads n) m₂) :
    ∃ n', (n' = 0 ↔ n = 0 ∧ HashFits g m₂ '#') ∧
      (m₁.through .all (Rules.all.guarded g '#')).Alike (Pads n')
        (m₂.through .withoutComments (Rules.withoutComments.guarded g '#')) := by
  by_cases hfits : HashFits g m₂ '#'
  · refine ⟨n, (and_iff_left hfits).symm, ?_⟩
    rw [← through_hash_of_fits (hashFits_of_alike h hfits), (guarded_hash g).2]
    exact alike_next_hash h
  · -- the guard has put a backslash there that stays
    have hmarks : g.marksHash '#' = true :=
      Decidable.byContradiction fun hmarks => hfits fun _ => ⟨fun h => absurd h hmarks, hopen⟩
    have hstays : m₂.absorbsEscape = false :=
      Bool.eq_false_iff.2 fun habsorbs => hfits fun _ => ⟨fun _ => habsorbs, hopen⟩
    refine ⟨n + 1, by simp [hfits], ?_⟩
    rw [(guarded_hash g).1, (guarded_hash g).2, if_pos hmarks]
    cases h with
    | between h | outside h | doubleEscaped h | comment h => cases hstays
    | escaped h => exact .outside h.pad
    | double h => exact .double h.pad
    | single h => exact .single h.pad

/-- **A comment makes the words differ**: it swallows the `#` that begins it. -/
theorem words_ne_of_comment {g : Guard} {cs : List Char} {ws₁ ws₂ : List (List Char)}
    (hmarks : ¬ g.marksHash '#' = true)
    (h₁ : wordsBy .all (.outside none) (guardBy .all g ('#' :: cs)) = some ws₁)
    (h₂ : wordsBy .withoutComments (.outside none) (guardBy .withoutComments g ('#' :: cs))
      = some ws₂) : ws₁.map unguard ≠ ws₂.map unguard := by
  rw [guardBy, (guarded_hash g).1, if_neg hmarks] at h₁
  rw [guardBy, (guarded_hash g).2] at h₂
  have hcomment : wordsBy .all .comment (guardBy .all (g.next '#' cs) cs) = some ws₁ := by
    rw [← h₁]
    exact (map_consWord_none _).symm
  have hword : wordsBy .withoutComments (.outside (some ['#']))
      (guardBy .withoutComments (g.next '#' cs) cs) = some ws₂ := by
    rw [← h₂]
    exact (map_consWord_none _).symm
  -- the `#` itself is in the words of the one run and lies in the comment of the other
  have hfewer := count_words_le hcomment
  have hmore := count_words_eq rfl (by simp) hword
  intro heq
  have hcount := congrArg (fun ws => ws.flatten.count '#') heq
  simp only [count_flatten_unguard] at hcount
  rw [count_guardBy] at hfewer hmore
  simp only [Mode.word, Option.getD_some, List.count_nil, List.count_singleton_self] at hfewer hmore
  omega

/-- **Every `#` fits if the words are the same**, and no backslash has stayed so far. -/
theorem hashFits_of_words_eq (g : Guard) (cs : List Char) (h : m₁.Alike (Pads n) m₂)
    {ws₁ ws₂ : List (List Char)} (h₁ : wordsBy .all m₁ (guardBy .all g cs) = some ws₁)
    (h₂ : wordsBy .withoutComments m₂ (guardBy .withoutComments g cs) = some ws₂)
    (heq : ws₁.map unguard = ws₂.map unguard) :
    n = 0 ∧ Along .withoutComments HashFits g m₂ cs := by
  induction cs generalizing g m₁ m₂ n ws₁ ws₂ with
  | nil =>
    refine ⟨?_, trivial⟩
    cases h with
    | between h => exact h.eq_zero
    | outside h =>
      cases h₁
      cases h₂
      exact h.eq_zero_of_ended (List.singleton_inj.1 heq)
    | comment h => exact h.eq_zero
    | _ => cases h₁
  | cons c cs ih =>
    by_cases hc : c = '#'
    · subst hc
      by_cases hopen : m₂ = .outside none → g.marksHash '#' = true
      · obtain ⟨n', hn', hnext⟩ := alike_hash hopen h
        have hended := Mode.ended_of_not_separator (c := '#') rfl
        rw [guardBy, wordsBy_guarded, hended, map_consWord_none] at h₁ h₂
        obtain ⟨hzero, hrest⟩ := ih (g.next '#' cs) hnext h₁ h₂ heq
        obtain ⟨hn, hfits⟩ := hn'.1 hzero
        exact ⟨hn, hfits, hrest⟩
      · -- a comment begins here in the one run, and the runs part
        rw [Classical.not_imp] at hopen
        obtain ⟨rfl, hmarks⟩ := hopen
        cases h
        exact absurd heq (words_ne_of_comment hmarks h₁ h₂)
    · have hfits : HashFits g m₂ c := fun h => absurd h hc
      rw [guardBy, wordsBy_guarded] at h₁ h₂
      rw [guarded_of_ne_hash g hc, m₂.through_of_ne_hash g hc] at h₂
      rw [Along, and_iff_right hfits, guarded_of_ne_hash g hc, m₂.through_of_ne_hash g hc]
      rcases h.through .all .all g (fun _ _ hw => hw.push c) (fun _ _ hw => hw.push '\\') with
        ⟨hended₁, hended₂, hnext⟩ | ⟨w₁, w₂, hw, hended₁, hended₂, hnext₁, hnext₂⟩
      · rw [hended₁, map_consWord_none] at h₁
        rw [hended₂, map_consWord_none] at h₂
        exact ih (g.next c cs) hnext h₁ h₂ heq
      · -- a word ends in both, and behind it both begin anew
        rw [hended₁, hnext₁, Option.map_eq_some_iff] at h₁
        rw [hended₂, hnext₂, Option.map_eq_some_iff] at h₂
        obtain ⟨ws₁', h₁, rfl⟩ := h₁
        obtain ⟨ws₂', h₂, rfl⟩ := h₂
        obtain ⟨hword, hwords⟩ := List.cons.inj heq
        rw [hnext₂]
        exact ⟨hw.eq_zero_of_ended hword, (ih (g.next c cs) (.between .nil) h₁ h₂ hwords).2⟩

end run

/-! ## The tokens of a line -/

/-- **When a line has no comments.**  Its tokens are those that it has where no `#` is treated as
the beginning of a comment, exactly if it can be split neither way or guard and splitter agree
about every `#`. -/
theorem tokens_comments_iff (line : String) :
    tokens line = tokensBy .withoutComments line ↔
      (tokens line = .error (.parse .unbalanced) ∧
        tokensBy .withoutComments line = .error (.parse .unbalanced)) ∨
      AlongLine .withoutComments HashFits line := by
  have hstart : (Mode.outside none).Alike (Pads 0) (.outside none) := .between .nil
  have hsame := words_eq_of_hashFits (.outside true) (.outside none) (Text.trim line.toList)
  have honly := @hashFits_of_words_eq 0 (.outside none) (.outside none) (.outside true)
    (Text.trim line.toList) hstart
  rw [tokens_eq_tokensBy, tokensBy_eq_iff, tokensBy_eq_error_iff, tokensBy_eq_error_iff,
    tokenCharsBy, tokenCharsBy, AlongLine]
  generalize wordsBy .all _ _ = o₁ at hsame honly ⊢
  generalize wordsBy .withoutComments _ _ = o₂ at hsame honly ⊢
  constructor
  · intro heq
    cases o₁ with
    | none => exact .inl ⟨rfl, heq.symm⟩
    | some ws₁ =>
      cases o₂ with
      | none => cases heq
      | some ws₂ => exact .inr (honly rfl rfl (Option.some.inj heq)).2
  · rintro (⟨hleft, hright⟩ | hfits)
    · rw [hleft, hright]
    · exact congrArg (Option.map fun ws => ws.map unguard) (hsame hfits)

example : AlongLine .withoutComments HashFits "post \"#rust is #1\" C# #" := by decide

/-- **A line can have a comment.**  The guard takes what stands between two quotes for quoted,
also if a backslash is before each, and so leaves a `#` there alone. -/
theorem tokens_comments_differ :
    tokens "\\\" #b \\\"" = .ok ["\""] ∧
      tokensBy .withoutComments "\\\" #b \\\"" = .ok ["\"", "#b", "\""] ∧
      ¬ ∀ line, tokens line = tokensBy .withoutComments line := by
  have hwith : tokens "\\\" #b \\\"" = .ok ["\""] := rfl
  have hwithout : tokensBy .withoutComments "\\\" #b \\\"" = .ok ["\"", "#b", "\""] := rfl
  refine ⟨hwith, hwithout, fun h => ?_⟩
  have hline := h "\\\" #b \\\""
  rw [hwith, hwithout] at hline
  exact absurd (Except.ok.inj hline) (by decide)

end PostingTerminal.CommandLine
