import PostingTerminal.Proofs.CommandLine.Rules
import PostingTerminal.Proofs.CommandLine.Unguard

/-!
# Lines with a `$`

Nothing is expanded when a line is split, so a `$` needs no guard, and guarding it inside quoted
spans and taking backslashes off afterwards should leave no trace.  It does so only if what is
taken off is what was put there.

* `DollarFits` — a `$` behind a backslash of its word has been given a backslash of its own
  that is in the word, too.
* `words_dollars` — what the two procedures make of a line: the same, but for one backslash
  less for every `$` that does not fit.
* `tokens_dollars_iff` — **when the treatment of `$` leaves no trace**: exactly for the lines
  that cannot be split and those in which every `$` fits.
* `tokens_dollars_differ` — it does leave one.
-/

namespace PostingTerminal.CommandLine

/-! ## A backslash that is lost -/

/-- Whether a backslash before a `$` stays in the word: not outside quotes, where it stands for
the `$`, nor between double quotes. -/
def Mode.keepsEscape : Mode → Bool
  | .escaped _ | .doubleEscaped _ | .single _ => true
  | .outside _ | .double _ | .comment => false

/-- A `$` fits where it stands: if there is a backslash before it in its word, the guard has put
another one there. -/
def DollarFits (g : Guard) (m : Mode) (c : Char) : Prop :=
  c = '$' → m.word.head? = some '\\' → g.marksDollar c = true ∧ m.keepsEscape = true

instance DollarFits.decidable (g : Guard) (m : Mode) (c : Char) : Decidable (DollarFits g m c) :=
  inferInstanceAs (Decidable (_ → _ → _ ∧ _))

/-- A word that has been guarded and the same word without a guard, both in reverse, if `n`
backslashes too many will be taken off. -/
structure Loses (n : Nat) (w₁ w₂ : List Char) : Prop where
  length : (unguard w₁.reverse).length + n = w₂.length
  same : n = 0 → unguard w₁.reverse = w₂.reverse
  head : w₁.head? = w₂.head?

namespace Loses

variable {n : Nat} {w₁ w₂ : List Char}

/-- Nothing is lost of nothing. -/
theorem nil : Loses 0 [] [] := ⟨rfl, fun _ => rfl, rfl⟩

/-- No backslash is lost of nothing. -/
theorem eq_zero (h : Loses n [] []) : n = 0 := by simpa [unguard] using h.length

/-- The words are the same when they end exactly if no backslash is lost. -/
theorem ended_iff (h : Loses n w₁ w₂) : unguard w₁.reverse = w₂.reverse ↔ n = 0 := by
  refine ⟨fun heq => ?_, h.same⟩
  have hlength := h.length
  rw [heq, List.length_reverse] at hlength
  omega

/-- A character that is no `$` behind a backslash loses none. -/
theorem push (h : Loses n w₁ w₂) {c : Char} (hc : ¬ (c = '$' ∧ w₂.head? = some '\\')) :
    Loses n (c :: w₁) (c :: w₂) := by
  have hkept := unguard_reverse_cons (w := w₁) (c := c) (by rwa [h.head])
  refine ⟨?_, fun hn => ?_, rfl⟩
  · have hlength := h.length
    simp only [hkept, List.length_append, List.length_cons, List.length_nil]
    omega
  · rw [hkept, h.same hn, List.reverse_cons]

/-- A `$` with a backslash of its own loses that one. -/
theorem marked (h : Loses n w₁ w₂) : Loses n ('$' :: '\\' :: w₁) ('$' :: w₂) := by
  refine ⟨?_, fun hn => ?_, rfl⟩
  · have hlength := h.length
    simp only [unguard_reverse_dollar, List.length_append, List.length_cons, List.length_nil]
    omega
  · rw [unguard_reverse_dollar, h.same hn, List.reverse_cons]

/-- A `$` behind a backslash of its word loses that one. -/
theorem lost (h : Loses n w₁ w₂) (hhead : w₂.head? = some '\\') :
    Loses (n + 1) ('$' :: w₁) ('$' :: w₂) := by
  refine ⟨?_, fun hn => (by cases hn), rfl⟩
  have hlength := h.length
  rw [length_unguard_reverse_cons, if_pos ⟨rfl, h.head.trans hhead⟩, List.length_cons]
  omega

/-- A `$` without a backslash of its own. -/
theorem push_dollar (h : Loses n w₁ w₂) :
    ∃ n', (n' = 0 ↔ n = 0 ∧ w₂.head? ≠ some '\\') ∧ Loses n' ('$' :: w₁) ('$' :: w₂) := by
  by_cases hhead : w₂.head? = some '\\'
  · exact ⟨n + 1, by simp [hhead], h.lost hhead⟩
  · exact ⟨n, by simp [hhead], h.push fun hc => hhead hc.2⟩

end Loses

/-! ## Two runs over a line -/

/-- A `$` is guarded by the one procedure only. -/
theorem guarded_dollar (g : Guard) :
    Rules.all.guarded g '$' = (if g.marksDollar '$' = true then ['\\', '$'] else ['$']) ∧
      Rules.withoutDollars.guarded g '$' = ['$'] := by
  have hhash : g.marksHash '$' = false := Guard.marksHash_of_ne g (by decide)
  simp [Rules.guarded, Rules.marks, Rules.all, Rules.withoutDollars, hhash]

/-- The rules differ at a `$` only. -/
theorem guarded_of_ne_dollar (g : Guard) {c : Char} (hc : c ≠ '$') :
    Rules.withoutDollars.guarded g c = Rules.all.guarded g c := by
  have hdollar : g.marksDollar c = false := Guard.marksDollar_of_ne g hc
  simp [Rules.guarded, Rules.marks, Rules.all, Rules.withoutDollars, hdollar]

section run

variable {n : Nat} {m₁ m₂ : Mode}

/-- A backslash before a `$` that does not stay in the word leaves no trace at all. -/
theorem through_dollar {g : Guard} {m : Mode}
    (h : ¬ (g.marksDollar '$' = true ∧ m.keepsEscape = true)) :
    m.through .all (Rules.all.guarded g '$') = m.next .all '$' := by
  rw [(guarded_dollar g).1]
  by_cases hmarks : g.marksDollar '$' = true
  · rw [if_pos hmarks]
    cases m with
    | outside word => rfl
    | double w => rfl
    | comment => rfl
    | escaped w => exact absurd ⟨hmarks, rfl⟩ h
    | doubleEscaped w => exact absurd ⟨hmarks, rfl⟩ h
    | single w => exact absurd ⟨hmarks, rfl⟩ h
  · rw [if_neg hmarks]
    rfl

/-- A `$` that both words get as it is. -/
theorem alike_next_dollar (h : m₁.Alike (Loses n) m₂) :
    ∃ n', (n' = 0 ↔ n = 0 ∧ m₂.word.head? ≠ some '\\') ∧
      (m₁.next .all '$').Alike (Loses n') (m₂.next .withoutDollars '$') := by
  cases h with
  | between h | outside h | escaped h =>
    obtain ⟨n', hn', h'⟩ := h.push_dollar
    exact ⟨n', hn', .outside h'⟩
  | double h | doubleEscaped h =>
    obtain ⟨n', hn', h'⟩ := h.push_dollar
    exact ⟨n', hn', .double h'⟩
  | single h =>
    obtain ⟨n', hn', h'⟩ := h.push_dollar
    exact ⟨n', hn', .single h'⟩
  | comment h => exact ⟨n, by simp [Mode.word], .comment h⟩

/-- **A `$` leaves modes alike**, and no backslash is lost exactly if none was and it fits. -/
theorem alike_dollar (g : Guard) (h : m₁.Alike (Loses n) m₂) :
    ∃ n', (n' = 0 ↔ n = 0 ∧ DollarFits g m₂ '$') ∧
      (m₁.through .all (Rules.all.guarded g '$')).Alike (Loses n')
        (m₂.through .withoutDollars (Rules.withoutDollars.guarded g '$')) := by
  have hkeeps : m₁.keepsEscape = m₂.keepsEscape := by cases h <;> rfl
  rw [(guarded_dollar g).2]
  by_cases hkept : g.marksDollar '$' = true ∧ m₂.keepsEscape = true
  · -- the backslash of the guard stays in the one word, and is what will be taken off it
    have hfits : DollarFits g m₂ '$' := fun _ _ => hkept
    refine ⟨n, (and_iff_left hfits).symm, ?_⟩
    rw [(guarded_dollar g).1, if_pos hkept.1]
    cases h with
    | between h | outside h | double h | comment h => cases hkept.2
    | escaped h => exact .outside h.marked
    | doubleEscaped h => exact .double h.marked
    | single h => exact .single h.marked
  · -- there is none, and a backslash of the line that the `$` is behind will be taken off
    have hfits : DollarFits g m₂ '$' ↔ m₂.word.head? ≠ some '\\' :=
      ⟨fun h hhead => hkept (h rfl hhead), fun hne _ hhead => absurd hhead hne⟩
    rw [hfits, through_dollar (by rwa [hkeeps])]
    exact alike_next_dollar h

/-- **What the two procedures make of the rest of a line.**  Either can split it if the other
can, and the words are the same exactly if no backslash has been lost so far and every `$` of
the rest fits. -/
theorem words_dollars (g : Guard) (cs : List Char) (h : m₁.Alike (Loses n) m₂) :
    Option.Rel
      (fun ws₁ ws₂ => ws₁.map unguard = ws₂ ↔ n = 0 ∧ Along .withoutDollars DollarFits g m₂ cs)
      (wordsBy .all m₁ (guardBy .all g cs))
      (wordsBy .withoutDollars m₂ (guardBy .withoutDollars g cs)) := by
  induction cs generalizing g m₁ m₂ n with
  | nil =>
    cases h with
    | between h => exact .some ⟨fun _ => ⟨h.eq_zero, trivial⟩, fun _ => rfl⟩
    | outside h =>
      refine .some ?_
      show [unguard _] = [_] ↔ _
      rw [List.singleton_inj, h.ended_iff]
      exact ⟨fun hn => ⟨hn, trivial⟩, fun hn => hn.1⟩
    | comment h => exact .some ⟨fun _ => ⟨h.eq_zero, trivial⟩, fun _ => rfl⟩
    | _ => exact .none
  | cons c cs ih =>
    rw [guardBy, guardBy, wordsBy_guarded, wordsBy_guarded, Along]
    by_cases hc : c = '$'
    · subst hc
      obtain ⟨n', hn', hnext⟩ := alike_dollar g h
      have hended := Mode.ended_of_not_separator (c := '$') rfl
      rw [hended, hended, map_consWord_none, map_consWord_none, ← and_assoc, ← hn']
      exact ih (g.next '$' cs) hnext
    · have hpush (w₁ w₂ : List Char) (hw : Loses n w₁ w₂) : Loses n (c :: w₁) (c :: w₂) :=
        hw.push fun h => hc h.1
      have hescape (w₁ w₂ : List Char) (hw : Loses n w₁ w₂) :
          Loses n ('\\' :: w₁) ('\\' :: w₂) := hw.push fun h => absurd h.1 (by decide)
      have hfits : DollarFits g m₂ c := fun h => absurd h hc
      rw [guarded_of_ne_dollar g hc]
      rcases h.through .all .all g hpush hescape with
        ⟨hended₁, hended₂, hnext⟩ | ⟨w₁, w₂, hw, hended₁, hended₂, hnext₁, hnext₂⟩
      · rw [hended₁, hended₂, map_consWord_none, map_consWord_none, and_iff_right hfits]
        exact ih (g.next c cs) hnext
      · -- a word ends in both, and behind it both begin anew
        have hnext₂ : m₂.through .withoutDollars (Rules.all.guarded g c) = .outside none := hnext₂
        have hrest := ih (g.next c cs) (.between .nil)
        rw [hended₁, hended₂, hnext₁, hnext₂, and_iff_right hfits]
        generalize wordsBy .all (.outside none) _ = o₁ at hrest ⊢
        generalize wordsBy .withoutDollars (.outside none) _ = o₂ at hrest ⊢
        cases hrest with
        | none => exact .none
        | some hwords =>
          refine .some ?_
          rw [and_iff_right rfl] at hwords
          show unguard w₁.reverse :: _ = w₂.reverse :: _ ↔ _
          rw [List.cons.injEq, hw.ended_iff, hwords]

end run

/-! ## The tokens of a line -/

/-- **When the treatment of `$` leaves no trace.**  A line has the same tokens without it exactly
if the line cannot be split or every `$` fits where it stands.  That a line cannot be split does
not depend on the treatment. -/
theorem tokens_dollars_iff (line : String) :
    (tokens line = .error (.parse .unbalanced) ↔
        tokensBy .withoutDollars line = .error (.parse .unbalanced)) ∧
      (tokens line = tokensBy .withoutDollars line ↔
        tokensBy .withoutDollars line = .error (.parse .unbalanced) ∨
          AlongLine .withoutDollars DollarFits line) := by
  have hstart : (Mode.outside none).Alike (Loses 0) (.outside none) := .between .nil
  have hwords := words_dollars (.outside true) (Text.trim line.toList) hstart
  rw [tokens_eq_tokensBy, tokensBy_eq_iff, tokensBy_eq_error_iff, tokensBy_eq_error_iff,
    tokenCharsBy, tokenCharsBy, AlongLine]
  generalize wordsBy .all _ _ = o₁ at hwords ⊢
  generalize wordsBy .withoutDollars _ _ = o₂ at hwords ⊢
  cases hwords with
  | none => simp
  | @some ws₁ ws₂ hwords =>
    rw [and_iff_right rfl] at hwords
    have hall : ws₁.map Rules.all.unguard = ws₁.map unguard := rfl
    have hkept : ws₂.map Rules.withoutDollars.unguard = ws₂ := List.map_id ws₂
    simp [hall, hkept, hwords]

example : AlongLine .withoutDollars DollarFits "post \"$100\" '\\$HOME' \\$" := by decide

/-- **The treatment of `$` leaves a trace.**  Between double quotes a backslash that stands for
itself is taken off if a `$` follows. -/
theorem tokens_dollars_differ :
    tokens "\"\\\\$\"" = .ok ["$"] ∧ tokensBy .withoutDollars "\"\\\\$\"" = .ok ["\\$"] ∧
      ¬ ∀ line, tokens line = tokensBy .withoutDollars line := by
  have hwith : tokens "\"\\\\$\"" = .ok ["$"] := rfl
  have hwithout : tokensBy .withoutDollars "\"\\\\$\"" = .ok ["\\$"] := rfl
  refine ⟨hwith, hwithout, fun h => ?_⟩
  have hline := h "\"\\\\$\""
  rw [hwith, hwithout] at hline
  exact absurd (Except.ok.inj hline) (by decide)

end PostingTerminal.CommandLine
