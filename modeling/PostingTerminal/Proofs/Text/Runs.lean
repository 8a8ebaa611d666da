import PostingTerminal.Text.Search

/-!
# Runs of a class of characters

A text that is cut at every character outside a class falls into its runs: parts that lie in the
class and cannot be made longer.

* `IsRun` — a part of a text is a run, which is said without cutting.
* `mem_cutAt_iff` — **the pieces of a text are its runs**.
* `isRun_append_cons_iff` — **a character outside the class parts the runs** of what stands before
  it from those of what stands behind it.
-/

namespace PostingTerminal.Text

variable {belongs separates : Char → Bool} {text run front back : List Char} {c : Char}

/-- A part of a text is a run of a class: its characters belong to the class, and those next to it
do not. -/
def IsRun (belongs : Char → Bool) (text run : List Char) : Prop :=
  ∃ front back, text = front ++ run ++ back ∧ (∀ c ∈ run, belongs c = true) ∧
    (∀ c ∈ front.getLast?, belongs c = false) ∧ ∀ c ∈ back.head?, belongs c = false

/-- A text of the class is a run of itself. -/
theorem isRun_self (h : ∀ c ∈ text, belongs c = true) : IsRun belongs text text :=
  ⟨[], [], by simp, h, by simp, by simp⟩

/-! ## Cutting -/

/-- Texts are cut as lists are split. -/
theorem cutAt_eq_splitOnP (separates : Char → Bool) (text : List Char) :
    cutAt separates text = text.splitOnP separates := by
  induction text with
  | nil => rfl
  | cons c text ih =>
    rw [List.splitOnP_cons_eq_if_modifyHead, cutAt, ih]
    split
    · rfl
    · cases hpieces : text.splitOnP separates with
      | nil => exact absurd hpieces (List.splitOnP_ne_nil _ _)
      | cons piece pieces => rfl

/-- A text is cut into what stands before a separator and what stands behind it. -/
theorem cutAt_append_cons (hc : separates c = true) (front back : List Char) :
    cutAt separates (front ++ c :: back) = cutAt separates front ++ cutAt separates back := by
  simp only [cutAt_eq_splitOnP]
  exact List.splitOnP_append_cons front back hc

/-- A text without a separator is left in one piece. -/
theorem cutAt_eq_singleton (h : ∀ c ∈ text, separates c = false) :
    cutAt separates text = [text] := by
  rw [cutAt_eq_splitOnP]
  exact List.splitOnP_eq_singleton h

/-! ## Pieces and runs -/

/-- What is a run of a rest is a run of the whole text, if a character outside the class stands
before the rest. -/
theorem IsRun.behind (h : IsRun belongs back run) (hc : belongs c = false) (front : List Char) :
    IsRun belongs (front ++ c :: back) run := by
  obtain ⟨before, after, rfl, hrun, hbefore, hafter⟩ := h
  refine ⟨front ++ c :: before, after, by simp, hrun, ?_, hafter⟩
  intro d hd
  cases hlast : before.getLast? with
  | none =>
    obtain rfl := List.getLast?_eq_none_iff.1 hlast
    obtain rfl : c = d := by simpa using hd
    exact hc
  | some e =>
    have : d = e := by simpa [List.getLast?_append, List.getLast?_cons, hlast] using hd.symm
    exact hbefore d (by rw [this, hlast]; rfl)

/-- A piece is a run. -/
theorem isRun_of_mem_cutAt (h : run ∈ cutAt (fun c => !belongs c) text) :
    IsRun belongs text run := by
  -- On the text, behind a beginning of the class that no separator has ended yet.
  suffices hgeneral : ∀ seen : List Char, (∀ c ∈ seen, belongs c = true) →
      run ∈ cutAt (fun c => !belongs c) (seen ++ text) → IsRun belongs (seen ++ text) run from
    hgeneral [] (by simp) h
  clear h
  induction text with
  | nil =>
    intro seen hseen h
    rw [List.append_nil, cutAt_eq_singleton (by simpa using hseen), List.mem_singleton] at h
    subst h
    rw [List.append_nil]
    exact isRun_self hseen
  | cons c text ih =>
    intro seen hseen h
    cases hc : belongs c with
    | true =>
      have hmore : ∀ d ∈ seen ++ [c], belongs d = true := by
        simpa [or_imp, forall_and, hc] using hseen
      have hrun := ih (seen ++ [c]) hmore
      simp only [List.append_assoc, List.singleton_append] at hrun
      exact hrun h
    | false =>
      rw [cutAt_append_cons (by simp [hc]), cutAt_eq_singleton (by simpa using hseen),
        List.mem_append, List.mem_singleton] at h
      rcases h with rfl | h
      · exact ⟨[], c :: text, rfl, hseen, by simp, by simpa using hc⟩
      · exact (ih [] (by simp) h).behind hc seen

/-- A run is a piece. -/
theorem IsRun.mem_cutAt (h : IsRun belongs text run) : run ∈ cutAt (fun c => !belongs c) text := by
  obtain ⟨front, back, rfl, hrun, hfront, hback⟩ := h
  have hpiece : cutAt (fun c => !belongs c) run = [run] :=
    cutAt_eq_singleton (by simpa using hrun)
  have hrest : run ∈ cutAt (fun c => !belongs c) (run ++ back) := by
    cases back with
    | nil => simp [hpiece]
    | cons c back =>
      have hc : belongs c = false := hback c rfl
      simp [cutAt_append_cons, hc, hpiece]
  rw [List.append_assoc]
  rcases front.eq_nil_or_concat with rfl | ⟨front, c, rfl⟩
  · exact hrest
  · have hc : belongs c = false := hfront c (by simp)
    rw [List.concat_eq_append, List.append_assoc, List.singleton_append,
      cutAt_append_cons (by simp [hc])]
    exact List.mem_append_right _ hrest

/-- **The pieces of a text are its runs.** -/
theorem mem_cutAt_iff : run ∈ cutAt (fun c => !belongs c) text ↔ IsRun belongs text run :=
  ⟨isRun_of_mem_cutAt, IsRun.mem_cutAt⟩

/-- **A character outside the class parts the runs.** -/
theorem isRun_append_cons_iff (hc : belongs c = false) :
    IsRun belongs (front ++ c :: back) run ↔ IsRun belongs front run ∨ IsRun belongs back run := by
  rw [← mem_cutAt_iff, cutAt_append_cons (by simp [hc]), List.mem_append, mem_cutAt_iff,
    mem_cutAt_iff]

end PostingTerminal.Text
