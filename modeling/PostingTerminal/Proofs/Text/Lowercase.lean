import Mathlib.Data.List.Basic
import PostingTerminal.Text.Lowercase

/-!
# Lower-casing a part of a text

A text is lower-cased one character after the other, and what stands around a character matters for
a capital sigma only: it is a final one or it is not (`isFinal`).

* `lowerBetween` — the lower-case form of a part of a text, between what stands before it and what
  stands behind it.  That of the whole text is put together from those of its parts
  (`lower_append`).
* `lowerBetween_eq_iff` — **a part has the same lower-case form in two places exactly if each of its
  sigmas is final in both or in neither**.
* `Settled` — whether a sigma is final is decided by what stands around it within the part.
* `lower_infix_iff` — **a part is found again, in lower case, in every text that contains it,
  exactly if all its sigmas are settled**.
-/

namespace PostingTerminal.Text

variable {front front' part back back' u v : List Char} {c : Char}

/-! ## Letters with case before and behind -/

/-- Whether the last character that case does not ignore has case. -/
def endsCased (cs : List Char) : Bool := startsCased cs.reverse

/-- Whether a sigma between two texts is a final one. -/
def isFinal (front back : List Char) : Bool := endsCased front && !startsCased back

/-- The first character decides if it is not to be ignored. -/
theorem startsCased_cons (c : Char) (cs : List Char) :
    startsCased (c :: cs) = if isCaseIgnorable c then startsCased cs else isCased c := by
  unfold startsCased
  cases h : isCaseIgnorable c <;> simp [h]

/-- The first part decides unless all of it is to be ignored. -/
theorem startsCased_append (cs ds : List Char) : startsCased (cs ++ ds) =
    if cs.all isCaseIgnorable then startsCased ds else startsCased cs := by
  induction cs with
  | nil => rfl
  | cons c cs ih =>
    rw [List.cons_append, startsCased_cons, startsCased_cons, ih]
    cases h : isCaseIgnorable c <;> simp [h]

/-- The second part decides unless all of it is to be ignored. -/
theorem endsCased_append (cs ds : List Char) : endsCased (cs ++ ds) =
    if ds.all isCaseIgnorable then endsCased cs else endsCased ds := by
  rw [endsCased, List.reverse_append, startsCased_append, List.all_reverse]
  rfl

/-- The last character decides if it is not to be ignored. -/
theorem endsCased_concat (cs : List Char) (c : Char) :
    endsCased (cs ++ [c]) = if isCaseIgnorable c then endsCased cs else isCased c := by
  rw [endsCased, List.reverse_concat, startsCased_cons]
  rfl

/-- Where case ignores every character, none has case. -/
theorem startsCased_of_all (h : part.all isCaseIgnorable = true) : startsCased part = false := by
  have hnothing := startsCased_append part []
  rwa [List.append_nil, if_pos h] at hnothing

/-- Where all is to be ignored nothing is cased. -/
theorem endsCased_of_all (h : part.all isCaseIgnorable = true) : endsCased part = false :=
  startsCased_of_all (by rwa [List.all_reverse])

/-! ## Parts of a text -/

/-- The lower-case form of a character between two texts. -/
def lowerAt (front : List Char) (c : Char) (back : List Char) : List Char :=
  if c = 'Σ' then if isFinal front back then ['ς'] else ['σ']
  else if c = 'İ' then ['i', '\u0307']
  else [simpleLower c]

/-- The lower-case form of a part of a text, between what stands before and behind it. -/
def lowerBetween (front : List Char) : (part : List Char) → (back : List Char) → List Char
  | [], _ => []
  | c :: cs, back => lowerAt front c (cs ++ back) ++ lowerBetween (front ++ [c]) cs back

/-- The state carried along tells whether what stands in front ends with a cased character. -/
theorem lowerFrom_eq_lowerBetween (front cs : List Char) :
    lowerFrom (endsCased front) cs = lowerBetween front cs [] := by
  induction cs generalizing front with
  | nil => rfl
  | cons c cs ih =>
    rw [lowerFrom, lowerBetween, ← endsCased_concat, ih, List.append_nil]
    rfl

/-- A text is lower-cased between nothing and nothing. -/
theorem lower_eq_lowerBetween (cs : List Char) : lower cs = lowerBetween [] cs [] :=
  lowerFrom_eq_lowerBetween [] cs

/-- **Each of two parts is lowered between what surrounds it.** -/
theorem lowerBetween_append (front cs ds back : List Char) : lowerBetween front (cs ++ ds) back =
    lowerBetween front cs (ds ++ back) ++ lowerBetween (front ++ cs) ds back := by
  induction cs generalizing front with
  | nil => simp [lowerBetween]
  | cons c cs ih => simp [lowerBetween, ih]

/-- **The lower-case form of a text** is put together from those of its parts. -/
theorem lower_append (front part back : List Char) : lower (front ++ part ++ back) =
    lowerBetween [] front (part ++ back) ++ lowerBetween front part back ++
      lowerBetween (front ++ part) back [] := by
  rw [lower_eq_lowerBetween, lowerBetween_append, lowerBetween_append]
  simp

/-- How long the lower-case form of a character is does not depend on what stands around it. -/
theorem length_lowerAt (front front' : List Char) (c : Char) (back back' : List Char) :
    (lowerAt front c back).length = (lowerAt front' c back').length := by
  unfold lowerAt
  split
  · split <;> split <;> rfl
  · rfl

/-- What stands around a character matters for a sigma only. -/
theorem lowerAt_eq_iff : lowerAt front c back = lowerAt front' c back' ↔
    (c = 'Σ' → isFinal front back = isFinal front' back') := by
  unfold lowerAt
  by_cases hc : c = 'Σ'
  · cases isFinal front back <;> cases isFinal front' back' <;> simp [hc]
  · simp [hc]

/-- Where a sigma is final in the second place if it is in the first, a character has one form in
both or is a sigma that is final in the second only. -/
theorem lowerAt_eq_or_sigma
    (h : c = 'Σ' → isFinal front back = true → isFinal front' back' = true) :
    lowerAt front c back = lowerAt front' c back' ∨
      lowerAt front c back = ['σ'] ∧ lowerAt front' c back' = ['ς'] := by
  by_cases hc : c = 'Σ'
  · subst hc
    unfold lowerAt
    cases hfirst : isFinal front back with
    | true => simp [h rfl hfirst]
    | false => cases isFinal front' back' <;> simp
  · exact .inl (lowerAt_eq_iff.2 fun hsigma => absurd hsigma hc)

/-- The sigmas of a text are its first character, if that is one, and those of the rest. -/
theorem forall_sigma_cons {P : List Char → List Char → Prop} {cs : List Char} :
    (∀ u v, c :: cs = u ++ 'Σ' :: v → P u v) ↔
      (c = 'Σ' → P [] cs) ∧ ∀ u v, cs = u ++ 'Σ' :: v → P (c :: u) v := by
  constructor
  · intro h
    exact ⟨fun hc => h [] cs (by rw [hc, List.nil_append]),
      fun u v hcs => h (c :: u) v (by rw [hcs, List.cons_append])⟩
  · rintro ⟨hfirst, hrest⟩ u v hsplit
    cases u with
    | nil =>
      obtain ⟨hc, rfl⟩ := List.cons.inj hsplit
      exact hfirst hc
    | cons b u =>
      obtain ⟨rfl, hcs⟩ := List.cons.inj hsplit
      exact hrest u v hcs

/-- **A part has the same lower-case form in two places** exactly if each of its sigmas is final in
both or in neither. -/
theorem lowerBetween_eq_iff : lowerBetween front part back = lowerBetween front' part back' ↔
    ∀ u v, part = u ++ 'Σ' :: v →
      isFinal (front ++ u) (v ++ back) = isFinal (front' ++ u) (v ++ back') := by
  induction part generalizing front front' with
  | nil => simp [lowerBetween]
  | cons c cs ih =>
    have hlength := length_lowerAt front front' c (cs ++ back) (cs ++ back')
    rw [forall_sigma_cons, lowerBetween, lowerBetween,
      List.append_eq_append_iff_of_size_eq_left hlength, lowerAt_eq_iff, ih]
    simp

/-- Where final sigmas of one place are final in the other, the lower-case forms are the same, or
the other has more final sigmas and fewer that are not. -/
theorem lowerBetween_eq_or_count_lt
    (h : ∀ u v, part = u ++ 'Σ' :: v →
      isFinal (front ++ u) (v ++ back) = true → isFinal (front' ++ u) (v ++ back') = true) :
    lowerBetween front part back = lowerBetween front' part back' ∨
      (lowerBetween front' part back').count 'σ' < (lowerBetween front part back).count 'σ' ∧
        (lowerBetween front part back).count 'ς' < (lowerBetween front' part back').count 'ς' := by
  induction part generalizing front front' with
  | nil => exact .inl rfl
  | cons c cs ih =>
    rw [forall_sigma_cons] at h
    have hbehind : ∀ u v, cs = u ++ 'Σ' :: v → isFinal (front ++ [c] ++ u) (v ++ back) = true →
        isFinal (front' ++ [c] ++ u) (v ++ back') = true := by
      simpa using h.2
    have hrest := ih hbehind
    have hfirst := lowerAt_eq_or_sigma (by simpa using h.1)
    simp only [lowerBetween, List.count_append]
    rcases hfirst with hfirst | ⟨hmedial, hfinal⟩
    · rw [hfirst]
      rcases hrest with hrest | ⟨hmore, hfewer⟩
      · exact .inl (by rw [hrest])
      · exact .inr ⟨by omega, by omega⟩
    · rw [hmedial, hfinal]
      have hcounts : ['σ'].count 'σ' = 1 ∧ ['σ'].count 'ς' = 0 ∧
          ['ς'].count 'σ' = 0 ∧ ['ς'].count 'ς' = 1 := by decide
      right
      rcases hrest with hrest | ⟨hmore, hfewer⟩
      · rw [hrest]
        omega
      · omega

/-! ## Sigmas that are settled -/

/-- A sigma of a part is settled by what stands before and behind it there: a letter with case
follows, or what it follows has none, or what follows has none; characters that case ignores are
passed over, and decide nothing. -/
def Settled (u v : List Char) : Prop :=
  startsCased v = true ∨ u.all isCaseIgnorable = false ∧
    (endsCased u = false ∨ v.all isCaseIgnorable = false)

instance (u v : List Char) : Decidable (Settled u v) := inferInstanceAs (Decidable (_ ∨ _))

/-- **A settled sigma** is final or not, whatever stands around the part. -/
theorem Settled.isFinal_eq (h : Settled u v) (front back : List Char) :
    isFinal (front ++ u) (v ++ back) = isFinal u v := by
  unfold isFinal
  rw [endsCased_append, startsCased_append]
  rcases h with hstarts | ⟨hu, hends | hv⟩
  · have hv : ¬ v.all isCaseIgnorable = true := by
      intro hall
      rw [startsCased_of_all hall] at hstarts
      cases hstarts
    rw [if_neg hv, hstarts, Bool.not_true, Bool.and_false, Bool.and_false]
  · rw [hu, if_neg Bool.false_ne_true, hends, Bool.false_and, Bool.false_and]
  · rw [hu, hv, if_neg Bool.false_ne_true, if_neg Bool.false_ne_true]

/-- A sigma is settled if neither a letter before the part changes it nor one behind. -/
theorem settled_of_isFinal_eq (hfront : isFinal ('A' :: u) v = isFinal u v)
    (hback : isFinal u (v ++ ['A']) = isFinal u v) : Settled u v := by
  have hA : endsCased ['A'] = true ∧ startsCased ['A'] = true := by decide
  rw [isFinal, isFinal, ← List.singleton_append, endsCased_append, hA.1] at hfront
  rw [isFinal, isFinal, startsCased_append, hA.2] at hback
  unfold Settled
  cases hstarts : startsCased v with
  | true => exact .inl rfl
  | false =>
    right
    rw [hstarts] at hfront hback
    cases hu : u.all isCaseIgnorable with
    | true => simp [hu, endsCased_of_all hu] at hfront
    | false =>
      refine ⟨rfl, ?_⟩
      cases hv : v.all isCaseIgnorable with
      | true =>
        left
        simpa [hv] using hback
      | false => exact .inr rfl

/-- All sigmas of a part are settled. -/
def SigmasSettled (part : List Char) : Prop := ∀ u v, part = u ++ 'Σ' :: v → Settled u v

instance (part : List Char) : Decidable (SigmasSettled part) :=
  decidable_of_iff
    (∀ i < part.length, part[i]? = some 'Σ' → Settled (part.take i) (part.drop (i + 1))) <| by
    constructor
    · rintro h u v rfl
      simpa using h u.length (by simp) (by simp)
    · intro h i hi hsigma
      apply h
      rw [List.getElem?_eq_getElem hi, Option.some.injEq] at hsigma
      rw [← hsigma, ← List.drop_eq_getElem_cons, List.take_append_drop]

/-! ## Parts that are found again -/

/-- A part is found again in lower case where each of its sigmas is final in the text exactly if it
is in the part. -/
theorem lower_infix_of_isFinal_eq (h : ∀ u v, part = u ++ 'Σ' :: v →
    isFinal (front ++ u) (v ++ back) = isFinal u v) :
    lower part <:+: lower (front ++ part ++ back) := by
  have hsame : lowerBetween front part back = lower part := by
    rw [lower_eq_lowerBetween, lowerBetween_eq_iff]
    intro u v hsplit
    rw [h u v hsplit, List.nil_append, List.append_nil]
  rw [lower_append, hsame]
  exact ⟨_, _, rfl⟩

/-- A sigma that is final stays so behind more. -/
theorem isFinal_append_left (h : isFinal u v = true) (front : List Char) :
    isFinal (front ++ u) v = true := by
  rw [isFinal, Bool.and_eq_true] at h ⊢
  refine ⟨?_, h.2⟩
  rw [endsCased_append]
  split
  · next hall =>
    rw [endsCased_of_all hall] at h
    cases h.1
  · exact h.1

/-- A sigma that is final before more was so without it. -/
theorem isFinal_of_append_right (h : isFinal u (v ++ back) = true) : isFinal u v = true := by
  rw [isFinal, Bool.and_eq_true, startsCased_append] at h
  rw [isFinal, Bool.and_eq_true]
  refine ⟨h.1, ?_⟩
  by_cases hall : v.all isCaseIgnorable = true
  · rw [startsCased_of_all hall, Bool.not_false]
  · rw [if_neg hall] at h
    exact h.2

/-- If a part is found again behind a letter, no sigma has become final there. -/
theorem lowerBetween_of_infix_cons (h : lower part <:+: lower ('A' :: part)) :
    lowerBetween ['A'] part [] = lower part := by
  have hA (back : List Char) : lowerAt [] 'A' back = ['a'] := by
    rw [lowerAt, if_neg (by decide), if_neg (by decide)]
    rfl
  have hform : lower ('A' :: part) = ['a'] ++ lowerBetween ['A'] part [] := by
    rw [lower_eq_lowerBetween, lowerBetween, hA]
    rfl
  have hstays : ∀ u v, part = u ++ 'Σ' :: v →
      isFinal ([] ++ u) (v ++ []) = true → isFinal (['A'] ++ u) (v ++ []) = true :=
    fun u v _ hfinal => isFinal_append_left hfinal ['A']
  have hcompare := lowerBetween_eq_or_count_lt hstays
  rw [← lower_eq_lowerBetween] at hcompare
  rcases hcompare with hsame | ⟨hfewer, -⟩
  · exact hsame.symm
  · -- in the text there are not as many medial sigmas as in the part
    have hcount := h.count_le 'σ'
    have hletter : ['a'].count 'σ' = 0 := by decide
    rw [hform, List.count_append] at hcount
    omega

/-- If a part is found again before a letter, no sigma has ceased to be final there. -/
theorem lowerBetween_of_infix_concat (h : lower part <:+: lower (part ++ ['A'])) :
    lowerBetween [] part ['A'] = lower part := by
  have hA : lowerBetween part ['A'] [] = ['a'] := by
    rw [lowerBetween, lowerAt, if_neg (by decide), if_neg (by decide)]
    rfl
  have hform : lower (part ++ ['A']) = lowerBetween [] part ['A'] ++ ['a'] := by
    rw [lower_eq_lowerBetween, lowerBetween_append, List.nil_append, hA]
    rfl
  have hstays : ∀ u v, part = u ++ 'Σ' :: v →
      isFinal ([] ++ u) (v ++ ['A']) = true → isFinal ([] ++ u) (v ++ []) = true := by
    intro u v _ hfinal
    rw [List.append_nil]
    exact isFinal_of_append_right hfinal
  have hcompare := lowerBetween_eq_or_count_lt hstays
  rw [← lower_eq_lowerBetween] at hcompare
  rcases hcompare with hsame | ⟨-, hfewer⟩
  · exact hsame
  · -- in the text there are not as many final sigmas as in the part
    have hcount := h.count_le 'ς'
    have hletter : ['a'].count 'ς' = 0 := by decide
    rw [hform, List.count_append] at hcount
    omega

/-- **A part is found again in every text that contains it** exactly if its sigmas are settled. -/
theorem lower_infix_iff :
    (∀ text, part <:+: text → lower part <:+: lower text) ↔ SigmasSettled part := by
  constructor
  · intro h u v hsplit
    have hbehind := lowerBetween_of_infix_cons (h ('A' :: part) (List.infix_cons List.infix_rfl))
    have hbefore := lowerBetween_of_infix_concat
      (h (part ++ ['A']) (List.prefix_append part ['A']).isInfix)
    rw [lower_eq_lowerBetween, lowerBetween_eq_iff] at hbehind hbefore
    apply settled_of_isFinal_eq
    · simpa using hbehind u v hsplit
    · simpa using hbefore u v hsplit
  · rintro h text ⟨front, back, rfl⟩
    exact lower_infix_of_isFinal_eq fun u v hsplit => (h u v hsplit).isFinal_eq front back

end PostingTerminal.Text
