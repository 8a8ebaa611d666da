import PostingTerminal.CommandLine.Tokens

/-!
# Taking backslashes off a word

A word is made one character after another, and kept in reverse while it is made.  What is left
when the backslashes before its `$` are taken off can be followed at the same end: every
character is added to it, but for a `$` behind a backslash, which takes the place of the
backslash.

* `unguard_reverse_cons`, `unguard_reverse_dollar` — the two cases.
* `count_unguard` — no other character is lost.
-/

namespace PostingTerminal.CommandLine

/-- A character that is no backslash before a `$` is kept. -/
theorem unguard_cons {c : Char} {cs : List Char} (h : ¬ (c = '\\' ∧ cs.head? = some '$')) :
    unguard (c :: cs) = c :: unguard cs := by
  rw [unguard]
  rintro cs' rfl hcs
  exact h ⟨rfl, by rw [hcs]; rfl⟩

/-- A character at the end is kept, if it is no `$` behind a backslash. -/
theorem unguard_concat {cs : List Char} {c : Char} (h : ¬ (c = '$' ∧ cs.getLast? = some '\\')) :
    unguard (cs ++ [c]) = unguard cs ++ [c] := by
  fun_induction unguard cs with
  | case1 => exact unguard_cons fun hc => by cases hc.2
  | case2 cs ih =>
    show '$' :: unguard (cs ++ [c]) = '$' :: (unguard cs ++ [c])
    rw [ih]
    rintro ⟨rfl, hlast⟩
    exact h ⟨rfl, by rw [List.getLast?_cons, List.getLast?_cons, hlast]; rfl⟩
  | case3 d cs hd ih =>
    cases cs with
    | nil =>
      -- `d` was the last character, and is no backslash before a `$`
      rw [List.cons_append, unguard_cons, ih (fun hc => by cases hc.2)]
      · rfl
      · rintro ⟨rfl, hhead⟩
        exact h ⟨Option.some.inj hhead, rfl⟩
    | cons e cs =>
      rw [List.cons_append, unguard_cons, ih]
      · rfl
      · rintro ⟨rfl, hlast⟩
        exact h ⟨rfl, by rw [List.getLast?_cons, hlast]; rfl⟩
      · rintro ⟨rfl, hhead⟩
        exact hd cs rfl (by rw [Option.some.inj hhead])

/-- Of a backslash and a `$` at the end the `$` is kept. -/
theorem unguard_concat_dollar (cs : List Char) :
    unguard (cs ++ ['\\', '$']) = unguard cs ++ ['$'] := by
  fun_induction unguard cs with
  | case1 => rfl
  | case2 cs ih => exact congrArg ('$' :: ·) ih
  | case3 d cs hd ih =>
    rw [List.cons_append, unguard_cons, ih]
    · rfl
    · rintro ⟨rfl, hhead⟩
      cases cs with
      | nil => cases hhead
      | cons e cs => exact hd cs rfl (by rw [Option.some.inj hhead])

/-- A word that gets a character that is no `$` behind a backslash keeps it. -/
theorem unguard_reverse_cons {w : List Char} {c : Char}
    (h : ¬ (c = '$' ∧ w.head? = some '\\')) :
    unguard (c :: w).reverse = unguard w.reverse ++ [c] := by
  rw [List.reverse_cons]
  apply unguard_concat
  rwa [List.getLast?_reverse]

/-- A word that gets a `$` behind a backslash keeps it in place of the backslash. -/
theorem unguard_reverse_dollar (w : List Char) :
    unguard ('$' :: '\\' :: w).reverse = unguard w.reverse ++ ['$'] := by
  rw [List.reverse_cons, List.reverse_cons, List.append_assoc]
  exact unguard_concat_dollar w.reverse

/-- A word that ends comes before the words that follow, unguarded or not. -/
theorem map_unguard_consWord (word : Option (List Char)) (ws : List (List Char)) :
    (consWord word ws).map unguard
      = (word.map fun w => unguard w.reverse).toList ++ ws.map unguard := by
  cases word <;> rfl

/-- What is left of a word is longer by each character that it gets, but for a `$` behind a
backslash. -/
theorem length_unguard_reverse_cons (c : Char) (w : List Char) :
    (unguard (c :: w).reverse).length
      = (unguard w.reverse).length + if c = '$' ∧ w.head? = some '\\' then 0 else 1 := by
  by_cases h : c = '$' ∧ w.head? = some '\\'
  · obtain ⟨rfl, hhead⟩ := h
    cases w with
    | nil => cases hhead
    | cons d w =>
      obtain rfl : d = '\\' := Option.some.inj hhead
      have hslash : ¬ ('\\' = '$' ∧ w.head? = some '\\') := fun h => absurd h.1 (by decide)
      rw [unguard_reverse_dollar, unguard_reverse_cons hslash, if_pos ⟨rfl, rfl⟩,
        List.length_append, List.length_append]
      rfl
  · rw [unguard_reverse_cons h, if_neg h, List.length_append]
    rfl

/-- Only backslashes are taken off. -/
theorem count_unguard {c : Char} (hc : c ≠ '\\') (cs : List Char) :
    (unguard cs).count c = cs.count c := by
  fun_induction unguard cs with
  | case1 => rfl
  | case2 cs ih => rw [List.count_cons, ih, List.count_cons_of_ne hc.symm, List.count_cons]
  | case3 d cs hd ih => rw [List.count_cons, ih, List.count_cons]

end PostingTerminal.CommandLine
