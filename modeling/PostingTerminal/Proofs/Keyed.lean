import Mathlib.Data.List.Induction
import Mathlib.Data.List.Nodup

/-!
# Items under keys

A table of entries is a list in which the first entry under a key is the one that counts.

* `lookup_filter_ne`, `lookup_cons_filter_ne` — dropping or replacing the entries under a key
  leaves what is found under any other.
* `firsts` — the first item under each key, in the order in which the keys come up.  An item that
  is put behind the others is one of them if its key is new (`firsts_concat`), so **there is one
  for every key** (`nodup_keys_firsts`, `key_mem_firsts`).
-/

namespace PostingTerminal

/-- Where the entries under a key are dropped, nothing is found under it, and under any other key
what was found before. -/
theorem lookup_filter_ne {β : Type} (entries : List (String × β)) (name other : String) :
    (entries.filter (·.1 != name)).lookup other
      = if other = name then none else entries.lookup other := by
  induction entries with
  | nil => simp
  | cons entry entries ih =>
    obtain ⟨key, value⟩ := entry
    rw [List.filter_cons, List.lookup_cons]
    by_cases hkey : key = name
    · subst hkey
      rw [if_neg (by simp), ih]
      by_cases hother : other = key
      · simp [hother]
      · simp [hother, beq_eq_false_iff_ne.2 hother]
    · by_cases hother : other = key
      · simp [hkey, hother]
      · simp [hkey, ih, List.lookup_cons, beq_eq_false_iff_ne.2 hother]

/-- An entry that is put in place of all others under its key is what is found under it. -/
theorem lookup_cons_filter_ne {β : Type} (entries : List (String × β)) (name : String) (value : β)
    (other : String) : ((name, value) :: entries.filter (·.1 != name)).lookup other
      = if other = name then some value else entries.lookup other := by
  rw [List.lookup_cons, lookup_filter_ne]
  by_cases h : other = name
  · simp [h]
  · simp [h, beq_eq_false_iff_ne.2 h]

section firsts

variable {α κ : Type} [DecidableEq κ]

/-- The items whose key no earlier item has, in order. -/
def firsts (key : α → κ) (xs : List α) : List α :=
  (xs.zipIdx.filter fun (x, i) => key x ∉ (xs.take i).map key).map (·.1)

variable {key : α → κ} {xs : List α}

/-- **An item behind all others** is the first under its key if none of them has it. -/
theorem firsts_concat (key : α → κ) (xs : List α) (x : α) : firsts key (xs ++ [x])
    = if key x ∈ xs.map key then firsts key xs else firsts key xs ++ [x] := by
  have hearlier : (xs.zipIdx.filter fun (y, i) => key y ∉ ((xs ++ [x]).take i).map key)
      = xs.zipIdx.filter fun (y, i) => key y ∉ (xs.take i).map key := by
    apply List.filter_congr
    intro (y, i) hmem
    have hi : i < xs.length := by simpa using (List.mem_zipIdx hmem).2.1
    simp only [List.take_append_of_le_length (Nat.le_of_lt hi)]
  unfold firsts
  rw [List.zipIdx_append, List.filter_append, hearlier, List.map_append]
  by_cases hx : key x ∈ xs.map key
  · simp [hx]
  · simp [hx]

/-- The first items stand among all items in their order. -/
theorem firsts_sublist (key : α → κ) (xs : List α) : (firsts key xs).Sublist xs := by
  have h := (List.filter_sublist (p := fun (x, i) => key x ∉ (xs.take i).map key)
    (l := xs.zipIdx)).map Prod.fst
  rwa [List.zipIdx_map_fst] at h

/-- The keys of the first items are those of all items. -/
theorem key_mem_firsts {k : κ} : k ∈ (firsts key xs).map key ↔ k ∈ xs.map key := by
  induction xs using List.reverseRecOn with
  | nil => exact Iff.rfl
  | append_singleton xs x ih =>
    rw [firsts_concat, List.map_append, List.mem_append, List.map_singleton, List.mem_singleton]
    split
    · next hx =>
      rw [ih]
      exact ⟨.inl, fun h => h.elim id fun hk => hk ▸ hx⟩
    · rw [List.map_append, List.mem_append, ih, List.map_singleton, List.mem_singleton]

/-- **No two of the first items have one key.** -/
theorem nodup_keys_firsts (key : α → κ) (xs : List α) : ((firsts key xs).map key).Nodup := by
  induction xs using List.reverseRecOn with
  | nil => exact List.nodup_nil
  | append_singleton xs x ih =>
    rw [firsts_concat]
    split
    · exact ih
    · next hx =>
      rw [List.map_append, List.map_singleton, ← List.concat_eq_append,
        List.nodup_concat, key_mem_firsts]
      exact ⟨hx, ih⟩

end firsts

end PostingTerminal
