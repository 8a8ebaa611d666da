import Mathlib.Algebra.Group.Nat.Defs
import PostingTerminal.Proofs.Keyed
import PostingTerminal.Proofs.Platform.DryRun

/-!
# Posting under keys

A new dry run is called in any order, with any texts, parents and keys.

* `after_eq` — **what calls leave is known in full** from the first call under each key: the n-th of
  them has become the message with the number n.
* `idAt_eq_lookup` — a call is given the id that is kept under its key in the end, whether it was
  the first under that key or not.
* `posts_once_per_key` — hence calls are given one id exactly if they have one key, and **every
  key is posted once**.
-/

namespace PostingTerminal.Platform.DryRun

/-! ## Calls -/

/-- A call that posts a message. -/
inductive Call where
  | top (request : Request)
  | reply (parent : MessageId) (request : Request)

namespace Call

/-- What is to be posted. -/
def request : Call → Request
  | .top request => request
  | .reply _ request => request

/-- The message that it replies to. -/
def parent? : Call → Option MessageId
  | .top _ => none
  | .reply parent _ => some parent

/-- The key that it is posted under. -/
def key (c : Call) : String := c.request.key

/-- The id that a call is given, and what it leaves. -/
def run (c : Call) (p : DryRun) : Option MessageId × DryRun :=
  match c with
  | .top request => p.postTop request
  | .reply parent request =>
    let (outcome, p') := p.postReply parent request
    (outcome.messageId, p')

/-- The message that it becomes as the one with a number. -/
def message (c : Call) (n : Nat) : Posted := ⟨messageId n, c.parent?, c.request.text⟩

/-- A call is given the id of its post, and leaves what the post leaves. -/
theorem run_eq (c : Call) (p : DryRun) :
    c.run p = (some (p.post c.parent? c.request).1, (p.post c.parent? c.request).2) := by
  cases c <;> rfl

end Call

/-- What calls leave of a new dry run. -/
def after (calls : List Call) : DryRun := calls.foldl (fun p c => (c.run p).2) .empty

/-- The id that the call at a position is given. -/
def idAt (calls : List Call) (i : Nat) : Option MessageId :=
  calls[i]?.bind fun c => (c.run (after (calls.take i))).1

/-! ## What calls leave -/

variable {calls : List Call} {c : Call} {key : String}

/-- The last call is made at what the calls before it have left. -/
theorem after_concat (calls : List Call) (c : Call) :
    after (calls ++ [c]) = (c.run (after calls)).2 := List.foldl_concat ..

/-- The keys that are known are those of the calls. -/
theorem knows_after : (after calls).Knows key ↔ key ∈ calls.map Call.key := by
  induction calls using List.reverseRecOn with
  | nil => exact iff_of_false nofun List.not_mem_nil
  | append_singleton calls c ih =>
    rw [after_concat, c.run_eq, knows_post, ih, List.map_append, List.mem_append,
      List.map_singleton, List.mem_singleton]
    rfl

/-- **What calls leave is known in full** from the first call under each key. -/
theorem after_eq (calls : List Call) : after calls =
    ⟨(firsts Call.key calls).zipIdx.map fun (c, k) => c.message (k + 1),
      (firsts Call.key calls).zipIdx.map fun (c, k) => (c.key, messageId (k + 1)),
      (firsts Call.key calls).length + 1⟩ := by
  -- On the last call: its key is known, or its message is put behind the others.
  induction calls using List.reverseRecOn with
  | nil => rfl
  | append_singleton calls c ih =>
    rw [after_concat, c.run_eq, firsts_concat]
    split
    · next hknown => rw [post_known (knows_after.2 hknown), ih]
    · next hnew =>
      rw [post_unknown (knows_after.not.2 hnew), ih]
      simp [List.zipIdx_append, Call.message, Call.key]

/-- A call under a key that has been used changes nothing. -/
theorem run_of_known (h : c.key ∈ calls.map Call.key) : (c.run (after calls)).2 = after calls := by
  rw [c.run_eq]
  exact post_known (knows_after.2 h)

/-! ## Ids -/

/-- A call is given the id that is kept under its key. -/
theorem id_run (c : Call) (p : DryRun) : (c.run p).1 = (c.run p).2.ids.lookup c.key := by
  rw [c.run_eq]
  by_cases h : p.Knows c.request.key
  · obtain ⟨id, hid⟩ := Option.isSome_iff_exists.1 h
    unfold post Call.key
    simp [hid]
  · have hnone := Option.not_isSome_iff_eq_none.1 h
    rw [post_unknown h]
    simp [Call.key, List.lookup_append, hnone]

/-- The id under a key that is known stays. -/
theorem lookup_run (c : Call) {p : DryRun} (h : p.Knows key) :
    (c.run p).2.ids.lookup key = p.ids.lookup key := by
  rw [c.run_eq]
  by_cases hc : p.Knows c.request.key
  · rw [post_known hc]
  · obtain ⟨id, hid⟩ := Option.isSome_iff_exists.1 h
    rw [post_unknown hc]
    simp [List.lookup_append, hid]

/-- **A call is given the id that is kept under its key in the end.** -/
theorem idAt_eq_lookup {i : Nat} (h : calls[i]? = some c) :
    idAt calls i = (after calls).ids.lookup c.key := by
  induction calls using List.reverseRecOn with
  | nil => simp at h
  | append_singleton calls last ih =>
    rw [after_concat]
    rcases Nat.lt_or_ge i calls.length with hi | hi
    · rw [List.getElem?_append_left hi] at h
      have hknown : (after calls).Knows c.key :=
        knows_after.2 (List.mem_map_of_mem (List.mem_of_getElem? h))
      rw [lookup_run last hknown, ← ih h, idAt, idAt, List.getElem?_append_left hi,
        List.take_append_of_le_length (Nat.le_of_lt hi)]
    · obtain ⟨hlt, -⟩ := List.getElem?_eq_some_iff.1 h
      rw [List.length_append, List.length_singleton] at hlt
      obtain rfl : i = calls.length := Nat.le_antisymm (Nat.le_of_lt_succ hlt) hi
      obtain rfl : last = c := by simpa using h
      rw [← id_run, idAt]
      simp

/-- An id is that of the first call under its key. -/
theorem exists_first {id : MessageId} (h : (after calls).ids.lookup key = some id) :
    ∃ n c, (firsts Call.key calls)[n]? = some c ∧ c.key = key ∧ id = messageId (n + 1) := by
  obtain ⟨front, back, hids, -⟩ := List.lookup_eq_some_iff.1 h
  have hmem : (key, id) ∈ (after calls).ids := by simp [hids]
  rw [after_eq] at hmem
  obtain ⟨⟨c, n⟩, hfirst, heq⟩ := List.mem_map.1 hmem
  cases heq
  exact ⟨n, c, List.mem_zipIdx_iff_getElem?.1 hfirst, rfl, rfl⟩

/-- Hence a call is given the number of the first call under its key. -/
theorem idAt_eq_number {i : Nat} (h : calls[i]? = some c) : ∃ n first,
    (firsts Call.key calls)[n]? = some first ∧ first.key = c.key ∧
      idAt calls i = some (messageId (n + 1)) := by
  have hknown : (after calls).Knows c.key :=
    knows_after.2 (List.mem_map_of_mem (List.mem_of_getElem? h))
  obtain ⟨id, hlookup⟩ := Option.isSome_iff_exists.1 hknown
  obtain ⟨n, first, hfirst, hkey, rfl⟩ := exists_first hlookup
  exact ⟨n, first, hfirst, hkey, (idAt_eq_lookup h).trans hlookup⟩

/-- **Calls are given one id exactly if they have one key.** -/
theorem idAt_eq_iff {i j : Nat} {d : Call} (hc : calls[i]? = some c) (hd : calls[j]? = some d) :
    idAt calls i = idAt calls j ↔ c.key = d.key := by
  constructor
  · intro hsame
    obtain ⟨n, first, hfirst, hkey, hgiven⟩ := idAt_eq_number hc
    obtain ⟨n', first', hfirst', hkey', hgiven'⟩ := idAt_eq_number hd
    rw [hgiven, hgiven'] at hsame
    obtain rfl : n = n' := Nat.succ.inj (messageId_inj (Option.some.inj hsame))
    cases hfirst.symm.trans hfirst'
    exact hkey.symm.trans hkey'
  · intro hkey
    rw [idAt_eq_lookup hc, idAt_eq_lookup hd, hkey]

/-- **Every key is posted once**, whatever is posted, as fewer than `2 ^ 64` calls on a new dry run.
Each call is given an id with a number that fits into 64 bits, and two calls are given the same id
exactly if they have the same key.  The messages are those of the first call under each key, in
order, with its text and its parent, and they are numbered from one on.  No two of these calls
have one key, and every key of a call is one of theirs.  A call that is made again leaves the
platform as it is, and so does any other call under a key that has been used. -/
theorem posts_once_per_key (calls : List Call) (hfew : calls.length < 2 ^ 64) :
    (∀ i < calls.length, ∃ n, 0 < n ∧ n < 2 ^ 64 ∧
      idAt calls i = some ⟨"dry_" ++ toString n⟩) ∧
    (∀ i j c d, calls[i]? = some c → calls[j]? = some d →
      (idAt calls i = idAt calls j ↔ c.request.key = d.request.key)) ∧
    (after calls).posted = ((firsts Call.key calls).zipIdx.map fun (c, k) =>
      ⟨⟨"dry_" ++ toString (k + 1)⟩, c.parent?, c.request.text⟩) ∧
    ((firsts Call.key calls).map Call.key).Nodup ∧
    (∀ key, key ∈ (firsts Call.key calls).map Call.key ↔ key ∈ calls.map Call.key) ∧
    ∀ c : Call, c.key ∈ calls.map Call.key → after (calls ++ [c]) = after calls := by
  refine ⟨?_, fun i j c d hc hd => idAt_eq_iff hc hd, ?_, nodup_keys_firsts _ _,
    fun _ => key_mem_firsts, ?_⟩
  · intro i hi
    obtain ⟨n, first, hfirst, -, hgiven⟩ := idAt_eq_number (List.getElem?_eq_getElem hi)
    obtain ⟨hn, -⟩ := List.getElem?_eq_some_iff.1 hfirst
    have hle := (firsts_sublist Call.key calls).length_le
    exact ⟨n + 1, Nat.succ_pos n, by omega, hgiven⟩
  · rw [after_eq]
    rfl
  · intro c hknown
    rw [after_concat, run_of_known hknown]

/-- A message, a reply to it, and a reply under the key of the first: that one is not posted, and it
is given the id of the first. -/
def repeatedCalls : List Call :=
  [.top ⟨"one", [], "d:0"⟩, .reply ⟨"dry_1"⟩ ⟨"two", [], "d:1"⟩,
    .reply ⟨"dry_2"⟩ ⟨"three", ["m"], "d:0"⟩]

/-- The third call repeats the first one, and nothing is posted for it. -/
theorem posts_once_per_key_repeated :
    repeatedCalls.length < 2 ^ 64 ∧ idAt repeatedCalls 0 = idAt repeatedCalls 2 ∧
      idAt repeatedCalls 0 ≠ idAt repeatedCalls 1 ∧
      (after repeatedCalls).posted =
        [⟨⟨"dry_1"⟩, none, "one"⟩, ⟨⟨"dry_2"⟩, some ⟨"dry_1"⟩, "two"⟩] := by
  have hfew : repeatedCalls.length < 2 ^ 64 := by decide
  obtain ⟨-, hsame, hposted, -⟩ := posts_once_per_key repeatedCalls hfew
  refine ⟨hfew, (hsame 0 2 _ _ rfl rfl).2 rfl, ?_, ?_⟩
  · exact (hsame 0 1 _ _ rfl rfl).not.2 (by decide)
  · rw [hposted]
    rfl

end PostingTerminal.Platform.DryRun
