import PostingTerminal.Platform.DryRun

/-!
# What a dry run keeps

A dry run answers every post at once.  Under a key that it does not know the post becomes the next
message; under a key that it knows nothing is posted again.

* `DryRun.post_known`, `DryRun.post_unknown` — what a post comes to in either case, and
  `DryRun.knows_post`, the keys that are known after it.
* `DryRun.Numbered` — the messages are numbered from one on and the counter is one ahead of them.
  Posting keeps this (`DryRun.Numbered.post`), and so **no id is given to two messages**
  (`DryRun.Numbered.nodup_ids`).
-/

namespace PostingTerminal

/-- Numbers that are written alike are the same. -/
theorem eq_of_toString_eq {m n : Nat} (h : toString m = toString n) : m = n := by
  rw [Nat.toString_eq_ofList_toDigits, Nat.toString_eq_ofList_toDigits] at h
  have hdigits := congrArg String.toList h
  rw [String.toList_ofList, String.toList_ofList] at hdigits
  rw [← Nat.ofDigitChars_ten_toDigits (n := m), hdigits, Nat.ofDigitChars_ten_toDigits]

namespace Platform.DryRun

/-- The id of the message with a number. -/
def messageId (n : Nat) : MessageId := ⟨"dry_" ++ toString n⟩

/-- Messages with different numbers have different ids. -/
theorem messageId_inj {m n : Nat} (h : messageId m = messageId n) : m = n :=
  eq_of_toString_eq ((String.append_right_inj "dry_").1 (congrArg MessageId.text h))

/-- A message has been posted under a key. -/
def Knows (p : DryRun) (key : String) : Prop := (p.ids.lookup key).isSome = true

variable {p : DryRun} {parent : Option MessageId} {request : Request}

/-- Nothing is posted twice under a key. -/
theorem post_known (h : p.Knows request.key) : (p.post parent request).2 = p := by
  obtain ⟨id, hid⟩ := Option.isSome_iff_exists.1 h
  unfold post
  rw [hid]

/-- Under a key that is not known a post becomes the next message. -/
theorem post_unknown (h : ¬ p.Knows request.key) : p.post parent request =
    (messageId p.next,
      ⟨p.posted ++ [⟨messageId p.next, parent, request.text⟩],
        p.ids ++ [(request.key, messageId p.next)], p.next + 1⟩) := by
  have hnone := Option.not_isSome_iff_eq_none.1 h
  unfold post
  rw [hnone]
  rfl

/-- After a post its key is known, beside those that were. -/
theorem knows_post {key : String} :
    (p.post parent request).2.Knows key ↔ p.Knows key ∨ key = request.key := by
  by_cases h : p.Knows request.key
  · rw [post_known h]
    exact ⟨.inl, fun hknows => hknows.elim id fun heq => heq ▸ h⟩
  · rw [post_unknown h]
    unfold Knows
    rw [List.lookup_append, Option.isSome_or, Bool.or_eq_true]
    refine or_congr_right ?_
    rw [List.lookup_cons]
    cases hkey : key == request.key with
    | true => exact iff_of_true rfl (eq_of_beq hkey)
    | false => exact iff_of_false nofun (ne_of_beq_false hkey)

/-- The messages are numbered from one on, and the counter is one ahead of them. -/
structure Numbered (p : DryRun) : Prop where
  next : p.next = p.posted.length + 1
  ids : p.posted.map (·.id) = (List.range p.posted.length).map fun n => messageId (n + 1)

/-- A dry run without messages is numbered. -/
theorem numbered_empty : Numbered .empty := ⟨rfl, rfl⟩

/-- **Posting keeps the messages numbered.** -/
theorem Numbered.post (h : p.Numbered) (parent : Option MessageId) (request : Request) :
    (p.post parent request).2.Numbered := by
  by_cases hknown : p.Knows request.key
  · rw [post_known hknown]
    exact h
  · rw [post_unknown hknown]
    constructor
    · rw [h.next, List.length_append, List.length_singleton]
    · rw [List.length_append, List.length_singleton, List.range_succ, List.map_append,
        List.map_append, h.ids, h.next]
      rfl

/-- **No id is given to two messages.** -/
theorem Numbered.nodup_ids (h : p.Numbered) : (p.posted.map (·.id)).Nodup := by
  rw [h.ids, List.Nodup, List.pairwise_map]
  refine List.nodup_range.imp fun hne heq => hne ?_
  have := messageId_inj heq
  omega

end Platform.DryRun

end PostingTerminal
