import Mathlib.Data.List.Basic
import Mathlib.Data.List.Induction
import PostingTerminal.Proofs.Text.Runs
import PostingTerminal.Store.Knowledge

/-!
# Which memories are shown for a topic

Memories are remembered one after the other, and the newest ten that match a topic are shown.

* `TopicWord`, `Memory.Matches` — the words of a topic, and the memories that match it, said without
  cutting or searching.
* `topicWord_append_iff` — **a character that is neither a letter nor a digit parts the words** of
  a topic.
* `Knowledge.entries` — the memories that match a topic and have fewer than ten newer ones that do.
  They are what is shown (`Knowledge.relevant_eq`), so it depends on the words of the topic only
  (`Knowledge.relevant_congr`).
-/

namespace PostingTerminal.Store

/-! ## Words of a topic -/

/-- A word of a topic is a run of letters and digits that is longer than two bytes. -/
structure TopicWord (topic : String) (word : List Char) : Prop where
  run : Text.IsRun Text.isAlphanumeric topic.toList word
  long : 2 < Json.byteCount word

/-- A memory matches a topic if its text, in lower case, contains a word of it, in lower case. -/
def Memory.Matches (m : Memory) (topic : String) : Prop :=
  ∃ word, TopicWord topic word ∧ Text.lower word <:+: Text.lower m.text.toList

section words

variable {topic topic' : String} {word : List Char} {m : Memory}

/-- The words that are looked for are those of the topic in lower case. -/
theorem mem_topicWords_iff {lowered : List Char} :
    lowered ∈ topicWords topic.toList ↔
      ∃ word, TopicWord topic word ∧ Text.lower word = lowered := by
  simp only [topicWords, List.mem_map, List.mem_filter, Text.mem_cutAt_iff, decide_eq_true_eq]
  constructor
  · rintro ⟨word, ⟨hrun, hlong⟩, rfl⟩
    exact ⟨word, ⟨hrun, hlong⟩, rfl⟩
  · rintro ⟨word, ⟨hrun, hlong⟩, rfl⟩
    exact ⟨word, ⟨hrun, hlong⟩, rfl⟩

/-- A memory that is found for a topic is one that matches it. -/
theorem mentions_iff : m.mentions (topicWords topic.toList) = true ↔ m.Matches topic := by
  simp only [Memory.mentions, List.any_eq_true, mem_topicWords_iff, Text.occursIn_iff]
  constructor
  · rintro ⟨-, ⟨word, hword, rfl⟩, front, back, htext⟩
    exact ⟨word, hword, front, back, htext.symm⟩
  · rintro ⟨word, hword, front, back, htext⟩
    exact ⟨_, ⟨word, hword, rfl⟩, front, back, htext.symm⟩

instance (m : Memory) (topic : String) : Decidable (m.Matches topic) :=
  decidable_of_iff _ mentions_iff

/-- **A character that is neither a letter nor a digit parts the words of a topic.** -/
theorem topicWord_append_iff {c : Char} (hc : Text.isAlphanumeric c = false) {front back : String} :
    TopicWord (front ++ String.singleton c ++ back) word ↔
      TopicWord front word ∨ TopicWord back word := by
  have hparts :
      (front ++ String.singleton c ++ back).toList = front.toList ++ c :: back.toList := by
    simp
  constructor
  · rintro ⟨hrun, hlong⟩
    rw [hparts, Text.isRun_append_cons_iff hc] at hrun
    exact hrun.imp (⟨·, hlong⟩) (⟨·, hlong⟩)
  · rintro (⟨hrun, hlong⟩ | ⟨hrun, hlong⟩)
    all_goals
      refine ⟨?_, hlong⟩
      rw [hparts, Text.isRun_append_cons_iff hc]
    · exact .inl hrun
    · exact .inr hrun

/-- Topics with the same words are matched by the same memories. -/
theorem matches_congr (h : ∀ word, TopicWord topic word ↔ TopicWord topic' word) (m : Memory) :
    m.Matches topic ↔ m.Matches topic' :=
  exists_congr fun word => and_congr_left' (h word)

/-- Hence a memory matches a topic with a separator in it exactly if it matches one of its parts. -/
theorem matches_append_iff {c : Char} (hc : Text.isAlphanumeric c = false) {front back : String} :
    m.Matches (front ++ String.singleton c ++ back) ↔ m.Matches front ∨ m.Matches back := by
  simp only [Memory.Matches, topicWord_append_iff hc, or_and_right, exists_or]

end words

/-! ## What is shown -/

/-- The first items with a property are those that have few items with it before them. -/
theorem take_filter_eq {α : Type} (p : α → Bool) (n : Nat) (xs : List α) :
    (xs.filter p).take n =
      (xs.zipIdx.filter fun (x, i) => p x && (xs.take i).countP p < n).map (·.1) := by
  induction xs using List.reverseRecOn with
  | nil => simp
  | append_singleton xs x ih =>
    have hearlier : (xs.zipIdx.filter fun (y, i) => p y && ((xs ++ [x]).take i).countP p < n)
        = xs.zipIdx.filter fun (y, i) => p y && (xs.take i).countP p < n := by
      apply List.filter_congr
      intro (y, i) hmem
      have hi : i < xs.length := by simpa using (List.mem_zipIdx hmem).2.1
      simp only [List.take_append_of_le_length (Nat.le_of_lt hi)]
    rw [List.filter_append, List.take_append, List.zipIdx_append, List.filter_append, hearlier,
      List.map_append, ← ih, ← List.countP_eq_length_filter]
    congr 1
    -- the last item is shown if it has the property and there is room for it
    cases hp : p x with
    | false => simp [hp]
    | true =>
      by_cases hroom : xs.countP p < n
      · have hone : [x].length ≤ n - xs.countP p := by
          rw [List.length_singleton]
          omega
        simp [hp, hroom, List.take_of_length_le hone]
      · have hfull : n - xs.countP p = 0 := Nat.sub_eq_zero_of_le (Nat.not_lt.1 hroom)
        simp [hp, hroom, hfull]

namespace Knowledge

/-- What is left of nothing when memories are remembered in order. -/
def ofMemories (ms : List Memory) : Knowledge :=
  ms.foldl (fun k m => k.remember m.kind m.text) .empty

/-- Memories that have been remembered are there in order. -/
theorem memories_ofMemories (ms : List Memory) : (ofMemories ms).memories = ms := by
  induction ms using List.reverseRecOn with
  | nil => rfl
  | append_singleton ms m ih =>
    unfold ofMemories at ih ⊢
    rw [List.foldl_concat, remember, ih]

variable {k : Knowledge} {topic topic' : String} {m : Memory} {i : Nat}

/-- How many of the newest memories match a topic. -/
def newerMatches (k : Knowledge) (topic : String) (i : Nat) : Nat :=
  (k.memories.reverse.take i).countP fun m => m.Matches topic

/-- The memories that match a topic and have fewer than ten newer ones that do, the newest first.
With each goes the number of memories that are newer. -/
def entries (k : Knowledge) (topic : String) : List (Memory × Nat) :=
  k.memories.reverse.zipIdx.filter fun (m, i) => m.Matches topic && k.newerMatches topic i < 10

/-- An entry is a match with fewer than ten newer ones. -/
theorem mem_entries_iff : (m, i) ∈ k.entries topic ↔
    k.memories.reverse[i]? = some m ∧ m.Matches topic ∧ k.newerMatches topic i < 10 := by
  simp only [entries, List.mem_filter, List.mem_zipIdx_iff_getElem?, Bool.and_eq_true,
    decide_eq_true_eq]

/-- **What is shown for a topic** is one line for each of them. -/
theorem relevant_eq (k : Knowledge) (topic : String) :
    k.relevant topic = "\n".intercalate ((k.entries topic).map fun (m, _) => "- " ++ m.text) := by
  have hmentions : Memory.mentions (topicWords topic.toList) = fun m => m.Matches topic := by
    funext m
    rw [Bool.eq_iff_iff, mentions_iff, decide_eq_true_iff]
  rw [relevant, matching, hmentions, take_filter_eq, List.map_map]
  rfl

/-- Topics that the same memories match are shown the same. -/
theorem relevant_congr (h : ∀ m : Memory, m.Matches topic ↔ m.Matches topic') :
    k.relevant topic = k.relevant topic' := by
  have hsame (m : Memory) : decide (m.Matches topic) = decide (m.Matches topic') :=
    decide_eq_decide.2 (h m)
  have hnewer (i : Nat) : k.newerMatches topic i = k.newerMatches topic' i := by
    simp only [newerMatches, hsame]
  have hentries : k.entries topic = k.entries topic' := by
    apply List.filter_congr
    intro (m, i) _
    dsimp only
    rw [hsame, hnewer]
  rw [relevant_eq, relevant_eq, hentries]

/-- **What is shown depends on the words of the topic only.**  Whatever has been remembered, and for
all topics and characters between them that are neither letters nor digits: a memory matches two
topics with such a character between them exactly if it matches one of the two.  So the order of
the two does not matter, nor which character it is, nor whether a topic is given twice, nor anything
but which words there are.  For every topic the memories that match it and have fewer than ten
newer ones that do are shown, the newest first, with one entry each. -/
theorem relevance_of_words {c c' : Char} (hc : Text.isAlphanumeric c = false)
    (hc' : Text.isAlphanumeric c' = false) (ms : List Memory) (a b : String) :
    (∀ m : Memory, m.Matches (a ++ String.singleton c ++ b) ↔ m.Matches a ∨ m.Matches b) ∧
    (ofMemories ms).relevant (a ++ String.singleton c ++ b) =
      (ofMemories ms).relevant (b ++ String.singleton c' ++ a) ∧
    (ofMemories ms).relevant (a ++ String.singleton c ++ a) = (ofMemories ms).relevant a ∧
    (∀ topic topic', (∀ word, TopicWord topic word ↔ TopicWord topic' word) →
      (ofMemories ms).relevant topic = (ofMemories ms).relevant topic') ∧
    ∀ topic, (ofMemories ms).relevant topic = "\n".intercalate
      ((ms.reverse.zipIdx.filter fun (m, i) =>
        m.Matches topic && (ms.reverse.take i).countP (fun newer => newer.Matches topic) < 10).map
          fun (m, _) => "- " ++ m.text) := by
  refine ⟨fun m => matches_append_iff hc, ?_, ?_, ?_, ?_⟩
  · apply relevant_congr
    intro m
    rw [matches_append_iff hc, matches_append_iff hc', or_comm]
  · apply relevant_congr
    intro m
    rw [matches_append_iff hc, or_self]
  · intro topic topic' h
    exact relevant_congr (matches_congr h)
  · intro topic
    rw [relevant_eq, entries]
    simp only [newerMatches, memories_ofMemories]

/-- Two memories, each of which a word is the topic of. -/
def newsMemories : List Memory :=
  [⟨.worldKnowledge, "Rust 1.80 shipped LazyLock"⟩, ⟨.worldKnowledge, "Coffee prices rose"⟩]

/-- The order of the words and what separates them do not matter. -/
theorem relevance_of_words_news :
    Text.isAlphanumeric ' ' = false ∧ Text.isAlphanumeric '-' = false ∧
      (ofMemories newsMemories).relevant "rust coffee" =
        (ofMemories newsMemories).relevant "coffee-rust" ∧
      (ofMemories newsMemories).relevant "coffee-rust" =
        "- Coffee prices rose\n- Rust 1.80 shipped LazyLock" := by
  have hblank : Text.isAlphanumeric ' ' = false := by decide
  have hdash : Text.isAlphanumeric '-' = false := by decide
  refine ⟨hblank, hdash, ?_, ?_⟩
  · exact (relevance_of_words hblank hdash newsMemories "rust" "coffee").2.1
  · rfl

end Knowledge

end PostingTerminal.Store
