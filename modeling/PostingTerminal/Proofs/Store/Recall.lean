import PostingTerminal.Proofs.Store.Relevance
import PostingTerminal.Proofs.Text.Lowercase

/-!
# Memories that contain a word as it is written

A memory matches a topic by what both are in lower case, and the lower-case form of a capital sigma
depends on what stands around it.  So a memory that contains a word of the topic, letter for letter,
need not match it.

* `Knowledge.Recalls` — a memory is shown for a topic, unless ten newer ones match it.
* `Knowledge.recalls_of_isFinal_eq` — **a memory that contains a word is recalled** where each sigma
  of the word is final in the memory exactly if it is in the word.
* `Knowledge.literal_word_recalled` — **all memories that contain a word are recalled exactly if the
  sigmas of the word are settled**.
* `Knowledge.literal_word_missed` — hence not every memory that contains a word is.
-/

namespace PostingTerminal.Store.Knowledge

variable {ms : List Memory} {topic : String} {word word' front back text : List Char} {m : Memory}
  {i : Nat}

/-- Of memories that have been remembered in order, one with a number of newer ones is recalled for
a topic if it is among those that are shown, or ten newer ones match the topic. -/
def Recalls (ms : List Memory) (topic : String) (i : Nat) (m : Memory) : Prop :=
  (m, i) ∈ (ofMemories ms).entries topic ∨ 10 ≤ (ofMemories ms).newerMatches topic i

/-- The newest memories are counted from the end. -/
theorem getElem?_newest (h : ms.reverse[i]? = some m) :
    (ofMemories ms).memories.reverse[i]? = some m := by
  rwa [memories_ofMemories]

/-- A memory that matches a topic is recalled for it. -/
theorem recalls_of_matches (hm : ms.reverse[i]? = some m) (hmatches : m.Matches topic) :
    Recalls ms topic i m := by
  rcases Nat.lt_or_ge ((ofMemories ms).newerMatches topic i) 10 with hfew | hmany
  · exact .inl (mem_entries_iff.2 ⟨getElem?_newest hm, hmatches, hfew⟩)
  · exact .inr hmany

/-- The newest memory is recalled only if it matches. -/
theorem matches_of_recalls (h : Recalls ms topic 0 m) : m.Matches topic := by
  rcases h with h | h
  · exact (mem_entries_iff.1 h).2.1
  · simp [newerMatches] at h

/-- **A memory that contains a word is recalled** where each sigma of the word is final in the
memory exactly if it is in the word. -/
theorem recalls_of_isFinal_eq (hword : TopicWord topic word) (hm : ms.reverse[i]? = some m)
    (htext : m.text.toList = front ++ word ++ back)
    (hsigma : ∀ u v, word = u ++ 'Σ' :: v →
      Text.isFinal (front ++ u) (v ++ back) = Text.isFinal u v) : Recalls ms topic i m := by
  apply recalls_of_matches hm
  refine ⟨word, hword, ?_⟩
  rw [htext]
  exact Text.lower_infix_of_isFinal_eq hsigma

/-- A word is the only one of the topic that it makes. -/
theorem topicWord_ofList_iff (hword : ∀ c ∈ word, Text.isAlphanumeric c = true)
    (hlong : 2 < Json.byteCount word) :
    TopicWord (String.ofList word) word' ↔ word' = word := by
  constructor
  · rintro ⟨hrun, -⟩
    rw [String.toList_ofList, ← Text.mem_cutAt_iff,
      Text.cutAt_eq_singleton (by simpa using hword), List.mem_singleton] at hrun
    exact hrun
  · rintro rfl
    refine ⟨?_, hlong⟩
    rw [String.toList_ofList]
    exact Text.isRun_self hword

/-- **All memories that contain a word are recalled exactly if its sigmas are settled.**  The word
is one that a topic can have, and it is the topics that have it which are asked about, whatever has
been remembered.  Where a sigma of the word is not settled, a memory that contains the word is still
recalled if each sigma is final in the memory exactly if it is in the word.  What is shown are the
entries for the topic. -/
theorem literal_word_recalled {word : List Char} (hword : ∀ c ∈ word, Text.isAlphanumeric c = true)
    (hlong : 2 < Json.byteCount word) :
    ((∀ ms topic i m, TopicWord topic word → ms.reverse[i]? = some m → word <:+: m.text.toList →
      Recalls ms topic i m) ↔ Text.SigmasSettled word) ∧
    (∀ ms topic i m front back, TopicWord topic word → ms.reverse[i]? = some m →
      m.text.toList = front ++ word ++ back →
      (∀ u v, word = u ++ 'Σ' :: v →
        Text.isFinal (front ++ u) (v ++ back) = Text.isFinal u v) → Recalls ms topic i m) ∧
    ∀ ms topic, (ofMemories ms).relevant topic = "\n".intercalate
      (((ofMemories ms).entries topic).map fun (m, _) => "- " ++ m.text) := by
  refine ⟨⟨?_, ?_⟩, ?_, fun ms topic => relevant_eq _ topic⟩
  · intro h
    apply Text.lower_infix_iff.1
    intro text hcontains
    -- one memory with that text, and the word as the topic
    have hrecalls := h [⟨.worldKnowledge, String.ofList text⟩] (String.ofList word) 0 _
      ((topicWord_ofList_iff hword hlong).2 rfl) rfl (by rwa [String.toList_ofList])
    obtain ⟨word', hword', hfound⟩ := matches_of_recalls hrecalls
    obtain rfl := (topicWord_ofList_iff hword hlong).1 hword'
    rwa [String.toList_ofList] at hfound
  · intro h ms topic i m htopic hm hcontains
    exact recalls_of_matches hm ⟨word, htopic, Text.lower_infix_iff.2 h _ hcontains⟩
  · intro ms topic i m front back htopic hm htext hsigma
    exact recalls_of_isFinal_eq htopic hm htext hsigma

/-- A word with a sigma before a letter, and a longer word that ends in it. -/
theorem literal_word_recalled_sophia :
    (∀ c ∈ "ΣΟΦΙΑ".toList, Text.isAlphanumeric c = true) ∧ 2 < Json.byteCount "ΣΟΦΙΑ".toList ∧
      Text.SigmasSettled "ΣΟΦΙΑ".toList ∧
      Recalls [⟨.worldKnowledge, "ΦΙΛΟΣΟΦΙΑ"⟩] "Η ΣΟΦΙΑ" 0 ⟨.worldKnowledge, "ΦΙΛΟΣΟΦΙΑ"⟩ := by
  have hword : ∀ c ∈ "ΣΟΦΙΑ".toList, Text.isAlphanumeric c = true :=
    List.all_eq_true.1 (by decide)
  have hlong : 2 < Json.byteCount "ΣΟΦΙΑ".toList := by decide
  have hsettled : Text.SigmasSettled "ΣΟΦΙΑ".toList := by decide
  have htopic : TopicWord "Η ΣΟΦΙΑ" "ΣΟΦΙΑ".toList := ⟨Text.mem_cutAt_iff.1 (by decide), hlong⟩
  have hcontains : "ΣΟΦΙΑ".toList <:+: "ΦΙΛΟΣΟΦΙΑ".toList := ⟨"ΦΙΛΟ".toList, [], by decide⟩
  have hall := (literal_word_recalled hword hlong).1.2 hsettled
  exact ⟨hword, hlong, hsettled, hall _ _ 0 ⟨.worldKnowledge, "ΦΙΛΟΣΟΦΙΑ"⟩ htopic rfl hcontains⟩

/-- A memory that contains a word as it is written, and does not match it. -/
theorem literal_word_missed : ¬ ∀ ms topic word i m, TopicWord topic word →
    ms.reverse[i]? = some m → word <:+: m.text.toList → Recalls ms topic i m := by
  intro h
  have hword : TopicWord "ΦΩΣ" "ΦΩΣ".toList := ⟨Text.mem_cutAt_iff.1 (by decide), by decide⟩
  have hcontains : "ΦΩΣ".toList <:+: "ΦΩΣΦΟΡΟΣ".toList := ⟨[], "ΦΟΡΟΣ".toList, by decide⟩
  have hrecalls := h [⟨.worldKnowledge, "ΦΩΣΦΟΡΟΣ"⟩] "ΦΩΣ" _ 0 _ hword rfl hcontains
  have hnone : ¬ Memory.Matches ⟨.worldKnowledge, "ΦΩΣΦΟΡΟΣ"⟩ "ΦΩΣ" := by decide
  exact hnone (matches_of_recalls hrecalls)

end PostingTerminal.Store.Knowledge
