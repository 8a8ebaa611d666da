import PostingTerminal.Proofs.Draft.Codec
import PostingTerminal.Proofs.Json.Range

/-!
# Drafts and their texts

* `texts_faithful` — **a draft is known from its text**: both of its texts, the compact one and
  the one that a store writes, give it back, and no other draft has either of them.
* `fitsWord_of_ofText` — conversely a draft that has been read off any text is one that can be
  written again.
-/

namespace PostingTerminal

open Json

/-- **A draft is known from its text.**  It is read back from its compact text and from its pretty
one, whatever its strings hold and however its lists are filled, if its times have 64 bits.  So
another draft has other texts. -/
theorem texts_faithful {d : Draft} (h : d.FitsWord) :
    Draft.ofText d.toJson.compactText = .ok d ∧ Draft.ofText d.toJson.prettyText = .ok d ∧
      ∀ d' : Draft, d'.FitsWord → d' ≠ d → d'.toJson.compactText ≠ d.toJson.compactText ∧
        d'.toJson.prettyText ≠ d.toJson.prettyText := by
  -- both texts are the draft in a layout
  have hcompact {d : Draft} (h : d.FitsWord) : Draft.ofText d.toJson.compactText = .ok d :=
    ofText_layout Layout.compact h
  refine ⟨hcompact h, ofText_prettyText h, ?_⟩
  intro d' h' hne
  constructor <;> intro htext <;> apply hne
  · have hread := hcompact h'
    rw [htext, hcompact h] at hread
    exact (Except.ok.inj hread).symm
  · have hread := ofText_prettyText h'
    rw [htext, ofText_prettyText h] at hread
    exact (Except.ok.inj hread).symm

/-- A draft whose text has characters to escape, members to leave out and the largest time. -/
def awkwardDraft : Draft where
  id := ⟨"draft_\"1\"\\"⟩
  topic := none
  segments := [⟨"a\n\u0000\u2028\ufffe😀", true, ["u\t"]⟩, .ofText ""]
  status := .failed
  messageIds := [⟨"]"⟩]
  createdAt := 0
  updatedAt := maxWord

/-- It is told apart from the draft whose topic is there and empty. -/
theorem texts_faithful_awkward :
    Draft.ofText awkwardDraft.toJson.prettyText = .ok awkwardDraft ∧
      { awkwardDraft with topic := some "" }.toJson.prettyText
        ≠ awkwardDraft.toJson.prettyText := by
  have hfits : awkwardDraft.FitsWord := ⟨Nat.zero_le _, Nat.le_refl _⟩
  obtain ⟨-, hread, hother⟩ := texts_faithful hfits
  exact ⟨hread, (hother _ ⟨Nat.zero_le _, Nat.le_refl _⟩ (by decide)).2⟩

/-- Putting in a member keeps the times of a draft within 64 bits. -/
theorem fitsWord_of_member (m : Member Draft) (hm : m ∈ Draft.record.members) :
    m.Keeps Draft.FitsWord := by
  -- all but the last two members leave both times
  have hleft {β : Type} (d : Decoder β) (put : β → Draft → Draft)
      (hput : ∀ v d, (put v d).createdAt = d.createdAt ∧ (put v d).updatedAt = d.updatedAt) :
      (d.map put).Gives fun put => ∀ d, d.FitsWord → (put d).FitsWord := by
    refine (Decoder.gives_true d).map put fun v _ d hd => ?_
    obtain ⟨hcreated, hupdated⟩ := hput v d
    exact ⟨by rw [hcreated]; exact hd.createdAt, by rw [hupdated]; exact hd.updatedAt⟩
  simp only [Draft.record, List.mem_cons, List.not_mem_nil, or_false] at hm
  rcases hm with rfl | rfl | rfl | rfl | rfl | rfl | rfl
  · exact hleft _ _ fun _ _ => ⟨rfl, rfl⟩
  · exact hleft _ _ fun _ _ => ⟨rfl, rfl⟩
  · exact hleft _ _ fun _ _ => ⟨rfl, rfl⟩
  · exact hleft _ _ fun _ _ => ⟨rfl, rfl⟩
  · exact hleft _ _ fun _ _ => ⟨rfl, rfl⟩
  · exact (natural_gives "u64").map _ fun n hn d hd => ⟨hn, hd.updatedAt⟩
  · exact (natural_gives "u64").map _ fun n hn d hd => ⟨hd.createdAt, hn⟩

/-- **A draft that has been read can be written again**: its times fit into 64 bits. -/
theorem fitsWord_of_ofText {text : String} {d : Draft} (h : Draft.ofText text = .ok d) :
    d.FitsWord := by
  have hgives : Draft.decoder.Gives Draft.FitsWord :=
    Record.gives ⟨Nat.zero_le _, Nat.zero_le _⟩ fitsWord_of_member
  unfold Draft.ofText at h
  split at h
  · cases h
  · next hread =>
    cases h
    exact hgives.fromText hread

end PostingTerminal
