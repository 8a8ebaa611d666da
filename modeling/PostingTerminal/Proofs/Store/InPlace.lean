import PostingTerminal.Proofs.Store.Rewriting

/-!
# Which file a request changes

A request about an id reads the file of that id, but what it makes of the draft there goes to the
file of the id that the draft carries.  In a directory that only this store has written the two
are the same; in any other they need not be.

* `InPlace`, `LedAway` — a request changes the file of its id, or a draft in it that carries another
  id leads it away from there.
* `in_place_iff` — **a request works in place** exactly if the draft that it changes carries the
  id that the request is about, or one that cannot name a file.  Otherwise the request is granted,
  but the draft stays as it was, and the changed one is put under the id that it carries.

No access fails here.
-/

namespace PostingTerminal.Store.Drafts

variable {dir : Directory} {now : Timestamp} {r : Request}

/-- A request has worked in place: only the file of its id may have changed, and the temporary
one, and if it has been granted, then the draft under its id is what it makes of the one that
was there. -/
structure InPlace (dir : Directory) (now : Timestamp) (r : Request) (reply : Reply)
    (dir' : Directory) : Prop where
  frame {name : String} (hfile : name ≠ fileName r.target)
    (htemporary : name ≠ temporaryName r.target) : dir'.file? name = dir.file? name
  applied (h : reply = .done) : ∃ previous new, Turns .none dir now r previous new ∧
    (FileDrafts.fetch .none r.target dir').1 = .ok (some new)

/-- A request is led away: the draft that it changes carries another id than the one that it is
about, and that id can name a file. -/
structure LedAway (dir : Directory) (now : Timestamp) (r : Request) (old new : Draft) : Prop where
  turns : Turns .none dir now r (some old) new
  admitted : Admitted old.id
  elsewhere : old.id ≠ r.target

variable {dir' : Directory} {reply : Reply} {previous : Option Draft} {old new : Draft}

/-- A request that makes no draft works in place: it changes no file. -/
theorem InPlace.of_unchanged (hreply : reply ≠ .done) (hfiles : dir'.files = dir.files) :
    InPlace dir now r reply dir' where
  frame _ _ := Directory.file?_congr hfiles _
  applied h := absurd h hreply

/-- The draft that a request makes is written to another file only if it is led away. -/
theorem Turns.id_eq (h : Turns .none dir now r previous new) (hadmitted : Admitted new.id)
    (hled : ∀ old new, ¬ LedAway dir now r old new) : new.id = r.target := by
  cases previous with
  | none => exact h.makes.id_of_none
  | some old =>
    have hid := h.makes.id_of_some
    rw [hid] at hadmitted ⊢
    exact Decidable.byContradiction fun hne => hled old new ⟨h, hadmitted, hne⟩

/-- A draft that goes to the file of the id that the request is about is written in place. -/
theorem Turns.inPlace (h : Turns .none dir now r previous new)
    (hfits : (Event.request r now).Fits) (hled : ∀ old new, ¬ LedAway dir now r old new) (hfiles : dir'.files = dir.files) :
    InPlace dir now r (.ofWrite (FileDrafts.save .none new dir').1)
      (FileDrafts.save .none new dir').2 := by
  by_cases hadmitted : Admitted new.id
  · have hid := h.id_eq hadmitted hled
    have hsaved : (FileDrafts.save .none new dir').1 = .ok () :=
      FileDrafts.save_admitted dir' hadmitted
    obtain ⟨-, hwritten⟩ := FileDrafts.written_of_save hsaved
    constructor
    · intro name hfile htemporary
      rw [← hid] at hfile htemporary
      rw [hwritten.file?_of_ne htemporary, if_neg hfile, Directory.file?_congr hfiles]
    · intro _
      refine ⟨previous, new, h, ?_⟩
      rw [← hid, (FileDrafts.keeps_save hsaved (h.fitsWord hfits)).fetch_eq]
  · obtain ⟨e, dir'', hsave, hfiles'⟩ := FileDrafts.save_not_admitted .none dir' hadmitted
    rw [hsave]
    exact .of_unchanged (by rintro ⟨⟩) (hfiles'.trans hfiles)

/-- **Where a request is led away** it is granted, but the draft that it makes is put under the
id that it carries, and no other file changes. -/
theorem LedAway.answer (h : LedAway dir now r old new) :
    ∃ dir', (Drafts.files dir).answer now r = (.done, .files dir') ∧
      ∀ name, name ≠ temporaryName old.id → dir'.file? name
        = if name = fileName old.id then some (.text new.toJson.prettyText)
          else dir.file? name := by
  obtain ⟨_, _, -, -, -, hnone⟩ | ⟨previous, new', dir', hturns, hfiles, hanswer⟩ :=
    FileDrafts.rewrites_answer .none dir now r
  · exact absurd h.turns (hnone _ _)
  · obtain ⟨-, rfl⟩ := h.turns.deterministic hturns
    have hid := h.turns.makes.id_of_some
    have hadmitted : Admitted new.id := by
      rw [hid]
      exact h.admitted
    have hsaved : (FileDrafts.save .none new dir').1 = .ok () :=
      FileDrafts.save_admitted dir' hadmitted
    obtain ⟨-, hwritten⟩ := FileDrafts.written_of_save hsaved
    refine ⟨(FileDrafts.save .none new dir').2, ?_, fun name hname => ?_⟩
    · rw [answer_files_eq, hanswer, Prod.map_fst, hsaved]
      rfl
    · rw [← hid] at hname ⊢
      rw [hwritten.file?_of_ne hname, Directory.file?_congr hfiles]

/-- A request that is led away does not work in place: the draft that is read under its id
afterwards is the one from before. -/
theorem LedAway.not_inPlace (h : LedAway dir now r old new)
    (hanswer : (Drafts.files dir).answer now r = (reply, .files dir')) :
    ¬ InPlace dir now r reply dir' := by
  intro hinPlace
  obtain ⟨dir'', hanswer', htexts⟩ := h.answer
  obtain ⟨rfl, hdir⟩ := Prod.mk.inj (hanswer.symm.trans hanswer')
  cases hdir
  obtain ⟨previous, new', hturns, hread⟩ := hinPlace.applied rfl
  obtain ⟨-, rfl⟩ := h.turns.deterministic hturns
  have hkept := htexts _ (fileName_ne_temporaryName r.target old.id)
  rw [if_neg fun hname => h.elsewhere (fileName_injective hname).symm] at hkept
  rw [FileDrafts.fetch_congr hkept, h.turns.found] at hread
  exact h.turns.makes.ne (Option.some.inj (Except.ok.inj hread)).symm

/-- **A request works in place unless it is led away**, whatever the files of the directory hold:
it changes no file but that of its id, and the temporary one, and if it is granted, then the
draft under its id is what it makes of the one before.  Where the draft that it changes carries
another id, one that can name a file, the request is granted, its own file stays as it was, and
what it makes is put under the other id. -/
theorem in_place_iff (dir : Directory) (hfits : (Event.request r now).Fits) :
    ∃ reply dir', (Drafts.files dir).answer now r = (reply, .files dir') ∧
      (InPlace dir now r reply dir' ↔ ∀ old new, ¬ LedAway dir now r old new) ∧
      ∀ old new, LedAway dir now r old new → reply = .done ∧
        ∀ name, name ≠ temporaryName old.id → dir'.file? name
          = if name = fileName old.id then some (.text new.toJson.prettyText)
            else dir.file? name := by
  have hinPlace (hled : ∀ old new, ¬ LedAway dir now r old new) :
      InPlace dir now r (FileDrafts.answer .none dir now r).1
        (FileDrafts.answer .none dir now r).2 := by
    obtain ⟨_, dir', heq, hreply, hfiles, -⟩ | ⟨_, new, dir', hturns, hfiles, heq⟩ :=
      FileDrafts.rewrites_answer .none dir now r
    · rw [heq]
      exact .of_unchanged hreply hfiles
    · rw [heq]
      exact hturns.inPlace hfits hled hfiles
  have hanswer := answer_files_eq dir now r
  refine ⟨_, _, hanswer, ⟨?_, hinPlace⟩, ?_⟩
  · intro h old new hled
    exact hled.not_inPlace hanswer h
  · intro old new hled
    obtain ⟨dir'', hanswer', htexts⟩ := hled.answer
    obtain ⟨hreply, hstore⟩ := Prod.mk.inj (hanswer.symm.trans hanswer')
    rw [Drafts.files.inj hstore]
    exact ⟨hreply, htexts⟩

/-- A draft that carries the id `b`. -/
def strayDraft : Draft := ⟨⟨"b"⟩, none, [.ofText "one"], .draft, [], 0, 0⟩

/-- A directory where it is found in the file of `a`. -/
def strayDirectory : Directory := ⟨[("a.json", .text strayDraft.toJson.prettyText)], []⟩

/-- A request that moves the draft `a` on is led away to `b`. -/
theorem ledAway_stray : LedAway strayDirectory 7 (.update ⟨"a"⟩ .publishing) strayDraft
    { strayDraft with status := .publishing, updatedAt := 7 } where
  turns := by
    refine ⟨?_, .changed rfl rfl⟩
    have hadmitted : Admitted ⟨"a"⟩ := by constructor <;> decide
    have hread : (FileDrafts.fetch .none ⟨"a"⟩ strayDirectory).1
        = (Draft.ofText strayDraft.toJson.prettyText).map some :=
      FileDrafts.fetch_of_text hadmitted.1 (admits_fileName hadmitted.2) rfl
    rw [ofText_prettyText ⟨Nat.zero_le _, Nat.zero_le _⟩] at hread
    exact hread
  admitted := by constructor <;> decide
  elsewhere := by decide

/-- The request is granted, and the file of `a` still holds the draft as it was; the file of `b`
has not been there before. -/
theorem in_place_iff_stray : ∃ dir',
    (Drafts.files strayDirectory).answer 7 (.update ⟨"a"⟩ .publishing) = (.done, .files dir') ∧
      dir'.file? "a.json" = some (.text strayDraft.toJson.prettyText) ∧
      strayDirectory.file? "b.json" = none ∧ dir'.file? "b.json" ≠ none := by
  have hfits : (Event.request (.update ⟨"a"⟩ .publishing) 7).Fits :=
    ⟨fun d hd => (by cases hd), by decide⟩
  obtain ⟨reply, dir', hanswer, -, hled⟩ := in_place_iff strayDirectory hfits
  obtain ⟨rfl, htexts⟩ := hled _ _ ledAway_stray
  refine ⟨dir', hanswer, ?_, by decide, ?_⟩
  · rw [htexts "a.json" (by decide), if_neg (by decide)]
    rfl
  · rw [htexts "b.json" (by decide), if_pos (by decide)]
    exact Option.some_ne_none _

/-- Hence not every request that is granted works in place. -/
theorem not_always_in_place : ¬ ∀ dir now r, (Event.request r now).Fits → ∃ reply dir',
    (Drafts.files dir).answer now r = (reply, .files dir') ∧ InPlace dir now r reply dir' := by
  intro h
  obtain ⟨reply, dir', hanswer, hinPlace⟩ :=
    h strayDirectory 7 (.update ⟨"a"⟩ .publishing) ⟨fun d hd => (by cases hd), by decide⟩
  exact ledAway_stray.not_inPlace hanswer hinPlace

end PostingTerminal.Store.Drafts
