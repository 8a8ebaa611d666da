import PostingTerminal.Proofs.Attempt.Record

/-!
# The ids in the record

While an attempt runs the record holds the ids whose writes have landed, in the order in
which the platform yielded them.  A write that fails is not repeated, and the next one
appends without regard to it, so these ids need not be those of the leading segments.

* `recordsOf` — the writes of ids, each with whether it has landed.
* `stored_ids` — **which ids are in the record at every moment**, and when they are a prefix
  of those yielded so far: if no write has landed after one that failed, or the record has
  been finished; and, where no id is yielded twice, only then.
* `stored_ids_not_aligned` — the ids in the record are not always such a prefix.  One write
  that fails before another one lands is enough, and if the terminal write fails, too, the
  record stays as it is.
-/

namespace PostingTerminal.Attempt

open Store (Drafts)

/-! ## Writes that have landed -/

/-- The id that an event writes, and whether the write has landed. -/
def Event.record? : Event → Option (MessageId × Bool)
  | .recorded _ message (.ok _) => some (message, true)
  | .recorded _ message (.error _) => some (message, false)
  | _ => none

/-- The writes of ids, in order. -/
def recordsOf (events : List Event) : List (MessageId × Bool) := events.filterMap Event.record?

/-- The ids whose writes have landed. -/
def landedOf (records : List (MessageId × Bool)) : List MessageId :=
  (records.filter (·.2)).map (·.1)

/-- No write has landed after one that failed. -/
def LandInOrder (records : List (MessageId × Bool)) : Prop :=
  records.Pairwise fun earlier later => later.2 = true → earlier.2 = true

/-- Nothing is stored exactly if every write has failed. -/
theorem landedOf_eq_nil_iff {records : List (MessageId × Bool)} :
    landedOf records = [] ↔ ∀ r ∈ records, r.2 = false := by
  rw [landedOf, List.map_eq_nil_iff, List.filter_eq_nil_iff]
  simp

/-- Writes that land in order leave a prefix of the ids. -/
theorem LandInOrder.lead {records : List (MessageId × Bool)} (h : LandInOrder records) :
    landedOf records <+: records.map (·.1) := by
  induction records with
  | nil => exact List.prefix_refl []
  | cons r rest ih =>
    obtain ⟨hlater, hrest⟩ := List.pairwise_cons.1 h
    obtain ⟨message, landed⟩ := r
    cases landed with
    | true => exact List.cons_prefix_cons.2 ⟨rfl, ih hrest⟩
    | false =>
      have hnone : landedOf rest = [] := by
        rw [landedOf_eq_nil_iff]
        intro later hmem
        exact Bool.eq_false_iff.2 fun hlanded => Bool.false_ne_true (hlater later hmem hlanded)
      show landedOf rest <+: _
      rw [hnone]
      exact List.nil_prefix

/-- Where the first of the ids is not stored, no id that differs from it can be. -/
theorem landedOf_eq_nil_of_lead {records : List (MessageId × Bool)} {message : MessageId}
    {ids : List MessageId} (hnew : message ∉ records.map (·.1))
    (h : landedOf records <+: message :: ids) : landedOf records = [] := by
  cases hstored : landedOf records with
  | nil => rfl
  | cons first others =>
    rw [hstored] at h
    have hsame : first = message := (List.cons_prefix_cons.1 h).1
    have hmem : first ∈ landedOf records := hstored ▸ List.mem_cons_self
    obtain ⟨r, hr, hid⟩ := List.mem_map.1 hmem
    exact absurd (List.mem_map.2 ⟨r, (List.mem_filter.1 hr).1, hid.trans hsame⟩) hnew

/-- Writes that leave a prefix of ids which are all different have landed in order. -/
theorem landInOrder_of_lead {records : List (MessageId × Bool)}
    (hnodup : (records.map (·.1)).Nodup) (h : landedOf records <+: records.map (·.1)) :
    LandInOrder records := by
  induction records with
  | nil => exact .nil
  | cons r rest ih =>
    obtain ⟨message, landed⟩ := r
    have hrest := List.nodup_cons.1 hnodup
    cases landed with
    | true =>
      exact List.pairwise_cons.2
        ⟨fun _ _ _ => rfl, ih hrest.2 (List.cons_prefix_cons.1 h).2⟩
    | false =>
      have hnone : landedOf rest = [] := landedOf_eq_nil_of_lead hrest.1 h
      have hfailed := landedOf_eq_nil_iff.1 hnone
      refine List.pairwise_cons.2 ⟨fun later hmem hlanded => ?_, ih hrest.2 ?_⟩
      · rw [hfailed later hmem] at hlanded
        cases hlanded
      · rw [hnone]
        exact List.nil_prefix

/-! ## The ids in the record at a moment -/

/-- Whether the terminal write is among events and has landed. -/
def Finished (events : List Event) : Prop := ∃ d, .finalized d (.ok ()) ∈ events

/-- The writes of a list of events come before those of the next. -/
theorem recordsOf_append (events events' : List Event) :
    recordsOf (events ++ events') = recordsOf events ++ recordsOf events' :=
  List.filterMap_append

/-- Until the record is finished it has the ids whose writes have landed. -/
theorem storedOf_eq_landedOf {events : List Event} (h : ¬ Finished events) :
    storedOf events = landedOf (recordsOf events) := by
  have hfold (ids : List MessageId) :
      events.foldl Event.stored ids = ids ++ landedOf (recordsOf events) := by
    induction events generalizing ids with
    | nil => exact (List.append_nil ids).symm
    | cons e rest ih =>
      have hrest : ¬ Finished rest := fun ⟨d, hmem⟩ => h ⟨d, List.mem_cons_of_mem e hmem⟩
      rw [List.foldl_cons, ih hrest]
      cases e with
      | recorded id message answer =>
        cases answer with
        | error e => rfl
        | ok _ =>
          show ids ++ [message] ++ _ = ids ++ (message :: landedOf (recordsOf rest))
          rw [List.append_assoc]
          rfl
      | finalized d answer =>
        cases answer with
        | error e => rfl
        | ok _ => exact absurd ⟨d, List.mem_cons_self⟩ h
      | _ => rfl
  rw [storedOf, hfold, List.nil_append]

/-- In rounds there is a write of every id. -/
theorem Rounds.records {id : DraftId} {posted : List Segment} {ids : List MessageId}
    {events : List Event} (h : Rounds id posted ids events) :
    (recordsOf events).map (·.1) = ids := by
  induction h with
  | start => rfl
  | @round posted ids events x message time answer recorded remembered before yields ih =>
    rw [recordsOf_append, List.map_append, ih]
    cases recorded <;> rfl

section progress

variable {d : Draft} {events : List Event}

/-- When a draft is to be finished every id that was yielded has been written. -/
theorem Concluded.records_eq {status : DraftStatus} {ids : List MessageId} {message : String}
    (h : Concluded d status ids message events) :
    (recordsOf events).map (·.1) = yieldedOf events := by
  rw [h.yielded]
  cases h with
  | unstarted e => rfl
  | published h =>
    rw [recordsOf_append, List.map_append, h.records]
    rfl
  | stopped h left answered =>
    rw [recordsOf_append, recordsOf_append, List.map_append, List.map_append, h.records]
    exact List.append_nil _

/-- The ids that are written are those that were yielded, up to one that is yet to be
written. -/
theorem Progress.records_lead {stage : Stage} (h : Progress d stage events) :
    (recordsOf events).map (·.1) <+: yieldedOf events := by
  cases h with
  | opening => exact List.prefix_refl []
  | starting => exact List.prefix_refl []
  | posting h left =>
    rw [recordsOf_append, List.map_append, h.records, yieldedOf_append, h.yielded]
    exact List.prefix_refl _
  | @recording posted ids rounds x rest time answer message _ h left yields =>
    rw [recordsOf_append, recordsOf_append, List.map_append, List.map_append, h.records,
      yieldedOf_append, yieldedOf_append, h.yielded, yieldedOf_posted]
    show [] ++ ids ++ [] <+: [] ++ ids ++ _
    rw [List.append_nil]
    exact List.prefix_append _ _
  | @remembering posted ids rounds x rest time answer message recorded _ h left yields =>
    rw [recordsOf_append, recordsOf_append, List.map_append, List.map_append, h.records,
      yieldedOf_append, yieldedOf_append, h.yielded]
    show _ <+: _ ++ yieldedOf [.posted ⟨_, _, time, answer⟩]
    rw [yieldedOf_posted, yields]
    cases recorded <;> exact List.prefix_refl _
  | finishing h => exact h.records_eq ▸ List.prefix_refl _
  | ended h =>
    cases h with
    | unsaved e => exact List.prefix_refl []
    | finished h time answer =>
      rw [recordsOf_append, List.map_append, h.records_eq, yieldedOf_append]
      exact List.prefix_refl _
    | lost h left halt =>
      rw [recordsOf_append, recordsOf_append, List.map_append, List.map_append, h.records,
        yieldedOf_append, yieldedOf_append, h.yielded, yieldedOf_posted]
      exact List.prefix_refl _

/-- An attempt that has finished its record has made its last call. -/
theorem finished_last {start m : Moment} (h : Reaches start events m) (hfinished : Finished events) :
    ∃ before d, events = before ++ [.finalized d (.ok ())] := by
  induction h with
  | here =>
    obtain ⟨d, hmem⟩ := hfinished
    cases hmem
  | @step events m e m' before hstep ih =>
    obtain ⟨d, hmem⟩ := hfinished
    rcases List.mem_append.1 hmem with hmem | hmem
    · obtain ⟨earlier, d', rfl⟩ := ih ⟨d, hmem⟩
      obtain ⟨m₀, -, hlast⟩ := before.last
      cases hlast
      cases hstep
    · rw [List.mem_singleton] at hmem
      exact ⟨events, d, by rw [← hmem]⟩

/-- A record that has been finished has every id that was yielded. -/
theorem storedOf_of_finished {topic : Option String} {segments : List Segment} {s : Session}
    {m : Moment} (h : Reaches (first topic segments s) events m) (hfinished : Finished events) :
    storedOf events = yieldedOf events := by
  obtain ⟨before, d, rfl⟩ := finished_last h hfinished
  obtain ⟨m₀, hbefore, hlast⟩ := h.last
  rw [storedOf_concat, yieldedOf_append]
  cases hlast with
  | finalize hcall =>
    cases progress_of_reaches hbefore with
    | @finishing status ids _ _ _ hconcluded =>
      rw [hconcluded.yielded]
      exact (List.append_nil ids).symm

end progress

/-- **The ids in the record.**  Let the calls that write a draft leave the store as it was
where they fail.  At every moment of an attempt since its record has been begun, by a
clock that shows times that can be written, the store gives back a record whose ids are those
that the writes have left in it.  They are a prefix of the ids that the platform has yielded so far if the writes
of ids have landed in order or the record has been finished, and if the platform yields no
id twice, then only if this is so. -/
theorem stored_ids {topic : Option String} {segments : List Segment} {s : Session} {m : Moment}
    {events : List Event} (hclock : ∀ n, s.clock n ≤ Json.maxWord)
    (hclean : CleanFaults s.faults)
    (hpath : Reaches (first topic segments s) events m)
    (hpersisted : .persisted (draftOf topic segments s) (.ok ()) ∈ events) :
    ∃ r, (Drafts.fetch (draftOf topic segments s).id m.session.drafts).1 = .ok (some r) ∧
      r.messageIds = storedOf events ∧
      (LandInOrder (recordsOf events) ∨ Finished events →
        r.messageIds <+: yieldedOf events) ∧
      ((yieldedOf events).Nodup → r.messageIds <+: yieldedOf events →
        LandInOrder (recordsOf events) ∨ Finished events) := by
  obtain ⟨status, ids, ⟨time, hkeeps⟩, -, hstored⟩ := kept_of_reaches hpath hclock hpersisted
  have hids : ids = storedOf events := by
    apply hstored
    rw [hpath.notes_first.faults]
    exact hclean
  have hrecords := (progress_of_reaches hpath).records_lead
  refine ⟨(draftOf topic segments s).standing status ids time, hkeeps.fetch, hids, ?_, ?_⟩
  · show _ → ids <+: _
    rw [hids]
    intro h
    by_cases hfinished : Finished events
    · exact storedOf_of_finished hpath hfinished ▸ List.prefix_refl _
    · rw [storedOf_eq_landedOf hfinished]
      exact (h.resolve_right hfinished).lead.trans hrecords
  · show _ → ids <+: _ → _
    rw [hids]
    intro hnodup hprefix
    by_cases hfinished : Finished events
    · exact .inr hfinished
    · rw [storedOf_eq_landedOf hfinished] at hprefix
      have hshort : (landedOf (recordsOf events)).length
          ≤ ((recordsOf events).map (·.1)).length := by
        rw [landedOf, List.length_map, List.length_map]
        exact List.length_filter_le _ _
      exact .inl (landInOrder_of_lead (hnodup.sublist hrecords.sublist)
        (List.prefix_of_prefix_length_le hprefix hrecords hshort))

/-! ## A gap in the record -/

/-- Three segments to post. -/
def threeSegments : List Segment := [.ofText "a", .ofText "b", .ofText "c"]

/-- A session in which the second id cannot be written, and no record can be finished. -/
def gapSession : Session :=
  emptySession (.scripted .posting) fun m n =>
    if (m = .record ∧ n = 1) ∨ m = .finalize then some ⟨false, .handler "full"⟩ else none

/-- Where a write fails there the store is left as it was. -/
theorem cleanFaults_gapSession : CleanFaults gapSession.faults := by
  intro m _ n fault h
  simp only [gapSession, emptySession, Session.start] at h
  split at h
  · cases h
    rfl
  · cases h

/-- All three segments are posted there. -/
theorem gapSession_reaches :
    ∃ events, Reaches (first none threeSegments gapSession) events
        (.ofResult (publishAbout none threeSegments gapSession)) ∧
      .persisted (draftOf none threeSegments gapSession) (.ok ()) ∈ events ∧
      yieldedOf events = [⟨"msg_0"⟩, ⟨"msg_1"⟩, ⟨"msg_2"⟩] := by
  have haccepted : rejection? gapSession.settings.thread.maxSegmentChars threeSegments = none := by
    decide +kernel
  obtain ⟨events, hpath⟩ := publishAbout_reaches none haccepted
  have hcourse := course_of_reaches hpath
  refine ⟨events, hpath, ?_, ?_⟩
  · obtain ⟨rest, -, rfl⟩ := hpath.of_step (.persist rfl) hcourse.ne_nil
    exact List.mem_cons_self
  · have hposted : (publishAbout none threeSegments gapSession).1.toOption.map (·.messageIds)
        = some [⟨"msg_0"⟩, ⟨"msg_1"⟩, ⟨"msg_2"⟩] := by decide +kernel
    rcases hrun : (publishAbout none threeSegments gapSession).1 with halt | p
    · rw [hrun] at hposted
      cases hposted
    · rw [hrun] at hposted hcourse
      rw [← hcourse.yielded]
      exact Option.some.inj hposted

/-- The record there, after the last call. -/
theorem gapSession_fetch :
    (Drafts.fetch (draftOf none threeSegments gapSession).id
        (Moment.ofResult (publishAbout none threeSegments gapSession)).session.drafts).1.toOption
      = some (some ((draftOf none threeSegments gapSession).standing .publishing
        [⟨"msg_0"⟩, ⟨"msg_2"⟩] 0)) := by
  decide +kernel

/-- The record there is the one that the writes of ids have left. -/
theorem stored_ids_gap :
    ∃ events, Reaches (first none threeSegments gapSession) events
        (.ofResult (publishAbout none threeSegments gapSession)) ∧
      ∃ r, (Drafts.fetch (draftOf none threeSegments gapSession).id
          (Moment.ofResult (publishAbout none threeSegments gapSession)).session.drafts).1
            = .ok (some r) ∧
        r.messageIds = storedOf events := by
  obtain ⟨events, hpath, hpersisted, -⟩ := gapSession_reaches
  obtain ⟨r, hfetch, hids, -⟩ :=
    stored_ids (fun _ => Nat.zero_le _) cleanFaults_gapSession hpath hpersisted
  exact ⟨events, hpath, r, hfetch, hids⟩

/-- **The ids in the record are not always a prefix** of those that have been yielded, though
a write that fails changes nothing. -/
theorem stored_ids_not_aligned :
    ¬ ∀ (topic : Option String) (segments : List Segment) (s : Session) (events : List Event)
      (m : Moment), (∀ n, s.clock n ≤ Json.maxWord) → CleanFaults s.faults →
      Reaches (first topic segments s) events m →
      .persisted (draftOf topic segments s) (.ok ()) ∈ events →
      ∃ r, (Drafts.fetch (draftOf topic segments s).id m.session.drafts).1 = .ok (some r) ∧
        r.messageIds <+: yieldedOf events := by
  intro h
  obtain ⟨events, hpath, hpersisted, hyielded⟩ := gapSession_reaches
  obtain ⟨r, hfetch, hprefix⟩ :=
    h none threeSegments gapSession events _ (fun _ => Nat.zero_le _) cleanFaults_gapSession hpath
      hpersisted
  have hstored := gapSession_fetch
  rw [hfetch] at hstored
  have hr := Option.some.inj (Option.some.inj hstored)
  rw [hr, hyielded] at hprefix
  exact absurd hprefix (by decide)

end PostingTerminal.Attempt
