import PostingTerminal.Proofs.Terminal.Context
import PostingTerminal.Proofs.Terminal.Dispatch

/-!
# What a batch leaves in the transcript

Every input of a batch is run and then logged, whatever has come of it, and what a command reads
of the transcript is what the inputs before it have left there.

* `Executed.entry` — the entry that an execution is logged as.
* `Logged` — entries are those of executions, and each has the time that the clock showed when it
  was appended.
* `runInput_quiet` — running an input logs nothing, does not crash, and stalls only where the
  platform or the generator never answers.
* `execute_logs`, `executeAll_logs` — **an execution adds one entry to the transcript**, and so
  executions add one each.
* `batch_transcript` — **transcript, output of a batch and context of content generation agree**.
-/

namespace PostingTerminal.Terminal

open CommandLine (Registry Args)
open Run (Quiet)
open Store (Entry history lastEntries)

/-- The entry that an execution is logged as at a time. -/
def Executed.entry (now : Timestamp) (e : Executed) : Entry := ⟨e.command, e.output, now⟩

/-- An entry has been appended at the time in it: so much the clock showed before the call. -/
def Stamped (s : Session) (e : Entry) : Prop :=
  ∃ n, s.journal[n]? = some (.append e) ∧ e.time = s.clock n

/-- Entries are those of executions, in order, and have been appended at the times in them. -/
structure Logged (s : Session) (results : List Executed) (entries : List Entry) : Prop where
  lines : entries.map (fun e => (e.input, e.output)) = results.map fun e => (e.command, e.output)
  times : ∀ e ∈ entries, Stamped s e

/-- An entry that has been appended stays so. -/
theorem Stamped.of_notes {s s' : Session} {calls : List Call} {e : Entry} (h : Stamped s e)
    (hnotes : s.Notes s' calls) : Stamped s' e := by
  obtain ⟨n, happend, htime⟩ := h
  refine ⟨n, ?_, by rw [hnotes.clock, htime]⟩
  rw [hnotes.journal, List.getElem?_append_left (List.getElem?_eq_some_iff.1 happend).1]
  exact happend

/-- No executions have no entries. -/
theorem Logged.nil (s : Session) : Logged s [] [] := ⟨rfl, nofun⟩

/-- The entry of an execution goes before those of others. -/
theorem Logged.cons {s : Session} {executed : Executed} {time : Timestamp}
    {results : List Executed} {entries : List Entry} (hfirst : Stamped s (executed.entry time))
    (h : Logged s results entries) :
    Logged s (executed :: results) (executed.entry time :: entries) :=
  ⟨congrArg (_ :: ·) h.lines, List.forall_mem_cons.2 ⟨hfirst, h.times⟩⟩

/-- Entries of executions have their number. -/
theorem Logged.length_eq {s : Session} {results : List Executed} {entries : List Entry}
    (h : Logged s results entries) : entries.length = results.length := by
  have hlength := congrArg List.length h.lines
  rwa [List.length_map, List.length_map] at hlength

/-- Entries of executions stay so. -/
theorem Logged.of_notes {s s' : Session} {calls : List Call} {results : List Executed}
    {entries : List Entry} (h : Logged s results entries) (hnotes : s.Notes s' calls) :
    Logged s' results entries :=
  ⟨h.lines, fun e he => (h.times e he).of_notes hnotes⟩

/-- Executions and their entries are shown alike. -/
theorem Logged.batch {s : Session} {results : List Executed} {entries : List Entry}
    (h : Logged s results entries) :
    (Batch.ofExecuted results).output = history entries ∧
      (Batch.ofExecuted results).commands = entries.map (·.input) := by
  have hshown := congrArg (List.map fun line => "$ " ++ line.1 ++ "\n" ++ line.2) h.lines
  have hinputs := congrArg (List.map Prod.fst) h.lines
  simp only [List.map_map] at hshown hinputs
  exact ⟨congrArg (String.intercalate "\n\n") hshown.symm, hinputs.symm⟩

/-- The transcript of a session takes every entry, and can be read. -/
def Clean (s : Session) : Prop := ∀ n, s.faults .append n = none ∧ s.faults .recent n = none

/-- Which calls fail is all that this depends on. -/
theorem Clean.of_faults {s s' : Session} (h : Clean s) (hfaults : s'.faults = s.faults) :
    Clean s' := by
  unfold Clean
  rw [hfaults]
  exact h

/-! ## Running an input -/

section run

variable {s s' : Session} {raw : String}

/-- A quiet run stays quiet when its crash is contained. -/
theorem quiet_contained {α : Type} {run : Run (Except Error α)} (h : Quiet run s) :
    Quiet (contained run) s := by
  have hcontained := contained_eq run s
  rcases hrun : run s with ⟨(_ | _) | result, s'⟩
  all_goals
    rw [hrun] at hcontained
    obtain ⟨haside, hawaits⟩ := h.outcome hrun
  · exact .of_eq hcontained haside nofun
  · exact .of_eq hcontained haside fun _ => hawaits rfl
  · exact .of_eq hcontained haside nofun

/-- A contained run does not crash. -/
theorem contained_ne_crashed {α : Type} (run : Run (Except Error α)) (s : Session) :
    (contained run s).1 ≠ .error .crashed := by
  rw [contained_eq]
  rcases run s with ⟨(_ | _) | result, s'⟩ <;> nofun

/-- The command that an input names is quiet. -/
theorem quiet_action {line : String} {command : CommandLine.Command Action} {values : Args}
    (h : Names builtins raw line command values) (hs : Clean s) :
    Quiet (command.action.run builtins values) s := by
  rcases h.command_cases with rfl | rfl | rfl
  · exact Run.quiet_pure _ s
  · exact quiet_createThread values fun n => (hs n).2
  · exact quiet_threadStatus values s

/-- **Running an input** logs nothing and does not crash, and it stalls only where the platform
or the generator never answers. -/
theorem runInput_quiet (hs : Clean s) (raw : String) :
    Quiet (runInput builtins raw) s ∧ (runInput builtins raw s).1 ≠ .error .crashed := by
  rcases runInput_cases builtins raw with ⟨executed, hrun⟩ | ⟨line, command, values, hnames⟩
  · rw [hrun]
    exact ⟨Run.quiet_pure executed s, nofun⟩
  · rw [runInput_of_names hnames]
    have hquiet := quiet_action hnames hs
    refine ⟨(quiet_contained hquiet).bind fun _ s _ => Run.quiet_pure _ s, ?_⟩
    unfold perform
    have hcrashed := contained_ne_crashed (command.action.run builtins values) s
    rcases hrun : contained (command.action.run builtins values) s with ⟨halt | result, s'⟩
    · rw [hrun] at hcrashed
      rw [Run.bind_error hrun]
      intro h
      cases h
      exact hcrashed rfl
    · rw [Run.bind_ok hrun]
      nofun

end run

/-! ## One input after the other -/

section executions

variable {registry : Registry Action} {s s' : Session}

/-- Executing inputs one after the other. -/
theorem executeAll_cons (registry : Registry Action) (raw : String) (raws : List String) :
    executeAll registry (raw :: raws) = do
      let executed ← execute registry raw
      let results ← executeAll registry raws
      return executed :: results := List.mapM_cons

/-- An execution that is followed by others. -/
theorem executeAll_ok {raw : String} {raws : List String} {executed : Executed}
    {results : List Executed} {s₁ : Session}
    (h : execute registry raw s = (.ok executed, s₁))
    (hrest : executeAll registry raws s₁ = (.ok results, s')) :
    executeAll registry (raw :: raws) s = (.ok (executed :: results), s') := by
  rw [executeAll_cons, Run.bind_ok h, Run.bind_ok hrest]
  rfl

/-- Inputs executed after others are executed on what those have left. -/
theorem executeAll_append {raws₁ raws₂ : List String} {results : List Executed} {s₁ : Session}
    (h : executeAll registry raws₁ s = (.ok results, s₁)) :
    (executeAll registry (raws₁ ++ raws₂) s).2 = (executeAll registry raws₂ s₁).2 := by
  have happend : executeAll registry (raws₁ ++ raws₂) = do
      let results₁ ← executeAll registry raws₁
      let results₂ ← executeAll registry raws₂
      return results₁ ++ results₂ := List.mapM_append
  rw [happend, Run.bind_ok h]
  rcases hrest : executeAll registry raws₂ s₁ with ⟨halt | results₂, s₂⟩
  · rw [Run.bind_error hrest]
  · rw [Run.bind_ok hrest]
    rfl

/-- The executions of a batch. -/
theorem executeBatch_eq (registry : Registry Action) (raws : List String) (s : Session) :
    executeBatch registry raws s = match executeAll registry raws s with
      | (.error halt, s') => (.error halt, s')
      | (.ok results, s') => (.ok (.ofExecuted results), s') := by
  unfold executeBatch
  rcases hall : executeAll registry raws s with ⟨halt | results, s'⟩
  · rw [Run.bind_error hall]
  · rw [Run.bind_ok hall]
    rfl

/-- A batch leaves what its executions leave. -/
theorem executeBatch_session (registry : Registry Action) (raws : List String) (s : Session) :
    (executeBatch registry raws s).2 = (executeAll registry raws s).2 := by
  rw [executeBatch_eq]
  rcases executeAll registry raws s with ⟨_ | _, _⟩ <;> rfl

end executions

/-! ## What executions log -/

/-- What an execution leaves of a session over a transcript in memory: one entry more, or none if
it has stalled. -/
def Logs (s : Session) (prior : List Entry) : Except Halt Executed × Session → Prop
  | (.ok executed, s') => s.Shows s' ∧ ∃ time, Stamped s' (executed.entry time) ∧
      s'.transcript = .memory (prior ++ [executed.entry time])
  | (.error halt, s') =>
    s.Shows s' ∧ s'.transcript = .memory prior ∧ halt = .stalled ∧ s'.Awaits

section execute

variable {s s' : Session} {prior : List Entry}

/-- Whether or not it has stalled, an execution shows what the session does. -/
theorem Logs.shows {outcome : Except Halt Executed × Session} (h : Logs s prior outcome) :
    s.Shows outcome.2 := by
  obtain ⟨_ | _, _⟩ := outcome <;> exact h.1

/-- **An execution adds one entry to the transcript**, unless it stalls. -/
theorem execute_logs (hs : Clean s) (hprior : s.transcript = .memory prior) (raw : String) :
    Logs s prior (execute builtins raw s) := by
  obtain ⟨hquiet, hcrashed⟩ := runInput_quiet hs raw
  rcases hrun : runInput builtins raw s with ⟨halt | executed, s₁⟩
  all_goals
    obtain ⟨haside, hawaits⟩ := hquiet.outcome hrun
    have htranscript := haside.transcript.trans hprior
    rw [hrun] at hcrashed
  · rw [execute_eq]
    unfold logged
    rw [Run.bind_error hrun]
    cases halt with
    | crashed => exact absurd rfl hcrashed
    | stalled => exact ⟨haside.shows, htranscript, rfl, hawaits rfl⟩
  · obtain ⟨answer, s', hlogged, hmakes⟩ := logged_ok hrun
    have hfault : s₁.faults .append (s₁.callCount .append) = none := by
      rw [haside.shows.faults]
      exact (hs _).1
    rw [execute_eq, hlogged]
    cases hmakes with
    | failed hsome | lost hsome =>
      rw [hfault] at hsome
      cases hsome
    | made =>
      refine ⟨haside.shows_trans (.of_call (c := executed.log s₁.now) ?_ rfl), s₁.now, ?_, ?_⟩
      · exact ⟨rfl, rfl, rfl, rfl⟩
      · exact ⟨s₁.journal.length, List.getElem?_concat_length, rfl⟩
      · show (s₁.transcript.append (executed.entry s₁.now)).2 = _
        rw [htranscript]
        rfl

/-- What executions leave of a session over a transcript in memory: one entry for each of them,
up to the one that has stalled, if one has. -/
def LogsAll (s : Session) (prior : List Entry) (raws : List String) :
    Except Halt (List Executed) × Session → Prop
  | (.ok results, s') => (∃ calls, s.Notes s' calls) ∧ results.length = raws.length ∧
      ∃ entries, Logged s' results entries ∧ s'.transcript = .memory (prior ++ entries)
  | (.error halt, s') => (∃ calls, s.Notes s' calls) ∧ halt = .stalled ∧ s'.Awaits ∧
      ∃ before raw after results s₁ entries, raws = before ++ raw :: after ∧
        executeAll builtins before s = (.ok results, s₁) ∧
        execute builtins raw s₁ = (.error .stalled, s') ∧
        Logged s' results entries ∧ s'.transcript = .memory (prior ++ entries)

/-- **Executions add one entry each**, in order. -/
theorem executeAll_logs (hs : Clean s) (hprior : s.transcript = .memory prior)
    (raws : List String) : LogsAll s prior raws (executeAll builtins raws s) := by
  induction raws generalizing s prior with
  | nil => exact ⟨⟨[], .refl s⟩, rfl, [], .nil s, by simpa using hprior⟩
  | cons raw raws ih =>
    have hlogs := execute_logs hs hprior raw
    rcases hexecute : execute builtins raw s with ⟨halt | executed, s₁⟩
    all_goals rw [hexecute] at hlogs
    · obtain ⟨⟨calls, hnotes, -⟩, htranscript, rfl, hawaits⟩ := hlogs
      rw [executeAll_cons, Run.bind_error hexecute]
      exact ⟨⟨calls, hnotes⟩, rfl, hawaits, [], raw, raws, [], s, [], rfl, rfl, hexecute, .nil _,
        by simpa using htranscript⟩
    · obtain ⟨hshows, time, hstamped, htranscript⟩ := hlogs
      have hrest := ih (Clean.of_faults hs hshows.faults) htranscript
      obtain ⟨calls, hnotes, -⟩ := hshows
      rcases hall : executeAll builtins raws s₁ with ⟨halt | results, s'⟩
      all_goals rw [hall] at hrest
      · obtain ⟨⟨calls', hnotes'⟩, rfl, hawaits, before, raw', after, results, s₂, entries, rfl,
          hbefore, hraw, hlogged, hleft⟩ := hrest
        rw [executeAll_cons, Run.bind_ok hexecute, Run.bind_error hall]
        refine ⟨⟨_, hnotes.trans hnotes'⟩, rfl, hawaits, raw :: before, raw', after,
          executed :: results, s₂, executed.entry time :: entries, rfl,
          executeAll_ok hexecute hbefore, hraw, .cons (hstamped.of_notes hnotes') hlogged, ?_⟩
        rw [hleft, List.append_assoc]
        rfl
      · obtain ⟨⟨calls', hnotes'⟩, hlength, entries, hlogged, hleft⟩ := hrest
        rw [executeAll_ok hexecute hall]
        refine ⟨⟨_, hnotes.trans hnotes'⟩, congrArg (· + 1) hlength,
          executed.entry time :: entries, .cons (hstamped.of_notes hnotes') hlogged, ?_⟩
        rw [hleft, List.append_assoc]
        rfl

end execute

/-! ## Batches -/

section batch

variable {s : Session} {prior : List Entry}

/-- The last entries of a transcript, as many as there are up to a limit. -/
theorem lastEntries_spec (limit : Nat) (entries : List Entry) :
    lastEntries limit entries <:+ entries ∧
      (lastEntries limit entries).length = min limit entries.length := by
  unfold lastEntries
  refine ⟨List.drop_suffix _ _, ?_⟩
  rw [List.length_drop]
  omega

/-- **Transcript, output of a batch and context of content generation agree.**  Over a transcript
in memory, which takes every entry and can be read, a batch comes to its end unless the platform
never answers and no limit is set, or the generator never answers.  It has then added one entry for
each input, in order, with the line and the output of the input's execution and the time at which
it was appended, and its own commands and output are those of the history of these entries.  A
batch that stalls has added the entries of the inputs before the
one that stalls.  Two batches one after the other leave what one batch of both leaves.  And
whatever an input of a batch has content generated with shows the history of the last entries
that had been added before it. -/
theorem batch_transcript (hs : ∀ n, s.faults .append n = none ∧ s.faults .recent n = none)
    (hprior : s.transcript = .memory prior) (raws : List String) :
    (match executeBatch builtins raws s with
      | (.ok batch, s') => ∃ results entries,
          executeAll builtins raws s = (.ok results, s') ∧ results.length = raws.length ∧
          Logged s' results entries ∧ s'.transcript = .memory (prior ++ entries) ∧
            batch.output = history entries ∧ batch.commands = entries.map (·.input)
      | (.error halt, s') => halt = .stalled ∧ s'.Awaits ∧
          ∃ before raw after results s₁ entries, raws = before ++ raw :: after ∧
            executeAll builtins before s = (.ok results, s₁) ∧
            execute builtins raw s₁ = (.error .stalled, s') ∧
            Logged s' results entries ∧ s'.transcript = .memory (prior ++ entries)) ∧
      (∀ raws₁ raws₂, raws = raws₁ ++ raws₂ → ∀ batch s₁,
        executeBatch builtins raws₁ s = (.ok batch, s₁) →
          (executeBatch builtins raws s).2 = (executeBatch builtins raws₂ s₁).2) ∧
      ∀ before raw after, raws = before ++ raw :: after → ∀ results s₁,
        executeAll builtins before s = (.ok results, s₁) →
          ∃ entries calls, Logged s₁ results entries ∧
            (execute builtins raw s₁).2.journal = s₁.journal ++ calls ∧
            ∀ topic context memories, .generate topic context memories ∈ calls →
              ∃ recent, recent <:+ prior ++ entries ∧
                recent.length = min s.settings.recentLimit (prior.length + results.length) ∧
                context = history recent := by
  refine ⟨?_, ?_, ?_⟩
  · have hlogs := executeAll_logs hs hprior raws
    rw [executeBatch_eq]
    rcases hall : executeAll builtins raws s with ⟨halt | results, s'⟩
    all_goals rw [hall] at hlogs
    · exact hlogs.2
    · obtain ⟨-, hlength, entries, hlogged, htranscript⟩ := hlogs
      exact ⟨results, entries, rfl, hlength, hlogged, htranscript, hlogged.batch⟩
  · rintro raws₁ raws₂ rfl batch s₁ hbatch
    have hsession := executeBatch_session builtins raws₁ s
    rw [executeBatch_eq] at hbatch
    rcases hall : executeAll builtins raws₁ s with ⟨halt | results, s'⟩
    all_goals
      rw [hall] at hbatch
      cases hbatch
    rw [executeBatch_session, executeBatch_session, executeAll_append hall]
  · rintro before raw after rfl results s₁ hbefore
    have hlogs := executeAll_logs hs hprior before
    rw [hbefore] at hlogs
    obtain ⟨⟨_, hnotes⟩, -, entries, hlogged, htranscript⟩ := hlogs
    obtain ⟨calls, hcalls, hshown⟩ :=
      (execute_logs (Clean.of_faults hs hnotes.faults) htranscript raw).shows
    obtain ⟨hsuffix, hlength⟩ := lastEntries_spec s.settings.recentLimit (prior ++ entries)
    rw [List.length_append, hlogged.length_eq] at hlength
    refine ⟨entries, calls, hlogged, hcalls.journal, ?_⟩
    intro topic context memories hmem
    refine ⟨_, hsuffix, hlength, ?_⟩
    rw [hshown topic context memories hmem, Session.context, htranscript, hnotes.settings]
    rfl

/-- A thread that is created after an unknown command is shown that command, and no more: it is
asked for once. -/
theorem batch_transcript_unknown :
    ∃ results s₁, executeAll builtins ["nope"] (Attempt.emptySession (.scripted .posting) .none)
        = (.ok results, s₁) ∧
      ∃ calls, (execute builtins "create-thread x" s₁).2.journal = s₁.journal ++ calls ∧
        (calls.filter Call.isGenerate).length = 1 ∧
        ∀ topic context memories, .generate topic context memories ∈ calls →
          context = "$ nope\nUnknown command: nope" := by
  have hmemory : (Attempt.emptySession (.scripted .posting) .none).transcript = .memory [] := rfl
  refine ⟨_, _, rfl, ?_⟩
  obtain ⟨entries, calls, hlogged, hcalls, hshown⟩ := (batch_transcript (fun _ => ⟨rfl, rfl⟩)
    hmemory ["nope", "create-thread x"]).2.2 ["nope"] "create-thread x" [] rfl _ _ rfl
  refine ⟨calls, hcalls, ?_, ?_⟩
  · have hcount := congrArg (fun journal => (journal.filter Call.isGenerate).length) hcalls
    simp only [List.filter_append, List.length_append] at hcount
    exact (Nat.zero_add _).symm.trans hcount.symm
  intro topic context memories hmem
  obtain ⟨recent, hsuffix, hlength, rfl⟩ := hshown topic context memories hmem
  obtain rfl : recent = entries := hsuffix.eq_of_length (hlength.trans hlogged.length_eq.symm)
  rw [← hlogged.batch.1]
  rfl

end batch

end PostingTerminal.Terminal
