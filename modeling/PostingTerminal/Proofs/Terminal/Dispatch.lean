import PostingTerminal.Proofs.CommandLine.Quoting
import PostingTerminal.Proofs.CommandLine.Registration
import PostingTerminal.Proofs.Session.Calls
import PostingTerminal.Terminal.Builtin
import PostingTerminal.Terminal.Executor

/-!
# Which command an input runs

An input is answered without any command being run, or it runs the action of one command on the
values of its parameters.  Either way what has come of it is logged.

* `Names` — an input names a command and gives values for its parameters.
* `runInput_cases` — **an input that names no command is answered as it is**, and one that names
  a command performs it (`runInput_of_names`).
* `delivers_arguments` — **a line of quoted words delivers its arguments**: it runs the command
  of its first word on what its other words are bound to.
-/

namespace PostingTerminal.Terminal

open CommandLine

/-! ## Running and logging -/

/-- Appends what has come of an input to the transcript. -/
def logged (run : Run Executed) : Run Executed := do
  let executed ← run
  let _ ← Run.append ⟨executed.command, executed.output, ← Run.now⟩
  return executed

/-- Executing an input is running it and logging what has come of it. -/
theorem execute_eq (registry : Registry Action) (raw : String) :
    execute registry raw = logged (runInput registry raw) := rfl

/-- The call that logs an execution. -/
abbrev Executed.log (e : Executed) (now : Timestamp) : Call := .append ⟨e.command, e.output, now⟩

/-- Appends what has come of an input, as a step of the session. -/
abbrev Executed.logStep (e : Executed) (now : Timestamp) : SessionStep Unit := fun s =>
  ((s.transcript.append ⟨e.command, e.output, now⟩).1,
    { s with transcript := (s.transcript.append ⟨e.command, e.output, now⟩).2 })

/-- **What has come of an input is logged by one call**, and given whether that fails or not. -/
theorem logged_ok {run : Run Executed} {s s₁ : Session} {executed : Executed}
    (h : run s = (.ok executed, s₁)) : ∃ answer s', logged run s = (.ok executed, s') ∧
      s₁.Makes .append (executed.log s₁.now) (executed.logStep s₁.now) answer s' := by
  obtain ⟨answer, s', hcall, hmakes⟩ :=
    Run.step_call .append (executed.log s₁.now) (executed.logStep s₁.now) s₁
  have happend : Run.append ⟨executed.command, executed.output, s₁.now⟩ s₁ = (.ok answer, s') :=
    hcall
  refine ⟨answer, s', ?_, hmakes⟩
  unfold logged
  rw [Run.bind_ok h]
  simp only [Run.bind_ok (Run.now_eq s₁)]
  exact Run.bind_ok happend

/-- Logging notes one call. -/
theorem logged_notes {run : Run Executed} {s s₁ : Session} {executed : Executed}
    (h : run s = (.ok executed, s₁)) :
    s₁.Notes (logged run s).2 [executed.log s₁.now] := by
  obtain ⟨answer, s', hlogged, hmakes⟩ := logged_ok h
  rw [hlogged]
  cases hmakes <;> exact ⟨rfl, rfl, rfl, rfl⟩

/-- **Logging** gives what has been logged, and keeps a view that shows neither the journal nor
the transcript. -/
theorem logged_keeps {γ : Type} {view : Session → γ}
    (hnote : ∀ (s : Session) (c : Call), view (s.note c) = view s)
    (htranscript : ∀ (s : Session) (t : Store.Transcript), view { s with transcript := t } = view s)
    (run : Run Executed) (s : Session) :
    (logged run s).1 = (run s).1 ∧ view (logged run s).2 = view (run s).2 := by
  rcases hrun : run s with ⟨halt | executed, s₁⟩
  · unfold logged
    rw [Run.bind_error hrun]
    exact ⟨rfl, rfl⟩
  · obtain ⟨answer, s', hlogged, hmakes⟩ := logged_ok hrun
    rw [hlogged]
    refine ⟨rfl, ?_⟩
    cases hmakes with
    | made | lost => exact (htranscript _ _).trans (hnote s₁ _)
    | failed => exact hnote s₁ _

/-- What has come of a command whose action has given an output or failed. -/
def Executed.ofResult (line name : String) : Except Error CommandOutput → Executed
  | .error e => .ofFailure line name e
  | .ok output => .ofOutput line output

/-- Runs the action of a command on values, its crash contained. -/
def perform (registry : Registry Action) (line : String) (command : Command Action)
    (values : Args) : Run Executed := do
  return .ofResult line command.name (← contained (command.action.run registry values))

/-- **Containing a run** makes a failure of its crash, and changes nothing else about it. -/
theorem contained_eq {α : Type} (run : Run (Except Error α)) (s : Session) :
    contained run s = match run s with
      | (.ok result, s') => (.ok result, s')
      | (.error .crashed, s') => (.ok (.error (.handler "handler panicked")), s')
      | (.error .stalled, s') => (.error .stalled, s') := by
  rcases hrun : run s with ⟨(_ | _) | result, s'⟩
  all_goals
    simp only [contained, tryCatch, tryCatchThe, MonadExceptOf.tryCatch, ExceptT.tryCatch,
      ExceptT.mk, Bind.bind, StateT.bind]
    rw [hrun]
    rfl

/-- **Running a command** gives what its action gives, and leaves what its action leaves. -/
theorem perform_eq (registry : Registry Action) (line : String) (command : Command Action)
    (values : Args) (s : Session) :
    perform registry line command values s =
      (match (command.action.run registry values s).1 with
        | .ok result => .ok (.ofResult line command.name result)
        | .error .crashed =>
          .ok (.ofResult line command.name (.error (.handler "handler panicked")))
        | .error .stalled => .error .stalled,
      (command.action.run registry values s).2) := by
  have hcontained := contained_eq (command.action.run registry values) s
  unfold perform
  rcases hrun : command.action.run registry values s with ⟨(_ | _) | result, s'⟩
  all_goals rw [hrun] at hcontained
  · rw [Run.bind_ok hcontained]
    rfl
  · rw [Run.bind_error hcontained]
  · rw [Run.bind_ok hcontained]
    rfl

/-- Running a command leaves what its action leaves. -/
theorem perform_session (registry : Registry Action) (line : String) (command : Command Action)
    (values : Args) (s : Session) :
    (perform registry line command values s).2 = (command.action.run registry values s).2 := by
  rw [perform_eq]

/-- A command is performed on what its tokens are bound to. -/
theorem runCommand_eq (registry : Registry Action) (line : String) (command : Command Action)
    (args : List String) :
    runCommand registry line command args =
      match bind args command.params with
      | .error e => pure (.ofFailure line command.name e)
      | .ok values => perform registry line command values := by
  unfold runCommand
  cases bind args command.params with
  | error e => rfl
  | ok values =>
    show (contained (command.action.run registry values) >>= _)
      = (contained (command.action.run registry values) >>= _)
    congr 1
    funext result
    cases result <;> rfl

/-! ## Inputs that name a command -/

/-- The line of an input has no blanks at its ends and can be split into words. -/
structure Reads (raw line : String) (ws : List String) : Prop where
  read : (lineOf raw).map Text.trimmed = .ok line
  split : tokens line = .ok ws

/-- An input names a command and gives values for its parameters. -/
inductive Names (registry : Registry Action) (raw line : String) :
    Command Action → Args → Prop
  | intro {command args values} (reads : Reads raw line (command.name :: args))
      (found : registry.lookup command.name = some command)
      (bound : bind args command.params = .ok values) : Names registry raw line command values

variable {registry : Registry Action} {raw line : String}

/-- An input that can be read is run by its line. -/
theorem runInput_of_line (h : (lineOf raw).map Text.trimmed = .ok line) :
    runInput registry raw = runLine registry line := by
  unfold runInput
  cases hline : lineOf raw with
  | error e => rw [hline] at h; cases h
  | ok text =>
    rw [hline] at h
    cases h
    rfl

/-- An input with words is run by its words. -/
theorem runInput_of_reads {ws : List String} (h : Reads raw line ws) :
    runInput registry raw = runTokens registry line ws := by
  rw [runInput_of_line h.read]
  unfold runLine
  split
  · rename_i hempty
    obtain rfl : line = "" := by simpa using hempty
    have hnone : tokens "" = .ok [] := rfl
    obtain rfl : [] = ws := Except.ok.inj (hnone.symm.trans h.split)
    rfl
  · rw [h.split]

/-- An input whose first word is the name of a command runs that command on the others. -/
theorem runInput_of_lookup {command : Command Action} {args : List String}
    (h : Reads raw line (command.name :: args))
    (hfound : registry.lookup command.name = some command) :
    runInput registry raw = runCommand registry line command args := by
  rw [runInput_of_reads h]
  simp only [runTokens, hfound]

/-- **An input that names a command performs it.** -/
theorem runInput_of_names {command : Command Action} {values : Args}
    (h : Names registry raw line command values) :
    runInput registry raw = perform registry line command values := by
  obtain ⟨reads, found, bound⟩ := h
  rw [runInput_of_lookup reads found, runCommand_eq, bound]

/-- **An input with words names a command or is answered with an error.** -/
theorem Reads.names_or_fails {name : String} {args : List String}
    (h : Reads raw line (name :: args)) (registry : Registry Action) :
    (∃ command values, Names registry raw line command values) ∨
      ∃ executed, executed.isError = true ∧ runInput registry raw = pure executed := by
  cases hfound : registry.lookup name with
  | none =>
    refine .inr ⟨.failed line (Error.unknownCommand name).message, rfl, ?_⟩
    rw [runInput_of_reads h, runTokens, hfound]
  | some command =>
    obtain ⟨-, rfl⟩ := Registry.mem_of_lookup hfound
    cases hbind : bind args command.params with
    | error e =>
      refine .inr ⟨.ofFailure line command.name e, rfl, ?_⟩
      rw [runInput_of_lookup h hfound, runCommand_eq, hbind]
    | ok values => exact .inl ⟨command, values, .intro h hfound hbind⟩

/-- **An input names a command or is answered as it is.** -/
theorem runInput_cases (registry : Registry Action) (raw : String) :
    (∃ executed, runInput registry raw = pure executed) ∨
      ∃ line command values, Names registry raw line command values := by
  cases hline : lineOf raw with
  | error e =>
    refine .inl ⟨unreadable raw e, ?_⟩
    unfold runInput
    rw [hline]
  | ok text =>
    have hread : (lineOf raw).map Text.trimmed = .ok (Text.trimmed text) := by rw [hline]; rfl
    cases htokens : tokens (Text.trimmed text) with
    | error e =>
      left
      rw [runInput_of_line hread, runLine, htokens]
      split <;> exact ⟨_, rfl⟩
    | ok ws =>
      have hreads : Reads raw (Text.trimmed text) ws := ⟨hread, htokens⟩
      cases ws with
      | nil => exact .inl ⟨_, runInput_of_reads hreads⟩
      | cons name args =>
        rcases hreads.names_or_fails registry with hnames | ⟨executed, -, hrun⟩
        · exact .inr ⟨_, hnames⟩
        · exact .inl ⟨executed, hrun⟩

/-- An input names one command at most. -/
theorem Names.command_eq {line' : String} {command command' : Command Action} {values values' : Args}
    (h : Names registry raw line command values) (h' : Names registry raw line' command' values') :
    command = command' := by
  obtain ⟨⟨hread, hsplit⟩, hfound, -⟩ := h
  obtain ⟨⟨hread', hsplit'⟩, hfound', -⟩ := h'
  obtain rfl : line = line' := Except.ok.inj (hread.symm.trans hread')
  obtain ⟨hname, -⟩ := List.cons.inj (Except.ok.inj (hsplit.symm.trans hsplit'))
  rw [hname] at hfound
  exact Option.some.inj (hfound.symm.trans hfound')

/-- An input of a terminal names one of its three commands. -/
theorem Names.command_cases {command : Command Action} {values : Args}
    (h : Names builtins raw line command values) :
    command = helpCommand ∨ command = createThreadCommand ∨ command = threadStatusCommand := by
  obtain ⟨-, hfound, -⟩ := h
  have hmem := (Registry.mem_of_lookup hfound).1
  simpa only [commands_builtins, List.mem_cons, List.not_mem_nil, or_false] using hmem

/-! ## Lines of quoted words -/

/-- A line of quoted words is no request, unless it is empty. -/
theorem isRequest_quotedLine (word : String) (words : List String) :
    isRequest (quotedLine (word :: words)) = false := by
  have hhead := (ends_quotedLineChars word.toList (words.map String.toList)).1
  unfold isRequest
  rw [toList_quotedLine, List.map_cons, Text.trimStart_eq_self, hhead]
  · rfl
  · rw [hhead]
    rintro c ⟨⟩
    rfl

/-- A line of quoted words has no blanks at its ends. -/
theorem trimmed_quotedLine (words : List String) :
    Text.trimmed (quotedLine words) = quotedLine words := by
  unfold Text.trimmed
  rw [toList_quotedLine, trim_quotedLineChars, ← toList_quotedLine, String.ofList_toList]

/-- A line that begins with a quoted word is read as it is. -/
theorem reads_quotedLine (word : String) (words : List String) :
    Reads (quotedLine (word :: words)) (quotedLine (word :: words)) (word :: words) := by
  refine ⟨?_, tokens_quotedLine _⟩
  unfold lineOf
  rw [isRequest_quotedLine, if_neg Bool.false_ne_true, Except.map, trimmed_quotedLine]

/-- **A line of quoted words delivers its arguments.**  Its tokens are the words that it was
written for.  In a registry that commands have been registered in, a line that is written for the
name of a command and arguments runs the action of that command on what the arguments are bound
to, or reports under that name why they cannot be bound; what has come of it is logged. -/
theorem delivers_arguments :
    (∀ ws : List String, tokens (" ".intercalate (ws.map quoted)) = .ok ws) ∧
      ∀ calls : List (Command Action), ∀ command ∈ (Registry.ofCalls calls).commands,
        ∀ args : List String,
          let registry := Registry.ofCalls calls
          let line := " ".intercalate ((command.name :: args).map quoted)
          execute registry line =
            match bind args command.params with
            | .error e => logged (pure ⟨line,
                "Error executing command '" ++ command.name ++ "': " ++ e.message, true, none⟩)
            | .ok values => logged do
                match ← contained (command.action.run registry values) with
                | .error e => return .ofFailure line command.name e
                | .ok output => return .ofOutput line output := by
  refine ⟨tokens_quotedLine, ?_⟩
  intro calls command hcommand args registry line
  have hreads : Reads line line (command.name :: args) := reads_quotedLine _ _
  have hfound := Registry.lookup_eq_some_iff.2 ⟨hcommand, rfl⟩
  rw [execute_eq, runInput_of_lookup hreads hfound]
  unfold runCommand
  cases bind args command.params <;> rfl

/-- Of a registry with one command that command is run on its argument, or a missing one is
reported under its name. -/
theorem delivers_arguments_status :
    tokens "'it'\"'\"'s' '\\$ #\n' ''" = .ok ["it's", "\\$ #\n", ""] ∧
      execute (.ofCalls [threadStatusCommand]) "'thread-status' 'it'\"'\"'s'" = logged (do
        match ← contained (threadStatus ⟨[("draft_id", .string "it's")]⟩) with
        | .error e => return .ofFailure "'thread-status' 'it'\"'\"'s'" "thread-status" e
        | .ok output => return .ofOutput "'thread-status' 'it'\"'\"'s'" output) ∧
      execute (.ofCalls [threadStatusCommand]) "'thread-status'" = logged (pure
        ⟨"'thread-status'", "Error executing command 'thread-status': "
          ++ (Error.missingParameter "draft_id").message, true, none⟩) :=
  ⟨delivers_arguments.1 ["it's", "\\$ #\n", ""],
    delivers_arguments.2 [threadStatusCommand] threadStatusCommand List.mem_cons_self ["it's"],
    delivers_arguments.2 [threadStatusCommand] threadStatusCommand List.mem_cons_self []⟩

end PostingTerminal.Terminal
