import PostingTerminal.CommandLine.Registry
import PostingTerminal.Proofs.Keyed

/-!
# Registries that commands have been registered in

A registry comes about by calls of `register` on one without commands.  A call that fails leaves
the registry as it is.

* `Registry.lookup_eq_some_iff` — **a command is found under a name exactly if it is in the
  registry and has that name**, so no two commands have one name (`Registry.nodup_names`).
* `Registry.register_cases` — a command is refused because its name is blank, refused because its
  name is taken, or put behind all others.
* `Registry.ofCalls` — the registry that calls have left.  Its commands are the first under each
  name that is not blank (`Registry.commands_ofCalls`).
* `Registry.registerInPlace` — the same calls where the fields are written one after the other, and
  what has been written when an error comes up stays written.  They leave the same
  (`Registry.fieldsOfCalls_eq`).
-/

namespace PostingTerminal.CommandLine.Registry

variable {α : Type} {r r' : Registry α} {c : Command α} {name : String} {e : Error}

/-! ## Looking up -/

/-- A command has a place, under its name. -/
theorem exists_place (hc : c ∈ r.commands) :
    ∃ i, r.places.lookup c.name = some i ∧ r.commands[i]? = some c := by
  obtain ⟨i, hi⟩ := List.getElem?_of_mem hc
  exact ⟨i, (r.lookup_places c.name i).2 (by rw [hi]; rfl), hi⟩

/-- **A command is found under a name** exactly if it is in the registry and has that name. -/
theorem lookup_eq_some_iff : r.lookup name = some c ↔ c ∈ r.commands ∧ c.name = name := by
  unfold lookup
  split
  · next hnone =>
    refine iff_of_false nofun ?_
    rintro ⟨hc, rfl⟩
    obtain ⟨i, hplace, -⟩ := exists_place hc
    rw [hnone] at hplace
    cases hplace
  · next i hi =>
    have hget := List.getElem?_eq_getElem (r.place_lt hi)
    have hname := (r.lookup_places name i).1 hi
    rw [hget] at hname
    constructor
    · rintro ⟨⟩
      exact ⟨List.get_mem _ _, Option.some.inj hname⟩
    · rintro ⟨hc, rfl⟩
      obtain ⟨j, hplace, hj⟩ := exists_place hc
      obtain rfl : i = j := Option.some.inj (hi.symm.trans hplace)
      exact hget.symm.trans hj

/-- A command that is found under a name has it, and is in the registry. -/
theorem mem_of_lookup (h : r.lookup name = some c) : c ∈ r.commands ∧ c.name = name :=
  lookup_eq_some_iff.1 h

/-- **No two commands of a registry have one name.** -/
theorem nodup_names (r : Registry α) : (r.commands.map (·.name)).Nodup := by
  rw [List.nodup_iff_getElem?_ne_getElem?]
  intro i j hij hj heq
  obtain ⟨name, hname⟩ : ∃ name, (r.commands.map (·.name))[j]? = some name :=
    ⟨_, List.getElem?_eq_getElem hj⟩
  rw [hname] at heq
  rw [List.getElem?_map] at hname heq
  have hi := (r.lookup_places name i).2 heq
  have hj := (r.lookup_places name j).2 hname
  exact Nat.ne_of_lt hij (Option.some.inj (hi.symm.trans hj))

/-- A name has a place exactly if a command has it. -/
theorem places_eq_none_iff : r.places.lookup name = none ↔ name ∉ r.commands.map (·.name) := by
  constructor
  · intro hnone hname
    obtain ⟨c, hc, rfl⟩ := List.mem_map.1 hname
    obtain ⟨i, hi, -⟩ := exists_place hc
    rw [hnone] at hi
    cases hi
  · intro hname
    apply Option.eq_none_iff_forall_ne_some.2
    intro i hi
    obtain ⟨c, hc, rfl⟩ := Option.map_eq_some_iff.1 ((r.lookup_places name i).1 hi)
    exact hname (List.mem_map_of_mem (List.mem_of_getElem? hc))

/-! ## Registering -/

/-- A registry takes a command whose name is neither blank nor that of a command it has. -/
def Admits (r : Registry α) (c : Command α) : Prop :=
  Text.allBlank c.name.toList = false ∧ c.name ∉ r.commands.map (·.name)

/-- A command whose name has a place is refused. -/
theorem register_of_taken {i : Nat} (hblank : Text.allBlank c.name.toList = false)
    (hplace : r.places.lookup c.name = some i) :
    r.register c = .error (.registry (.alreadyRegistered c.name)) := by
  unfold register
  rw [if_neg (Bool.eq_false_iff.1 hblank)]
  split
  · rfl
  · next hfree => cases hfree.symm.trans hplace

/-- A command whose name is not blank and has no place is added. -/
theorem register_of_free (hblank : Text.allBlank c.name.toList = false)
    (hplace : r.places.lookup c.name = none) : r.register c = .ok (r.add c hplace) := by
  unfold register
  rw [if_neg (Bool.eq_false_iff.1 hblank)]
  split
  · next i htaken => cases htaken.symm.trans hplace
  · rfl

/-- **What comes of registering a command**: it is refused because its name is blank, refused
because its name is taken, or put behind all others. -/
theorem register_cases (r : Registry α) (c : Command α) :
    (Text.allBlank c.name.toList = true ∧ r.register c = .error (.registry .blankName)) ∨
      (c.name ∈ r.commands.map (·.name) ∧
        r.register c = .error (.registry (.alreadyRegistered c.name))) ∨
      r.Admits c ∧ ∃ r', r.register c = .ok r' ∧ r'.commands = r.commands ++ [c] := by
  cases hblank : Text.allBlank c.name.toList with
  | true => exact .inl ⟨rfl, by rw [register, if_pos hblank]⟩
  | false =>
    right
    cases hplace : r.places.lookup c.name with
    | some i =>
      refine .inl ⟨?_, register_of_taken hblank hplace⟩
      by_contra hfree
      rw [places_eq_none_iff.2 hfree] at hplace
      cases hplace
    | none =>
      exact .inr ⟨⟨hblank, places_eq_none_iff.1 hplace⟩, _, register_of_free hblank hplace, rfl⟩

/-- A command is refused exactly if the registry does not take it. -/
theorem not_admits_iff : ¬ r.Admits c ↔ ∃ e, r.register c = .error e := by
  rcases r.register_cases c with ⟨hblank, herror⟩ | ⟨htaken, herror⟩ | ⟨hadmits, r', hok, -⟩
  · refine iff_of_true (fun h => ?_) ⟨_, herror⟩
    cases hblank.symm.trans h.1
  · exact iff_of_true (fun h => h.2 htaken) ⟨_, herror⟩
  · refine iff_of_false (not_not_intro hadmits) ?_
    rintro ⟨e, herror⟩
    cases hok.symm.trans herror

/-- A registry after a call of `register`. -/
def afterCall (r : Registry α) (c : Command α) : Registry α :=
  match r.register c with
  | .error _ => r
  | .ok r' => r'

/-- A call that is refused changes nothing. -/
theorem afterCall_of_error (h : r.register c = .error e) : r.afterCall c = r := by
  rw [afterCall, h]

/-- A call that is accepted puts its command behind all others. -/
theorem commands_afterCall (h : r.Admits c) : (r.afterCall c).commands = r.commands ++ [c] := by
  rcases r.register_cases c with ⟨-, herror⟩ | ⟨-, herror⟩ | ⟨-, r', hok, hcommands⟩
  · exact absurd h (not_admits_iff.2 ⟨_, herror⟩)
  · exact absurd h (not_admits_iff.2 ⟨_, herror⟩)
  · rw [afterCall, hok, hcommands]

/-- The registry that calls of `register` have left of one without commands. -/
def ofCalls (calls : List (Command α)) : Registry α := calls.foldl afterCall empty

/-- The last call is made at the registry that the calls before it have left. -/
theorem ofCalls_concat (calls : List (Command α)) (c : Command α) :
    ofCalls (calls ++ [c]) = (ofCalls calls).afterCall c := List.foldl_concat ..

/-- The commands with a name that is not blank. -/
def named (calls : List (Command α)) : List (Command α) :=
  calls.filter fun c => !Text.allBlank c.name.toList

/-- **The commands of a registry** are the first under each name that is not blank. -/
theorem commands_ofCalls (calls : List (Command α)) :
    (ofCalls calls).commands = firsts (·.name) (named calls) := by
  -- On the last call: it is accepted exactly if its name is not blank and new.
  induction calls using List.reverseRecOn with
  | nil => rfl
  | append_singleton calls c ih =>
    rw [ofCalls_concat, named, List.filter_append, ← named]
    have hnames : c.name ∈ (ofCalls calls).commands.map (·.name)
        ↔ c.name ∈ (named calls).map (·.name) := by
      rw [ih, key_mem_firsts]
    by_cases hadmits : (ofCalls calls).Admits c
    · have ⟨hblank, hfree⟩ := hadmits
      rw [commands_afterCall hadmits, ih]
      simp [hblank, firsts_concat, ← hnames, hfree]
    · obtain ⟨e, herror⟩ := not_admits_iff.1 hadmits
      rw [afterCall_of_error herror, ih]
      cases hblank : Text.allBlank c.name.toList with
      | true => simp [hblank]
      | false =>
        have htaken : c.name ∈ (named calls).map (·.name) := by
          by_contra hfree
          exact hadmits ⟨hblank, hnames.not.2 hfree⟩
        simp [hblank, firsts_concat, htaken]

/-! ## Registering in place -/

/-- The fields of a registry by themselves. -/
structure Fields (α : Type) where
  commands : List (Command α)
  places : List (String × Nat)

/-- The fields of a registry. -/
def fields (r : Registry α) : Fields α := ⟨r.commands, r.places⟩

/-- Registers a command by writing one field after the other.  A call may fail on the way; the
fields stay as far as they have been written by then. -/
def registerInPlace (c : Command α) : ExceptT Error (StateM (Fields α)) Unit := do
  let f ← get
  if Text.allBlank c.name.toList then throw (.registry .blankName)
  else if (f.places.lookup c.name).isSome then throw (.registry (.alreadyRegistered c.name))
  else
    modify fun f => { f with places := (c.name, f.commands.length) :: f.places }
    modify fun f => { f with commands := f.commands ++ [c] }

/-- **Fields that are written one after the other are those of a registry that is replaced as a
whole**: a call is refused for the same cause, with the fields as they were, or leaves the fields of
the registry with the command. -/
theorem run_registerInPlace (r : Registry α) (c : Command α) :
    (registerInPlace c).run.run r.fields = match r.register c with
      | .ok r' => (.ok (), r'.fields)
      | .error e => (.error e, r.fields) := by
  have hrun (f : Fields α) : (registerInPlace c).run.run f =
      if Text.allBlank c.name.toList then (.error (.registry .blankName), f)
      else if (f.places.lookup c.name).isSome then
        (.error (.registry (.alreadyRegistered c.name)), f)
      else (.ok (), ⟨f.commands ++ [c], (c.name, f.commands.length) :: f.places⟩) := by
    show ((if _ then _ else if _ then _ else _ : ExceptT Error (StateM (Fields α)) Unit).run.run f) = _
    split
    · rfl
    · split <;> rfl
  rw [hrun]
  cases hblank : Text.allBlank c.name.toList with
  | true => rw [if_pos rfl, register, if_pos hblank]
  | false =>
    rw [if_neg Bool.false_ne_true]
    cases hplace : r.places.lookup c.name with
    | some i =>
      rw [register_of_taken hblank hplace, fields, hplace]
      rfl
    | none =>
      rw [register_of_free hblank hplace, fields, hplace]
      rfl

/-- The fields that calls have left of those of a registry without commands. -/
def fieldsOfCalls (calls : List (Command α)) : Fields α :=
  calls.foldl (fun f c => ((registerInPlace c).run.run f).2) empty.fields

/-- **Calls that write in place leave the fields of the registry** that calls have left. -/
theorem fieldsOfCalls_eq (calls : List (Command α)) :
    fieldsOfCalls calls = (ofCalls calls).fields := by
  induction calls using List.reverseRecOn with
  | nil => rfl
  | append_singleton calls c ih =>
    rw [fieldsOfCalls, List.foldl_concat, ← fieldsOfCalls, ih, run_registerInPlace, ofCalls_concat,
      afterCall]
    cases (ofCalls calls).register c <;> rfl

/-! ## Consistency -/

/-- The help text is the lines about the commands in order, without blanks at the end. -/
theorem helpText_append (r : Registry α) : ∃ blanks : String, Text.allBlank blanks.toList = true ∧
    r.helpText ++ blanks = "Available commands:\n" ++ String.join (r.commands.map helpLine) := by
  obtain ⟨blanks, hblank, happend⟩ := Text.trimEnd_append
    ("Available commands:\n" ++ String.join (r.commands.map helpLine)).toList
  refine ⟨String.ofList blanks, by simpa using hblank, ?_⟩
  rw [helpText, Text.endTrimmed, ← String.ofList_append, happend, String.ofList_toList]

/-- The help text has no blank at its end. -/
theorem isBlank_getLast?_helpText (r : Registry α) :
    ∀ letter ∈ r.helpText.toList.getLast?, Text.isBlank letter = false := by
  rw [helpText, Text.endTrimmed, String.toList_ofList]
  exact Text.getLast?_trimEnd _

/-- **A call that is refused might as well not have been made.** -/
theorem ofCalls_of_error {earlier : List (Command α)} (h : (ofCalls earlier).register c = .error e)
    (later : List (Command α)) : ofCalls (earlier ++ c :: later) = ofCalls (earlier ++ later) := by
  have hsame : (ofCalls earlier).afterCall c = ofCalls earlier := afterCall_of_error h
  unfold ofCalls at hsame ⊢
  rw [List.foldl_append, List.foldl_cons, hsame, List.foldl_append]

/-- **A registry stays consistent** through any calls of `register` on one without commands.  Its
commands are the first under each name that is not blank, in the order of the calls, and their
names are distinct.  A name leads to the one command that has it, or to nothing, and the place of
a name is always one of a command, which has that name.  A call is refused exactly if its name is
blank or that of a command that has been accepted before, and then it changes nothing, neither at
once nor later; nor does it where the fields of the registry are written one after the other, by
calls that are answered alike and leave the same.  The help text is a heading followed by the usage and the description of every
command in order, less the blanks at its end. -/
theorem ofCalls_consistent (calls : List (Command α)) :
    (ofCalls calls).commands = firsts (·.name) (named calls) ∧
    ((ofCalls calls).commands.map (·.name)).Nodup ∧
    (∀ name c, (ofCalls calls).lookup name = some c ↔
      c ∈ (ofCalls calls).commands ∧ c.name = name) ∧
    (∀ name i, (ofCalls calls).places.lookup name = some i →
      ∃ h : i < (ofCalls calls).commands.length,
        ((ofCalls calls).commands.get ⟨i, h⟩).name = name) ∧
    (∀ earlier c later, calls = earlier ++ c :: later →
      ((∃ e, (ofCalls earlier).register c = .error e) ↔
        Text.allBlank c.name.toList = true ∨ c.name ∈ (ofCalls earlier).commands.map (·.name)) ∧
      ((∃ e, (ofCalls earlier).register c = .error e) →
        ofCalls (earlier ++ [c]) = ofCalls earlier ∧
          ofCalls calls = ofCalls (earlier ++ later))) ∧
    fieldsOfCalls calls = (ofCalls calls).fields ∧
    (∀ c, (registerInPlace c).run.run (fieldsOfCalls calls) = match (ofCalls calls).register c with
      | .ok r' => (.ok (), r'.fields)
      | .error e => (.error e, fieldsOfCalls calls)) ∧
    (∀ letter ∈ (ofCalls calls).helpText.toList.getLast?, Text.isBlank letter = false) ∧
    ∃ blanks : String, Text.allBlank blanks.toList = true ∧
      (ofCalls calls).helpText ++ blanks = "Available commands:\n" ++
        String.join ((ofCalls calls).commands.map fun c =>
          "  " ++ c.usage ++ " - " ++ c.description ++ "\n") := by
  refine ⟨commands_ofCalls calls, nodup_names _, fun _ _ => lookup_eq_some_iff, ?_, ?_,
    fieldsOfCalls_eq calls, fun c => ?_, isBlank_getLast?_helpText _, helpText_append _⟩
  · intro name i hplace
    have hname := ((ofCalls calls).lookup_places name i).1 hplace
    have hi := (ofCalls calls).place_lt hplace
    rw [List.getElem?_eq_getElem hi] at hname
    exact ⟨hi, Option.some.inj hname⟩
  · rintro earlier c later rfl
    constructor
    · rw [← not_admits_iff, Admits, not_and_or, not_not, Bool.not_eq_false]
    · rintro ⟨e, herror⟩
      refine ⟨?_, ofCalls_of_error herror later⟩
      rw [ofCalls_concat, afterCall_of_error herror]
  · rw [fieldsOfCalls_eq]
    exact run_registerInPlace _ c

end PostingTerminal.CommandLine.Registry
