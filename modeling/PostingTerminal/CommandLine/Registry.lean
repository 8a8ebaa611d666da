import PostingTerminal.CommandLine.Param

/-!
# Commands and their registry

A command has a name, a description, parameters and an action, whose type is left open here.
A registry keeps commands in the order of their registration, and beside them the place of every
name, through which a command is looked up.  It takes a command whose name is not blank and not
taken, and none is ever removed.

That the places are those of the names is part of the type, so a command that is looked up is
taken from its place without a check.
-/

namespace PostingTerminal.CommandLine

/-- A command that can be looked up by its name. -/
structure Command (α : Type) where
  name : String
  description : String
  params : List ParamSpec
  action : α

/-- The name of a command followed by the signatures of its parameters. -/
def Command.usage {α : Type} (c : Command α) : String :=
  String.join (c.name :: c.params.map fun spec => " " ++ spec.signature)

/-- Commands in the order of their registration, and the place of every name among them. -/
structure Registry (α : Type) where
  commands : List (Command α)
  places : List (String × Nat)
  /-- A name has a place exactly if the command at that place has the name. -/
  lookup_places (name : String) (i : Nat) :
    places.lookup name = some i ↔ commands[i]?.map (·.name) = some name

namespace Registry

variable {α : Type}

/-- A registry without commands. -/
def empty : Registry α := ⟨[], [], by simp⟩

/-- The place of a name is one of a command. -/
theorem place_lt (r : Registry α) {name : String} {i : Nat} (h : r.places.lookup name = some i) :
    i < r.commands.length := by
  have hname := (r.lookup_places name i).1 h
  refine Nat.lt_of_not_le fun hle => ?_
  simp [List.getElem?_eq_none hle] at hname

/-- The command with exactly the given name. -/
def lookup (r : Registry α) (name : String) : Option (Command α) :=
  match h : r.places.lookup name with
  | none => none
  | some i => some (r.commands.get ⟨i, r.place_lt h⟩)

/-- A new name gets the place behind all others, and every other name keeps its own. -/
theorem lookup_places_add (r : Registry α) {c : Command α} (h : r.places.lookup c.name = none)
    (name : String) (i : Nat) : ((c.name, r.commands.length) :: r.places).lookup name = some i ↔
      (r.commands ++ [c])[i]?.map (·.name) = some name := by
  have hold := r.lookup_places name i
  rcases Nat.lt_trichotomy i r.commands.length with hi | rfl | hi
  · rw [List.getElem?_append_left hi, ← hold, List.lookup_cons]
    split
    · next hname =>
      obtain rfl := eq_of_beq hname
      simp [h, Nat.ne_of_gt hi]
    · rfl
  · by_cases hname : name = c.name
    · simp [hname]
    · have hnone : r.places.lookup name ≠ some r.commands.length := by simp [hold]
      simp [List.lookup_cons, beq_eq_false_iff_ne.2 hname, hnone, Ne.symm hname]
  · have hnone : r.places.lookup name ≠ some i := by
      simp [hold, List.getElem?_eq_none (Nat.le_of_lt hi)]
    have hbehind : (r.commands ++ [c])[i]? = none := by simp; omega
    rw [hbehind, List.lookup_cons]
    split <;> simp [hnone, Nat.ne_of_lt hi]

/-- Adds a command whose name has no place. -/
def add (r : Registry α) (c : Command α) (h : r.places.lookup c.name = none) : Registry α :=
  ⟨r.commands ++ [c], (c.name, r.commands.length) :: r.places, r.lookup_places_add h⟩

/-- Adds a command, if its name is neither blank nor taken. -/
def register (r : Registry α) (c : Command α) : Except Error (Registry α) :=
  if Text.allBlank c.name.toList then .error (.registry .blankName)
  else
    match h : r.places.lookup c.name with
    | some _ => .error (.registry (.alreadyRegistered c.name))
    | none => .ok (r.add c h)

/-- How many commands there are. -/
def size (r : Registry α) : Nat := r.commands.length

/-- The line of the help text about one command. -/
def helpLine (c : Command α) : String := "  " ++ c.usage ++ " - " ++ c.description ++ "\n"

/-- A listing of the commands in order, without blanks at its end. -/
def helpText (r : Registry α) : String :=
  Text.endTrimmed ("Available commands:\n" ++ String.join (r.commands.map helpLine))

end Registry

end PostingTerminal.CommandLine
