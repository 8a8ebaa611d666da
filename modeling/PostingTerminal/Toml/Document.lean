import PostingTerminal.Toml.Lexeme

/-!
# Tables of a settings file

A settings file is a sequence of lines.  A line sets a value under a key in the current table
or, as a header, makes another table the current one.  A key of several parts goes through
tables that it makes where they are not there yet.  A table is defined once: by a header, by
the dotted keys that go through it, or by being written out as a value, and those three do
not mix.  What comes out is one JSON object.
-/

namespace PostingTerminal.Toml

open Json (Value)

/-- What a table holds under a key. -/
inductive Item where
  /-- A value that is complete. -/
  | value (v : Value)
  /-- A table; `implicit` until a header names it, `dotted` if a dotted key made it. -/
  | table (implicit dotted : Bool) (items : List (String × Item))
  /-- The tables that headers between double brackets have made under one name. -/
  | tables (all : List (List (String × Item)))
  deriving Inhabited

/-- The contents of a table. -/
abbrev Items := List (String × Item)

namespace Items

/-- Puts an item under a key, in place of the one that may be there. -/
def put (items : Items) (key : String) (item : Item) : Items :=
  match items with
  | [] => [(key, item)]
  | (k, old) :: rest => if k = key then (k, item) :: rest else (k, old) :: put rest key item

/-- Changes the last of the tables under one name. -/
def changeLast (change : Items → Option Items) : List Items → Option (List Items)
  | [] => none
  | [last] => (change last).map fun last => [last]
  | first :: rest => (changeLast change rest).map fun rest => first :: rest

/-- Changes the table at the end of a path of headers, which makes the tables on its way. -/
def changeAt (change : Items → Option Items) : (path : List String) → Items → Option Items
  | [], items => change items
  | key :: path, items =>
    match items.lookup key with
    | none => (changeAt change path []).map fun sub => items.put key (.table true false sub)
    | some (.value _) => none
    | some (.table implicit dotted sub) =>
      (changeAt change path sub).map fun sub => items.put key (.table implicit dotted sub)
    | some (.tables all) =>
      (changeLast (changeAt change path) all).map fun all => items.put key (.tables all)

/-- Sets a value under a dotted key.  The table that takes it must have been made by dotted
keys, unless the key has one part. -/
def setDotted (isDotted : Bool) (value : Value) :
    (last : String) → (path : List String) → Items → Option Items
  | last, [], items =>
    if isDotted && (items.lookup last).isNone then some (items.put last (.value value)) else none
  | last, key :: path, items =>
    match items.lookup key with
    | none =>
      (setDotted true value last path []).map fun sub => items.put key (.table true true sub)
    | some (.value _) => none
    | some (.table implicit dotted sub) =>
      if implicit then
        (setDotted dotted value last path sub).map fun sub =>
          items.put key (.table implicit dotted sub)
      else none
    | some (.tables all) =>
      (changeLast (setDotted false value last path) all).map fun all => items.put key (.tables all)

/-- Sets a value under the parts of a key. -/
def set (items : Items) (parts : List String) (value : Value) : Option Items :=
  parts.getLast?.bind fun last => setDotted true value last parts.dropLast items

/-- Makes the table that a header names. -/
def define (key : String) (items : Items) : Option Items :=
  match items.lookup key with
  | none => some (items.put key (.table false false []))
  | some (.table true false sub) => some (items.put key (.table false false sub))
  | some _ => none

/-- Makes another table under the name in a header between double brackets. -/
def defineNext (key : String) (items : Items) : Option Items :=
  match items.lookup key with
  | none => some (items.put key (.tables [[]]))
  | some (.tables all) => some (items.put key (.tables (all ++ [[]])))
  | some _ => none

end Items

mutual

/-- The value of an item. -/
def Item.toValue : Item → Value
  | .value v => v
  | .table _ _ items => .object (membersOf items)
  | .tables all => .list (valuesOf all)

/-- The members of a table. -/
def membersOf : List (String × Item) → List (String × Value)
  | [] => []
  | (key, item) :: rest => (key, item.toValue) :: membersOf rest

/-- The values of several tables. -/
def valuesOf : List (List (String × Item)) → List Value
  | [] => []
  | items :: rest => .object (membersOf items) :: valuesOf rest

end

/-! ## Values -/

/-- The items of an array from the current one on, blanks and line ends passed over. -/
def arrayItems (item : Parse Value) (lines : List Char → List Char) :
    (steps : Nat) → Parse (List Value)
  | 0, _ => none
  | steps + 1, cs =>
    match lines cs with
    | ']' :: rest => some ([], rest)
    | cs =>
      (item cs).bind fun (v, rest) =>
        match lines rest with
        | ',' :: rest => (arrayItems item lines steps rest).map fun (vs, rest) => (v :: vs, rest)
        | ']' :: rest => some ([v], rest)
        | _ => none

/-- A key, an equals sign and a value. -/
def keyValue (value : Parse Value) (cs : List Char) : Option ((List String × Value) × List Char) := do
  let (parts, rest) ← key (cs.length + 1) cs
  let rest ← mark '=' rest
  let (v, rest) ← value (skipSpace rest)
  return ((parts, v), rest)

/-- The members of a table written out in one line, from the current one on. -/
def inlineItems (value : Parse Value) : (steps : Nat) → Items → Parse Items
  | 0, _, _ => none
  | steps + 1, items, cs =>
    (keyValue value cs).bind fun ((parts, v), rest) =>
      (items.set parts v).bind fun items =>
        match skipSpace rest with
        | ',' :: rest => inlineItems value steps items rest
        | '}' :: rest => some (items, rest)
        | _ => none

/-- How many arrays and written-out tables may be open at once. -/
def maxDepth : Nat := 79

/-- A value of any kind, with at most `depth` more arrays and tables open at once. -/
def value (bound : Nat) (depth : Nat) (cs : List Char) : Option (Value × List Char) :=
  match cs with
  | '[' :: rest =>
    match depth with
    | 0 => none
    | depth + 1 =>
      (arrayItems (value bound depth) (skipLines bound) (bound + 1) rest).map fun (vs, rest) =>
        (.list vs, rest)
  | '{' :: rest =>
    match depth with
    | 0 => none
    | depth + 1 =>
      match skipSpace rest with
      | '}' :: rest => some (.object [], rest)
      | rest =>
        (inlineItems (value bound depth) (bound + 1) [] rest).map fun (items, rest) =>
          (.object (membersOf items), rest)
  | cs => scalarValue cs

/-! ## Lines -/

/-- The header of a line: whether it stands between double brackets, and its key. -/
def header (cs : List Char) : Option ((Bool × List String) × List Char) :=
  match cs with
  | '[' :: '[' :: rest => do
    let (parts, rest) ← key (rest.length + 1) rest
    return ((true, parts), ← mark ']' (← mark ']' rest))
  | '[' :: rest => do
    let (parts, rest) ← key (rest.length + 1) rest
    return ((false, parts), ← mark ']' rest)
  | _ => none

/-- Reads the lines of a file into tables, given the path of the current one. -/
def readLines (bound : Nat) : (steps : Nat) → (current : List String) → Items → List Char → Option Items
  | 0, _, _, _ => none
  | steps + 1, current, items, cs =>
    match skipSpace cs with
    | [] => some items
    | c :: rest =>
      if c = '#' ∨ c = '\n' ∨ c = '\r' then
        (lineEnd? (c :: rest)).bind fun rest => readLines bound steps current items rest
      else if c = '[' then do
        let ((isNext, parts), rest) ← header (c :: rest)
        let last ← parts.getLast?
        let make := if isNext then Items.defineNext last else Items.define last
        let items ← items.changeAt make parts.dropLast
        readLines bound steps parts items (← lineEnd? rest)
      else do
        let ((parts, v), rest) ← keyValue (value bound maxDepth) (c :: rest)
        let items ← items.changeAt (fun table => table.set parts v) current
        readLines bound steps current items (← lineEnd? rest)

/-- The object that the text of a settings file spells; a byte order mark before it is passed
over. -/
def parse (text : List Char) : Option Value :=
  let cs :=
    match text with
    | '\ufeff' :: rest => rest
    | cs => cs
  let bound := cs.length
  (readLines bound (bound + 1) [] [] cs).map fun items => .object (membersOf items)

end PostingTerminal.Toml
