/-!
# JSON values

A value keeps the members of an object in the order in which they were written.  A number is
kept as a whole number where it fits into 64 bits, with a sign or without, and as a double
otherwise, because messages tell the two apart.
-/

namespace PostingTerminal.Json

/-- A number: whole and within 64 bits, or a double. -/
inductive Number where
  | int (n : Int)
  | float (x : Float)
  deriving Inhabited

/-- A JSON value. -/
inductive Value where
  | null
  | bool (b : Bool)
  | number (n : Number)
  | string (s : String)
  | list (items : List Value)
  | object (members : List (String × Value))
  deriving Inhabited

namespace Value

/-- The number `n`. -/
def ofNat (n : Nat) : Value := .number (.int n)

/-- A string, or null where there is none. -/
def ofOption : Option String → Value
  | none => .null
  | some s => .string s

/-- A list of strings. -/
def ofStrings (items : List String) : Value := .list (items.map .string)

/-- The last member of an object that has the given key. -/
def member? (v : Value) (key : String) : Option Value :=
  match v with
  | .object members => (members.reverse.find? (·.1 == key)).map (·.2)
  | _ => none

/-- The members of an object in increasing order of their keys, the last one of each key. -/
def inKeyOrder (members : List (String × Value)) : List (String × Value) :=
  let latest := members.reverse.foldl
    (fun kept m => if kept.any (·.1 == m.1) then kept else m :: kept) []
  latest.mergeSort fun a b => a.1 ≤ b.1

end Value

end PostingTerminal.Json
