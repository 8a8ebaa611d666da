import PostingTerminal.Json.Scanner

/-!
# Passing over a value

A member that a record does not know is passed over.  Its shape is checked, however deep it
goes, with a stack of the lists and objects that are still open in place of recursion.  A
comma before a closing bracket is met where the next value or key is due, and named so.
-/

namespace PostingTerminal.Json

/-- A list or an object that is still open. -/
inductive Frame where
  | list
  | object

/-- Passes over a value that holds no others; `none` if a list or an object starts here. -/
def skipScalar? : List Char → Option (Except Fault (List Char))
  | [] => some (.error (faultBefore .endInValue []))
  | 'n' :: cs => some (scanWord ['u', 'l', 'l'] cs)
  | 't' :: cs => some (scanWord ['r', 'u', 'e'] cs)
  | 'f' :: cs => some (scanWord ['a', 'l', 's', 'e'] cs)
  | '"' :: cs => some (skipString cs)
  | '-' :: cs => some (skipNumber cs)
  | '[' :: _ => none
  | '{' :: _ => none
  | c :: cs =>
    some (if c.isDigit then skipNumber (c :: cs) else .error (faultAt .valueExpected (c :: cs)))

/-- Passes over a key and its colon. -/
def skipKey (cs : List Char) : Except Fault (List Char) :=
  match skipSpace cs with
  | '"' :: rest =>
    match skipString rest with
    | .error f => .error f
    | .ok rest =>
      match skipSpace rest with
      | ':' :: rest => .ok rest
      | [] => .error (faultBefore .endInObject [])
      | rest => .error (faultAt .colonExpected rest)
  | [] => .error (faultBefore .endInObject [])
  | rest => .error (faultAt .keyNotString rest)

/-- Passes over what leads to the next value of a list or an object. -/
def Frame.enter : Frame → List Char → Except Fault (List Char)
  | .list, cs => .ok cs
  | .object, cs => skipKey cs

/-- Where reading is while values are passed over. -/
inductive SkipState where
  /-- A value is due. -/
  | value
  /-- A list or object has just been opened. -/
  | opened
  /-- A value has just ended. -/
  | ended

/-- Passes over values until the stack of open lists and objects is empty. -/
def skipOpen : (steps : Nat) → SkipState → List Frame → List Char → Except Fault (List Char)
  | 0, _, _, _ => .error (faultBefore .endInValue [])
  | steps + 1, .value, stack, cs =>
    let cs := skipSpace cs
    match skipScalar? cs with
    | some (.error f) => .error f
    | some (.ok rest) => skipOpen steps .ended stack rest
    | none =>
      let frame := if cs.head? = some '[' then Frame.list else Frame.object
      skipOpen steps .opened (frame :: stack) cs.tail
  | _ + 1, _, [], cs => .ok cs
  | steps + 1, state, frame :: stack, cs =>
    let separates : Bool := match state with | .ended => true | _ => false
    match frame, skipSpace cs with
    | .list, [] => .error (faultBefore .endInList [])
    | .object, [] => .error (faultBefore .endInObject [])
    | .list, ']' :: rest => skipOpen steps .ended stack rest
    | .object, '}' :: rest => skipOpen steps .ended stack rest
    | _, c :: rest =>
      if separates ∧ c ≠ ',' then
        .error (faultAt (match frame with
          | .list => .listSeparatorExpected
          | .object => .objectSeparatorExpected) (c :: rest))
      else
        match frame.enter (if separates then rest else c :: rest) with
        | .error f => .error f
        | .ok rest => skipOpen steps .value (frame :: stack) rest

/-- Passes over one value of a text of at most `bound` characters. -/
def skipValue (bound : Nat) (cs : List Char) : Except Fault (List Char) :=
  skipOpen (2 * bound + 2) .value [] cs

end PostingTerminal.Json
