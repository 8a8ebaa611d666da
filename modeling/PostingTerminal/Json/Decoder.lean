import PostingTerminal.Json.Skip

/-!
# Decoding into a type

A `Decoder` reads one type of value, from a text or from a value that has been read before.
From a text it reads straight ahead and stops at the first thing that is wrong, be it the
shape of the text or the type of a value, so the first fault in the order of the text is the
one reported.  From a value it decides the same, without places.

A record is read from an object, whose unknown members are passed over, or from a list of its
members in their declared order.  It starts from a blank, in which every member that may be
left out has its default already.
-/

namespace PostingTerminal.Json

/-- Reads values of one type. -/
structure Decoder (α : Type) where
  /-- Reads a value off the front of a text of at most `bound` characters. -/
  scan : (bound : Nat) → List Char → Scan α
  /-- Reads a value; `exact` refuses surplus items of a record written as a list. -/
  ofValue : (exact : Bool) → Value → Except Problem α

/-- The fault of a value that is not of the expected type.  A scalar counts as read, a list or
an object does not. -/
def wrongTypeAt (expected : String) (cs : List Char) : Fault :=
  let after (found : Found) (rest : List Char) : Fault :=
    faultBefore (.wrongType found expected) rest
  let word (letters : List Char) (found : Found) (rest : List Char) : Fault :=
    match scanWord letters rest with
    | .error f => f
    | .ok rest => after found rest
  let number (negative : Bool) (rest : List Char) : Fault :=
    match scanNumber negative rest with
    | .error f => f
    | .ok (n, rest) => after (.number n) rest
  match cs with
  | [] => faultBefore .endInValue []
  | 'n' :: rest => word ['u', 'l', 'l'] .null rest
  | 't' :: rest => word ['r', 'u', 'e'] (.bool true) rest
  | 'f' :: rest => word ['a', 'l', 's', 'e'] (.bool false) rest
  | '-' :: rest => number true rest
  | '"' :: rest =>
    match scanString rest with
    | .error f => f
    | .ok (s, rest) => after (.string s) rest
  | '[' :: _ => after .list cs
  | '{' :: _ => after .object cs
  | c :: _ => if c.isDigit then number false cs else faultAt .valueExpected cs

namespace Decoder

/-- Applies a function to what is read. -/
def map {α β : Type} (f : α → β) (d : Decoder α) : Decoder β where
  scan bound cs :=
    match d.scan bound cs with
    | .error e => .error e
    | .ok (a, rest) => .ok (f a, rest)
  ofValue exact v := (d.ofValue exact v).map f

/-- A string, named in messages by what it stands for. -/
def text (expected : String) : Decoder String where
  scan _ cs :=
    match skipSpace cs with
    | '"' :: rest => scanString rest
    | cs => .error (wrongTypeAt expected cs)
  ofValue _ v :=
    match v with
    | .string s => .ok s
    | v => .error (.wrongType v.found expected)

/-- Any string. -/
def string : Decoder String := text "a string"

/-- True or false. -/
def flag : Decoder Bool where
  scan _ cs :=
    match skipSpace cs with
    | 't' :: rest =>
      match scanWord ['r', 'u', 'e'] rest with
      | .error f => .error f
      | .ok rest => .ok (true, rest)
    | 'f' :: rest =>
      match scanWord ['a', 'l', 's', 'e'] rest with
      | .error f => .error f
      | .ok rest => .ok (false, rest)
    | cs => .error (wrongTypeAt "a boolean" cs)
  ofValue _ v :=
    match v with
    | .bool b => .ok b
    | v => .error (.wrongType v.found "a boolean")

/-- A whole number from zero on, or what is wrong with a number. -/
def naturalOf (expected : String) : Number → Except Problem Nat
  | .int n =>
    if n ≥ 0 then .ok n.toNat else .error (.wrongValue (.number (.int n)) expected)
  | .float x => .error (.wrongType (.number (.float x)) expected)

/-- A whole number from zero on that fits into 64 bits. -/
def natural (expected : String) : Decoder Nat where
  scan _ cs :=
    let number (negative : Bool) (cs : List Char) : Scan Nat :=
      match scanNumber negative cs with
      | .error f => .error f
      | .ok (n, rest) =>
        match naturalOf expected n with
        | .error problem => .error (faultBefore problem rest)
        | .ok n => .ok (n, rest)
    match skipSpace cs with
    | '-' :: rest => number true rest
    | cs => if startsDigit cs then number false cs else .error (wrongTypeAt expected cs)
  ofValue _ v :=
    match v with
    | .number n => naturalOf expected n
    | v => .error (.wrongType v.found expected)

/-- A value or null. -/
def optional {α : Type} (d : Decoder α) : Decoder (Option α) where
  scan bound cs :=
    match skipSpace cs with
    | 'n' :: rest =>
      match scanWord ['u', 'l', 'l'] rest with
      | .error f => .error f
      | .ok rest => .ok (none, rest)
    | cs =>
      match d.scan bound cs with
      | .error f => .error f
      | .ok (a, rest) => .ok (some a, rest)
  ofValue exact v :=
    match v with
    | .null => .ok none
    | v => (d.ofValue exact v).map some

end Decoder

/-- Moves to the next item of a list: `true` and the item's beginning, or `false` and what
follows the list. -/
def nextItem (first : Bool) (cs : List Char) : Scan Bool :=
  match skipSpace cs with
  | [] => .error (faultBefore .endInList [])
  | ']' :: rest => .ok (false, rest)
  | c :: rest =>
    if first then .ok (true, c :: rest)
    else if c = ',' then
      match skipSpace rest with
      | [] => .error (faultBefore .endInValue [])
      | ']' :: rest => .error (faultAt .trailingComma (']' :: rest))
      | rest => .ok (true, rest)
    else .error (faultAt .listSeparatorExpected (c :: rest))

/-- Moves to the next member of an object: its key, or nothing and what follows the object. -/
def nextKey (first : Bool) (cs : List Char) : Scan (Option String) :=
  let key (rest : List Char) : Scan (Option String) :=
    match scanString rest with
    | .error f => .error f
    | .ok (s, rest) => .ok (some s, rest)
  match skipSpace cs with
  | [] => .error (faultBefore .endInObject [])
  | '}' :: rest => .ok (none, rest)
  | c :: rest =>
    if first then
      if c = '"' then key rest else .error (faultAt .keyNotString (c :: rest))
    else if c = ',' then
      match skipSpace rest with
      | [] => .error (faultBefore .endInValue [])
      | '"' :: rest => key rest
      | '}' :: rest => .error (faultAt .trailingComma ('}' :: rest))
      | rest => .error (faultAt .keyNotString rest)
    else .error (faultAt .objectSeparatorExpected (c :: rest))

/-- Passes over the colon after a key. -/
def scanColon (cs : List Char) : Except Fault (List Char) :=
  match skipSpace cs with
  | ':' :: rest => .ok rest
  | [] => .error (faultBefore .endInObject [])
  | rest => .error (faultAt .colonExpected rest)

/-- The items of a list from the current one on. -/
def scanItems {α : Type} (item : List Char → Scan α) :
    (steps : Nat) → (first : Bool) → List Char → Scan (List α)
  | 0, _, _ => .error (faultBefore .endInList [])
  | steps + 1, first, cs =>
    match nextItem first cs with
    | .error f => .error f
    | .ok (false, rest) => .ok ([], rest)
    | .ok (true, cs) =>
      match item cs with
      | .error f => .error f
      | .ok (a, cs) =>
        match scanItems item steps false cs with
        | .error f => .error f
        | .ok (as, rest) => .ok (a :: as, rest)

/-- The members of an object from the current one on. -/
def scanPairs {α : Type} (item : List Char → Scan α) :
    (steps : Nat) → (first : Bool) → List Char → Scan (List (String × α))
  | 0, _, _ => .error (faultBefore .endInObject [])
  | steps + 1, first, cs =>
    match nextKey first cs with
    | .error f => .error f
    | .ok (none, rest) => .ok ([], rest)
    | .ok (some key, cs) =>
      match scanColon cs with
      | .error f => .error f
      | .ok cs =>
        match item cs with
        | .error f => .error f
        | .ok (a, cs) =>
          match scanPairs item steps false cs with
          | .error f => .error f
          | .ok (as, rest) => .ok ((key, a) :: as, rest)

namespace Decoder

/-- A list of values of one type. -/
def list {α : Type} (d : Decoder α) : Decoder (List α) where
  scan bound cs :=
    match skipSpace cs with
    | '[' :: rest => scanItems (d.scan bound) (bound + 1) true rest
    | cs => .error (wrongTypeAt "a sequence" cs)
  ofValue exact v :=
    match v with
    | .list items => items.mapM (d.ofValue exact)
    | v => .error (.wrongType v.found "a sequence")

/-- An object whose members are all of one type, in the order in which they are read. -/
def table {α : Type} (d : Decoder α) : Decoder (List (String × α)) where
  scan bound cs :=
    match skipSpace cs with
    | '{' :: rest => scanPairs (d.scan bound) (bound + 1) true rest
    | cs => .error (wrongTypeAt "a map" cs)
  ofValue exact v :=
    match v with
    | .object members =>
      (Value.inKeyOrder members).mapM fun (key, v) => (d.ofValue exact v).map (key, ·)
    | v => .error (.wrongType v.found "a map")

/-- Finds a name among the variants of a choice. -/
def variantOf {α : Type} (variants : List (String × α)) (name : String) : Except Problem α :=
  match variants.lookup name with
  | some a => .ok a
  | none => .error (.unknownVariant name (variants.map (·.1)))

/-- The name of a variant, read where a string must stand. -/
def scanVariant {α : Type} (variants : List (String × α)) (cs : List Char) : Scan α :=
  match cs with
  | '"' :: rest =>
    match scanString rest with
    | .error f => .error f
    | .ok (name, rest) =>
      match variantOf variants name with
      | .error problem => .error (faultBefore problem rest)
      | .ok a => .ok (a, rest)
  | cs => .error (wrongTypeAt "variant identifier" cs)

/-- One of several names: the name itself, or an object with the name as its only key and
null as its value. -/
def choice {α : Type} (variants : List (String × α)) : Decoder α where
  scan _ cs :=
    match skipSpace cs with
    | [] => .error (faultBefore .endInValue [])
    | '"' :: rest => scanVariant variants ('"' :: rest)
    | '{' :: rest =>
      match scanVariant variants (skipSpace rest) with
      | .error f => .error f
      | .ok (a, rest) =>
        match scanColon rest with
        | .error f => .error f
        | .ok rest =>
          match skipSpace rest with
          | 'n' :: rest =>
            match scanWord ['u', 'l', 'l'] rest with
            | .error f => .error f
            | .ok rest =>
              match skipSpace rest with
              | '}' :: rest => .ok (a, rest)
              | [] => .error (faultBefore .endInObject [])
              | rest => .error (faultBefore .valueExpected rest)
          | rest => .error (wrongTypeAt "unit" rest)
    | cs => .error (faultAt .valueExpected cs)
  ofValue _ v :=
    match v with
    | .string name => variantOf variants name
    | .object members =>
      match Value.inKeyOrder members with
      | [(name, v)] =>
        match variantOf variants name with
        | .error problem => .error problem
        | .ok a =>
          match v with
          | .null => .ok a
          | v => .error (.wrongType v.found "unit")
      | _ => .error (.wrongValue .object "map with a single key")
    | v => .error (.wrongType v.found "string or map")

end Decoder

/-- One member of a record. -/
structure Member (α : Type) where
  key : String
  /-- Reads the member's value and puts it into the record. -/
  decode : Decoder (α → α)
  /-- Whether an object may leave the member out. -/
  mayBeAbsent : Bool
  /-- Whether a list may end before the member. -/
  mayBeCutOff : Bool

namespace Member

/-- A member that must be present. -/
def required {α β : Type} (key : String) (d : Decoder β) (put : β → α → α) : Member α :=
  ⟨key, d.map put, false, false⟩

/-- A member whose default is in the blank. -/
def defaulted {α β : Type} (key : String) (d : Decoder β) (put : β → α → α) : Member α :=
  ⟨key, d.map put, true, true⟩

/-- A member that may be null.  An object may leave it out, a list may not. -/
def nullable {α β : Type} (key : String) (d : Decoder β) (put : Option β → α → α) : Member α :=
  ⟨key, d.optional.map put, true, false⟩

end Member

/-- A record: its name in messages, the blank it starts from, and its members in order. -/
structure Record (α : Type) where
  name : String
  blank : α
  members : List (Member α)

namespace Record

variable {α : Type}

/-- How messages name the record. -/
def expected (r : Record α) : String := "struct " ++ r.name

/-- How messages name the record when a list of its members is too short. -/
def expectedItems (r : Record α) : String :=
  r.expected ++ (if r.members.length = 1 then " with 1 element"
    else " with " ++ toString r.members.length ++ " elements")

/-- The first member that must be present and is not among the given keys. -/
def missing (r : Record α) (seen : List String) : Option String :=
  (r.members.find? fun m => !m.mayBeAbsent && !seen.contains m.key).map (·.key)

/-- What is left after a closing bracket, if that comes next. -/
def afterCloser (closer : Char) (cs : List Char) : List Char :=
  match skipSpace cs with
  | [] => []
  | c :: rest => if c = closer then rest else c :: rest

/-- The members of an object from the current one on. -/
def scanMembers (r : Record α) (bound : Nat) :
    (steps : Nat) → (first : Bool) → (seen : List String) → α → List Char → Scan α
  | 0, _, _, _, _ => .error (faultBefore .endInObject [])
  | steps + 1, first, seen, acc, cs =>
    match nextKey first cs with
    | .error f => .error f
    | .ok (none, rest) =>
      match r.missing seen with
      | some name => .error (faultBefore (.missingField name) rest)
      | none => .ok (acc, rest)
    | .ok (some key, cs) =>
      match r.members.find? (·.key == key) with
      | none =>
        match scanColon cs with
        | .error f => .error f
        | .ok cs =>
          match skipValue bound cs with
          | .error f => .error f
          | .ok cs => r.scanMembers bound steps false seen acc cs
      | some m =>
        if seen.contains key then
          .error (faultBefore (.duplicateField key) (afterCloser '}' cs))
        else
          match scanColon cs with
          | .error f => .error f
          | .ok cs =>
            match m.decode.scan bound cs with
            | .error f => .error f
            | .ok (put, cs) => r.scanMembers bound steps false (key :: seen) (put acc) cs

/-- How many of the remaining members may be cut off, up to the first that may not. -/
def cutOff? (members : List (Member α)) : Option Nat :=
  members.findIdx? fun m => !m.mayBeCutOff

/-- The end of a list of members. -/
def scanListEnd (acc : α) (cs : List Char) : Scan α :=
  match skipSpace cs with
  | [] => .error (faultBefore .endInList [])
  | ']' :: rest => .ok (acc, rest)
  | ',' :: rest =>
    match skipSpace rest with
    | ']' :: rest => .error (faultAt .trailingComma (']' :: rest))
    | rest => .error (faultAt .trailingCharacters rest)
  | rest => .error (faultAt .trailingCharacters rest)

/-- The members of a record written as a list, from the current one on. -/
def scanInOrder (r : Record α) (bound : Nat) :
    List (Member α) → (index : Nat) → α → List Char → Scan α
  | [], _, acc, cs => scanListEnd acc cs
  | m :: ms, index, acc, cs =>
    match nextItem (index == 0) cs with
    | .error f => .error f
    | .ok (false, rest) =>
      match cutOff? (m :: ms) with
      | some skipped => .error (faultBefore (.wrongLength (index + skipped) r.expectedItems) rest)
      | none => .ok (acc, rest)
    | .ok (true, cs) =>
      match m.decode.scan bound cs with
      | .error f => .error f
      | .ok (put, cs) => r.scanInOrder bound ms (index + 1) (put acc) cs

/-- The members of an object that has been read, in the given order. -/
def ofMembers (r : Record α) (exact : Bool) :
    List (String × Value) → (seen : List String) → α → Except Problem α
  | [], seen, acc =>
    match r.missing seen with
    | some name => .error (.missingField name)
    | none => .ok acc
  | (key, v) :: rest, seen, acc =>
    match r.members.find? (·.key == key) with
    | none => r.ofMembers exact rest seen acc
    | some m =>
      match m.decode.ofValue exact v with
      | .error problem => .error problem
      | .ok put => r.ofMembers exact rest (key :: seen) (put acc)

/-- The members of a record written as a list that has been read. -/
def ofItems (r : Record α) (exact : Bool) (length : Nat) :
    List (Member α) → List Value → α → Except Problem α
  | [], [], acc => .ok acc
  | [], _ :: _, acc =>
    if exact then .error (.wrongLength length "fewer elements in array") else .ok acc
  | m :: ms, [], acc =>
    match cutOff? (m :: ms) with
    | some skipped => .error (.wrongLength (length + skipped) r.expectedItems)
    | none => .ok acc
  | m :: ms, v :: vs, acc =>
    match m.decode.ofValue exact v with
    | .error problem => .error problem
    | .ok put => r.ofItems exact length ms vs (put acc)

/-- Reads the record from an object or from a list of its members. -/
def decoder (r : Record α) : Decoder α where
  scan bound cs :=
    match skipSpace cs with
    | '{' :: rest => r.scanMembers bound (bound + 1) true [] r.blank rest
    | '[' :: rest => r.scanInOrder bound r.members 0 r.blank rest
    | cs => .error (wrongTypeAt r.expected cs)
  ofValue exact v :=
    match v with
    | .object members => r.ofMembers exact (Value.inKeyOrder members) [] r.blank
    | .list items => r.ofItems exact items.length r.members items r.blank
    | v => .error (.wrongType v.found r.expected)

end Record

/-- How many lists and objects may be open at once where any value is read. -/
def maxDepth : Nat := 127

/-- Reads any value with at most `depth` more lists and objects open at once. -/
def scanAny (bound : Nat) (depth : Nat) (cs : List Char) : Scan Value :=
  let word (letters : List Char) (v : Value) (rest : List Char) : Scan Value :=
    match scanWord letters rest with
    | .error f => .error f
    | .ok rest => .ok (v, rest)
  let number (negative : Bool) (rest : List Char) : Scan Value :=
    match scanNumber negative rest with
    | .error f => .error f
    | .ok (n, rest) => .ok (.number n, rest)
  match skipSpace cs with
  | [] => .error (faultBefore .endInValue [])
  | 'n' :: rest => word ['u', 'l', 'l'] .null rest
  | 't' :: rest => word ['r', 'u', 'e'] (.bool true) rest
  | 'f' :: rest => word ['a', 'l', 's', 'e'] (.bool false) rest
  | '-' :: rest => number true rest
  | '"' :: rest =>
    match scanString rest with
    | .error f => .error f
    | .ok (s, rest) => .ok (.string s, rest)
  | '[' :: rest =>
    match depth with
    | 0 => .error (faultAt .tooDeep ('[' :: rest))
    | depth + 1 =>
      match scanItems (scanAny bound depth) (bound + 1) true rest with
      | .error f => .error f
      | .ok (items, rest) => .ok (.list items, rest)
  | '{' :: rest =>
    match depth with
    | 0 => .error (faultAt .tooDeep ('{' :: rest))
    | depth + 1 =>
      match scanPairs (scanAny bound depth) (bound + 1) true rest with
      | .error f => .error f
      | .ok (members, rest) => .ok (.object members, rest)
  | c :: rest =>
    if c.isDigit then number false (c :: rest) else .error (faultAt .valueExpected (c :: rest))

namespace Decoder

/-- Any value. -/
def any : Decoder Value where
  scan bound cs := scanAny bound maxDepth cs
  ofValue _ v := .ok v

/-- Decodes a text that must hold one value and nothing else. -/
def scanAll {α : Type} (d : Decoder α) (cs : List Char) : Except Fault α :=
  match d.scan cs.length cs with
  | .error f => .error f
  | .ok (a, rest) =>
    match skipSpace rest with
    | [] => .ok a
    | rest => .error (faultAt .trailingCharacters rest)

/-- Decodes a text; an error tells line and column. -/
def fromText {α : Type} (d : Decoder α) (s : String) : Except DecodeError α :=
  match d.scanAll s.toList with
  | .error f => .error (f.inText s.toList)
  | .ok a => .ok a

/-- Decodes a value that has been read before. -/
def fromValue {α : Type} (d : Decoder α) (v : Value) : Except DecodeError α :=
  match d.ofValue true v with
  | .error problem => .error ⟨problem, none⟩
  | .ok a => .ok a

end Decoder

end PostingTerminal.Json
