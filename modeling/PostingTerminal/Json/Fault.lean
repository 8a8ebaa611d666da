import PostingTerminal.Json.Value
import PostingTerminal.Decimal.Shortest
import PostingTerminal.Text.Printable

/-!
# What can be wrong with a JSON text

A `Problem` is the cause, in the shape of the text or in the type of a value.  A `Fault` adds
the place where reading stopped, given by what was still unread; the line and the column
follow from it once the whole text is known.  Columns count bytes.
-/

namespace PostingTerminal.Json

/-- What stands where another type of value was expected. -/
inductive Found where
  | null
  | bool (b : Bool)
  | number (n : Number)
  | string (s : String)
  | list
  | object

/-- How a message names what it found. -/
def Found.text : Found → String
  | .null => "null"
  | .bool b => "boolean `" ++ (if b then "true" else "false") ++ "`"
  | .number (.int n) => "integer `" ++ toString n ++ "`"
  | .number (.float x) => "floating point `" ++ Decimal.marked.text x ++ "`"
  | .string s => "string " ++ Text.quoted s
  | .list => "sequence"
  | .object => "map"

/-- What a value is found to be. -/
def Value.found : Value → Found
  | .null => .null
  | .bool b => .bool b
  | .number n => .number n
  | .string s => .string s
  | .list _ => .list
  | .object _ => .object

/-- Why a text or a value is refused. -/
inductive Problem where
  | endInValue
  | endInString
  | endInList
  | endInObject
  | valueExpected
  | wordExpected
  | colonExpected
  | listSeparatorExpected
  | objectSeparatorExpected
  | keyNotString
  | trailingComma
  | trailingCharacters
  | invalidNumber
  | numberOutOfRange
  | invalidEscape
  | hexEscapeEnded
  | loneSurrogate
  | controlCharacter
  | tooDeep
  | wrongType (found : Found) (expected : String)
  | wrongValue (found : Found) (expected : String)
  | wrongLength (length : Nat) (expected : String)
  | missingField (name : String)
  | duplicateField (name : String)
  | unknownVariant (name : String) (variants : List String)
  | noVariant (union : String)

/-- The alternatives of a choice as a message lists them. -/
def variantsText (variants : List String) : String :=
  let quoted := variants.map fun v => "`" ++ v ++ "`"
  match quoted with
  | [one] => one
  | [one, two] => one ++ " or " ++ two
  | all => "one of " ++ ", ".intercalate all

/-- The wording of a problem. -/
def Problem.message : Problem → String
  | .endInValue => "EOF while parsing a value"
  | .endInString => "EOF while parsing a string"
  | .endInList => "EOF while parsing a list"
  | .endInObject => "EOF while parsing an object"
  | .valueExpected => "expected value"
  | .wordExpected => "expected ident"
  | .colonExpected => "expected `:`"
  | .listSeparatorExpected => "expected `,` or `]`"
  | .objectSeparatorExpected => "expected `,` or `\x7d`"
  | .keyNotString => "key must be a string"
  | .trailingComma => "trailing comma"
  | .trailingCharacters => "trailing characters"
  | .invalidNumber => "invalid number"
  | .numberOutOfRange => "number out of range"
  | .invalidEscape => "invalid escape"
  | .hexEscapeEnded => "unexpected end of hex escape"
  | .loneSurrogate => "lone leading surrogate in hex escape"
  | .controlCharacter => "control character (\\u0000-\\u001F) found while parsing a string"
  | .tooDeep => "recursion limit exceeded"
  | .wrongType found expected => "invalid type: " ++ found.text ++ ", expected " ++ expected
  | .wrongValue found expected => "invalid value: " ++ found.text ++ ", expected " ++ expected
  | .wrongLength n expected => "invalid length " ++ toString n ++ ", expected " ++ expected
  | .missingField name => "missing field `" ++ name ++ "`"
  | .duplicateField name => "duplicate field `" ++ name ++ "`"
  | .unknownVariant name variants =>
    "unknown variant `" ++ name ++ "`, expected " ++ variantsText variants
  | .noVariant union => "data did not match any variant of untagged enum " ++ union

/-- A place in a text: what is unread there, and how many of its bytes count as read. -/
structure Place where
  rest : List Char
  into : Nat

/-- A problem and the place where it arose, if it arose while reading. -/
structure Fault where
  problem : Problem
  place : Option Place

/-- A problem at which everything before `rest` has been read. -/
def faultBefore (problem : Problem) (rest : List Char) : Fault := ⟨problem, some ⟨rest, 0⟩⟩

/-- A problem with the byte that comes next, which counts as read. -/
def faultAt (problem : Problem) (rest : List Char) : Fault := ⟨problem, some ⟨rest, 1⟩⟩

/-- The number of bytes of a text. -/
def byteCount (cs : List Char) : Nat := cs.foldl (fun n c => n + c.utf8Size) 0

/-- Line and column after a number of bytes: lines count from one, columns count the bytes
since the last line feed. -/
def lineColumn : List Char → (bytes line column : Nat) → Nat × Nat
  | [], _, line, column => (line, column)
  | c :: cs, bytes, line, column =>
    if bytes = 0 then (line, column)
    else if bytes < c.utf8Size then (line, column + bytes)
    else if c = '\n' then lineColumn cs (bytes - 1) (line + 1) 0
    else lineColumn cs (bytes - c.utf8Size) line (column + c.utf8Size)

/-- Why a text or value could not be decoded, with line and column if it was a text. -/
structure DecodeError where
  problem : Problem
  position : Option (Nat × Nat)

/-- The fault of a text, with its place as line and column. -/
def Fault.inText (fault : Fault) (text : List Char) : DecodeError :=
  ⟨fault.problem, fault.place.map fun place =>
    lineColumn text (byteCount text - byteCount place.rest + place.into) 1 0⟩

/-- The wording of an error, with its position if there is one. -/
def DecodeError.message (e : DecodeError) : String :=
  match e.position with
  | none => e.problem.message
  | some (line, column) =>
    e.problem.message ++ " at line " ++ toString line ++ " column " ++ toString column

end PostingTerminal.Json
