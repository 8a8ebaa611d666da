import PostingTerminal.Json.Value
import PostingTerminal.Decimal.Shortest

/-!
# Writing JSON

Two layouts of one value: compact, without a blank between tokens, and pretty, with every
item and member on a line of its own, two blanks deeper than what holds it.  Inside a string
only the quote, the backslash and the control characters below the blank are escaped.
-/

namespace PostingTerminal.Json

/-- A hexadecimal digit in lower case. -/
def hexDigit (n : Nat) : Char := Nat.digitChar (n % 16)

/-- A character as it is written inside a string. -/
def escapeChar (c : Char) : List Char :=
  if c = '"' then ['\\', '"']
  else if c = '\\' then ['\\', '\\']
  else if c = '\n' then ['\\', 'n']
  else if c = '\t' then ['\\', 't']
  else if c = '\r' then ['\\', 'r']
  else if c = '\x08' then ['\\', 'b']
  else if c = '\x0c' then ['\\', 'f']
  else if c.toNat < 32 then ['\\', 'u', '0', '0', hexDigit (c.toNat / 16), hexDigit c.toNat]
  else [c]

/-- A string between quotes. -/
def printString (s : String) : List Char := '"' :: (s.toList.flatMap escapeChar ++ ['"'])

/-- A whole number in decimal, or the shortest text of a double. -/
def Number.print : Number → List Char
  | .int n => (toString n).toList
  | .float x => (Decimal.marked.text x).toList

mutual

/-- A value on one line without blanks. -/
def Value.compact : Value → List Char
  | .null => ['n', 'u', 'l', 'l']
  | .bool true => ['t', 'r', 'u', 'e']
  | .bool false => ['f', 'a', 'l', 's', 'e']
  | .number n => n.print
  | .string s => printString s
  | .list [] => ['[', ']']
  | .list (item :: items) => '[' :: (item.compact ++ compactItems items)
  | .object [] => ['{', '}']
  | .object ((key, v) :: members) =>
    '{' :: (printString key ++ ':' :: (v.compact ++ compactMembers members))

/-- The items after the first one, and the end of the list. -/
def compactItems : List Value → List Char
  | [] => [']']
  | item :: items => ',' :: (item.compact ++ compactItems items)

/-- The members after the first one, and the end of the object. -/
def compactMembers : List (String × Value) → List Char
  | [] => ['}']
  | (key, v) :: members =>
    ',' :: (printString key ++ ':' :: (v.compact ++ compactMembers members))

end

/-- A new line, indented to a depth. -/
def indentation (depth : Nat) : List Char := '\n' :: List.replicate (2 * depth) ' '

mutual

/-- A value with its items and members on lines of their own. -/
def Value.pretty (depth : Nat) : Value → List Char
  | .null => ['n', 'u', 'l', 'l']
  | .bool true => ['t', 'r', 'u', 'e']
  | .bool false => ['f', 'a', 'l', 's', 'e']
  | .number n => n.print
  | .string s => printString s
  | .list [] => ['[', ']']
  | .list (item :: items) =>
    '[' :: (indentation (depth + 1) ++ (item.pretty (depth + 1) ++ prettyItems depth items))
  | .object [] => ['{', '}']
  | .object ((key, v) :: members) =>
    '{' :: (indentation (depth + 1) ++ (printString key ++ ':' :: ' ' ::
      (v.pretty (depth + 1) ++ prettyMembers depth members)))

/-- The items after the first one, and the end of the list. -/
def prettyItems (depth : Nat) : List Value → List Char
  | [] => indentation depth ++ [']']
  | item :: items =>
    ',' :: (indentation (depth + 1) ++ (item.pretty (depth + 1) ++ prettyItems depth items))

/-- The members after the first one, and the end of the object. -/
def prettyMembers (depth : Nat) : List (String × Value) → List Char
  | [] => indentation depth ++ ['}']
  | (key, v) :: members =>
    ',' :: (indentation (depth + 1) ++ (printString key ++ ':' :: ' ' ::
      (v.pretty (depth + 1) ++ prettyMembers depth members)))

end

/-- The compact text of a value. -/
def Value.compactText (v : Value) : String := String.ofList v.compact

/-- The pretty text of a value. -/
def Value.prettyText (v : Value) : String := String.ofList (v.pretty 0)

end PostingTerminal.Json
