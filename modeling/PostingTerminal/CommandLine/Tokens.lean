import PostingTerminal.CommandLine.Words
import PostingTerminal.Text.Blank
import PostingTerminal.Error

/-!
# The tokens of a command line

Before a line is split it is guarded: every `$` inside a quoted span and every `#` at the
beginning of a word gets a backslash, so that the splitter takes neither for more than a
character.  Afterwards a backslash before a `$` is taken off again.  A quoted span runs from
a quote to the next quote of its kind; a quote without such a partner opens none, and the
guard goes on behind it as if it were a letter.
-/

namespace PostingTerminal.CommandLine

/-- Whether a character can open a quoted span. -/
def isQuote (c : Char) : Bool := c == '"' || c == '\''

/-- Where the guard stands. -/
inductive Guard where
  /-- Outside quoted spans, at the beginning of the line or behind a blank, or not. -/
  | outside (wordStart : Bool)
  /-- In a span that ends with the next such quote. -/
  | span (quote : Char)

/-- Guards the rest of a line. -/
def guardFrom : Guard → List Char → List Char
  | _, [] => []
  | .span quote, c :: cs =>
    if c = quote then c :: guardFrom (.outside false) cs
    else if c = '$' then '\\' :: '$' :: guardFrom (.span quote) cs
    else c :: guardFrom (.span quote) cs
  | .outside wordStart, c :: cs =>
    if isQuote c && cs.contains c then c :: guardFrom (.span c) cs
    else if c = '#' ∧ wordStart = true then
      '\\' :: c :: guardFrom (.outside (Text.isBlank c)) cs
    else c :: guardFrom (.outside (Text.isBlank c)) cs

/-- Guards a line. -/
def guardLine (line : List Char) : List Char := guardFrom (.outside true) line

/-- Takes the backslash off every `$` that has one. -/
def unguard : List Char → List Char
  | [] => []
  | '\\' :: '$' :: cs => '$' :: unguard cs
  | c :: cs => c :: unguard cs

/-- The tokens of a line as lists of characters. -/
def tokenChars (line : List Char) : Option (List (List Char)) :=
  (words (guardLine (Text.trim line))).map fun ws => ws.map unguard

/-- The tokens of a line. -/
def tokens (line : String) : Except Error (List String) :=
  match tokenChars line.toList with
  | none => .error (.parse .unbalanced)
  | some ws => .ok (ws.map String.ofList)

end PostingTerminal.CommandLine
