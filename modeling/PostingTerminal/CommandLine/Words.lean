/-!
# Splitting a line into words

Words are separated by blanks, tabs and line feeds.  A backslash outside quotes stands for
the character after it and, before a line feed, for nothing.  Between single quotes every
character stands for itself; between double quotes so does every character but the backslash
before one of `$`, the backquote, the double quote, the backslash and the line feed.  A `#`
where a word would begin starts a comment up to the end of the line.

The splitter is an automaton that takes one character at a time, so that what it does with a
line can be followed by induction on the line.
-/

namespace PostingTerminal.CommandLine

/-- Whether a character separates words. -/
def isSeparator (c : Char) : Bool := c == ' ' || c == '\t' || c == '\n'

/-- Where the splitter stands.  Words are kept in reverse. -/
inductive Mode where
  /-- Outside quotes, in a word or between words. -/
  | outside (word : Option (List Char))
  /-- After a backslash outside quotes. -/
  | escaped (word : List Char)
  /-- Between double quotes. -/
  | double (word : List Char)
  /-- After a backslash between double quotes. -/
  | doubleEscaped (word : List Char)
  /-- Between single quotes. -/
  | single (word : List Char)
  /-- In a comment. -/
  | comment

/-- Puts a word that may have ended before the words that follow. -/
def consWord (word : Option (List Char)) (words : List (List Char)) : List (List Char) :=
  match word with
  | none => words
  | some w => w.reverse :: words

/-- What the end of the line means in each mode: the last word, or a failure. -/
def Mode.finish : Mode → Option (List (List Char))
  | .outside word => some (consWord word [])
  | .comment => some []
  | _ => none

/-- What a character does outside quotes, other than end a word. -/
def outsideStep (word : Option (List Char)) (c : Char) : Mode :=
  if c = '#' ∧ word.isNone then .comment
  else if c = '"' then .double (word.getD [])
  else if c = '\'' then .single (word.getD [])
  else if c = '\\' then .escaped (word.getD [])
  else .outside (some (c :: word.getD []))

/-- The mode after a character that ends no word. -/
def Mode.step : Mode → Char → Mode
  | .outside word, c => outsideStep word c
  | .escaped w, c => .outside (some (if c = '\n' then w else c :: w))
  | .double w, c =>
    if c = '"' then .outside (some w)
    else if c = '\\' then .doubleEscaped w
    else .double (c :: w)
  | .doubleEscaped w, c =>
    if c = '$' ∨ c = '`' ∨ c = '"' ∨ c = '\\' then .double (c :: w)
    else if c = '\n' then .double w
    else .double (c :: '\\' :: w)
  | .single w, c => if c = '\'' then .outside (some w) else .single (c :: w)
  | .comment, c => if c = '\n' then .outside none else .comment

/-- The words of the rest of a line. -/
def wordsFrom : Mode → List Char → Option (List (List Char))
  | mode, [] => mode.finish
  | .outside word, c :: cs =>
    if isSeparator c then (wordsFrom (.outside none) cs).map (consWord word)
    else wordsFrom (outsideStep word c) cs
  | mode, c :: cs => wordsFrom (mode.step c) cs

/-- The words of a line, unless a quote is not closed or a backslash ends the line. -/
def words (line : List Char) : Option (List (List Char)) := wordsFrom (.outside none) line

end PostingTerminal.CommandLine
