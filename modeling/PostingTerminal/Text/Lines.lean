/-!
# Lines of a text and of a byte stream

A line ends at a line feed, and a carriage return just before that line feed belongs to the
ending.  What follows the last line feed is a line of its own unless it is empty, and there
a carriage return is kept.  A byte stream is cut at its line feeds first and decoded line by
line, so that the lines before an undecodable one can still be used.
-/

namespace PostingTerminal.Text

/-- Takes one carriage return off the end of a line. -/
def dropReturn (line : List Char) : List Char :=
  if line.getLast? = some '\r' then line.dropLast else line

/-- The lines of a text, given the beginning of the current line in reverse. -/
def linesFrom : List Char → List Char → List (List Char)
  | [], [] => []
  | current, [] => [current.reverse]
  | current, c :: cs =>
    if c = '\n' then dropReturn current.reverse :: linesFrom [] cs
    else linesFrom (c :: current) cs

/-- The lines of a text, without their endings. -/
def lines (cs : List Char) : List (List Char) := linesFrom [] cs

/-- The lines of a string, without their endings. -/
def linesOf (s : String) : List String := (lines s.toList).map String.ofList

/-- One line of a byte stream: its text, or nothing if the bytes are not UTF-8. -/
abbrev InputLine := Option String

/-- Decodes the bytes of one line, its ending taken off if it has one. -/
def decodeLine (ended : Bool) (bytes : List UInt8) : InputLine :=
  let bytes := if ended && bytes.getLast? == some 13 then bytes.dropLast else bytes
  String.fromUTF8? (ByteArray.mk bytes.toArray)

/-- The lines of a byte stream, given the beginning of the current line in reverse. -/
def inputLinesFrom : List UInt8 → List UInt8 → List InputLine
  | [], [] => []
  | current, [] => [decodeLine false current.reverse]
  | current, b :: bs =>
    if b = 10 then decodeLine true current.reverse :: inputLinesFrom [] bs
    else inputLinesFrom (b :: current) bs

/-- The lines of a byte stream, each decoded on its own. -/
def inputLines (bytes : List UInt8) : List InputLine := inputLinesFrom [] bytes

/-- The lines of a text that is known to be readable. -/
def readableLines (s : String) : List InputLine := (linesOf s).map some

/-- The empty text has no lines. -/
@[simp] theorem lines_nil : lines [] = [] := rfl

end PostingTerminal.Text
