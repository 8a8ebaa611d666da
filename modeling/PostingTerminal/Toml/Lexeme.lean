import PostingTerminal.Json.Value
import PostingTerminal.Json.Scanner

/-!
# The scalars of a settings file

A settings file is written in TOML 1.0.  This module takes its scalars off the front of a
text: blanks and comments, keys, strings, numbers, dates and times.  Nothing is given where
the text does not begin with one, so that the caller can try another kind.
-/

namespace PostingTerminal.Toml

open Json (Value)

/-- A value taken off the front of a text and what is left of it. -/
abbrev Parse (α : Type) := List Char → Option (α × List Char)

/-- Whether a character is a blank within a line. -/
def isSpace (c : Char) : Bool := c == ' ' || c == '\t'

/-- Passes over blanks within a line. -/
def skipSpace (cs : List Char) : List Char := cs.dropWhile isSpace

/-- Whether a character may stand in a comment or a string: no control apart from the tab. -/
def isTextChar (c : Char) : Bool := c == '\t' || (32 ≤ c.toNat && c.toNat != 127)

/-- Takes the end of a line off the front. -/
def newline? : List Char → Option (List Char)
  | '\n' :: cs => some cs
  | '\r' :: '\n' :: cs => some cs
  | _ => none

/-- Passes over a comment, if one begins here. -/
def skipComment (cs : List Char) : List Char :=
  match cs with
  | '#' :: rest => rest.dropWhile isTextChar
  | cs => cs

/-- Passes over the rest of a line that holds nothing more. -/
def lineEnd? (cs : List Char) : Option (List Char) :=
  match skipComment (skipSpace cs) with
  | [] => some []
  | rest => newline? rest

/-- Passes over blanks, comments and line ends. -/
def skipLines : (steps : Nat) → List Char → List Char
  | 0, cs => cs
  | steps + 1, cs =>
    let rest := skipComment (skipSpace cs)
    match newline? rest with
    | some rest => skipLines steps rest
    | none => if (skipSpace cs).head? = some '#' then skipSpace cs else rest

/-- The character with a code point, if there is one. -/
def scalar? (n : Nat) : Option Char :=
  if n < 0xD800 ∨ (0xDFFF < n ∧ n < 0x110000) then some (Char.ofNat n) else none

/-- Takes a fixed count of hexadecimal digits off the front. -/
def hexNumber : (count : Nat) → (acc : Nat) → Parse Nat
  | 0, acc, cs => some (acc, cs)
  | count + 1, acc, c :: cs => (Json.hexValue? c).bind fun d => hexNumber count (16 * acc + d) cs
  | _ + 1, _, [] => none

/-- The character that an escape stands for, the backslash having been read. -/
def escape : Parse Char
  | 'b' :: cs => some ('\x08', cs)
  | 't' :: cs => some ('\t', cs)
  | 'n' :: cs => some ('\n', cs)
  | 'f' :: cs => some ('\x0c', cs)
  | 'r' :: cs => some ('\r', cs)
  | '"' :: cs => some ('"', cs)
  | '\\' :: cs => some ('\\', cs)
  | 'u' :: cs => (hexNumber 4 0 cs).bind fun (n, rest) => (scalar? n).map (·, rest)
  | 'U' :: cs => (hexNumber 8 0 cs).bind fun (n, rest) => (scalar? n).map (·, rest)
  | _ => none

/-- The rest of a string between double quotes on one line. -/
def basicChars : (steps : Nat) → Parse (List Char)
  | 0, _ => none
  | _ + 1, [] => none
  | steps + 1, c :: cs =>
    if c = '"' then some ([], cs)
    else if c = '\\' then
      (escape cs).bind fun (e, rest) =>
        (basicChars steps rest).map fun (s, rest) => (e :: s, rest)
    else if isTextChar c then (basicChars steps cs).map fun (s, rest) => (c :: s, rest)
    else none

/-- The rest of a string between single quotes on one line. -/
def literalChars : Parse (List Char)
  | [] => none
  | c :: cs =>
    if c = '\'' then some ([], cs)
    else if isTextChar c then (literalChars cs).map fun (s, rest) => (c :: s, rest)
    else none

/-- Takes three quotes, and up to two more that belong to the text, off the front. -/
def closing? (quote : Char) (cs : List Char) : Option (List Char × List Char) :=
  let quotes := (cs.takeWhile (· = quote)).length
  if quotes < 3 then none
  else
    let kept := min (quotes - 3) 2
    some (List.replicate kept quote, cs.drop (kept + 3))

/-- Passes over the blanks and line ends after a backslash at the end of a line. -/
def continued? (steps : Nat) (cs : List Char) : Option (List Char) :=
  (newline? (skipSpace cs)).map fun rest =>
    let rec skip : Nat → List Char → List Char
      | 0, cs => cs
      | n + 1, cs =>
        match newline? (skipSpace cs) with
        | some rest => skip n rest
        | none => skipSpace cs
    skip steps rest

/-- The rest of a string between three double quotes. -/
def longBasicChars : (steps : Nat) → Parse (List Char)
  | 0, _ => none
  | steps + 1, cs =>
    match closing? '"' cs with
    | some result => some result
    | none =>
      match cs with
      | [] => none
      | '\\' :: rest =>
        match continued? steps rest with
        | some rest => longBasicChars steps rest
        | none =>
          (escape rest).bind fun (e, rest) =>
            (longBasicChars steps rest).map fun (s, rest) => (e :: s, rest)
      | c :: rest =>
        match newline? (c :: rest) with
        | some rest => (longBasicChars steps rest).map fun (s, rest) => ('\n' :: s, rest)
        | none =>
          if isTextChar c then (longBasicChars steps rest).map fun (s, rest) => (c :: s, rest)
          else none

/-- The rest of a string between three single quotes. -/
def longLiteralChars : (steps : Nat) → Parse (List Char)
  | 0, _ => none
  | steps + 1, cs =>
    match closing? '\'' cs with
    | some result => some result
    | none =>
      match cs with
      | [] => none
      | c :: rest =>
        match newline? (c :: rest) with
        | some rest => (longLiteralChars steps rest).map fun (s, rest) => ('\n' :: s, rest)
        | none =>
          if isTextChar c then (longLiteralChars steps rest).map fun (s, rest) => (c :: s, rest)
          else none

/-- What follows an opening of three quotes: a line end right after it is passed over. -/
def afterOpening (cs : List Char) : List Char := (newline? cs).getD cs

/-- A string of any kind. -/
def string (cs : List Char) : Option (String × List Char) :=
  let steps := cs.length + 1
  let result :=
    match cs with
    | '"' :: '"' :: '"' :: rest => longBasicChars steps (afterOpening rest)
    | '"' :: rest => basicChars steps rest
    | '\'' :: '\'' :: '\'' :: rest => longLiteralChars steps (afterOpening rest)
    | '\'' :: rest => literalChars rest
    | _ => none
  result.map fun (s, rest) => (String.ofList s, rest)

/-- Whether a character may stand in a key without quotes. -/
def isBareChar (c : Char) : Bool := c.isAlphanum || c == '_' || c == '-'

/-- One part of a key. -/
def keyPart (cs : List Char) : Option (String × List Char) :=
  match cs with
  | '"' :: rest =>
    (basicChars (rest.length + 1) rest).map fun (s, rest) => (String.ofList s, rest)
  | '\'' :: rest => (literalChars rest).map fun (s, rest) => (String.ofList s, rest)
  | cs =>
    let name := cs.takeWhile isBareChar
    if name.isEmpty then none else some (String.ofList name, cs.dropWhile isBareChar)

/-- A key: its parts, with dots and perhaps blanks between them. -/
def key : (steps : Nat) → Parse (List String)
  | 0, _ => none
  | steps + 1, cs =>
    (keyPart (skipSpace cs)).bind fun (part, rest) =>
      match skipSpace rest with
      | '.' :: rest => (key steps rest).map fun (parts, rest) => (part :: parts, rest)
      | rest => some ([part], rest)

/-! ## Numbers -/

/-- Digits of some class, with single underscores between them. -/
def digits (isDigit : Char → Bool) : List Char → List Char × List Char
  | [] => ([], [])
  | c :: cs =>
    if isDigit c then
      let (ds, rest) := digits isDigit cs
      (c :: ds, rest)
    else
      match c, cs with
      | '_', d :: more =>
        if isDigit d then
          let (ds, rest) := digits isDigit more
          (d :: ds, rest)
        else ([], c :: cs)
      | _, _ => ([], c :: cs)

/-- One or more digits that do not begin with an underscore. -/
def digits1 (isDigit : Char → Bool) (cs : List Char) : Option (List Char × List Char) :=
  match cs with
  | c :: _ => if isDigit c then some (digits isDigit cs) else none
  | [] => none

/-- The whole part of a decimal number: zero alone or digits that begin with another one. -/
def wholePart (cs : List Char) : Option (List Char × List Char) :=
  match cs with
  | '0' :: rest => some (['0'], rest)
  | cs => digits1 Char.isDigit cs

/-- A sign, if there is one. -/
def sign (cs : List Char) : List Char × List Char :=
  match cs with
  | '+' :: rest => ([], rest)
  | '-' :: rest => (['-'], rest)
  | cs => ([], cs)

/-- The digits after a point. -/
def fraction? (cs : List Char) : Option (List Char × List Char) :=
  match cs with
  | '.' :: rest => (digits1 Char.isDigit rest).map fun (ds, rest) => ('.' :: ds, rest)
  | _ => none

/-- An exponent. -/
def exponent? (cs : List Char) : Option (List Char × List Char) :=
  match cs with
  | e :: rest =>
    if e = 'e' ∨ e = 'E' then
      let (s, rest) := sign rest
      (digits1 Char.isDigit rest).map fun (ds, rest) => ('e' :: s ++ ds, rest)
    else none
  | [] => none

/-- A double, which must not be too large. -/
def float (cs : List Char) : Option (Value × List Char) :=
  let (s, body) := sign cs
  match body with
  | 'i' :: 'n' :: 'f' :: rest =>
    some (.number (.float (if s.isEmpty then 1.0 / 0.0 else -1.0 / 0.0)), rest)
  | 'n' :: 'a' :: 'n' :: rest => some (.number (.float (0.0 / 0.0)), rest)
  | _ =>
    (wholePart body).bind fun (whole, rest) =>
      let written :=
        match fraction? rest with
        | some (f, rest) =>
          match exponent? rest with
          | some (e, rest) => some (f ++ e, rest)
          | none => some (f, rest)
        | none => exponent? rest
      written.bind fun (more, rest) =>
        (Decimal.read (s ++ whole ++ more)).bind fun x =>
          if x == 1.0 / 0.0 then none else some (.number (.float x), rest)

/-- The whole number that digits of some base spell, if it fits into 64 bits with a sign. -/
def wholeValue (base : Nat) (negative : Bool) (ds : List Char) : Option Value :=
  let n := ds.foldl (fun n d => base * n + (Json.hexValue? d).getD 0) 0
  if negative then if n ≤ 0x8000000000000000 then some (.number (.int (-(n : Int)))) else none
  else if n < 0x8000000000000000 then some (.number (.int n)) else none

/-- A whole number, in decimal or without a sign in one of the other bases. -/
def integer (cs : List Char) : Option (Value × List Char) :=
  let based (base : Nat) (isDigit : Char → Bool) (rest : List Char) : Option (Value × List Char) :=
    (digits1 isDigit rest).bind fun (ds, rest) => (wholeValue base false ds).map (·, rest)
  match cs with
  | '0' :: 'x' :: rest => based 16 (fun c => (Json.hexValue? c).isSome) rest
  | '0' :: 'o' :: rest => based 8 (fun c => '0' ≤ c && c ≤ '7') rest
  | '0' :: 'b' :: rest => based 2 (fun c => c == '0' || c == '1') rest
  | cs =>
    let (s, body) := sign cs
    (wholePart body).bind fun (ds, rest) => (wholeValue 10 (!s.isEmpty) ds).map (·, rest)

/-! ## Dates and times -/

/-- A decimal number of a fixed count of digits within bounds. -/
def fixedNumber (count least most : Nat) (cs : List Char) : Option (Nat × List Char) :=
  let ds := cs.take count
  if ds.length = count ∧ ds.all Char.isDigit then
    let n := Decimal.natOfDigits ds
    if least ≤ n ∧ n ≤ most then some (n, cs.drop count) else none
  else none

/-- Takes one given character off the front. -/
def mark (c : Char) (cs : List Char) : Option (List Char) :=
  match cs with
  | d :: rest => if d = c then some rest else none
  | [] => none

/-- How many days a month of a year has. -/
def daysIn (year month : Nat) : Nat :=
  if month = 2 then
    if year % 4 = 0 ∧ (year % 100 ≠ 0 ∨ year % 400 = 0) then 29 else 28
  else if month ∈ [4, 6, 9, 11] then 30 else 31

/-- Passes over a date. -/
def date? (cs : List Char) : Option (List Char) := do
  let (year, cs) ← fixedNumber 4 0 9999 cs
  let (month, cs) ← fixedNumber 2 1 12 (← mark '-' cs)
  let (_, cs) ← fixedNumber 2 1 (daysIn year month) (← mark '-' cs)
  return cs

/-- Passes over a time of day. -/
def time? (cs : List Char) : Option (List Char) := do
  let (_, cs) ← fixedNumber 2 0 23 cs
  let (_, cs) ← fixedNumber 2 0 59 (← mark ':' cs)
  let (_, cs) ← fixedNumber 2 0 60 (← mark ':' cs)
  match cs with
  | '.' :: rest =>
    if rest.head?.any Char.isDigit then return rest.dropWhile Char.isDigit else none
  | cs => return cs

/-- Passes over the offset of a time zone, if there is one. -/
def offset? (cs : List Char) : Option (List Char) :=
  let hours (rest : List Char) : Option (List Char) := do
    let (_, rest) ← fixedNumber 2 0 23 rest
    let (_, rest) ← fixedNumber 2 0 59 (← mark ':' rest)
    return rest
  match cs with
  | 'Z' :: rest => some rest
  | 'z' :: rest => some rest
  | '+' :: rest => hours rest
  | '-' :: rest => hours rest
  | cs => some cs

/-- How a date or time appears among the values: as an object with a key of its own. -/
def momentValue (text : List Char) : Value :=
  .object [("$__toml_private_datetime", .string (String.ofList text))]

/-- A date, a time or both. -/
def moment (cs : List Char) : Option (Value × List Char) :=
  let rest? : Option (List Char) :=
    match date? cs with
    | none => time? cs
    | some afterDate =>
      let dated : Option (List Char) :=
        match afterDate with
        | c :: rest => if c = 'T' ∨ c = 't' ∨ c = ' ' then time? rest else none
        | [] => none
      match dated with
      | some afterTime => offset? afterTime
      | none => some afterDate
  rest?.map fun rest => (momentValue (cs.take (cs.length - rest.length)), rest)

/-- A scalar of any kind. -/
def scalarValue (cs : List Char) : Option (Value × List Char) :=
  match cs with
  | '"' :: _ => (string cs).map fun (s, rest) => (.string s, rest)
  | '\'' :: _ => (string cs).map fun (s, rest) => (.string s, rest)
  | 't' :: 'r' :: 'u' :: 'e' :: rest => some (.bool true, rest)
  | 'f' :: 'a' :: 'l' :: 's' :: 'e' :: rest => some (.bool false, rest)
  | cs => moment cs <|> float cs <|> integer cs

end PostingTerminal.Toml
