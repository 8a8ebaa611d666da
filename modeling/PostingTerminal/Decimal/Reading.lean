/-!
# Reading a decimal number

A decimal number is an optional sign, digits with an optional point among or beside them and
an optional exponent, or one of the words for infinity and not-a-number.  Its value is the
double nearest to the number written; one that is too large for every double is infinite.

The digits are read into one whole number and the point is moved into the exponent, so that
`Literal` stands for `digits * 10 ^ exponent` exactly and rounding happens once.
-/

namespace PostingTerminal.Decimal

/-- The value of a digit character. -/
def digitValue (c : Char) : Nat := c.toNat - '0'.toNat

/-- The whole number that a list of digits spells. -/
def natOfDigits (ds : List Char) : Nat := ds.foldl (fun n d => 10 * n + digitValue d) 0

/-- The number `± digits * 10 ^ exponent`, as it is written. -/
structure Literal where
  negative : Bool
  digits : Nat
  exponent : Int

/-- How many decimal digits a number has; zero has none. -/
def digitCount (n : Nat) : Nat := if n = 0 then 0 else (Nat.toDigits 10 n).length

/-- The double nearest to a literal.  A literal whose leading digit stands beyond every double
is infinite or zero without its power of ten being formed. -/
def Literal.toFloat (l : Literal) : Float :=
  let size := l.exponent + digitCount l.digits
  let magnitude :=
    if l.digits = 0 then 0.0
    else if size > 400 then 1.0 / 0.0
    else if size < -400 then 0.0
    else Float.ofScientific l.digits (l.exponent < 0) l.exponent.natAbs
  if l.negative then -magnitude else magnitude

/-- Takes a sign off the front; without one the number is positive. -/
def takeSign : List Char → Bool × List Char
  | '-' :: cs => (true, cs)
  | '+' :: cs => (false, cs)
  | cs => (false, cs)

/-- The exponent part of a number, which must take up all that is left: nothing, or the letter
`e`, an optional sign and digits. -/
def readExponent : List Char → Option Int
  | [] => some 0
  | e :: cs =>
    if e = 'e' ∨ e = 'E' then
      let (negative, ds) := takeSign cs
      if ds.isEmpty || !ds.all Char.isDigit then none
      else some (if negative then -(natOfDigits ds : Int) else natOfDigits ds)
    else none

/-- The digits, point and exponent of a number without its sign. -/
def readMagnitude (cs : List Char) : Option (Nat × Int) :=
  let whole := cs.takeWhile Char.isDigit
  let afterWhole := cs.dropWhile Char.isDigit
  let (fraction, rest) :=
    match afterWhole with
    | '.' :: more => (more.takeWhile Char.isDigit, more.dropWhile Char.isDigit)
    | _ => ([], afterWhole)
  if whole.isEmpty && fraction.isEmpty then none
  else (readExponent rest).map fun e => (natOfDigits (whole ++ fraction), e - fraction.length)

/-- The double that a text spells, if it spells one. -/
def read (cs : List Char) : Option Float :=
  let (negative, body) := takeSign cs
  let word := String.ofList (body.map Char.toLower)
  if word = "inf" ∨ word = "infinity" then some (if negative then -1.0 / 0.0 else 1.0 / 0.0)
  else if word = "nan" then some (0.0 / 0.0)
  else (readMagnitude body).map fun (digits, exponent) =>
    Literal.toFloat ⟨negative, digits, exponent⟩

end PostingTerminal.Decimal
