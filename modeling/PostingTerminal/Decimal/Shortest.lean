import PostingTerminal.Decimal.Reading

/-!
# The shortest decimal text of a double

A finite double is `significand * 2 ^ exponent`.  The reals that round to it form an interval,
whose ends belong to it exactly when the significand is even.  The text of the double has the
fewest digits with which a decimal lies in that interval, and among those the nearest.  All of
it is decided in whole numbers.

For a number of digits the candidates are the two neighbours of the value on the grid of that
many digits.  `Style` holds what is left to a format: which way two equally near candidates
go, and where positional notation gives way to an exponent.
-/

namespace PostingTerminal.Decimal

/-- The magnitude of a finite double: `significand * 2 ^ exponent`. -/
structure Binary where
  significand : Nat
  exponent : Int

/-- Reads the fields of a double's bits, the sign left out. -/
def Binary.ofBits (bits : Nat) : Binary :=
  let field : Nat := (bits >>> 52) % 2048
  let fraction := bits % (1 <<< 52)
  if field = 0 then ⟨fraction, -1074⟩ else ⟨(1 <<< 52) + fraction, (field : Int) - 1075⟩

/-- Which of two equally near decimals of the same length is taken. -/
inductive Tie where
  | up
  | toEven

/-- The decimal `digits * 10 ^ exponent`. -/
structure Digits where
  digits : Nat
  exponent : Int

/-- The decimal exponent of the leading digit of a positive value. -/
def Binary.leading (b : Binary) : Int :=
  let low := ((b.significand.log2 : Int) + b.exponent) * 30103 / 100000
  let e := low - 1
  let reaches (k : Int) : Bool :=
    Nat.pow 10 k.toNat <<< (-b.exponent).toNat
      ≤ (b.significand * Nat.pow 10 (-k).toNat) <<< b.exponent.toNat
  if reaches (e + 2) then e + 2 else if reaches (e + 1) then e + 1 else e

/-- The better of the two neighbours of a value on the grid of multiples of `10 ^ e`, if one
of them reads back to the value.  Lengths are in units of a quarter of the gap to the next
larger double. -/
def Binary.onGrid (b : Binary) (tie : Tie) (e : Int) : Option Digits :=
  let m := b.significand
  let unit := Nat.pow 10 (-e).toNat <<< (b.exponent - 2).toNat
  let grid := Nat.pow 10 e.toNat <<< (2 - b.exponent).toNat
  let value := 4 * m * unit
  let low := (if m = 1 <<< 52 ∧ b.exponent > -1074 then 4 * m - 1 else 4 * m - 2) * unit
  let high := (4 * m + 2) * unit
  let readsBack (d : Nat) : Bool :=
    d ≠ 0 && if m % 2 = 0 then low ≤ d * grid && d * grid ≤ high else low < d * grid && d * grid < high
  let below := value / grid
  let above := below + 1
  let twice := 2 * value
  let middle := (below + above) * grid
  let nearerAbove : Bool :=
    middle < twice || (middle == twice && match tie with
      | .up => true
      | .toEven => below % 2 == 1)
  if readsBack below && readsBack above then some ⟨if nearerAbove then above else below, e⟩
  else if readsBack below then some ⟨below, e⟩
  else if readsBack above then some ⟨above, e⟩
  else none

/-- Moves trailing zeros of the digits into the exponent. -/
def Digits.stripped (d : Digits) : Digits :=
  let zeros := ((Nat.toDigits 10 d.digits).reverse.takeWhile (· = '0')).length
  if d.digits = 0 then d else ⟨d.digits / Nat.pow 10 zeros, d.exponent + zeros⟩

/-- The shortest decimal of a positive value: the first of the grids of 1, 2, … 17 digits on
which a decimal reads back. -/
def Binary.shortest (b : Binary) (tie : Tie) : Digits :=
  let lead := b.leading
  match (List.range 17).findSome? fun (n : Nat) => b.onGrid tie (lead - n) with
  | some d => d.stripped
  | none => ⟨0, 0⟩

/-- How a format writes doubles. -/
structure Style where
  /-- Which of two equally near decimals is written. -/
  tie : Tie
  /-- Whether a value whose leading digit has this exponent is written without an exponent. -/
  positional : Int → Bool
  /-- Whether a positional whole value still ends in a point and a zero. -/
  marksWhole : Bool

/-- Digits with a point where the exponent puts it. -/
def Digits.positional (d : Digits) (marksWhole : Bool) : List Char :=
  let ds := Nat.toDigits 10 d.digits
  if d.exponent ≥ 0 then
    ds ++ List.replicate d.exponent.toNat '0' ++ (if marksWhole then ['.', '0'] else [])
  else
    let places := d.exponent.natAbs
    let padded := List.replicate (places + 1 - ds.length) '0' ++ ds
    padded.take (padded.length - places) ++ '.' :: padded.drop (padded.length - places)

/-- One digit, a point, the other digits, and an exponent of at least two digits. -/
def Digits.scientific (d : Digits) : List Char :=
  let ds := Nat.toDigits 10 d.digits
  let e := d.exponent + (ds.length - 1 : Nat)
  let power := Nat.toDigits 10 e.natAbs
  let body :=
    match ds with
    | [] => []
    | [x] => [x]
    | x :: more => x :: '.' :: more
  body ++ 'e' :: (if e < 0 then '-' else '+') :: List.replicate (2 - power.length) '0' ++ power

/-- The text of a double in a style. -/
def Style.text (style : Style) (x : Float) : String :=
  let bits := x.toBits.toNat
  let sign := if bits.testBit 63 then ['-'] else []
  if x.isNaN then "NaN"
  else if x.isInf then String.ofList (sign ++ ['i', 'n', 'f'])
  else
    let b := Binary.ofBits bits
    if b.significand = 0 then
      String.ofList (sign ++ '0' :: if style.marksWhole then ['.', '0'] else [])
    else
      let d := b.shortest style.tie
      let lead := d.exponent + (digitCount d.digits : Int) - 1
      let body := if style.positional lead then d.positional style.marksWhole else d.scientific
      String.ofList (sign ++ body)

/-- Every finite value is written out in full, whole values without a point, and the larger of
two equally near decimals is taken. -/
def plain : Style := ⟨.up, fun _ => true, false⟩

/-- Values whose leading digit stands between `10 ^ -5` and `10 ^ 15` are written out, whole
ones with a point and a zero; others have an exponent.  Of two equally near decimals the even
one is taken. -/
def marked : Style := ⟨.toEven, fun e => -5 ≤ e && e ≤ 15, true⟩

/-- The text of a double, written out in full. -/
def display (x : Float) : String := plain.text x

end PostingTerminal.Decimal
