import MinuteBook.Number.Double

/-!
# The shortest decimal text of a double

Of all decimals that read back as the double, one with the fewest digits is written, and of those
the nearest to the double. On the grid of decimals with a given last place only the two neighbours
of the double have to be tried: if any point of the grid reads back, one of them does.

The text is positional when the first digit stands between the fourth place after the point and
the sixteenth before it, and otherwise has an exponent of at least two digits.
-/

namespace MinuteBook.Double

/-- The decimals that read back as a double lie between `low / 4` and `high / 4` units. The ends
count when the double is even. -/
structure Interval where
  low : Nat
  high : Nat
  closed : Bool

def interval (units : Nat) : Interval :=
  let step := spacing units
  let below := if Nat.pow 2 53 < units && units == Nat.pow 2 units.log2 then step else 2 * step
  ⟨4 * units - below, 4 * units + 2 * step, units / step % 2 == 0⟩

/-- Says whether `num / den` quarter units lie in the interval. -/
def Interval.contains (i : Interval) (num den : Nat) : Bool :=
  if i.closed then i.low * den ≤ num && num ≤ i.high * den
  else i.low * den < num && num < i.high * den

/-- The decimal `digits * 10 ^ exponent`. -/
structure Decimal where
  digits : Nat
  exponent : Int
  deriving DecidableEq, Inhabited

/-- The nearest decimal with last place `10 ^ exponent` that reads back as the double. -/
def onGrid? (units : Nat) (exponent : Int) : Option Decimal :=
  let num := 4 * one * Nat.pow 10 exponent.toNat
  let den := Nat.pow 10 (-exponent).toNat
  let exact := 4 * units * den
  let c := exact / num
  let ok := fun c => (interval units).contains (c * num) den
  let down := exact - c * num
  let up := (c + 1) * num - exact
  if ok c && (!ok (c + 1) || down < up || (down == up && c % 2 == 0)) then some ⟨c, exponent⟩
  else if ok (c + 1) then some ⟨c + 1, exponent⟩
  else none

/-- The power of ten of the first digit of a positive double. -/
def magnitude (units : Nat) : Int :=
  (Text.natDigits (units * Nat.pow 10 400 / one)).length - 401

/-- The shortest decimal that reads back; seventeen digits always do. -/
def shortest (units : Nat) : Decimal :=
  let m := magnitude units
  ((List.range 17).findSome? fun (p : Nat) => onGrid? units (m - (p : Int))).getD ⟨0, 0⟩

/-- The text of a positive decimal whose digits are `ds` and whose point stands after `place`
of them. -/
def layOut (ds : List Char) (place : Int) : List Char :=
  if -4 < place && place ≤ 16 then
    if place ≤ 0 then '0' :: '.' :: List.replicate (-place).toNat '0' ++ ds
    else if ds.length ≤ place then
      ds ++ List.replicate (place.toNat - ds.length) '0' ++ ['.', '0']
    else ds.take place.toNat ++ '.' :: ds.drop place.toNat
  else
    let e := (place - 1).natAbs
    ds.take 1 ++ (if ds.length ≤ 1 then [] else '.' :: ds.drop 1) ++
      ['e', if place ≤ 0 then '-' else '+'] ++ (if e < 10 then ['0'] else []) ++ Text.natDigits e

/-- The text of a double. -/
def text : Double → String
  | .nan _ => "nan"
  | .infinite neg => if neg then "-inf" else "inf"
  | .finite neg units =>
    let body :=
      if units = 0 then ['0', '.', '0']
      else
        let d := shortest units
        let ds := Text.natDigits d.digits
        let kept := (ds.reverse.dropWhile (· == '0')).reverse
        layOut kept (ds.length + d.exponent)
    String.ofList (if neg then '-' :: body else body)

end MinuteBook.Double
