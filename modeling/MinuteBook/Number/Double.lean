import MinuteBook.Text.Digit

/-!
# Doubles

Binary floating point with 53 significant bits. Every finite double is a whole number of *units*,
where a unit is the least positive double, `2 ^ -1074`; so a finite double is kept as a sign and a
natural number of units, and comparison, rounding and conversion are exact arithmetic on naturals.
Where a NaN comes from is kept as a mark: a collection finds a NaN of the same mark again, though no
comparison of numbers finds NaN equal to anything.

`Double.ofRatio` rounds a fraction to the nearest double, a tie to the even neighbour.
-/

namespace MinuteBook

/-- The quotient rounded to the nearest natural number, a tie to the even neighbour. -/
def roundQuotient (num den : Nat) : Nat :=
  let q := num / den
  let r := num % den
  if 2 * r < den || (2 * r == den && q % 2 == 0) then q else q + 1

inductive Double where
  | finite (negative : Bool) (units : Nat)
  | infinite (negative : Bool)
  | nan (mark : Nat)
  deriving DecidableEq, Inhabited

namespace Double

/-- How many units make one. It is a long number, which no proof should have to compute. -/
@[irreducible] def one : Nat := Nat.pow 2 1074

theorem one_pos : 0 < one := by decide +kernel

/-- The first magnitude that is too large for a finite double, in units. -/
def limit : Nat := Nat.pow 2 1024 * one

/-- The distance between neighbouring doubles at a magnitude, in units. -/
def spacing (units : Nat) : Nat :=
  if units < Nat.pow 2 53 then 1 else Nat.pow 2 (units.log2 - 52)

/-- The double nearest to `± num / den`, a tie going to the even one. -/
def ofRatio (negative : Bool) (num den : Nat) : Double :=
  let step := spacing (num * one / den)
  let units := roundQuotient (num * one) (den * step) * step
  if units < limit then .finite negative units else .infinite negative

/-- The double nearest to `± digits * 10 ^ exponent`. Magnitudes far out of range are settled by
the place of the first digit alone, so a large exponent costs nothing. -/
def ofDecimal (negative : Bool) (digits : List Nat) (exponent : Int) : Double :=
  let ds := digits.dropWhile (· == 0)
  let place := ds.length + exponent
  if ds.isEmpty || place < -330 then .finite negative 0
  else if 310 < place then .infinite negative
  else ofRatio negative (Text.ofDigits ds * Nat.pow 10 exponent.toNat)
    (Nat.pow 10 (-exponent).toNat)

/-- The nearest double to an integer. -/
def ofInt (n : Int) : Double := ofRatio (n < 0) n.natAbs 1

def isFinite : Double → Bool
  | .finite _ _ => true
  | _ => false

def isZero : Double → Bool
  | .finite _ u => u == 0
  | _ => false

/-- The number of units with its sign. -/
def signed (negative : Bool) (units : Nat) : Int :=
  if negative then -units else units

def zero : Double := .finite false 0

def negated : Double → Double
  | .finite n u => .finite (!n) u
  | .infinite n => .infinite !n
  | .nan m => .nan m

/-- The sum, rounded. -/
def add : Double → Double → Double
  | .finite n u, .finite n' u' =>
    let sum := signed n u + signed n' u'
    if sum = 0 then .finite (n && n') 0 else ofRatio (sum < 0) sum.natAbs one
  | .nan m, _ => .nan m
  | _, .nan m => .nan m
  | .infinite n, .infinite n' => if n = n' then .infinite n else .nan 0
  | .infinite n, .finite _ _ => .infinite n
  | .finite _ _, .infinite n => .infinite n

/-- The product, rounded. -/
def mul : Double → Double → Double
  | .finite n u, .finite n' u' => ofRatio (n != n') (u * u') (one * one)
  | .nan m, _ => .nan m
  | _, .nan m => .nan m
  | .infinite n, .infinite n' => .infinite (n != n')
  | .infinite n, .finite n' u | .finite n' u, .infinite n =>
    if u = 0 then .nan 0 else .infinite (n != n')

/-- The whole number that a double equals. -/
def whole? : Double → Option Int
  | .finite neg u => if u % one = 0 then some (signed neg (u / one)) else none
  | _ => none

/-- Equality of numbers: the two zeros are equal, and no double equals NaN. -/
def equals : Double → Double → Bool
  | .finite n u, .finite n' u' => signed n u == signed n' u'
  | .infinite n, .infinite n' => n == n'
  | _, _ => false

/-- Equality of data: NaN agrees with NaN of the same mark. -/
def agrees : Double → Double → Bool
  | .nan m, .nan m' => m == m'
  | x, y => x.equals y

/-- Strictly below; false when either side is NaN. -/
def below : Double → Double → Bool
  | .finite n u, .finite n' u' => signed n u < signed n' u'
  | .infinite n, .infinite n' => n && !n'
  | .infinite n, .finite _ _ => n
  | .finite _ _, .infinite n => !n
  | _, _ => false

/-- Exact comparison with an integer. -/
def equalsInt (x : Double) (n : Int) : Bool :=
  match x with
  | .finite neg u => signed neg u == n * one
  | _ => false

def belowInt (x : Double) (n : Int) : Bool :=
  match x with
  | .finite neg u => signed neg u < n * one
  | .infinite neg => neg
  | .nan _ => false

def aboveInt (x : Double) (n : Int) : Bool :=
  match x with
  | .finite neg u => n * one < signed neg u
  | .infinite neg => !neg
  | .nan _ => false

end Double

end MinuteBook
