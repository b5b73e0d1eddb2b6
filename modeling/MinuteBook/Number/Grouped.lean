import MinuteBook.Number.Double

/-!
# Amounts with two places

An amount is rounded to hundredths, a tie to the even neighbour, on its exact binary value. The
whole part is written in groups of three digits.
-/

namespace MinuteBook

/-- Puts a comma before every third digit from the right. -/
def groupThousands (digits : List Char) : List Char :=
  (go digits.reverse).reverse
where
  go : List Char → List Char
    | a :: b :: c :: d :: r => a :: b :: c :: ',' :: go (d :: r)
    | short => short

/-- A number of hundredths with two places after the point. -/
def hundredthsText (n : Nat) : List Char :=
  let cents := Text.natDigits (n % 100)
  groupThousands (Text.natDigits (n / 100)) ++ '.' ::
    (if cents.length < 2 then '0' :: cents else cents)

/-- The magnitude of a finite double in hundredths. -/
def Double.hundredths (units : Nat) : Nat := roundQuotient (100 * units) Double.one

end MinuteBook
