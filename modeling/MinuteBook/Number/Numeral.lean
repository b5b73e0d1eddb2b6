import MinuteBook.Number.Double
import MinuteBook.Text.Blank

/-!
# Numerals

Reading a whole number or a double from text. A numeral may use the digits of any script.
-/

namespace MinuteBook.Numeral

/-- Splits off a sign; `true` stands for minus. -/
def sign : List Char → Bool × List Char
  | '-' :: r => (true, r)
  | '+' :: r => (false, r)
  | r => (false, r)

/-- Digits with single underscores between them. -/
def groupedDigits? : List Char → Option (List Nat)
  | [] => none
  | [c] => (Text.digit? c).map ([·])
  | c :: '_' :: r => do return (← Text.digit? c) :: (← groupedDigits? r)
  | c :: r => do return (← Text.digit? c) :: (← groupedDigits? r)

/-- A blank that may stand round a whole number. The four information separators may not. -/
def isPadding (c : Char) : Bool := Text.isBlank c && !(28 ≤ c.toNat && c.toNat ≤ 31)

/-- The text without the blanks that may stand round a whole number. -/
def stripNumeral (s : List Char) : List Char :=
  ((s.dropWhile isPadding).reverse.dropWhile isPadding).reverse

/-- A whole number: an optional sign, then digits. -/
def int? (s : String) : Option Int := do
  let (neg, body) := sign (stripNumeral s.toList)
  let ds ← groupedDigits? body
  if Text.maxDigits < ds.length then none
  else return if neg then -(Text.ofDigits ds : Int) else Text.ofDigits ds

/-- The exponent after the digits of a decimal, which must end the text. -/
def exponent? : List Char → Option Int
  | [] => some 0
  | e :: r =>
    if e == 'e' || e == 'E' then
      let (neg, body) := sign r
      match Text.spanDigits body with
      | (d :: ds, []) =>
        let n : Int := Text.ofDigits (d :: ds)
        some (if neg then -n else n)
      | _ => none
    else none

/-- An unsigned decimal: digits with at most one point among them, then perhaps an exponent. -/
def decimal? (negative : Bool) (s : List Char) : Option Double :=
  let (whole, r) := Text.spanDigits s
  let (fraction, r) := match r with
    | '.' :: r' => Text.spanDigits r'
    | _ => ([], r)
  if whole.isEmpty && fraction.isEmpty then none
  else (exponent? r).map fun e => .ofDecimal negative (whole ++ fraction) (e - fraction.length)

/-- A double: a decimal, an infinity or NaN, with an optional sign. -/
def double? (s : String) : Option Double :=
  let (neg, body) := sign (Text.strip s.toList)
  match String.ofList (body.map Char.toLower) with
  | "inf" | "infinity" => some (.infinite neg)
  | "nan" => some (.nan 0)
  | _ => decimal? neg body

end MinuteBook.Numeral
