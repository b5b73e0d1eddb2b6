import MinuteBook.Text.Printable
import MinuteBook.Text.Surrogate

/-!
# Quoted text

The form in which a message shows a text: between quotes, on one line, with every character that
is not printable written as an escape. The quote is `'` unless the text holds `'` and no `"`.
-/

namespace MinuteBook.Text

/-- A number in hexadecimal, padded with zeros to the given width. -/
def hex (width n : Nat) : List Char :=
  let ds := Nat.toDigits 16 n
  List.replicate (width - ds.length) '0' ++ ds

/-- The quote that stands round a text. -/
def quoteOf (s : List Char) : Char :=
  if s.contains '\x27' && !s.contains '"' then '"' else '\x27'

/-- One character between quotes of the given kind. -/
def escapeIn (quote c : Char) : List Char :=
  if c == '\\' || c == quote then ['\\', c]
  else if c == '\t' then ['\\', 't']
  else if c == '\n' then ['\\', 'n']
  else if c == '\r' then ['\\', 'r']
  else if isPrintable c then [c]
  else
    let n := codePoint c
    if n < 0x100 then '\\' :: 'x' :: hex 2 n
    else if n < 0x10000 then '\\' :: 'u' :: hex 4 n
    else '\\' :: 'U' :: hex 8 n

/-- The quoted form of a text. -/
def quoted (s : String) : String :=
  let cs := s.toList
  let q := quoteOf cs
  String.ofList (q :: cs.flatMap (escapeIn q) ++ [q])

end MinuteBook.Text
