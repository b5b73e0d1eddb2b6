import MinuteBook.Json.Reader
import MinuteBook.Web.Url
import MinuteBook.Text.Utf8

/-!
# Targets of requests

The path of a request is a sequence of bytes in which escapes stand for bytes; its names are the
texts between slashes.
-/

namespace MinuteBook.Web.Target

/-- A character as bytes in UTF-8. -/
def charBytes (c : Char) : List UInt8 := (String.singleton c).toUTF8.toList

/-- The bytes of a text, in which a percent sign and two hexadecimal digits stand for one byte. -/
def unescape : List Char → List UInt8
  | '%' :: a :: b :: r =>
    match Json.hexDigit? a, Json.hexDigit? b with
    | some x, some y => UInt8.ofNat (16 * x + y) :: unescape r
    | _, _ => charBytes '%' ++ unescape (a :: b :: r)
  | c :: r => charBytes c ++ unescape r
  | [] => []

/-- The path of a target, without the slashes at its front. Bytes that are no text give
replacement characters. -/
def path (target : String) : Except Fault (List Char) := do
  let text := Text.ofUtf8 (unescape (← Url.arrival target.toList))
  return text.toList.dropWhile (· == '/')

/-- The path with one slash for every two slashes in a row. -/
def mergeSlashes : List Char → List Char
  | a :: b :: r =>
    if a = '/' ∧ b = '/' then '/' :: mergeSlashes r else a :: mergeSlashes (b :: r)
  | s => s

/-- The names of a path. -/
def names (path : List Char) : List String := (Text.split '/' path).map String.ofList

end MinuteBook.Web.Target
