import MinuteBook.Fault
import MinuteBook.Text.Digit
import MinuteBook.Text.Split

/-!
# Hosts

The authority of an address names a host, perhaps after a user and before a number. A host in
brackets is an address of version 6 or of a version to come; any other is a name, whose parts
between dots must be neither empty nor too long.
-/

namespace MinuteBook.Web

structure Authority where
  /-- What stands before the last at sign. -/
  user : Option (List Char)
  host : List Char
  /-- The digits behind the colon. -/
  number : List Char
  deriving DecidableEq

/-- A text before and behind the first place where a character stands. -/
def cutAt (c : Char) (s : List Char) : List Char × List Char :=
  (s.takeWhile (· != c), (s.dropWhile (· != c)).drop 1)

/-! ## Numbered hosts -/

/-- A number below 256 in decimal, without zeros in front. -/
def isOctet (s : List Char) : Bool :=
  !s.isEmpty && s.all Char.isDigit && s.length ≤ 3 && (s.head? != some '0' || s.length == 1) &&
    Text.ofDigits (s.map fun c => c.toNat - 48) ≤ 255

/-- An address of version 4. -/
def isIpv4 (s : List Char) : Bool :=
  let octets := Text.split '.' s
  octets.length == 4 && octets.all isOctet

/-- A part of an address of version 6: up to four hexadecimal digits. -/
def isHextet (s : List Char) : Bool :=
  !s.isEmpty && s.length ≤ 4 &&
    s.all fun c => c.isDigit || ('a' ≤ c && c ≤ 'f') || ('A' ≤ c && c ≤ 'F')

/-- How many parts stand at a side of the double colon. A lone colon at the end of the address is
read as an empty part, which does not count. -/
def sideCount? (parts : List (List Char)) : Option Nat :=
  if parts = [[]] then some 0 else if parts.all isHextet then some parts.length else none

/-- The parts of an address of version 6. The last one may be an address of version 4, which stands
for two. -/
def ipv6Parts? (s : List Char) : Option (List (List Char)) :=
  let parts := Text.split ':' s
  let last := parts.getLast?.getD []
  if parts.length < 3 then none
  else if last.contains '.' then
    if isIpv4 last then some (parts.dropLast ++ [['0'], ['0']]) else none
  else some parts

/-- An address of version 6: eight parts, or fewer with one double colon for those that are left
out. -/
def isIpv6 (s : List Char) : Bool :=
  match ipv6Parts? s with
  | none => false
  | some parts =>
    let inner := (parts.drop 1).dropLast
    let i := inner.findIdx List.isEmpty
    if inner.count [] = 0 then parts.length == 8 && parts.all isHextet
    else
      match sideCount? (parts.take (i + 1)), sideCount? (parts.drop (i + 2)) with
      | some m, some n => inner.count [] == 1 && m + n ≤ 7
      | _, _ => false

/-- An address of version 6, perhaps with the name of a zone. -/
def isZonedIpv6 (s : List Char) : Bool :=
  let (address, zone) := cutAt '%' s
  isIpv6 address && (!s.contains '%' || (!zone.isEmpty && !zone.contains '%'))

/-- An address of a version to come: the letter v, the version, a point and what follows it. -/
def isFuture (s : List Char) : Bool :=
  match s with
  | 'v' :: r =>
    let version := r.takeWhile fun c => isHextet [c]
    match r.drop version.length with
    | '.' :: c :: rest => !version.isEmpty && (c :: rest).all (· != '\n')
    | _ => false
  | _ => false

namespace Authority

/-- Characters that stand for a mark of addresses when they are simplified. -/
def disguised : List Nat :=
  [0x2047, 0x2048, 0x2049, 0x2100, 0x2101, 0x2105, 0x2106, 0x2a74, 0xfe13, 0xfe16, 0xfe55, 0xfe56,
    0xfe5f, 0xfe6b, 0xff03, 0xff0f, 0xff1a, 0xff1f, 0xff20]

/-- Says whether a text can be an authority: brackets come in pairs and hold a numbered host. -/
def isWellFormed (s : List Char) : Bool :=
  (if s.contains '[' && s.contains ']' then
    let host := (cutAt ']' (cutAt '[' s).2).1
    if host.head? = some 'v' then isFuture host else isZonedIpv6 host
  else !s.contains '[' && !s.contains ']') &&
    s.all fun c => !disguised.contains c.toNat

/-- The part of a host that does not depend on the case of letters: all before the zone. -/
def lowered (host : List Char) : List Char :=
  (host.takeWhile (· != '%')).map Char.toLower ++ host.dropWhile (· != '%')

/-- Reads an authority. -/
def ofChars (s : List Char) : Authority :=
  let behind := (s.reverse.takeWhile (· != '@')).reverse
  let user := if s.contains '@' then some (s.take (s.length - behind.length - 1)) else none
  if behind.contains '[' then
    let (host, rest) := cutAt ']' (cutAt '[' behind).2
    ⟨user, lowered host, (cutAt ':' rest).2⟩
  else
    let (host, number) := cutAt ':' behind
    ⟨user, lowered host, number⟩

/-- The greatest length of a part of a name. -/
def maxLabel : Nat := 63

/-- Says whether a host can be looked up: the parts of its name are not too long, and none but the
last is empty. -/
def hasValidHost (a : Authority) : Bool :=
  let labels := Text.split '.' a.host
  labels.all (·.length ≤ maxLabel) && (a.host.isEmpty || labels.dropLast.all (!·.isEmpty))

/-- The greatest number behind a host. -/
def maxNumber : Nat := 65535

/-- The number behind the host, zero if none is given. -/
def numberValue (a : Authority) : Except Fault Nat :=
  if !a.number.all Char.isDigit || Text.maxDigits < a.number.length then .error .badAddress
  else
    let n := Text.ofDigits (a.number.map fun c => c.toNat - 48)
    if n ≤ maxNumber then .ok n else .error .badAddress

/-- The host as it stands in an address: numbers with colons are in brackets. -/
def hostText (a : Authority) : List Char :=
  if a.host.contains ':' then '[' :: a.host ++ [']'] else a.host

/-- The authority in its plain form, if host and number can be used. -/
def normal (a : Authority) : Except Fault (List Char) := do
  if !a.hasValidHost then throw .badHostName
  let number ← a.numberValue
  let (name, password) := cutAt ':' (a.user.getD [])
  let user := if name.isEmpty then []
    else name ++ (if password.isEmpty then [] else ':' :: password) ++ ['@']
  return user ++ a.hostText ++ (if number = 0 then [] else ':' :: Text.natDigits number)

end Authority

end MinuteBook.Web
