import MinuteBook.Web.Host

/-!
# Addresses

An address is split into a scheme, an authority and a path; query and fragment are left out. What
has been split off a request may itself look like an address, so splitting is done again on paths.
-/

namespace MinuteBook.Web

structure Url where
  scheme : List Char
  authority : List Char
  path : List Char
  deriving DecidableEq

namespace Url

/-- A letter or a digit of ASCII, or a mark that a scheme may hold. -/
def isSchemeChar (c : Char) : Bool := c.isAlphanum || c == '+' || c == '-' || c == '.'

/-- Splits off a scheme, which begins with a letter and ends at a colon. -/
def splitScheme (s : List Char) : List Char × List Char :=
  let scheme := s.takeWhile (· != ':')
  if s.contains ':' && scheme.head?.any Char.isAlpha && scheme.all isSchemeChar then
    (scheme.map Char.toLower, s.drop (scheme.length + 1))
  else ([], s)

/-- A mark that ends an authority. -/
def endsAuthority (c : Char) : Bool := c == '/' || c == '?' || c == '#'

/-- Splits off an authority, which follows two slashes. -/
def splitAuthority : List Char → List Char × List Char
  | '/' :: '/' :: r => (r.takeWhile (!endsAuthority ·), r.dropWhile (!endsAuthority ·))
  | s => ([], s)

/-- The address without blanks and controls at its front, and without tabs and line breaks. -/
def cleaned (s : List Char) : List Char :=
  (s.dropWhile fun c => c.toNat ≤ 32).filter fun c => !(c == '\t' || c == '\r' || c == '\n')

/-- Splits an address. -/
def split (s : List Char) : Except Fault Url :=
  let (scheme, r) := splitScheme (cleaned s)
  let (authority, r) := splitAuthority r
  if Authority.isWellFormed authority then
    .ok ⟨scheme, authority, r.takeWhile fun c => c != '?' && c != '#'⟩
  else .error .badAddress

/-- The text of an address. -/
def text (u : Url) (authority : List Char) : List Char :=
  let path := if u.path.isEmpty || u.path.head? = some '/' then u.path else '/' :: u.path
  let hierarchy := if authority.isEmpty then u.path else '/' :: '/' :: authority ++ path
  if u.scheme.isEmpty then hierarchy else u.scheme ++ ':' :: hierarchy

/-- Checks that an authority can be that of a server. -/
def checkServer (authority : List Char) : Except Fault Unit := do
  let server := Authority.ofChars authority
  let _ ← server.normal
  if !Authority.isWellFormed server.hostText then throw .badAddress

/-- The path at which a request to an address arrives. The authority of the address is that of the
server, and that of its path is passed over; what follows them may have one more, which is part of
the path. -/
def arrival (target : List Char) : Except Fault (List Char) := do
  let outer ← split target
  let inner ← split outer.path
  let rest ← split inner.path
  if inner.path.any Text.keepsHalf then throw .loneHalf
  let path := rest.text (← (Authority.ofChars rest.authority).normal)
  checkServer outer.authority
  return path

end Url

end MinuteBook.Web
