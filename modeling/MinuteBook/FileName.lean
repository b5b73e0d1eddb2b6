import MinuteBook.Store

/-!
# File names

The name of an exported document comes from a pattern with placeholders in double braces. A
placeholder holds a path and nothing else: no filters, no blocks. Characters that are illegal in
file names on common systems are dropped from the result.
-/

namespace MinuteBook.FileName

def illegal : List Char := ['/', '\\', '?', '%', '*', '|', '"', '<', '>', ':']

/-- Drops illegal characters, then the blanks at both ends. -/
def sanitize (name : String) : String :=
  String.ofList (Text.strip (name.toList.filter fun c => !illegal.contains c))

/-- The body of a placeholder whose opening braces have been read, and what follows it. A body has
at least one character and no closing brace. -/
def body? (s : List Char) : Option (List Char × List Char) :=
  match s.takeWhile (· != '\x7d'), s.dropWhile (· != '\x7d') with
  | c :: body, '\x7d' :: '\x7d' :: rest => some (c :: body, rest)
  | _, _ => none

/-- The body of the placeholder at the front of a text, and what follows it. -/
def placeholder? : List Char → Option (List Char × List Char)
  | '\x7b' :: '\x7b' :: r => body? r
  | _ => none

theorem length_body?_lt {s body rest : List Char} (h : body? s = some (body, rest)) :
    rest.length < s.length := by
  unfold body? at h
  split at h
  · rename_i heq
    simp only [Option.some.injEq, Prod.mk.injEq] at h
    have := (List.dropWhile_suffix (l := s) (· != '\x7d')).length_le
    rw [heq] at this
    simp only [List.length_cons] at this
    rw [← h.2]; omega
  · simp at h

theorem length_placeholder?_lt {s body rest : List Char} (h : placeholder? s = some (body, rest)) :
    rest.length < s.length := by
  unfold placeholder? at h
  split at h
  · have := length_body?_lt h
    simp only [List.length_cons]; omega
  · simp at h

/-- What a placeholder prints: the text of a scalar or a tuple, and nothing for lists, sets and
mappings. -/
def fill (s : Store) (path : String) : Except Fault String :=
  match s.lookup path with
  | some (.list _) => .ok ""
  | some v => v.plain
  | none => .ok ""

/-- Replaces the placeholders of a pattern. -/
def expand (s : Store) (pattern : List Char) : Except Fault (List Char) :=
  match _h : placeholder? pattern with
  | some (body, rest) => do
    return (← fill s (String.ofList body)).toList ++ (← expand s rest)
  | none =>
    match pattern with
    | [] => .ok []
    | c :: r => do return c :: (← expand s r)
termination_by pattern.length
decreasing_by
  · exact length_placeholder?_lt _h
  · simp

/-- The file name that a pattern gives. What is absent gives the empty name; a pattern must be
text. -/
def render (pattern : Value) (s : Store) : Except Fault String :=
  match pattern with
  | .text p => do return sanitize (String.ofList (← expand s p.toList))
  | v => if v.isPresent then .error .notTemplateText else .ok (sanitize "")

end MinuteBook.FileName
