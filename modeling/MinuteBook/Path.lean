import MinuteBook.Text.Split
import MinuteBook.Value.Reading

/-!
# Dotted paths

A path names a value inside the answers: `fromEntity.legalName` is the entry `legalName` of the
entry `fromEntity`. Blanks at the ends of a path do not count; every dot separates two segments,
which may be empty.
-/

namespace MinuteBook.Path

/-- The segments of a path. -/
def segments (path : String) : List String :=
  (Text.split '.' (Text.strip path.toList)).map String.ofList

/-- A value taken as a path. What is absent is the empty path. -/
def ofValue (v : Value) : Except Fault String :=
  match v with
  | .text s => .ok s
  | .bytes b => if b.isEmpty then .ok "" else .error .bytesPath
  | v => if v.isPresent then .error .notPath else .ok ""

theorem eq_text_or_empty_of_ofValue {v : Value} {path : String} (h : ofValue v = .ok path) :
    v = .text path ∨ path = "" := by
  unfold ofValue at h
  split at h
  · obtain rfl := Except.ok.inj h
    exact .inl rfl
  all_goals
    split at h
    all_goals simp_all

end MinuteBook.Path
