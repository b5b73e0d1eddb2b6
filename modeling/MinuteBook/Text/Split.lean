/-!
# Splitting

The parts of a sequence between its separators. There is always at least one part.
-/

namespace MinuteBook.Text

variable {α : Type} [DecidableEq α]

/-- The parts between separators. -/
def split (separator : α) : List α → List (List α)
  | [] => [[]]
  | c :: r =>
    if c = separator then [] :: split separator r
    else match split separator r with
      | [] => [[c]]
      | part :: parts => (c :: part) :: parts

theorem split_ne_nil (separator : α) (s : List α) : split separator s ≠ [] := by
  cases s with
  | nil => simp [split]
  | cons c r =>
    simp only [split]
    split
    · simp
    · split <;> simp

theorem split_of_not_mem {separator : α} {s : List α} (h : separator ∉ s) :
    split separator s = [s] := by
  induction s with
  | nil => rfl
  | cons c r ih =>
    rw [List.mem_cons, not_or] at h
    rw [split, if_neg (Ne.symm h.1), ih h.2]

end MinuteBook.Text
