import MinuteBook.Numbering
import MinuteBook.Proofs.Attempts
import MinuteBook.Proofs.Text.Numerals

/-!
# The text of a number tells the number

A number such as `SHOLD-2025-01-RES-DIST` is read from the right. The tag does not hold the mark
before it, and what stands before the mark ends in a digit, so the mark is found; the number and
the year hold no dash, so both dashes are found; and no number of the series is written in two ways.
The name of the entity may be any text.
-/

namespace MinuteBook

namespace Numbering

/-- What stands before the tag. -/
def mark : List Char := "-RES-".toList

/-- A text in which the mark does not occur. -/
def Unmarked (text : List Char) : Prop := ¬ mark <:+: text

/-! ## Cutting a text -/

/-- The last dash of a text cuts it in one way. -/
theorem cut_at_last_dash {a a' t t' : List Char} (h : a ++ '-' :: t = a' ++ '-' :: t')
    (dash : '-' ∉ t) (dash' : '-' ∉ t') : a = a' ∧ t = t' := by
  rcases List.append_eq_append_iff.1 h with ⟨x, rfl, rest⟩ | ⟨x, rfl, rest⟩
  · cases x with
    | nil => exact ⟨(List.append_nil a).symm, (List.cons.inj rest).2⟩
    | cons c x =>
        have later := (List.cons.inj rest).2
        exact absurd (later ▸ List.mem_append_right x List.mem_cons_self) dash
  · cases x with
    | nil => exact ⟨List.append_nil a', (List.cons.inj rest).2.symm⟩
    | cons c x =>
        have later := (List.cons.inj rest).2
        exact absurd (later ▸ List.mem_append_right x List.mem_cons_self) dash'

theorem no_digit_in_mark {c : Char} (h : c.isDigit = true) : c ∉ mark := by
  intro inside
  have none : ∀ c ∈ mark, c.isDigit = false := by simp [mark]
  rw [none c inside] at h
  exact absurd h (by simp)

/-- If a text ends in a digit, nothing can be cut from its end that begins like the mark, unless
what is left has the mark in it. -/
theorem nil_of_mark_append {x t t' : List Char} (h : mark ++ t = x ++ (mark ++ t'))
    (free : Unmarked t) (digit : ∀ c, x.getLast? = some c → c.isDigit = true) : x = [] := by
  rcases List.append_eq_append_iff.1 h with ⟨y, -, rest⟩ | ⟨z, rest, -⟩
  · refine absurd ⟨y, t', ?_⟩ free
    rw [rest, List.append_assoc]
  · cases last : x.getLast? with
    | none => exact List.getLast?_eq_none_iff.1 last
    | some c =>
        refine absurd ?_ (no_digit_in_mark (digit c last))
        rw [rest]
        exact List.mem_append_left z (List.mem_of_getLast? last)

/-- The mark cuts a text in one way, if what stands before it ends in a digit and what stands behind
it is unmarked. -/
theorem cut_at_mark {a a' t t' : List Char} (h : a ++ (mark ++ t) = a' ++ (mark ++ t'))
    (free : Unmarked t) (free' : Unmarked t') (digit : ∀ c, a.getLast? = some c → c.isDigit = true)
    (digit' : ∀ c, a'.getLast? = some c → c.isDigit = true) : a = a' := by
  rcases List.append_eq_append_iff.1 h with ⟨x, rfl, rest⟩ | ⟨x, rfl, rest⟩
  · have none := nil_of_mark_append rest free fun c last => digit' c (by
      rw [List.getLast?_append, last, Option.some_or])
    rw [none, List.append_nil]
  · have none := nil_of_mark_append rest free' fun c last => digit c (by
      rw [List.getLast?_append, last, Option.some_or])
    rw [none, List.append_nil]

/-! ## The digits in a number -/

theorem toList_int {n : Int} (h : 0 ≤ n) : (Text.int n).toList = Text.natDigits n.natAbs := by
  rw [Text.int, String.toList_ofList, if_neg (Int.not_lt.2 h)]

/-- A number of a series in digits. -/
def placeDigits (n : Int) : List Char :=
  if n < 10 then '0' :: Text.natDigits n.natAbs else Text.natDigits n.natAbs

theorem twoPlaces_eq_ok {n : Int} {t : String} (positive : 1 ≤ n) (h : twoPlaces n = .ok t) :
    t.toList = placeDigits n := by
  unfold twoPlaces at h
  unfold placeDigits
  split at h
  · rename_i small
    rw [if_pos small.2, ← Except.ok.inj h, String.toList_append, toList_int small.1]
    rfl
  · rename_i large
    rw [if_neg (by omega)]
    obtain ⟨-, rfl⟩ := Value.wholeText_eq_ok_iff.1 h
    exact toList_int (by omega)

theorem isDigit_of_mem_placeDigits {n : Int} {c : Char} (h : c ∈ placeDigits n) :
    c.isDigit = true := by
  unfold placeDigits at h
  split at h
  · rcases List.mem_cons.1 h with rfl | digit
    · decide
    · exact Text.isDigit_of_mem_natDigits digit
  · exact Text.isDigit_of_mem_natDigits h

theorem placeDigits_ne_nil (n : Int) : placeDigits n ≠ [] := by
  unfold placeDigits
  split
  · exact List.cons_ne_nil _ _
  · exact Text.natDigits_ne_nil _

/-- Only numbers below ten begin with a zero, so no two numbers have the same digits. -/
theorem placeDigits_injective {m n : Int} (hm : 1 ≤ m) (hn : 1 ≤ n)
    (h : placeDigits m = placeDigits n) : m = n := by
  unfold placeDigits at h
  split at h
  · split at h
    · have := Text.natDigits_injective (List.cons.inj h).2
      omega
    · have := (Text.natDigits_eq_zero_of_head h.symm).1
      omega
  · split at h
    · have := (Text.natDigits_eq_zero_of_head h).1
      omega
    · have := Text.natDigits_injective h
      omega

/-! ## The whole text -/

/-- The text of a number in its parts. -/
theorem idText_eq_ok {s : Series} {n : Int} {tag : Value} {id : String} (year : 0 ≤ s.year)
    (positive : 1 ≤ n) (h : idText s n tag = .ok id) :
    ∃ t, tag.display = .ok t ∧ id.toList =
      ((s.entity.toList ++ '-' :: Text.natDigits s.year.natAbs) ++ '-' :: placeDigits n) ++
        (mark ++ t.toList) := by
  obtain ⟨y, hy, h⟩ := bind_eq_ok.1 h
  obtain ⟨p, hp, h⟩ := bind_eq_ok.1 h
  obtain ⟨t, ht, h⟩ := bind_eq_ok.1 h
  have years : y.toList = Text.natDigits s.year.natAbs := by
    obtain ⟨-, rfl⟩ := Value.wholeText_eq_ok_iff.1 hy
    exact toList_int year
  refine ⟨t, ht, ?_⟩
  rw [← Except.ok.inj h]
  simp [years, twoPlaces_eq_ok positive hp, mark]

/-- Two series, or two numbers of one series, never have the same text, whatever the names of the
entities and whatever the tags, as long as the mark does not occur in the tags. -/
theorem idText_injective {s s' : Series} {n n' : Int} {tag tag' : Value} {id : String}
    (year : 0 ≤ s.year) (year' : 0 ≤ s'.year) (positive : 1 ≤ n) (positive' : 1 ≤ n')
    (free : ∀ t, tag.display = .ok t → Unmarked t.toList)
    (free' : ∀ t, tag'.display = .ok t → Unmarked t.toList)
    (h : idText s n tag = .ok id) (h' : idText s' n' tag' = .ok id) : s = s' ∧ n = n' := by
  obtain ⟨t, shown, chars⟩ := idText_eq_ok year positive h
  obtain ⟨t', shown', chars'⟩ := idText_eq_ok year' positive' h'
  have no_dash {cs : List Char} (digits : ∀ c ∈ cs, c.isDigit = true) : '-' ∉ cs := by
    intro dash
    exact absurd (digits '-' dash) (by decide)
  have ends (a : List Char) (n : Int) (c : Char)
      (last : (a ++ '-' :: placeDigits n).getLast? = some c) : c.isDigit = true := by
    rw [List.getLast?_append, List.getLast?_cons_of_ne_nil (placeDigits_ne_nil n)] at last
    obtain ⟨d, hd⟩ := List.getLast?_isSome.2 (placeDigits_ne_nil n) |> Option.isSome_iff_exists.1
    rw [hd, Option.some_or] at last
    obtain rfl := Option.some.inj last
    exact isDigit_of_mem_placeDigits (List.mem_of_getLast? hd)
  -- From the right: the mark, the dash before the number, the dash before the year.
  have whole := chars.symm.trans chars'
  have before := cut_at_mark whole (free t shown) (free' t' shown') (ends _ n) (ends _ n')
  obtain ⟨rest, places⟩ := cut_at_last_dash before
    (no_dash fun _ => isDigit_of_mem_placeDigits) (no_dash fun _ => isDigit_of_mem_placeDigits)
  obtain ⟨entity, digits⟩ := cut_at_last_dash rest
    (no_dash fun _ => Text.isDigit_of_mem_natDigits)
    (no_dash fun _ => Text.isDigit_of_mem_natDigits)
  refine ⟨?_, placeDigits_injective positive positive' places⟩
  have years := Text.natDigits_injective digits
  have names : s.entity = s'.entity := String.toList_inj.1 entity
  cases s
  cases s'
  simp only [Series.mk.injEq] at years names year year' ⊢
  exact ⟨names, by omega⟩

end Numbering

end MinuteBook
