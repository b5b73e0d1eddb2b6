import MinuteBook.Expression.Basic
import MinuteBook.Proofs.Attempts

/-!
# Tokens at the front of a text

Each of the three sorts of tokens is found at the front of a text, whatever stands behind it, except
that no word may go on behind a word.
-/

namespace MinuteBook

namespace Text

variable {s t : List Char}

/-- A text with no blank at either end. -/
structure Trimmed (s : List Char) : Prop where
  front : ∀ c, s.head? = some c → isBlank c = false
  back : ∀ c, s.getLast? = some c → isBlank c = false

theorem dropBlanks_eq_self (h : ∀ c, s.head? = some c → isBlank c = false) : dropBlanks s = s := by
  cases s with
  | nil => rfl
  | cons c s => rw [dropBlanks, List.dropWhile_cons_of_neg (by simp [h c rfl])]

theorem dropBlanks_space (s : List Char) : dropBlanks (' ' :: s) = dropBlanks s :=
  List.dropWhile_cons_of_pos (by decide)

theorem dropBlanksRight_eq_self (h : ∀ c, s.getLast? = some c → isBlank c = false) :
    dropBlanksRight s = s := by
  have same := dropBlanks_eq_self (s := s.reverse) fun c last => h c (by rwa [← List.head?_reverse])
  rw [dropBlanks] at same
  rw [dropBlanksRight, same, List.reverse_reverse]

theorem Trimmed.strip_eq (h : Trimmed s) : strip s = s := by
  rw [strip, dropBlanks_eq_self h.front, dropBlanksRight_eq_self h.back]

/-- A text that ends, and not in a blank. -/
def EndsFirm (s : List Char) : Prop := s ≠ [] ∧ ∀ c, s.getLast? = some c → isBlank c = false

theorem EndsFirm.append (h : EndsFirm t) (s : List Char) : EndsFirm (s ++ t) := by
  refine ⟨List.append_ne_nil_of_right_ne_nil s h.1, fun c last => h.2 c ?_⟩
  rwa [List.getLast?_append_of_ne_nil s h.1] at last

theorem endsFirm_singleton {c : Char} (h : isBlank c = false) : EndsFirm [c] := by
  refine ⟨List.cons_ne_nil c [], fun d last => ?_⟩
  obtain rfl := Option.some.inj last
  exact h

end Text

namespace Token

variable {w s rest r : List Char} {t : Token} {ts : List Token}

/-- No word goes on at the front of a text. -/
def EndsWord (r : List Char) : Prop := ∀ c, r.head? = some c → isWordChar c = false

/-- No blank stands at the front of a text. -/
def Unblank (r : List Char) : Prop := ∀ c, r.head? = some c → Text.isBlank c = false

/-! ## Tokens at the front of a text -/

/-- The characters of a word. -/
structure IsWord (w : List Char) : Prop where
  filled : w ≠ []
  chars : ∀ c ∈ w, isWordChar c = true

theorem isWord_iff : IsWord w ↔ w.isEmpty = false ∧ w.all isWordChar = true := by
  rw [List.isEmpty_eq_false_iff, List.all_eq_true]
  exact ⟨fun h => ⟨h.filled, h.chars⟩, fun h => ⟨h.1, h.2⟩⟩

instance (w : List Char) : Decidable (IsWord w) := decidable_of_iff _ isWord_iff.symm

theorem not_blank_of_isWordChar {c : Char} (h : isWordChar c = true) :
    Text.isBlank c = false := by
  unfold isWordChar at h
  cases blank : Text.isBlank c with
  | false => rfl
  | true => simp [blank] at h

theorem not_quote_of_isWordChar {c : Char} (h : isWordChar c = true) : isQuote c = false := by
  unfold isWordChar at h
  cases quote : isQuote c with
  | false => rfl
  | true => simp [quote] at h

theorem IsWord.front (h : IsWord w) (r : List Char) : Unblank (w ++ r) := by
  intro c head
  obtain ⟨d, w, rfl⟩ := List.exists_cons_of_ne_nil h.filled
  obtain rfl := Option.some.inj head
  exact not_blank_of_isWordChar (h.chars _ List.mem_cons_self)

/-- No character of a word is a blank. -/
theorem IsWord.visible (h : IsWord w) : ∀ c ∈ w, (!Text.isBlank c) = true := by
  intro c inside
  rw [not_blank_of_isWordChar (h.chars c inside)]
  rfl

theorem IsWord.trimmed (h : IsWord w) : Text.Trimmed w := by
  refine ⟨fun c head => ?_, fun c last => ?_⟩
  · exact not_blank_of_isWordChar (h.chars c (List.mem_of_head? head))
  · exact not_blank_of_isWordChar (h.chars c (List.mem_of_getLast? last))

/-- A word goes as far as the next character that no word holds. -/
theorem next?_word (h : IsWord w) (ends : EndsWord r) :
    next? (w ++ r) = some (.word (String.ofList w), r) := by
  have stops : r.takeWhile isWordChar = [] ∧ r.dropWhile isWordChar = r := by
    cases r with
    | nil => exact ⟨rfl, rfl⟩
    | cons c r =>
        have other := ends c rfl
        exact ⟨List.takeWhile_cons_of_neg (by simp [other]),
          List.dropWhile_cons_of_neg (by simp [other])⟩
  obtain ⟨c, w, rfl⟩ := List.exists_cons_of_ne_nil h.filled
  have chars := List.forall_mem_cons.1 h.chars
  rw [List.cons_append, next?, if_neg (by simp [not_quote_of_isWordChar chars.1]), if_pos chars.1,
    List.takeWhile_append_of_pos chars.2, List.dropWhile_append_of_pos chars.2, stops.1, stops.2,
    List.append_nil]

/-- A literal goes as far as the next quote like the one before it. -/
theorem next?_literal {q : Char} (quote : isQuote q = true) (free : q ∉ s) (r : List Char) :
    next? (q :: (s ++ q :: r)) = some (.literal (String.ofList s), r) := by
  have others : ∀ c ∈ s, (c != q) = true := by
    intro c inside
    rw [bne_iff_ne]
    rintro rfl
    exact free inside
  rw [next?, if_pos quote, List.dropWhile_append_of_pos others, List.takeWhile_append_of_pos others]
  simp

theorem next?_op (o : Operator) (r : List Char) :
    next? (o.text.toList ++ r) = some (.op o, r) := by
  cases o <;> rfl

/-- The tokens behind the first one. -/
theorem scan_cons (first : next? s = some (t, rest))
    (later : ∀ place, scan place (Text.dropBlanks rest) = .ok ts) (place : Nat) :
    scan place s = .ok (t :: ts) := by
  rw [scan]
  split
  · rename_i none
    rw [none] at first
    exact absurd first (by simp [next?])
  · split
    · rename_i none
      rw [none] at first
      exact absurd first (by simp)
    · rename_i found
      obtain ⟨rfl, rfl⟩ := Prod.mk.inj (Option.some.inj (found.symm.trans first))
      simp only [later]
      rfl

theorem scan_nil (place : Nat) : scan place [] = .ok [] := by
  rw [scan, if_pos rfl]

end Token

end MinuteBook
