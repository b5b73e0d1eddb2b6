import Mathlib.Data.List.DropRight
import MinuteBook.Proofs.Expression.Front

/-!
# What is an expression, and what a test

Tokens are spelled with any blanks around them, but with at least one between two words
(`Token.Spells`), and a text is split into tokens exactly if it spells them
(`Expression.tokens_eq_ok_iff`). So the readers of expressions and of tests accept the texts that
spell one of the forms which they know, and give what is spelled (`parse_reads`).
-/

namespace MinuteBook

/-! ## Blanks at the ends of a text -/

namespace Text

theorem dropBlanksRight_cons (c : Char) (s : List Char) :
    dropBlanksRight (c :: s) =
      if isBlank c = true ∧ dropBlanksRight s = [] then [] else c :: dropBlanksRight s := by
  rw [dropBlanksRight, List.reverse_cons, List.dropWhile_append, dropBlanksRight]
  cases rest : s.reverse.dropWhile isBlank with
  | nil => cases blank : isBlank c <;> simp [blank]
  | cons d r => simp

/-- The blanks may be taken off in either order. -/
theorem dropBlanks_dropBlanksRight (s : List Char) : dropBlanks (dropBlanksRight s) = strip s := by
  induction s with
  | nil => rfl
  | cons c s ih =>
      rw [dropBlanksRight_cons, strip]
      cases blank : isBlank c with
      | true =>
          have skip (r : List Char) : dropBlanks (c :: r) = dropBlanks r :=
            List.dropWhile_cons_of_pos blank
          rw [skip, ← strip, ← ih]
          split
          · rename_i none
            rw [none.2]
          · exact skip _
      | false =>
          have stop (r : List Char) : dropBlanks (c :: r) = c :: r :=
            List.dropWhile_cons_of_neg (by simp [blank])
          rw [if_neg (by simp), stop, stop, dropBlanksRight_cons, if_neg (by simp [blank])]

theorem strip_subset (s : List Char) : strip s ⊆ s := by
  have right (r : List Char) : dropBlanksRight r ⊆ r := (List.rdropWhile_prefix isBlank r).subset
  exact List.Subset.trans (right _) (List.dropWhile_subset isBlank)

/-- A word in front stays as it is. -/
theorem dropBlanksRight_word_append {w : List Char} (h : ∀ c ∈ w, isBlank c = false)
    (s : List Char) : dropBlanksRight (w ++ s) = w ++ dropBlanksRight s := by
  induction w with
  | nil => rfl
  | cons c w ih =>
      rw [List.forall_mem_cons] at h
      rw [List.cons_append, dropBlanksRight_cons, if_neg (by simp [h.1]), ih h.2, List.cons_append]

/-- What ends, and not in a blank, stays as it is. -/
theorem dropBlanksRight_firm_append {w : List Char} (h : EndsFirm w) (s : List Char) :
    dropBlanksRight (w ++ s) = w ++ dropBlanksRight s := by
  rw [dropBlanksRight, List.reverse_append, List.dropWhile_append, dropBlanksRight]
  cases rest : s.reverse.dropWhile isBlank with
  | nil =>
      have same := dropBlanksRight_eq_self h.2
      rw [dropBlanksRight] at same
      simpa using same
  | cons d r => simp

end Text

namespace Token

variable {t : Token} {ts : List Token} {s w r : List Char}

/-! ## Spelling -/

/-- A token as it is written. Either quote may stand round a literal that does not hold it. -/
inductive Written : Token → List Char → Prop
  | literal {q : Char} {s : List Char} (quote : isQuote q = true) (free : q ∉ s) :
      Written (.literal (String.ofList s)) (q :: (s ++ [q]))
  | op (o : Operator) : Written (.op o) o.text.toList
  | word {w : List Char} (h : IsWord w) : Written (.word (String.ofList w)) w

/-- Blanks and nothing else. -/
def Gap (s : List Char) : Prop := ∀ c ∈ s, Text.isBlank c = true

/-- Tokens one after another with gaps around them. Between two words there is a blank. -/
inductive Spells : List Token → List Char → Prop
  | nil {s : List Char} (gap : Gap s) : Spells [] s
  | cons {t : Token} {ts : List Token} {s w r : List Char} (gap : Gap s) (first : t.Written w)
      (apart : ∀ u v, t = .word u → ts.head? = some (.word v) →
        ∃ c ∈ r.head?, Text.isBlank c = true)
      (rest : Spells ts r) : Spells (t :: ts) (s ++ (w ++ r))

theorem not_isWordChar_of_isBlank {c : Char} (h : Text.isBlank c = true) :
    isWordChar c = false := by
  simp [isWordChar, h]

theorem not_isWordChar_of_isQuote {c : Char} (h : isQuote c = true) : isWordChar c = false := by
  simp [isWordChar, h]

theorem not_isBlank_of_isQuote {c : Char} (h : isQuote c = true) : Text.isBlank c = false := by
  simp only [isQuote, Bool.or_eq_true, beq_iff_eq] at h
  rcases h with rfl | rfl <;> decide

/-- No written token begins with a blank, and none ends with one. -/
theorem Written.unblank (h : t.Written w) (r : List Char) : Unblank (w ++ r) := by
  intro c head
  cases h with
  | literal quote free =>
      obtain rfl := Option.some.inj head
      exact not_isBlank_of_isQuote quote
  | op o => cases o <;> (obtain rfl := Option.some.inj head; decide)
  | word word => exact word.front r c head

theorem Written.endsFirm (h : t.Written w) : Text.EndsFirm w := by
  cases h with
  | @literal q s quote free =>
      exact (Text.endsFirm_singleton (not_isBlank_of_isQuote quote)).append (q :: s)
  | op o =>
      cases o with
      | equal => exact (Text.endsFirm_singleton (c := '=') (by decide)).append ['=']
      | _ => exact Text.endsFirm_singleton (by decide)
  | word word => exact ⟨word.filled, word.trimmed.back⟩

/-- Only a word begins with a character of a word. -/
theorem Written.endsWord (h : t.Written w) (other : ∀ u, t ≠ .word u) (r : List Char) :
    EndsWord (w ++ r) := by
  intro c head
  cases h with
  | literal quote free =>
      obtain rfl := Option.some.inj head
      exact not_isWordChar_of_isQuote quote
  | op o => cases o <;> (obtain rfl := Option.some.inj head; decide)
  | word word => exact absurd rfl (other _)

/-! ### Gaps -/

theorem gap_nil : Gap [] := List.forall_mem_nil _

theorem gap_space : Gap [' '] := List.forall_mem_singleton.2 (by decide)

theorem Gap.append (h : Gap s) (h' : Gap r) : Gap (s ++ r) := by
  intro c inside
  rcases List.mem_append.1 inside with first | second
  · exact h c first
  · exact h' c second

theorem dropBlanks_gap_append (h : Gap s) (r : List Char) :
    Text.dropBlanks (s ++ r) = Text.dropBlanks r :=
  List.dropWhile_append_of_pos h

theorem exists_gap_dropBlanks (s : List Char) : ∃ gap, Gap gap ∧ s = gap ++ Text.dropBlanks s :=
  ⟨s.takeWhile Text.isBlank, fun _ inside => List.mem_takeWhile_imp inside,
    List.takeWhile_append_dropWhile.symm⟩

theorem exists_gap_dropBlanksRight (s : List Char) :
    ∃ gap, Gap gap ∧ s = Text.dropBlanksRight s ++ gap :=
  ⟨s.rtakeWhile Text.isBlank, fun _ inside => List.mem_rtakeWhile_imp inside,
    List.rdropWhile_append_rtakeWhile.symm⟩

/-- Gaps on both sides of what has no blank at its ends are taken off. -/
theorem strip_gaps (blank : Gap s) (blank' : Gap r) (trimmed : Text.Trimmed w) :
    Text.strip (s ++ (w ++ r)) = w := by
  have none : Text.dropBlanksRight r = [] := List.rdropWhile_eq_nil_iff.2 blank'
  rw [Text.strip, dropBlanks_gap_append blank]
  cases w with
  | nil =>
      have front : Text.dropBlanks r = [] := List.dropWhile_eq_nil_iff.2 blank'
      rw [List.nil_append, front]
      rfl
  | cons c w =>
      have front : Text.dropBlanks (c :: w ++ r) = c :: w ++ r :=
        Text.dropBlanks_eq_self fun d head => trimmed.front d head
      have firm : Text.EndsFirm (c :: w) := ⟨List.cons_ne_nil c w, trimmed.back⟩
      rw [front, Text.dropBlanksRight_firm_append firm, none, List.append_nil]

/-- A gap may be added in front. -/
theorem Spells.gap_append (h : Spells ts r) (gap : Gap s) : Spells ts (s ++ r) := by
  cases h with
  | nil blank => exact .nil (gap.append blank)
  | cons blank first apart rest =>
      rw [← List.append_assoc]
      exact .cons (gap.append blank) first apart rest

/-- A gap may be added at the end. -/
theorem Spells.append_gap (h : Spells ts s) (gap : Gap r) : Spells ts (s ++ r) := by
  induction h with
  | nil blank => exact .nil (blank.append gap)
  | @cons t ts s w rest blank first apart later ih =>
      rw [List.append_assoc, List.append_assoc]
      refine .cons blank first (fun u v word next => ?_) ih
      obtain ⟨c, head, space⟩ := apart u v word next
      exact ⟨c, List.mem_head?_append_of_mem_head? head, space⟩

/-- The text of each token stands in what is spelled. -/
theorem Spells.text_subset (h : Spells ts s) : ∀ t ∈ ts, t.text.toList ⊆ s := by
  induction h with
  | nil gap => exact List.forall_mem_nil _
  | @cons t ts s w r gap first apart later ih =>
      have own : t.text.toList ⊆ w := by
        cases first with
        | literal quote free => simp [text]
        | op o => exact List.Subset.refl _
        | word h => simp [text]
      refine List.forall_mem_cons.2 ⟨fun c inside => ?_, fun t' member c inside => ?_⟩
      · exact List.mem_append_right s (List.mem_append_left r (own inside))
      · exact List.mem_append_right s (List.mem_append_right w (ih t' member inside))

theorem Spells.ne_nil (h : Spells (t :: ts) s) : s ≠ [] := by
  cases h with
  | cons gap first apart rest =>
      exact List.append_ne_nil_of_right_ne_nil _
        (List.append_ne_nil_of_left_ne_nil first.endsFirm.1 _)

/-- Blanks at the end may be left out. -/
theorem Spells.dropBlanksRight (h : Spells ts s) : Spells ts (Text.dropBlanksRight s) := by
  induction h with
  | @nil s blank =>
      have none : Text.dropBlanksRight s = [] := List.rdropWhile_eq_nil_iff.2 blank
      rw [none]
      exact .nil gap_nil
  | @cons t ts s w rest blank first apart later ih =>
      have firm : Text.EndsFirm (s ++ w) := first.endsFirm.append s
      rw [← List.append_assoc, Text.dropBlanksRight_firm_append firm, List.append_assoc]
      refine .cons blank first (fun u v word next => ?_) ih
      -- Behind the gap comes another word, so the gap is not at the end.
      obtain ⟨c, head, space⟩ := apart u v word next
      obtain ⟨gap, -, cut⟩ := exists_gap_dropBlanksRight rest
      cases ts with
      | nil => exact absurd next (by simp)
      | cons t' ts =>
          obtain ⟨d, r, front⟩ := List.exists_cons_of_ne_nil ih.ne_nil
          rw [front] at cut ⊢
          rw [cut] at head
          exact ⟨c, head, space⟩

/-- Blanks in front may be left out. -/
theorem Spells.dropBlanks (h : Spells ts s) : Spells ts (Text.dropBlanks s) := by
  cases h with
  | nil blank => exact .nil fun c inside => blank c (List.dropWhile_subset _ inside)
  | @cons t ts gap w r blank first apart rest =>
      rw [dropBlanks_gap_append blank, Text.dropBlanks_eq_self (first.unblank r)]
      exact .cons gap_nil first apart rest

theorem Spells.strip (h : Spells ts s) : Spells ts (Text.strip s) :=
  h.dropBlanks.dropBlanksRight

/-! ### Scanning -/

theorem Written.next?_eq (h : t.Written w) (ends : ∀ u, t = .word u → EndsWord r) :
    next? (w ++ r) = some (t, r) := by
  cases h with
  | @literal q s quote free =>
      have cut : q :: (s ++ [q]) ++ r = q :: (s ++ q :: r) := by simp
      rw [cut]
      exact next?_literal quote free r
  | op o => exact next?_op o r
  | word word => exact next?_word word (ends _ rfl)

theorem Spells.endsWord (h : Spells ts r)
    (apart : ∀ v, ts.head? = some (.word v) → ∃ c ∈ r.head?, Text.isBlank c = true) :
    EndsWord r := by
  cases h with
  | nil blank => exact fun c head => not_isWordChar_of_isBlank (blank c (List.mem_of_head? head))
  | @cons t ts s w rest blank first _ _ =>
      cases s with
      | cons d s =>
          intro c head
          obtain rfl := Option.some.inj head
          exact not_isWordChar_of_isBlank (blank _ List.mem_cons_self)
      | nil =>
          refine first.endsWord (fun u word => ?_) rest
          obtain ⟨c, head, space⟩ := apart u (congrArg some word)
          exact absurd (first.unblank rest c head) (by simp [space])

/-- What is spelled is found. -/
theorem Spells.scan_eq (h : Spells ts s) (place : Nat) :
    scan place (Text.dropBlanks s) = .ok ts := by
  induction h generalizing place with
  | @nil s blank =>
      have none : Text.dropBlanks s = [] := List.dropWhile_eq_nil_iff.2 blank
      rw [none, scan_nil]
  | @cons t ts s w rest blank first apart later ih =>
      rw [dropBlanks_gap_append blank, Text.dropBlanks_eq_self (first.unblank rest)]
      exact scan_cons (first.next?_eq fun u word => later.endsWord (apart u · word)) ih place

theorem text_of_operator? {o : Operator} (h : operator? s = some (o, r)) :
    s = o.text.toList ++ r := by
  unfold operator? at h
  split at h <;> cases h <;> rfl

/-- The token at the front of a text is written there. -/
theorem exists_written_of_next? (h : next? s = some (t, r)) :
    ∃ w, t.Written w ∧ s = w ++ r ∧ ∀ u, t = .word u → EndsWord r := by
  cases s with
  | nil => exact absurd h (by simp [next?])
  | cons c s =>
      rw [next?] at h
      split at h
      · rename_i quote
        -- A literal goes on to the quote that closes it.
        have cut : s.takeWhile (· != c) ++ s.dropWhile (· != c) = s :=
          List.takeWhile_append_dropWhile
        split at h
        · exact absurd h (by simp)
        · rename_i d rest found
          obtain ⟨rfl, rfl⟩ := Prod.mk.inj (Option.some.inj h)
          have closing : d = c := by
            have stopped := List.head?_dropWhile_not (· != c) s
            rw [found] at stopped
            simpa using stopped
          have free : c ∉ s.takeWhile (· != c) := by
            intro inside
            simpa using List.mem_takeWhile_imp inside
          refine ⟨_, .literal quote free, ?_, by simp⟩
          rw [found, closing] at cut
          simpa using cut.symm
      · split at h
        · rename_i char
          obtain ⟨rfl, rfl⟩ := Prod.mk.inj (Option.some.inj h)
          have word : IsWord (c :: s.takeWhile isWordChar) := by
            refine ⟨List.cons_ne_nil _ _, List.forall_mem_cons.2 ⟨char, fun d inside => ?_⟩⟩
            exact List.mem_takeWhile_imp inside
          refine ⟨_, .word word, ?_, fun _ _ d head => ?_⟩
          · rw [List.cons_append, List.takeWhile_append_dropWhile]
          · have stopped := List.head?_dropWhile_not isWordChar s
            rw [head] at stopped
            simpa using stopped
        · obtain ⟨⟨o, rest⟩, found, same⟩ := Option.map_eq_some_iff.1 h
          obtain ⟨rfl, rfl⟩ := Prod.mk.inj same
          exact ⟨_, .op o, text_of_operator? found, by simp⟩

/-- A text that does not begin with a word spells none first, or has a blank in front of it. -/
theorem Spells.apart (h : Spells ts s) (ends : EndsWord s) {v : String}
    (next : ts.head? = some (.word v)) : ∃ c ∈ s.head?, Text.isBlank c = true := by
  cases h with
  | nil gap => exact absurd next (by simp)
  | @cons t ts gap w r blank first _ _ =>
      obtain rfl := Option.some.inj next
      cases gap with
      | cons c gap => exact ⟨c, rfl, blank c List.mem_cons_self⟩
      | nil =>
          cases first with
          | @word w word =>
              obtain ⟨c, w, rfl⟩ := List.exists_cons_of_ne_nil word.filled
              have char := word.chars c List.mem_cons_self
              exact absurd (ends c rfl) (by simp [char])

/-- What is found is spelled. -/
theorem spells_of_scan {place : Nat} (h : scan place s = .ok ts) : Spells ts s := by
  induction place, s using scan.induct generalizing ts with
  | case1 place =>
      rw [scan_nil] at h
      obtain rfl := Except.ok.inj h
      exact .nil gap_nil
  | case2 place s filled none =>
      rw [scan, if_neg filled] at h
      split at h
      · exact absurd h (by simp)
      · rename_i found
        exact absurd (none.symm.trans found) (by simp)
  | case3 place s filled t rest found after =>
      rename_i ih
      rw [scan, if_neg filled] at h
      split at h
      · rename_i none
        exact absurd (none.symm.trans found) (by simp)
      · rename_i t' rest' found'
        obtain ⟨rfl, rfl⟩ := Prod.mk.inj (Option.some.inj (found.symm.trans found'))
        obtain ⟨ts', later, same⟩ := bind_eq_ok.1 h
        obtain rfl := Except.ok.inj same
        obtain ⟨w, first, rfl, ends⟩ := exists_written_of_next? found
        obtain ⟨gap, blank, cut⟩ := exists_gap_dropBlanks rest
        have spelled : Spells ts' rest := by
          rw [cut]
          exact (ih later).gap_append blank
        exact .cons gap_nil first
          (fun u v word next => spelled.apart (ends u word) next) spelled

end Token

open Token in
/-- A text is split into the tokens that it spells. -/
theorem Expression.tokens_eq_ok_iff {source : String} {ts : List Token} :
    tokens source = .ok ts ↔ Spells ts source.toList := by
  have outcome : tokens source = .ok ts ↔ scan 0 (Text.strip source.toList) = .ok ts := by
    unfold tokens
    dsimp only
    cases scan 0 (Text.strip source.toList) <;> simp
  rw [outcome]
  constructor
  · intro h
    obtain ⟨front, blank, cut⟩ := exists_gap_dropBlanks source.toList
    obtain ⟨back, blank', cut'⟩ := exists_gap_dropBlanksRight (Text.dropBlanks source.toList)
    rw [cut, cut']
    exact ((spells_of_scan h).append_gap blank').gap_append blank
  · intro h
    rw [← Text.dropBlanks_dropBlanksRight]
    exact h.dropBlanksRight.scan_eq 0

/-! ## The forms -/

/-- The token of an operand. -/
def Operand.token : Operand → Token
  | .path p => .word p
  | .literal s => .literal s

/-- A token that stands for a literal, be it quoted or a word. -/
inductive Token.Denotes : Token → String → Prop
  | literal (s : String) : Denotes (.literal s) s
  | word (s : String) : Denotes (.word s) s

namespace Expression

/-- The forms of an expression. -/
inductive Form : Expression → List Token → Prop
  | path (p : String) : Form (.var p none) [.word p]
  | filtered (p filter : String) : Form (.var p (some filter)) [.word p, .op .bar, .word filter]
  | ternary {lit : Token} {s : String} (p : String) (denotes : lit.Denotes s) (yes no : Operand) :
      Form (.ternary p s yes no)
        [.word p, .op .equal, lit, .op .question, yes.token, .op .colon, no.token]

/-- The expression is what a text spells. -/
def SpelledBy (e : Expression) (source : String) : Prop :=
  ∃ ts, e.Form ts ∧ Token.Spells ts source.toList

theorem wordOf_eq_ok_iff {t : Token} {s : String} : wordOf t = .ok s ↔ t = .word s := by
  cases t <;> simp [wordOf]

theorem literalOf_eq_ok_iff {t : Token} {s : String} : literalOf t = .ok s ↔ t.Denotes s := by
  constructor
  · intro h
    cases t with
    | literal s =>
        obtain rfl := Except.ok.inj h
        exact .literal s
    | op o => exact absurd h (by simp [literalOf])
    | word s =>
        obtain rfl := Except.ok.inj h
        exact .word s
  · intro h
    cases h <;> rfl

theorem operandOf_eq_ok_iff {t : Token} {o : Operand} : operandOf t = .ok o ↔ t = o.token := by
  cases t <;> cases o <;> simp [operandOf, Operand.token]

theorem ofTokens_eq_ok_iff {source : String} {ts : List Token} {e : Expression} :
    ofTokens source ts = .ok e ↔ e.Form ts := by
  constructor
  · intro h
    unfold ofTokens at h
    split at h
    · obtain ⟨p, path, h⟩ := bind_eq_ok.1 h
      obtain ⟨s, lit, h⟩ := bind_eq_ok.1 h
      obtain ⟨yes, left, h⟩ := bind_eq_ok.1 h
      obtain ⟨no, right, h⟩ := bind_eq_ok.1 h
      obtain rfl := Except.ok.inj h
      rw [wordOf_eq_ok_iff] at path
      rw [literalOf_eq_ok_iff] at lit
      rw [operandOf_eq_ok_iff] at left right
      rw [path, left, right]
      exact .ternary p lit yes no
    · split at h
      · exact absurd h (by simp)
      · split at h
        · exact absurd h (by simp)
        · obtain ⟨p, path, h⟩ := bind_eq_ok.1 h
          obtain rfl := Except.ok.inj h
          rw [wordOf_eq_ok_iff] at path
          rw [path]
          exact .path p
        · obtain ⟨p, path, h⟩ := bind_eq_ok.1 h
          obtain ⟨f, filter, h⟩ := bind_eq_ok.1 h
          obtain rfl := Except.ok.inj h
          rw [wordOf_eq_ok_iff] at path filter
          rw [path, filter]
          exact .filtered p f
        · obtain ⟨p, -, h⟩ := bind_eq_ok.1 h
          exact absurd h (by simp [throw, throwThe, MonadExceptOf.throw])
  · intro h
    cases h with
    | path p => rfl
    | filtered p filter => rfl
    | ternary p denotes yes no => cases denotes <;> cases yes <;> cases no <;> rfl

end Expression

namespace Test

/-- The forms of a test. The path of a test of inclusion is one word with what follows it. -/
inductive Form : Test → List Token → Prop
  | truthy (p : String) : Form (.truthy p) [.word p]
  | equals {lit : Token} {s : String} (p : String) (denotes : lit.Denotes s) :
      Form (.equals p s) [.word p, .op .equal, lit]
  | includes {lit : Token} {s : String} (p : String) (denotes : lit.Denotes s) :
      Form (.includes p s) [.word (p ++ ".includes"), .op .openParen, lit, .op .closeParen]

/-- The test is what a text spells. -/
def SpelledBy (t : Test) (source : String) : Prop :=
  ∃ ts, t.Form ts ∧ Token.Spells ts source.toList

theorem includesBase?_append (path : String) :
    includesBase? (String.ofList (path.toList ++ includesSuffix)) = some path := by
  rw [includesBase?, String.toList_ofList]
  simp

theorem append_includes (path : String) :
    path ++ ".includes" = String.ofList (path.toList ++ includesSuffix) := by
  have cut : path ++ ".includes" = String.ofList (path.toList ++ ".includes".toList) := by
    rw [String.ofList_append, String.ofList_toList, String.ofList_toList]
  exact cut

theorem includesBase?_eq_some_iff {word p : String} :
    includesBase? word = some p ↔ word = p ++ ".includes" := by
  constructor
  · intro h
    rw [includesBase?] at h
    split at h
    · rename_i suffix
      obtain rfl := Option.some.inj h
      have cut := List.take_append_drop (word.toList.length - includesSuffix.length) word.toList
      rw [suffix] at cut
      apply String.toList_inj.1
      rw [String.toList_append, String.toList_ofList]
      exact cut.symm
    · exact absurd h (by simp)
  · rintro rfl
    rw [append_includes, includesBase?_append]

theorem ofTokens_eq_ok_iff {source : String} {ts : List Token} {t : Test} :
    ofTokens source ts = .ok t ↔ t.Form ts := by
  constructor
  · intro h
    unfold ofTokens at h
    split at h
    · exact absurd h (by simp)
    · obtain ⟨p, path, read⟩ := bind_eq_ok.1 h
      rw [Expression.wordOf_eq_ok_iff] at path
      rw [path]
      split at read
      · rename_i suffix
        obtain ⟨s, lit, read⟩ := bind_eq_ok.1 read
        obtain rfl := Except.ok.inj read
        rw [includesBase?_eq_some_iff] at suffix
        rw [suffix]
        exact .includes _ (Expression.literalOf_eq_ok_iff.1 lit)
      · obtain rfl := Except.ok.inj read
        exact .truthy p
      · obtain ⟨s, lit, read⟩ := bind_eq_ok.1 read
        obtain rfl := Except.ok.inj read
        exact .equals p (Expression.literalOf_eq_ok_iff.1 lit)
      · exact absurd read (by simp [throw, throwThe, MonadExceptOf.throw])
  · intro h
    cases h with
    | truthy p => rfl
    | equals p denotes => cases denotes <;> rfl
    | includes p denotes =>
        have base : includesBase? (p ++ ".includes") = some p := includesBase?_eq_some_iff.2 rfl
        cases denotes <;>
          simp only [ofTokens, Expression.wordOf, ok_bind, base, Expression.literalOf] <;> rfl

end Test

/-! ## Readers -/

/-- A reader for a grammar gives what a text spells and refuses every other text. No text spells
two things. -/
structure Reads {ε α : Type} (read : String → Except ε α) (Spelled : α → String → Prop) :
    Prop where
  accepts : ∀ source a, read source = .ok a ↔ Spelled a source
  unambiguous : ∀ source a b, Spelled a source → Spelled b source → a = b
  refuses : ∀ source, (∃ error, read source = .error error) ↔ ¬ ∃ a, Spelled a source

/-- What a reader accepts decides the rest. -/
theorem Reads.of_accepts {ε α : Type} {read : String → Except ε α} {Spelled : α → String → Prop}
    (accepts : ∀ source a, read source = .ok a ↔ Spelled a source) : Reads read Spelled := by
  refine ⟨accepts, fun source a b first second => ?_, fun source => ?_⟩
  · exact Except.ok.inj (((accepts source a).2 first).symm.trans ((accepts source b).2 second))
  · simp only [← accepts source]
    cases read source <;> simp

theorem Expression.parse_eq_ok_iff {source : String} {e : Expression} :
    parse source = .ok e ↔ e.SpelledBy source := by
  simp only [parse, bind_eq_ok, tokens_eq_ok_iff, ofTokens_eq_ok_iff, SpelledBy, and_comm]

theorem Test.parse_eq_ok_iff {source : String} {t : Test} :
    parse source = .ok t ↔ t.SpelledBy source := by
  simp only [parse, bind_eq_ok, Expression.tokens_eq_ok_iff, ofTokens_eq_ok_iff, SpelledBy,
    and_comm]

/-- The readers of expressions and of tests accept what their grammars spell. -/
theorem parse_reads :
    Reads Expression.parse Expression.SpelledBy ∧ Reads Test.parse Test.SpelledBy :=
  ⟨.of_accepts fun _ _ => Expression.parse_eq_ok_iff, .of_accepts fun _ _ => Test.parse_eq_ok_iff⟩

/-- An operator inside a literal does not count, and blanks are needed nowhere here. -/
example : Expression.parse "a=='b|c'?d.e:\"f\"" =
    .ok (.ternary "a" "b|c" (.path "d.e") (.literal "f")) := by
  cbv

end MinuteBook
