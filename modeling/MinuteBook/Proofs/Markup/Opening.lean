import MinuteBook.Markup.Node
import MinuteBook.Proofs.Expression.Grammar

/-!
# Opening tags

What an opening tag says does not depend on the blanks in it: behind its first word stands a test or
a path, and the blanks at the ends of that are taken off. So a tag opens the block that its test or
path names, however it is spaced (`tagStep_openWhen`, `tagStep_openEach`).
-/

namespace MinuteBook

/-- The tokens of a text do not depend on blanks at its ends. -/
theorem Expression.tokens_strip {source : String} {ts : List Token} (h : tokens source = .ok ts) :
    tokens (String.ofList (Text.strip source.toList)) = .ok ts := by
  rw [tokens_eq_ok_iff] at h ⊢
  rw [String.toList_ofList]
  exact h.strip

theorem Test.parse_strip {source : String} {test : Test} (h : parse source = .ok test) :
    parse (String.ofList (Text.strip source.toList)) = .ok test := by
  obtain ⟨ts, found, read⟩ := bind_eq_ok.1 h
  rw [ofTokens_eq_ok_iff] at read
  exact bind_eq_ok.2 ⟨ts, Expression.tokens_strip found, ofTokens_eq_ok_iff.2 read⟩

namespace Markup

/-! ## Opening tags -/

/-- The head of a tag that begins with a word, and what stands behind it. -/
theorem strip_word_append {word : List Char} (single : Token.IsWord word) (s : List Char) :
    ((Text.strip (word ++ ' ' :: s)).takeWhile fun c => !Text.isBlank c) = word ∧
      Text.dropBlanks ((Text.strip (word ++ ' ' :: s)).dropWhile fun c => !Text.isBlank c) =
        Text.strip s := by
  have firm : ∀ c ∈ word, Text.isBlank c = false := fun c inside =>
    Token.not_blank_of_isWordChar (single.chars c inside)
  have stripped : Text.strip (word ++ ' ' :: s) = word ++ Text.dropBlanksRight (' ' :: s) := by
    rw [Text.strip, Text.dropBlanks_eq_self (single.front _),
      Text.dropBlanksRight_word_append firm]
  -- Behind the word comes a blank or nothing.
  have stop : ∀ c, (Text.dropBlanksRight (' ' :: s)).head? = some c → Text.isBlank c = true := by
    rw [Text.dropBlanksRight_cons]
    split
    · simp
    · rintro c ⟨⟩
      decide
  have rest : Text.dropBlanks (Text.dropBlanksRight (' ' :: s)) = Text.strip s := by
    rw [Text.dropBlanks_dropBlanksRight, Text.strip, Text.dropBlanks_space, Text.strip]
  rw [stripped, List.takeWhile_append_of_pos single.visible,
    List.dropWhile_append_of_pos single.visible]
  generalize Text.dropBlanksRight (' ' :: s) = r at stop rest ⊢
  cases r with
  | nil => exact ⟨List.append_nil _, rest⟩
  | cons c r =>
      rw [List.takeWhile_cons_of_neg (by simp [stop c rfl]),
        List.dropWhile_cons_of_neg (by simp [stop c rfl]), List.append_nil]
      exact ⟨rfl, rest⟩

theorem tagStep_openWhen {source : String} {test : Test} (h : Test.parse source = .ok test) :
    tagStep ("#if".toList ++ ' ' :: source.toList) = .opens (.when test) := by
  have word : Token.IsWord "#if".toList := by decide
  obtain ⟨head, rest⟩ := strip_word_append word source.toList
  unfold tagStep
  simp only [head, rest, if_true]
  rw [openWhen, Test.parse_strip h]

theorem tagStep_openEach {source path : String} {ts : List Token}
    (h : Expression.tokens source = .ok (.word path :: ts)) :
    tagStep ("#each".toList ++ ' ' :: source.toList) = .opens (.each path) := by
  have word : Token.IsWord "#each".toList := by decide
  obtain ⟨head, rest⟩ := strip_word_append word source.toList
  unfold tagStep
  simp only [head, rest, if_true]
  rw [if_neg (by decide), openEach, Expression.tokens_strip h]

/-- A blank before an opening tag does not count. -/
theorem tagStep_space {body : List Char} {block : Opening} (h : tagStep body = .opens block) :
    tagStep (' ' :: body) = .opens block := by
  have same : Text.strip (' ' :: body) = Text.strip body := by
    rw [Text.strip, Text.dropBlanks_space, Text.strip]
  unfold tagStep at h ⊢
  simp only [same] at h ⊢
  split at h
  · rename_i opening
    rw [if_pos opening]
    exact h
  · rename_i other
    rw [if_neg other]
    split at h
    · rename_i opening
      rw [if_pos opening]
      exact h
    · split at h
      · exact absurd h (by simp)
      · split at h <;> exact absurd h (by simp)

end Markup

end MinuteBook
