import MinuteBook.Proofs.Expression.Front
import MinuteBook.Proofs.Store.Agreement

/-!
# The segments of a path

The parts of a split text have no separator in them, and with separators between them they make up
the text. So the segments of a path have no dot in them, and joined by dots they are the path
without the blanks at its ends (`Path.intercalate_segments`). Where one path is put behind another,
its segments come behind those of the other (`Path.segments_join`).
-/

namespace MinuteBook

/-! ## Split texts -/

namespace Text

section

variable {α : Type} [DecidableEq α] {separator : α} {s part : List α}

theorem split_eq_splitOn (separator : α) (s : List α) :
    split separator s = s.splitOn separator := by
  induction s with
  | nil => rfl
  | cons c s ih =>
      rw [split, List.splitOn_cons_eq_if_modifyHead, ih]
      by_cases same : c = separator
      · rw [if_pos same, if_pos (beq_iff_eq.2 same)]
      · rw [if_neg same, if_neg (mt beq_iff_eq.1 same)]
        cases found : s.splitOn separator with
        | nil => exact absurd found (List.splitOn_ne_nil separator s)
        | cons part parts => rfl

theorem intercalate_split (separator : α) (s : List α) :
    [separator].intercalate (split separator s) = s := by
  rw [split_eq_splitOn, List.intercalate_splitOn]

theorem split_append_cons (separator : α) (s t : List α) :
    split separator (s ++ separator :: t) = split separator s ++ split separator t := by
  rw [split_eq_splitOn, split_eq_splitOn, split_eq_splitOn, List.splitOn_append_cons_self]

theorem not_mem_of_mem_split (h : part ∈ split separator s) : separator ∉ part := by
  induction s generalizing part with
  | nil =>
      rw [List.mem_singleton.1 h]
      exact List.not_mem_nil
  | cons c s ih =>
      rw [split] at h
      split at h
      · rcases List.mem_cons.1 h with rfl | later
        · exact List.not_mem_nil
        · exact ih later
      · rename_i other
        cases found : split separator s with
        | nil => exact absurd found (split_ne_nil separator s)
        | cons first parts =>
            rw [found] at h ih
            rcases List.mem_cons.1 h with rfl | later
            · rw [List.mem_cons, not_or]
              exact ⟨Ne.symm other, ih List.mem_cons_self⟩
            · exact ih (List.mem_cons_of_mem _ later)

end

variable {s t : List Char}

/-- What stands between two texts does not matter to the ends of the whole. -/
theorem Trimmed.between (h : Trimmed s) (filled : s ≠ []) (h' : Trimmed t) (filled' : t ≠ [])
    (between : List Char) : Trimmed (s ++ between ++ t) := by
  refine ⟨fun c first => h.front c ?_, fun c last => h'.back c ?_⟩
  · rwa [List.append_assoc, List.head?_append_of_ne_nil s filled] at first
  · rwa [List.getLast?_append_of_ne_nil _ filled'] at last

end Text

/-! ## Paths -/

namespace Path

/-- One path behind another, with a dot between them. -/
def join (path path' : String) : String := path ++ "." ++ path'

variable {path path' segment : String}

theorem intercalate_segments (path : String) :
    ".".intercalate (segments path) = Text.stripped path := by
  have same : String.toList ∘ String.ofList = id := funext fun s => String.toList_ofList
  have whole := Text.intercalate_split '.' (Text.strip path.toList)
  rw [← String.toList_inj, String.toList_intercalate, segments, List.map_map, same, List.map_id,
    Text.stripped]
  exact whole.trans String.toList_ofList.symm

theorem dot_not_mem_of_mem_segments (h : segment ∈ segments path) : '.' ∉ segment.toList := by
  obtain ⟨part, inside, rfl⟩ := List.mem_map.1 h
  rw [String.toList_ofList]
  exact Text.not_mem_of_mem_split inside

theorem front_mem_segments (path : String) : front path ∈ segments path := by
  rw [segments_eq]
  exact List.mem_cons_self

/-- A path into the answers has no blank at its ends, and its first segment is neither empty nor
`$template`. -/
structure IntoAnswers (path : String) : Prop where
  trimmed : Text.Trimmed path.toList
  filled : front path ≠ ""
  answer : front path ≠ Store.templateKey

theorem IntoAnswers.ne_nil (h : IntoAnswers path) : path.toList ≠ [] := by
  intro none
  apply h.filled
  rw [front, segments, none]
  rfl

theorem intoAnswers_of_word (word : Token.IsWord path.toList)
    (first : front path ≠ "" ∧ front path ≠ Store.templateKey) : IntoAnswers path :=
  ⟨word.trimmed, first.1, first.2⟩

section

variable (h : IntoAnswers path) (h' : IntoAnswers path')

include h h'

theorem trimmed_join : Text.Trimmed (join path path').toList := by
  rw [join, String.toList_append, String.toList_append]
  exact h.trimmed.between h.ne_nil h'.trimmed h'.ne_nil _

theorem segments_join : segments (join path path') = segments path ++ segments path' := by
  have whole : (join path path').toList = path.toList ++ '.' :: path'.toList := by
    rw [join, String.toList_append, String.toList_append, List.append_assoc]
    rfl
  rw [segments, segments, segments, (trimmed_join h h').strip_eq, h.trimmed.strip_eq,
    h'.trimmed.strip_eq, whole, Text.split_append_cons, List.map_append]

theorem front_join : front (join path path') = front path := by
  rw [front, segments_join h h', segments_eq path]
  rfl

theorem IntoAnswers.join : IntoAnswers (join path path') where
  trimmed := trimmed_join h h'
  filled := by rw [front_join h h']; exact h.filled
  answer := by rw [front_join h h']; exact h.answer

end

end Path

end MinuteBook
