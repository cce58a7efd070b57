import CardQuery.Text.Blank

namespace CardQuery.Text

-- A word stands between blanks: it has a character, and no blank one.
def IsWord (word : String) : Prop := word ≠ "" ∧ ∀ c ∈ word.toList, isBlank c = false

theorem not_blank_of_mem_pieces {cs piece : List Char} (member : piece ∈ pieces cs) :
    ∀ c ∈ piece, isBlank c = false := by
  induction cs generalizing piece with
  | nil => simp_all [pieces]
  | cons d rest ih =>
    unfold pieces at member
    split at member
    · rcases List.mem_cons.mp member with rfl | old
      · simp
      · exact ih old
    · rename_i clear
      have clear : isBlank d = false := by simpa using clear
      split at member
      · simp_all
      · rename_i front others cut
        rcases List.mem_cons.mp member with rfl | old
        · intro c present
          rcases List.mem_cons.mp present with rfl | inside
          · exact clear
          · exact ih (by simp [cut]) c inside
        · exact ih (by simp [cut, old])

theorem isWord_of_mem_words {text word : String} (member : word ∈ words text) : IsWord word := by
  obtain ⟨piece, kept, rfl⟩ := List.mem_map.mp member
  obtain ⟨cut, nonempty⟩ := List.mem_filter.mp kept
  refine ⟨?_, ?_⟩
  · intro empty
    have : piece = [] := by simpa using congrArg String.toList empty
    simp [this] at nonempty
  · simpa using not_blank_of_mem_pieces cut

theorem pieces_of_no_blank {cs : List Char} (clear : ∀ c ∈ cs, isBlank c = false) : pieces cs = [cs] := by
  induction cs with
  | nil => rfl
  | cons c rest ih =>
    have here := clear c (by simp)
    have later := ih fun d present => clear d (List.mem_cons_of_mem _ present)
    simp [pieces, here, later]

theorem words_of_isWord {word : String} (isWord : IsWord word) : words word = [word] := by
  obtain ⟨nonempty, clear⟩ := isWord
  have chars : word.toList ≠ [] := by simpa using nonempty
  simp [words, wordsOf, pieces_of_no_blank clear, chars]

def unwords (ws : List String) : String := ws.foldr (fun word rest => word ++ String.singleton ' ' ++ rest) ""

theorem words_unwords {ws : List String} (all : ∀ word ∈ ws, IsWord word) : words (unwords ws) = ws := by
  induction ws with
  | nil => rfl
  | cons word rest ih =>
    have first := words_of_isWord (all word (by simp))
    have later := ih fun w present => all w (List.mem_cons_of_mem _ present)
    show words (word ++ String.singleton ' ' ++ unwords rest) = word :: rest
    rw [words_append_blank word (unwords rest) (c := ' ') rfl, first, later]
    rfl

theorem wordsOf_eq_nil_iff {cs : List Char} : wordsOf cs = [] ↔ ∀ c ∈ cs, isBlank c = true := by
  induction cs with
  | nil => simp [wordsOf, pieces]
  | cons c rest ih =>
    by_cases blank : isBlank c = true
    · simpa [wordsOf, pieces, blank] using ih
    · have cut : ∃ piece others, pieces (c :: rest) = (c :: piece) :: others := by
        unfold pieces
        simp only [blank]
        cases h : pieces rest with
        | nil => exact absurd h (pieces_ne_nil rest)
        | cons piece others => exact ⟨piece, others, by simp⟩
      obtain ⟨piece, others, cut⟩ := cut
      simp [wordsOf, cut, blank]

theorem words_eq_nil_iff {text : String} : words text = [] ↔ isBlankText text = true := by
  simp [words, wordsOf_eq_nil_iff, isBlankText]

theorem nonblank_of_words {text : String} (nonempty : words text ≠ []) : isBlankText text = false := by
  simpa [words_eq_nil_iff] using nonempty

theorem isBlankText_congr {text text' : String} (same : (words text').Perm (words text)) :
    isBlankText text' = isBlankText text := by
  rw [Bool.eq_iff_iff, ← words_eq_nil_iff, ← words_eq_nil_iff]
  constructor
  · intro empty; rw [empty] at same; exact same.symm.eq_nil
  · intro empty; rw [empty] at same; exact same.eq_nil

end CardQuery.Text
