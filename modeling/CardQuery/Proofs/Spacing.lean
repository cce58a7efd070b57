import CardQuery.Proofs.Words

namespace CardQuery.Text

def Solid (text : String) : Prop := ∀ c ∈ text.toList, isBlank c = false

instance : DecidablePred Solid :=
  fun text => decidable_of_iff (text.toList.all (!isBlank ·) = true) (by simp [Solid])

@[simp] theorem solid_append {a b : String} : Solid (a ++ b) ↔ Solid a ∧ Solid b := by
  simp [Solid, or_imp, forall_and]

-- Blanks, a word, and so on to blanks at the end; a word goes on up to the next blank.
inductive Spaced : List String → String → Prop where
  | blank (all : isBlankText text = true) : Spaced [] text
  | word {front word rest : String} {ws : List String} (lead : isBlankText front = true) (isWord : IsWord word)
      (apart : ∀ c ∈ rest.toList.head?, isBlank c = true) (later : Spaced ws rest) :
      Spaced (word :: ws) (front ++ word ++ rest)

theorem wordsOf_blank_cons {c : Char} {rest : List Char} (blank : isBlank c = true) :
    wordsOf (c :: rest) = wordsOf rest := by
  simp [wordsOf, pieces, blank]

theorem wordsOf_blank_append {front : List Char} (blank : ∀ c ∈ front, isBlank c = true) (rest : List Char) :
    wordsOf (front ++ rest) = wordsOf rest := by
  induction front with
  | nil => rfl
  | cons c front ih =>
    rw [List.cons_append, wordsOf_blank_cons (blank c (by simp))]
    exact ih fun d present => blank d (List.mem_cons_of_mem _ present)

theorem wordsOf_word_append {word rest : List Char} (nonempty : word ≠ []) (solid : ∀ c ∈ word, isBlank c = false)
    (apart : ∀ c ∈ rest.head?, isBlank c = true) : wordsOf (word ++ rest) = word :: wordsOf rest := by
  have alone : wordsOf word = [word] := by simp [wordsOf, pieces_of_no_blank solid, nonempty]
  cases rest with
  | nil => simpa [wordsOf, pieces] using alone
  | cons c rest =>
    have blank := apart c rfl
    rw [wordsOf_append_blank word rest blank, alone, wordsOf_blank_cons blank]
    rfl

theorem words_of_spaced {ws : List String} {text : String} (spaced : Spaced ws text) : words text = ws := by
  induction spaced with
  | blank all => exact words_eq_nil_iff.mpr all
  | @word front word rest ws lead isWord apart later ih =>
    have nonempty : word.toList ≠ [] := by simpa using isWord.1
    have blank : ∀ c ∈ front.toList, isBlank c = true := List.all_eq_true.mp lead
    have cut : wordsOf (front ++ word ++ rest).toList = word.toList :: wordsOf rest.toList := by
      rw [String.toList_append, String.toList_append, List.append_assoc, wordsOf_blank_append blank,
        wordsOf_word_append nonempty isWord.2 apart]
    rw [words, cut, List.map_cons, String.ofList_toList]
    exact congrArg (word :: ·) ih

theorem Spaced.blank_cons {c : Char} {ws : List String} {text : String} (blank : isBlank c = true)
    (spaced : Spaced ws text) : Spaced ws (String.singleton c ++ text) := by
  cases spaced with
  | blank all => exact .blank (by simpa [isBlankText, blank] using all)
  | @word front word rest ws lead isWord apart later =>
    have longer : isBlankText (String.singleton c ++ front) = true := by simpa [isBlankText, blank] using lead
    simpa only [String.append_assoc] using Spaced.word longer isWord apart later

-- A character that is not blank begins a word, or makes the first word longer.
theorem Spaced.solid_cons {c : Char} {ws : List String} {text : String} (solid : isBlank c = false)
    (spaced : Spaced ws text) : ∃ ws', Spaced ws' (String.singleton c ++ text) := by
  by_cases apart : ∀ d ∈ text.toList.head?, isBlank d = true
  · have alone : IsWord (String.singleton c) := ⟨by simp, by simpa using solid⟩
    have front : isBlankText "" = true := rfl
    exact ⟨_, by simpa only [String.empty_append] using Spaced.word front alone apart spaced⟩
  · cases spaced with
    | blank all =>
      have first : ∀ d ∈ text.toList.head?, isBlank d = true :=
        fun d head => List.all_eq_true.mp all d (List.mem_of_head? head)
      exact absurd first apart
    | @word front word rest ws lead isWord ends later =>
      have nothing : front = "" := by
        cases chars : front.toList with
        | nil => simpa using chars
        | cons d others =>
          have first : ∀ e ∈ (front ++ word ++ rest).toList.head?, isBlank e = true := by
            intro e head
            obtain rfl : d = e := by simpa [chars] using head
            exact List.all_eq_true.mp lead d (by simp [chars])
          exact absurd first apart
      subst nothing
      have longer : IsWord (String.singleton c ++ word) := by
        refine ⟨by simp, ?_⟩
        intro d present
        rcases List.mem_cons.mp (by simpa using present) with rfl | inside
        · exact solid
        · exact isWord.2 d inside
      refine ⟨(String.singleton c ++ word) :: ws, ?_⟩
      simpa only [String.empty_append, String.append_assoc] using Spaced.word lead longer ends later

theorem exists_spaced (text : String) : ∃ ws, Spaced ws text := by
  rw [← String.ofList_toList (s := text)]
  induction text.toList with
  | nil => exact ⟨[], .blank rfl⟩
  | cons c rest ih =>
    obtain ⟨ws, spaced⟩ := ih
    have cut : String.ofList (c :: rest) = String.singleton c ++ String.ofList rest := by simp
    rw [cut]
    by_cases blank : isBlank c = true
    · exact ⟨ws, spaced.blank_cons blank⟩
    · exact spaced.solid_cons (by simpa using blank)

theorem words_eq_iff {text : String} {ws : List String} : words text = ws ↔ Spaced ws text := by
  constructor
  · intro cut
    obtain ⟨found, spaced⟩ := exists_spaced text
    have same : found = ws := (words_of_spaced spaced).symm.trans cut
    exact same ▸ spaced
  · exact words_of_spaced

end CardQuery.Text
