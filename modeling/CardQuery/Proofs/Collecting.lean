import CardQuery.Engine

namespace CardQuery

theorem collect_sublist {test : Card → Except SelectorError Bool} {cards : List Card} {found : List EntityId}
    (collected : collect test cards = .ok found) : found.Sublist (cards.map (·.id)) := by
  induction cards generalizing found with
  | nil =>
    cases collected
    exact .slnil
  | cons card rest ih =>
    simp only [collect] at collected
    cases answer : test card with
    | error e => simp [answer] at collected
    | ok keep =>
      cases later : collect test rest with
      | error e => simp [answer, later, Except.map] at collected
      | ok ids =>
        rw [answer, later] at collected
        cases keep with
        | true =>
          cases collected
          exact (ih later).cons_cons card.id
        | false =>
          cases collected
          exact (ih later).cons card.id

structure Decides (test : Card → Except SelectorError Bool) (passes : Card → Prop)
    (fails : Card → SelectorError → Prop) : Prop where
  accept : ∀ c, test c = .ok true ↔ passes c
  refuse : ∀ c e, test c = .error e ↔ fails c e

section
variable {test : Card → Except SelectorError Bool} {passes : Card → Prop} {fails : Card → SelectorError → Prop}

theorem Decides.reject (decides : Decides test passes fails) {c : Card} (sound : ∀ e, ¬ fails c e)
    (missed : ¬ passes c) : test c = .ok false := by
  cases answer : test c with
  | error e => exact absurd ((decides.refuse c e).mp answer) (sound e)
  | ok keep =>
    cases keep with
    | false => rfl
    | true => exact absurd ((decides.accept c).mp answer) missed

theorem collect_of_sound (decides : Decides test passes fails) [DecidablePred passes] {cards : List Card}
    (sound : ∀ c ∈ cards, ∀ e, ¬ fails c e) :
    collect test cards = .ok ((cards.filter fun c => passes c).map (·.id)) := by
  induction cards with
  | nil => rfl
  | cons c rest ih =>
    have later := ih fun d present => sound d (List.mem_cons_of_mem _ present)
    by_cases passed : passes c
    · have here := (decides.accept c).mpr passed
      simp [collect, here, later, passed, Except.map]
    · have here := decides.reject (sound c (by simp)) passed
      simp [collect, here, later, passed, Except.map]

theorem collect_of_failure (decides : Decides test passes fails) {before after : List Card} {c : Card}
    {e : SelectorError} (failed : fails c e) (sound : ∀ d ∈ before, ∀ e, ¬ fails d e) :
    collect test (before ++ c :: after) = .error e := by
  induction before with
  | nil =>
    have here := (decides.refuse c e).mpr failed
    simp [collect, here]
  | cons d rest ih =>
    have later := ih fun d present => sound d (List.mem_cons_of_mem _ present)
    cases here : test d with
    | error e => exact absurd ((decides.refuse d e).mp here) (sound d (by simp) e)
    | ok keep => simp [collect, here, later, Except.map]

theorem sound_or_first_failure (fails : Card → SelectorError → Prop) (cards : List Card) :
    (∀ c ∈ cards, ∀ e, ¬ fails c e) ∨
      ∃ before c after e, cards = before ++ c :: after ∧ fails c e ∧ ∀ d ∈ before, ∀ e, ¬ fails d e := by
  induction cards with
  | nil => exact .inl (by simp)
  | cons c rest ih =>
    by_cases failed : ∃ e, fails c e
    · obtain ⟨e, failed⟩ := failed
      exact .inr ⟨[], c, rest, e, rfl, failed, by simp⟩
    · have here : ∀ e, ¬ fails c e := fun e found => failed ⟨e, found⟩
      rcases ih with sound | ⟨before, d, after, e, rfl, found, sound⟩
      · left
        intro d present
        rcases List.mem_cons.mp present with rfl | old
        · exact here
        · exact sound d old
      · refine .inr ⟨c :: before, d, after, e, rfl, found, ?_⟩
        intro other present
        rcases List.mem_cons.mp present with rfl | old
        · exact here
        · exact sound other old

theorem collect_eq_ok (decides : Decides test passes fails) [DecidablePred passes] {cards : List Card}
    {found : List EntityId} :
    collect test cards = .ok found ↔
      (∀ c ∈ cards, ∀ e, ¬ fails c e) ∧ found = (cards.filter fun c => passes c).map (·.id) := by
  rcases sound_or_first_failure fails cards with sound | ⟨before, c, after, e, rfl, failed, sound⟩
  · rw [collect_of_sound decides sound]
    constructor
    · intro done
      cases done
      exact ⟨sound, rfl⟩
    · intro both
      obtain ⟨_, rfl⟩ := both
      rfl
  · rw [collect_of_failure decides failed sound]
    constructor
    · intro done
      cases done
    · intro both
      exact absurd failed (both.1 c (by simp) e)

theorem collect_eq_error (decides : Decides test passes fails) {cards : List Card} {e : SelectorError} :
    collect test cards = .error e ↔
      ∃ before c after, cards = before ++ c :: after ∧ fails c e ∧ ∀ d ∈ before, ∀ e, ¬ fails d e := by
  constructor
  · intro stopped
    rcases sound_or_first_failure fails cards with sound | ⟨before, c, after, e', rfl, failed, sound⟩
    · classical
      rw [collect_of_sound decides sound] at stopped
      cases stopped
    · rw [collect_of_failure decides failed sound] at stopped
      cases stopped
      exact ⟨before, c, after, rfl, failed, sound⟩
  · intro first
    obtain ⟨before, c, after, rfl, failed, sound⟩ := first
    exact collect_of_failure decides failed sound

end
end CardQuery
