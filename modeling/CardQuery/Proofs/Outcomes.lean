import CardQuery.Proofs.Narrowing

namespace CardQuery
open Meaning

namespace Meaning

-- Before a text is compiled, while it is compiled, and at a card whose properties are compared.
inductive FailsAs (config : Config) (board : Board) (player : PlayerId) (text : String) : ErrorKind → Prop where
  | blank (blank : Text.isBlankText text = true) : FailsAs config board player text .input
  | notSeated (stranger : player.isSeated = false) : FailsAs config board player text .input
  | refused (nonblank : Text.isBlankText text = false) (seated : player.isSeated = true)
      (refused : Refused config.noType text e) : FailsAs config board player text e.kind
  | stuck (nonblank : Text.isBlankText text = false) (seated : player.isSeated = true)
      (compiles : ∃ s, compile config text = .ok s) (examined : Examined config board player (Text.words text) c)
      (stuck : Stuck c (Text.words text)) : FailsAs config board player text .meaningless

theorem Stops.kind {selector : String} {c : Card} {ws : List String} {e : SelectorError}
    (stops : Stops selector c ws e) : e.kind = .meaningless := by
  induction stops with
  | here => rfl
  | later _ _ ih => exact ih

end Meaning

section Answer
variable {config : Config} {board : Board} {player : PlayerId} {text : String}

theorem checkCall_eq_error {e : SelectorError} (refused : checkCall player text = .error e) :
    e.kind = .input ∧ (Text.isBlankText text = true ∨ player.isSeated = false) := by
  unfold checkCall at refused
  split at refused
  · rename_i blank
    cases refused
    exact ⟨rfl, .inl blank⟩
  · split at refused
    · cases refused
    · rename_i stranger
      cases refused
      exact ⟨rfl, .inr (by simpa using stranger)⟩

theorem answer_of_unchecked {e : SelectorError} (refused : checkCall player text = .error e) :
    answer config board player text = .error e := by
  simp only [answer, refused]

section Checked
variable (nonblank : Text.isBlankText text = false) (seated : player.isSeated = true)
include nonblank seated

theorem answer_of_refused {e : SelectorError} (refused : Refused config.noType text e) :
    answer config board player text = .error e := by
  have checked := checkCall_eq_ok.mpr ⟨nonblank, seated, rfl⟩
  simp only [answer, checked, compile_eq_error_iff_refused.mpr refused]

theorem answer_of_compiled {s : Selector} (compiled : compile config text = .ok s) :
    answer config board player text = (collect (s.accepts · (.of player)) board.allCards).map .mk := by
  have checked := checkCall_eq_ok.mpr ⟨nonblank, seated, rfl⟩
  simp only [answer, checked, compiled]

theorem fails_of_answer {s : Selector} (compiled : compile config text = .ok s) {e : SelectorError}
    (failed : answer config board player text = .error e) :
    ∃ c ∈ board.allCards, Fails config.noType text (.of player) c e := by
  rw [answer_of_compiled nonblank seated compiled] at failed
  cases collected : collect (s.accepts · (.of player)) board.allCards with
  | ok ids => simp [collected, Except.map] at failed
  | error e' =>
    rw [collected] at failed
    cases failed
    obtain ⟨before, c, after, cards, fails, _⟩ := (collect_eq_error (Selector.decides compiled (.of player))).mp collected
    exact ⟨c, by simp [cards], fails⟩

theorem answer_of_compiled_eq_error {s : Selector} (compiled : compile config text = .ok s) {e : SelectorError}
    (failed : answer config board player text = .error e) : e.kind = .meaningless ∧
      ∃ c, Examined config board player (Text.words text) c ∧ Stuck c (Text.words text) := by
  obtain ⟨c, present, fails⟩ := fails_of_answer nonblank seated compiled failed
  exact ⟨fails.stops.kind, c, ⟨present, fails.admitted⟩, stops_iff_stuck.mp ⟨e, fails.stops⟩⟩

end Checked

theorem failsAs_of_answer {e : SelectorError} (failed : answer config board player text = .error e) :
    FailsAs config board player text e.kind := by
  cases checked : checkCall player text with
  | error e' =>
    rw [answer_of_unchecked checked] at failed
    cases failed
    obtain ⟨kind, blank | stranger⟩ := checkCall_eq_error checked
    · exact kind ▸ .blank blank
    · exact kind ▸ .notSeated stranger
  | ok view =>
    obtain ⟨nonblank, seated, rfl⟩ := checkCall_eq_ok.mp checked
    cases compiled : compile config text with
    | error e' =>
      have refused := compile_eq_error_iff_refused.mp compiled
      rw [answer_of_refused nonblank seated refused] at failed
      cases failed
      exact .refused nonblank seated refused
    | ok s =>
      obtain ⟨kind, c, examined, stuck⟩ := answer_of_compiled_eq_error nonblank seated compiled failed
      exact kind ▸ .stuck nonblank seated ⟨s, compiled⟩ examined stuck

theorem answer_of_failsAs {kind : ErrorKind} (fails : FailsAs config board player text kind) :
    ∃ e, answer config board player text = .error e ∧ e.kind = kind := by
  have unchecked : (∀ view, checkCall player text ≠ .ok view) →
      ∃ e, answer config board player text = .error e ∧ e.kind = .input := by
    intro never
    cases checked : checkCall player text with
    | ok view => exact absurd checked (never view)
    | error e => exact ⟨e, answer_of_unchecked checked, (checkCall_eq_error checked).1⟩
  cases fails with
  | blank blank =>
    apply unchecked
    intro view checked
    rw [(checkCall_eq_ok.mp checked).1] at blank
    cases blank
  | notSeated stranger =>
    apply unchecked
    intro view checked
    rw [(checkCall_eq_ok.mp checked).2.1] at stranger
    cases stranger
  | refused nonblank seated refused => exact ⟨_, answer_of_refused nonblank seated refused, rfl⟩
  | stuck nonblank seated compiles examined stuck =>
    obtain ⟨s, compiled⟩ := compiles
    cases failed : answer config board player text with
    | ok found => exact absurd stuck ((answer_eq_ok.mp failed).1.free _ examined)
    | error e => exact ⟨e, rfl, (answer_of_compiled_eq_error nonblank seated compiled failed).1⟩

end Answer

namespace Engine

def outcomeAfter (config : Config) (earlier : List Call) (board : Board) (player : PlayerId) (text : String) :
    Except ErrorKind ResultSet := (resultAfter config earlier board player text).mapError SelectorError.kind

section
variable {config config' : Config} {earlier earlier' : List Call} {board board' : Board} {player player' : PlayerId}
  {text text' : String}

theorem outcomeAfter_eq_ok {found : ResultSet} : outcomeAfter config earlier board player text = .ok found ↔
    resultAfter config earlier board player text = .ok found := by
  unfold outcomeAfter
  cases resultAfter config earlier board player text <;> simp [Except.mapError]

theorem outcomeAfter_eq_error {kind : ErrorKind} : outcomeAfter config earlier board player text = .error kind ↔
    FailsAs config board player text kind := by
  rw [outcomeAfter, resultAfter, run_result]
  constructor
  · intro failed
    cases answered : answer config board player text with
    | ok found => simp [answered, Except.mapError] at failed
    | error e =>
      rw [answered] at failed
      cases failed
      exact failsAs_of_answer answered
  · intro fails
    obtain ⟨e, answered, rfl⟩ := answer_of_failsAs fails
    rw [answered]
    rfl

theorem outcomeAfter_congr
    (found : ∀ ids, resultAfter config earlier board player text = .ok ids →
      resultAfter config' earlier' board' player' text' = .ok ids)
    (failed : ∀ kind, FailsAs config board player text kind → FailsAs config' board' player' text' kind) :
    outcomeAfter config' earlier' board' player' text' = outcomeAfter config earlier board player text := by
  cases given : outcomeAfter config earlier board player text with
  | ok ids => exact outcomeAfter_eq_ok.mpr (found ids (outcomeAfter_eq_ok.mp given))
  | error kind => exact outcomeAfter_eq_error.mpr (failed kind (outcomeAfter_eq_error.mp given))

-- The same cards are kept, if there is an answer at all.
theorem resultAfter_congr (answers : Answers config board player text → Answers config' board player' text')
    (kept : ∀ c, Kept config' player' text' c ↔ Kept config player text c) {found : ResultSet}
    (given : resultAfter config earlier board player text = .ok found) :
    resultAfter config' earlier' board player' text' = .ok found := by
  obtain ⟨answered, rfl⟩ := resultAfter_eq_ok.mp given
  rw [resultAfter_eq_ok]
  refine ⟨answers answered, ?_⟩
  rw [List.filter_congr fun c _ => decide_eq_decide.mpr (kept c)]

end
end Engine
end CardQuery
