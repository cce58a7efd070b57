import CardQuery.Proofs.OwnerWords

namespace CardQuery
open Meaning Token

-- The word that the opponent uses for the same cards.
def OwnerWord.opposite : OwnerWord → OwnerWord
  | own => enemy
  | enemy => own
  | any => any

theorem OwnerWord.opposite_opposite (owner : OwnerWord) : owner.opposite.opposite = owner := by
  cases owner <;> rfl

theorem PlayerId.opponent_isSeated (player : PlayerId) : player.opponent.isSeated = true := by
  unfold opponent
  split <;> rfl

theorem PlayerId.opponent_opponent {player : PlayerId} (seated : player.isSeated = true) :
    player.opponent.opponent = player := by
  rcases isSeated_iff.mp seated with rfl | rfl <;> decide

theorem Text.isBlankText_map {f : String → String} {text text' : String} (words : words text' = (words text).map f) :
    isBlankText text' = isBlankText text := by
  rw [Bool.eq_iff_iff, ← words_eq_nil_iff, ← words_eq_nil_iff, words, List.map_eq_nil_iff]

section Mirrored
variable {config : Config} {board : Board} {player : PlayerId} (seated : player.isSeated = true) {text text' : String}
  (words : Text.words text' = (Text.words text).map (renameOwner .opposite))
include seated words

theorem Meaning.ownerSays_mirrored {c : Card} :
    OwnerSays (Text.words text') (.of player.opponent) c ↔ OwnerSays (Text.words text) (.of player) c := by
  have exchanged : ∀ owner : OwnerWord, owner.opposite.text ∈ Text.words text' ↔ owner.text ∈ Text.words text := by
    intro owner
    rw [words]
    exact text_mem_map OwnerWord.opposite_opposite
  have own : "own" ∈ Text.words text' ↔ "enemy" ∈ Text.words text := exchanged .enemy
  have enemy : "enemy" ∈ Text.words text' ↔ "own" ∈ Text.words text := exchanged .own
  have any : "any" ∈ Text.words text' ↔ "any" ∈ Text.words text := exchanged .any
  have open' : (∀ owner : OwnerWord, owner.text ∉ Text.words text') ↔ ∀ owner : OwnerWord, owner.text ∉ Text.words text := by
    constructor
    · intro none owner present
      exact none owner.opposite ((exchanged owner).mpr present)
    · intro none owner present
      rw [← owner.opposite_opposite] at present
      exact none owner.opposite ((exchanged owner.opposite).mp present)
  simp only [OwnerSays, open', own, enemy, any, Perspective.of, PlayerId.opponent_opponent seated]
  rw [or_comm (a := "enemy" ∈ Text.words text ∧ c.owner = player.opponent)]

theorem Meaning.admits_mirrored {policy : NoTypePolicy} {c : Card} :
    Admits policy (Text.words text') (.of player.opponent) c ↔ Admits policy (Text.words text) (.of player) c := by
  have owner := @ownerSays_mirrored player seated text text' words c
  obtain ⟨type, zone, tags⟩ := axes_rename OwnerWord.opposite_opposite words policy c
  constructor
  · intro admits
    exact ⟨owner.mp admits.owner, type.mp admits.type, zone.mp admits.zone, tags.mp admits.tags⟩
  · intro admits
    exact ⟨owner.mpr admits.owner, type.mpr admits.type, zone.mpr admits.zone, tags.mpr admits.tags⟩

omit seated in
theorem compiles_mirrored (compiles : ∃ s, compile config text = .ok s) : ∃ s, compile config text' = .ok s := by
  rw [compile_isOk_iff_admissible] at compiles ⊢
  exact words ▸ admissible_rename OwnerWord.opposite_opposite compiles

theorem Meaning.examined_mirrored {c : Card} : Examined config board player.opponent (Text.words text') c ↔
    Examined config board player (Text.words text) c :=
  and_congr_right fun _ => admits_mirrored seated words

omit seated in
theorem Meaning.stuck_mirrored {c : Card} : Stuck c (Text.words text') ↔ Stuck c (Text.words text) := by
  rw [words]
  exact stuck_rename

theorem Meaning.kept_mirrored {c : Card} : Kept config player.opponent text' c ↔ Kept config player text c := by
  have properties : PropertiesSay (Text.words text') c ↔ PropertiesSay (Text.words text) c := by
    rw [words]
    exact propertiesSay_rename
  constructor
  · intro kept
    exact ⟨(admits_mirrored seated words).mp kept.admitted, properties.mp kept.properties⟩
  · intro kept
    exact ⟨(admits_mirrored seated words).mpr kept.admitted, properties.mpr kept.properties⟩

theorem Meaning.answers_mirrored (answers : Answers config board player text) :
    Answers config board player.opponent text' := by
  refine ⟨(Text.isBlankText_map words).trans answers.nonblank, player.opponent_isSeated,
    compiles_mirrored words answers.compiles, ?_⟩
  intro c examined stuck
  exact answers.free c ((examined_mirrored seated words).mp examined) ((stuck_mirrored words).mp stuck)

theorem Meaning.failsAs_mirrored {kind : ErrorKind} (fails : FailsAs config board player text kind) :
    FailsAs config board player.opponent text' kind := by
  have blankness := Text.isBlankText_map words
  cases fails with
  | blank blank => exact .blank (blankness.trans blank)
  | notSeated stranger =>
    rw [seated] at stranger
    cases stranger
  | refused nonblank _ refused =>
    obtain ⟨e', refused', kind⟩ := refused.rename OwnerWord.opposite_opposite words
    exact kind ▸ .refused (blankness.trans nonblank) player.opponent_isSeated refused'
  | stuck nonblank _ compiles examined stuck =>
    exact .stuck (blankness.trans nonblank) player.opponent_isSeated (compiles_mirrored words compiles)
      ((examined_mirrored seated words).mpr examined) ((stuck_mirrored words).mpr stuck)

end Mirrored

-- Who looks does not matter if no word asks for it.
theorem accepts_of_unsided {config : Config} {text : String} {s : Selector} (compiled : compile config text = .ok s)
    (own : "own" ∉ Text.words text) (enemy : "enemy" ∉ Text.words text) (c : Card) (view view' : Perspective) :
    s.accepts c view' = s.accepts c view := by
  have admits : s.admits c view' = s.admits c view := by
    have owner : OwnerSays (Text.words text) view' c ↔ OwnerSays (Text.words text) view c := by
      simp only [OwnerSays, own, enemy, false_and]
    rw [Bool.eq_iff_iff, Selector.admits_iff compiled, Selector.admits_iff compiled]
    constructor
    · intro said
      exact ⟨owner.mp said.owner, said.type, said.zone, said.tags⟩
    · intro said
      exact ⟨owner.mpr said.owner, said.type, said.zone, said.tags⟩
  simp only [Selector.accepts, admits]

theorem answer_of_unsided {config : Config} {board : Board} {player other : PlayerId} {text : String}
    (seated : player.isSeated = true) (seated' : other.isSeated = true) (own : "own" ∉ Text.words text)
    (enemy : "enemy" ∉ Text.words text) : answer config board other text = answer config board player text := by
  cases nonblank : Text.isBlankText text with
  | true => simp only [answer, checkCall, nonblank, if_true]
  | false =>
    cases compiled : compile config text with
    | error e =>
      have refused := compile_eq_error_iff_refused.mp compiled
      rw [answer_of_refused nonblank seated refused, answer_of_refused nonblank seated' refused]
    | ok s =>
      rw [answer_of_compiled nonblank seated compiled, answer_of_compiled nonblank seated' compiled]
      simp only [accepts_of_unsided compiled own enemy _ (.of player) (.of other)]

theorem evaluate_mirrored (config : Config) (board : Board) {player : PlayerId} (seated : player.isSeated = true) :
    (∀ text text', Text.words text' = (Text.words text).map (renameOwner .opposite) → ∀ earlier earlier',
      Engine.outcomeAfter config earlier' board player.opponent text' =
        Engine.outcomeAfter config earlier board player text) ∧
    ∀ text, "own" ∉ Text.words text → "enemy" ∉ Text.words text → ∀ other : PlayerId, other.isSeated = true →
      ∀ earlier earlier',
        Engine.resultAfter config earlier' board other text = Engine.resultAfter config earlier board player text := by
  refine ⟨?_, ?_⟩
  · intro text text' words earlier earlier'
    apply Engine.outcomeAfter_congr
    · intro found given
      exact Engine.resultAfter_congr (answers_mirrored seated words) (fun c => kept_mirrored seated words) given
    · intro kind fails
      exact failsAs_mirrored seated words fails
  · intro text own enemy other seated' earlier earlier'
    rw [Engine.resultAfter, Engine.resultAfter, Engine.run_result, Engine.run_result]
    exact answer_of_unsided seated seated' own enemy

-- The shortcut has no mirrored shortcut; the other text is compiled.
theorem living_enemy_mirrored :
    PlayerId.second.isSeated = true ∧
    Text.words "own character .health>0" = (Text.words "enemy character .health>0").map (renameOwner .opposite) ∧
    Engine.outcomeAfter {} [] (.lone { health := 2 }) .first "own character .health>0" = .ok ⟨[⟨0⟩]⟩ ∧
    Engine.resultAfter {} [] .moody .first "minion .mood>1" = Engine.resultAfter {} [] .moody .second "minion .mood>1" := by
  have words : Text.words "own character .health>0" =
      (Text.words "enemy character .health>0").map (renameOwner .opposite) := rfl
  have seated : PlayerId.second.isSeated = true := rfl
  have given : Engine.outcomeAfter {} [] (.lone { health := 2 }) .second "enemy character .health>0" = .ok ⟨[⟨0⟩]⟩ := rfl
  have mirrored := (evaluate_mirrored {} (.lone { health := 2 }) seated).1 _ _ words [] []
  have unsided := (evaluate_mirrored {} .moody seated).2 "minion .mood>1" (by decide) (by decide) .first rfl [] []
  exact ⟨seated, words, mirrored.trans given, unsided⟩

end CardQuery
