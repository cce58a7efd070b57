import CardQuery.Proofs.Ordering
import CardQuery.Proofs.Selecting
import CardQuery.Proofs.Session
import CardQuery.Proofs.Words

namespace CardQuery
open Meaning

section Words
variable {policy : NoTypePolicy} {ws ws' : List String} (same : ∀ word, word ∈ ws' ↔ word ∈ ws) (view : Perspective)
  (c : Card)
include same

theorem Meaning.admits_congr : Admits policy ws' view c ↔ Admits policy ws view c := by
  have owner : OwnerSays ws' view c ↔ OwnerSays ws view c := by simp only [OwnerSays, same]
  have type : TypeSays policy ws' c ↔ TypeSays policy ws c := by simp only [TypeSays, same]
  have zone : ZoneSays ws' c ↔ ZoneSays ws c := by simp only [ZoneSays, same]
  have tags : TagsSay ws' c ↔ TagsSay ws c := by simp only [TagsSay, same]
  constructor
  · intro admits
    exact ⟨owner.mp admits.owner, type.mp admits.type, zone.mp admits.zone, tags.mp admits.tags⟩
  · intro admits
    exact ⟨owner.mpr admits.owner, type.mpr admits.type, zone.mpr admits.zone, tags.mpr admits.tags⟩

theorem Meaning.satisfies_congr : Satisfies policy ws' view c ↔ Satisfies policy ws view c := by
  have properties : PropertiesSay ws' c ↔ PropertiesSay ws c := by simp only [PropertiesSay, same]
  constructor
  · intro satisfied
    exact ⟨(admits_congr same view c).mp satisfied.admitted, properties.mp satisfied.properties⟩
  · intro satisfied
    exact ⟨(admits_congr same view c).mpr satisfied.admitted, properties.mpr satisfied.properties⟩

end Words

theorem compile_perm {config : Config} {text text' : String} {s : Selector}
    (same : (Text.words text').Perm (Text.words text)) (compiled : compile config text = .ok s) :
    ∃ s', compile config text' = .ok s' := by
  obtain ⟨tokens, read, legal, typed⟩ := compile_isOk_iff.mp ⟨s, compiled⟩
  obtain ⟨tokens', read', moved⟩ := tokenize_perm same read
  refine compile_isOk_iff.mpr ⟨tokens', read', legal.perm moved, ?_⟩
  intro strict
  obtain ⟨word, present⟩ := typed strict
  exact ⟨word, moved.mem_iff.mpr present⟩

-- The cards whose properties a search looks at.
def Meaning.Examined (config : Config) (board : Board) (player : PlayerId) (ws : List String) (c : Card) : Prop :=
  c ∈ board.allCards ∧ Admits config.noType ws (.of player) c

structure Meaning.Answers (config : Config) (board : Board) (player : PlayerId) (text : String) : Prop where
  nonblank : Text.isBlankText text = false
  seated : player.isSeated = true
  compiles : ∃ s, compile config text = .ok s
  free : ∀ c, Examined config board player (Text.words text) c → ¬ Stuck c (Text.words text)

section Answer
variable {config : Config} {board : Board} {player : PlayerId} {text text' : String}

theorem fails_iff_stuck {policy : NoTypePolicy} {view : Perspective} {c : Card} :
    (∃ e, Fails policy text view c e) ↔ Admits policy (Text.words text) view c ∧ Stuck c (Text.words text) := by
  rw [← @stops_iff_stuck c text]
  constructor
  · intro failed
    obtain ⟨e, admitted, stops⟩ := failed
    exact ⟨admitted, e, stops⟩
  · intro both
    obtain ⟨admitted, e, stops⟩ := both
    exact ⟨e, admitted, stops⟩

open Classical in
theorem answer_eq_ok {found : ResultSet} : answer config board player text = .ok found ↔
    Answers config board player text ∧ found =
      ⟨(board.allCards.filter fun c => Satisfies config.noType (Text.words text) (.of player) c).map (·.id)⟩ := by
  have sound : (∀ c ∈ board.allCards, ∀ e, ¬ Fails config.noType text (.of player) c e) ↔
      ∀ c, Examined config board player (Text.words text) c → ¬ Stuck c (Text.words text) := by
    constructor
    · intro never c examined stuck
      obtain ⟨e, failed⟩ := fails_iff_stuck.mpr ⟨examined.2, stuck⟩
      exact never c examined.1 e failed
    · intro free c present e failed
      obtain ⟨admitted, stuck⟩ := fails_iff_stuck.mp ⟨e, failed⟩
      exact free c ⟨present, admitted⟩ stuck
  constructor
  · intro answered
    obtain ⟨nonblank, seated, s, compiled, collected⟩ := answer_eq_collect.mp answered
    obtain ⟨never, found⟩ := (collect_eq_ok (Selector.decides compiled (.of player))).mp collected
    exact ⟨⟨nonblank, seated, ⟨s, compiled⟩, sound.mp never⟩, congrArg ResultSet.mk found⟩
  · intro answers
    obtain ⟨⟨nonblank, seated, ⟨s, compiled⟩, free⟩, rfl⟩ := answers
    have collected := (collect_eq_ok (Selector.decides compiled (.of player))).mpr ⟨sound.mpr free, rfl⟩
    exact answer_eq_collect.mpr ⟨nonblank, seated, s, compiled, collected⟩

-- The same cards on both sides, or a failure on both sides.
def Agree (a b : Except SelectorError ResultSet) : Prop := a.toOption = b.toOption

section Moved
variable (same : (Text.words text').Perm (Text.words text))
include same

theorem found_perm {found found' : ResultSet} (first : answer config board player text = .ok found)
    (second : answer config board player text' = .ok found') : found' = found := by
  classical
  obtain ⟨_, rfl⟩ := answer_eq_ok.mp first
  obtain ⟨_, rfl⟩ := answer_eq_ok.mp second
  simp only [satisfies_congr fun word => same.mem_iff]

theorem agree_iff : Agree (answer config board player text') (answer config board player text) ↔
    (Answers config board player text' ↔ Answers config board player text) := by
  have runs : ∀ other, (∃ found, answer config board player other = .ok found) ↔ Answers config board player other := by
    intro other
    simp [answer_eq_ok]
  rw [← runs, ← runs, Agree]
  cases first : answer config board player text with
  | error e => cases answer config board player text' <;> simp [Except.toOption]
  | ok found =>
    cases second : answer config board player text' with
    | error e => simp [Except.toOption]
    | ok found' => simp [found_perm same first second]

-- Only the order of the words is left to decide whether the moved text gives a result.
theorem answers_perm {s : Selector} (nonblank : Text.isBlankText text = false) (seated : player.isSeated = true)
    (compiled : compile config text = .ok s) : Answers config board player text' ↔
      ∀ c, Examined config board player (Text.words text) c → ¬ Stuck c (Text.words text') := by
  have examined : ∀ c, Examined config board player (Text.words text') c ↔
      Examined config board player (Text.words text) c := by
    intro c
    simp only [Examined, admits_congr fun word => same.mem_iff]
  constructor
  · intro answers c card
    exact answers.free c ((examined c).mpr card)
  · intro free
    refine ⟨(Text.isBlankText_congr same).trans nonblank, seated, compile_perm same compiled, ?_⟩
    intro c card
    exact free c ((examined c).mp card)

theorem agree_of_orderFree (free : (∃ s, compile config text = .ok s) →
    OrderFree (Examined config board player (Text.words text)) (Text.words text)) :
    Agree (answer config board player text') (answer config board player text) := by
  rw [agree_iff same]
  by_cases possible : Text.isBlankText text = false ∧ player.isSeated = true ∧ ∃ s, compile config text = .ok s
  · obtain ⟨nonblank, seated, s, compiled⟩ := possible
    rw [answers_perm same nonblank seated compiled, answers_perm (.refl _) nonblank seated compiled]
    rcases orderFree_iff.mp (free ⟨s, compiled⟩) with never | always
    · exact iff_of_true (never _ same) (never _ (.refl _))
    · apply iff_of_false
      · intro clear
        obtain ⟨c, card, stuck⟩ := always _ same
        exact clear c card stuck
      · intro clear
        obtain ⟨c, card, stuck⟩ := always _ (.refl _)
        exact clear c card stuck
  · apply iff_of_false
    · intro answers
      obtain ⟨s, compiled⟩ := answers.compiles
      have nonblank := (Text.isBlankText_congr same.symm).trans answers.nonblank
      exact possible ⟨nonblank, answers.seated, compile_perm same.symm compiled⟩
    · intro answers
      exact possible ⟨answers.nonblank, answers.seated, answers.compiles⟩

end Moved

-- Every order of the words of a text is the order of the words of some text.
theorem exists_text {order : List String} (moved : order.Perm (Text.words text)) :
    ∃ text', Text.words text' = order := by
  refine ⟨Text.unwords order, Text.words_unwords ?_⟩
  intro word present
  exact Text.isWord_of_mem_words (moved.mem_iff.mp present)

theorem orderFree_of_agree (seated : player.isSeated = true) {s : Selector} (compiled : compile config text = .ok s)
    (agree : ∀ text', (Text.words text').Perm (Text.words text) →
      Agree (answer config board player text') (answer config board player text)) :
    OrderFree (Examined config board player (Text.words text)) (Text.words text) := by
  cases nonblank : Text.isBlankText text with
  | true =>
    left
    intro c _ word present
    rw [Text.words_eq_nil_iff.mpr nonblank] at present
    cases present
  | false =>
    rw [orderFree_iff]
    have agree : ∀ order, order.Perm (Text.words text) →
        ((∀ c, Examined config board player (Text.words text) c → ¬ Stuck c order) ↔
          Answers config board player text) := by
      intro order moved
      obtain ⟨text', rfl⟩ := exists_text moved
      rw [← answers_perm moved nonblank seated compiled]
      exact (agree_iff moved).mp (agree text' moved)
    by_cases answers : Answers config board player text
    · left
      intro order moved
      exact (agree order moved).mpr answers
    · right
      intro order moved
      by_contra never
      push Not at never
      exact answers ((agree order moved).mp never)

end Answer

-- Property words are tried as they are written, so it may hang on their order whether one is reached that stops the search.
theorem evaluate_reordered (config : Config) (board : Board) {player : PlayerId} (seated : player.isSeated = true)
    (text : String) :
    (∀ text', (Text.words text').Perm (Text.words text) → ∀ earlier earlier' found found',
      (((Engine.ofConfig config).run earlier).evaluate board player text).result = .ok found →
      (((Engine.ofConfig config).run earlier').evaluate board player text').result = .ok found' → found' = found) ∧
    ((∀ text', (Text.words text').Perm (Text.words text) → ∀ earlier earlier',
        Agree (((Engine.ofConfig config).run earlier').evaluate board player text').result
          (((Engine.ofConfig config).run earlier).evaluate board player text).result) ↔
      ((∃ s, compile config text = .ok s) →
        OrderFree (Examined config board player (Text.words text)) (Text.words text))) := by
  simp only [Engine.run_result]
  refine ⟨?_, ?_, ?_⟩
  · intro text' same _ _ found found' first second
    exact found_perm same first second
  · intro agree compiles
    obtain ⟨s, compiled⟩ := compiles
    apply orderFree_of_agree seated compiled
    intro text' same
    exact agree text' same [] []
  · intro free text' same _ _
    exact agree_of_orderFree same free

-- A minion whose mood is a word. Its attack turns it away before the mood is compared, or comes too late.
def Board.moody : Board := .lone { extra := ({} : Table String Value).insert "mood" (.text "grumpy") }

theorem moody_minion_reordered :
    (Text.words "minion .mood>1 .attack>5").Perm (Text.words "minion .attack>5 .mood>1") ∧
    ((Engine.ofConfig {}).evaluate .moody .first "minion .attack>5 .mood>1").result = .ok ⟨[]⟩ ∧
    ((Engine.ofConfig {}).evaluate .moody .first "minion .mood>1 .attack>5").result =
      .error (.meaningless "minion .mood>1 .attack>5" (.propertyNotNumeric .gt (.other "mood") ⟨0⟩ (.text "grumpy"))) ∧
    ¬ Agree ((Engine.ofConfig {}).evaluate .moody .first "minion .mood>1 .attack>5").result
      ((Engine.ofConfig {}).evaluate .moody .first "minion .attack>5 .mood>1").result := by
  refine ⟨by decide, rfl, rfl, ?_⟩
  intro agree
  cases agree

theorem moody_minion_not_orderFree :
    PlayerId.first.isSeated = true ∧ ¬ OrderFree
      (Examined {} .moody .first (Text.words "minion .attack>5 .mood>1")) (Text.words "minion .attack>5 .mood>1") := by
  refine ⟨rfl, ?_⟩
  intro free
  have agree := (evaluate_reordered {} .moody (rfl : PlayerId.first.isSeated = true) "minion .attack>5 .mood>1").2.mpr
    (fun _ => free) "minion .mood>1 .attack>5" (by decide) [] []
  cases agree

end CardQuery
