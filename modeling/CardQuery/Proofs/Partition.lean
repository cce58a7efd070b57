import CardQuery.Proofs.OwnerWords
import CardQuery.Proofs.Tidiness

namespace CardQuery
open Meaning

section Sides
variable {config : Config} {board : Board} (owners : ∀ c ∈ board.allCards, c.owner.isSeated = true) {player : PlayerId}
  {base own enemy : String} (unowned : Unowned (Text.words base))
  (ownWords : Text.words own = OwnerWord.own.text :: Text.words base)
  (enemyWords : Text.words enemy = OwnerWord.enemy.text :: Text.words base)
include owners unowned ownWords enemyWords

theorem Meaning.answers_shared (nonempty : Text.words base ≠ []) : Answers config board player base ↔
    Answers config board player own ∧ Answers config board player enemy := by
  rw [answers_owned ownWords unowned, answers_owned enemyWords unowned]
  constructor
  · intro answers
    exact ⟨⟨answers.seated, answers.compiles, fun c examined _ => answers.free c examined⟩,
      answers.seated, answers.compiles, fun c examined _ => answers.free c examined⟩
  · intro both
    obtain ⟨⟨seated, compiles, mine⟩, _, _, theirs⟩ := both
    refine ⟨Text.nonblank_of_words nonempty, seated, compiles, ?_⟩
    intro c examined
    by_cases claimed : OwnerWord.own.Claims (.of player) c
    · exact mine c examined claimed
    · exact theirs c examined ((OwnerWord.claimed_once seated (owners c examined.1)).mpr claimed)

end Sides

theorem evaluate_partitioned (config : Config) {board : Board} (played : board.Played)
    (owners : ∀ c ∈ board.allCards, c.owner.isSeated = true) (player : PlayerId) {base own enemy : String}
    (nonempty : Text.words base ≠ []) (unowned : Unowned (Text.words base))
    (ownWords : Text.words own = "own" :: Text.words base) (enemyWords : Text.words enemy = "enemy" :: Text.words base)
    (earlier before after : List Call) :
    ((∃ found, Engine.resultAfter config earlier board player base = .ok found) ↔
      (∃ mine, Engine.resultAfter config before board player own = .ok mine) ∧
        ∃ theirs, Engine.resultAfter config after board player enemy = .ok theirs) ∧
    ∀ found mine theirs, Engine.resultAfter config earlier board player base = .ok found →
      Engine.resultAfter config before board player own = .ok mine →
      Engine.resultAfter config after board player enemy = .ok theirs →
      mine.ids.Disjoint theirs.ids ∧ mine.ids.Sublist found.ids ∧ theirs.ids.Sublist found.ids ∧
      found.ids = (board.allCards.map (·.id)).filter fun id => id ∈ mine.ids ∨ id ∈ theirs.ids := by
  have tidy := played.tidy
  refine ⟨?_, ?_⟩
  · simp only [Engine.resultAfter_eq_ok, exists_and_left, exists_eq, and_true]
    exact answers_shared owners unowned ownWords enemyWords nonempty
  · intro found mine theirs given givenOwn givenEnemy
    have seated := (Engine.resultAfter_eq_ok.mp given).1.seated
    have onMine := @kept_owned .own base own ownWords unowned config player
    have onTheirs := @kept_owned .enemy base enemy enemyWords unowned config player
    have once := fun c shown => OwnerWord.claimed_once seated (owners c shown)
    have mineSub := Engine.sublist_of_kept given givenOwn fun c kept => (onMine.mp kept).1
    have theirsSub := Engine.sublist_of_kept given givenEnemy fun c kept => (onTheirs.mp kept).1
    refine ⟨?_, mineSub, theirsSub, ?_⟩
    · intro id inMine inTheirs
      obtain ⟨c, shown, rfl⟩ := Engine.card_of_found given (mineSub.subset inMine)
      have left := (onMine.mp ((Engine.mem_found tidy givenOwn shown).mp inMine)).2
      have right := (onTheirs.mp ((Engine.mem_found tidy givenEnemy shown).mp inTheirs)).2
      exact (once c shown).mp right left
    · rw [Engine.found_ids given, List.filter_map]
      congr 1
      apply List.filter_congr
      intro c shown
      have sides : Kept config player base c ↔ c.id ∈ mine.ids ∨ c.id ∈ theirs.ids := by
        rw [Engine.mem_found tidy givenOwn shown, Engine.mem_found tidy givenEnemy shown, onMine, onTheirs, once c shown,
          ← and_or_left, and_iff_left (Classical.em _)]
      exact decide_eq_decide.mpr sides

theorem duel_partitioned :
    Board.duel.Played ∧ (∀ c ∈ Board.duel.allCards, c.owner.isSeated = true) ∧ Text.words "minion" ≠ [] ∧
    Unowned (Text.words "minion") ∧ Engine.resultAfter {} [] .duel .first "minion" = .ok ⟨[⟨0⟩, ⟨1⟩]⟩ ∧
    (∃ mine, Engine.resultAfter {} [] .duel .first "own minion" = .ok mine) ∧
    (∃ theirs, Engine.resultAfter {} [] .duel .first "enemy minion" = .ok theirs) ∧
    [⟨0⟩, ⟨1⟩] = (Board.duel.allCards.map (·.id)).filter fun id => id ∈ [(⟨1⟩ : EntityId)] ∨ id ∈ [(⟨0⟩ : EntityId)] := by
  have owners : ∀ c ∈ Board.duel.allCards, c.owner.isSeated = true := by decide
  have nonempty : Text.words "minion" ≠ [] := by decide
  have unowned : Unowned (Text.words "minion") := by
    intro owner
    cases owner <;> decide
  have given : Engine.resultAfter {} [] .duel .first "minion" = .ok ⟨[⟨0⟩, ⟨1⟩]⟩ := rfl
  have ownWords : Text.words "own minion" = "own" :: Text.words "minion" := rfl
  have enemyWords : Text.words "enemy minion" = "enemy" :: Text.words "minion" := rfl
  have shared := evaluate_partitioned {} Board.duel_played owners .first nonempty unowned ownWords enemyWords [] [] []
  obtain ⟨mine, theirs⟩ := shared.1.mp ⟨_, given⟩
  exact ⟨Board.duel_played, owners, nonempty, unowned, given, mine, theirs, (shared.2 _ _ _ given rfl rfl).2.2.2⟩

end CardQuery
