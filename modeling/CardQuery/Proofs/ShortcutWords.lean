import CardQuery.Proofs.Reordering

namespace CardQuery
open Meaning

-- An undecidable word is a comparison among the tokens, of a property that the card has and that is no number.
theorem Meaning.undecidable_token {text word : String} {tokens : List Token} {c : Card}
    (read : tokenize text = .ok tokens) (present : word ∈ Text.words text) (undecidable : Undecidable c word) :
    ∃ name comparison v, .property name (some comparison) ∈ tokens ∧ c.get? (.ofName name) = some v ∧
      ∀ n, v ≠ .int n := by
  obtain ⟨name, op, raw, v, spelled, _, found, unordered⟩ := undecidable
  exact ⟨name, ⟨op, raw⟩, v, (mem_tokens_iff read).mpr ⟨word, present, spelled⟩, found, unordered⟩

namespace Shortcut

theorem orders_by_health : ∀ text ∈ texts, ∃ tokens, tokenize text = .ok tokens ∧
    ∀ name comparison, .property name (some comparison) ∈ tokens → name = "health" := by
  unfold texts table
  simp only [List.map_cons, List.forall_mem_cons]
  refine ⟨?_, ?_, ?_, ?_, ?_, ?_, ?_, by simp⟩
  · exact ⟨[.type .minion], rfl, by simp⟩
  · exact ⟨[.type .character], rfl, by simp⟩
  · exact ⟨[.owner .own, .type .minion], rfl, by simp⟩
  · exact ⟨[.owner .enemy, .type .minion], rfl, by simp⟩
  · exact ⟨[.owner .own, .type .character], rfl, by simp⟩
  · exact ⟨[.owner .enemy, .type .character], rfl, by simp⟩
  · exact ⟨[.owner .enemy, .type .character, .property "health" (some ⟨.gt, "0"⟩)], rfl, by simp⟩

theorem find?_of_mem : ∀ entry ∈ table, find? entry.1 = some entry.2 := by
  unfold table
  simp only [List.forall_mem_cons]
  exact ⟨rfl, rfl, rfl, rfl, rfl, rfl, rfl, by simp⟩

section Listed
variable {text : String} {holds : Card → Perspective → Bool} (listed : (text, holds) ∈ table)
include listed

theorem text_mem : text ∈ texts := List.mem_map.mpr ⟨_, listed, rfl⟩

theorem not_undecidable {word : String} {c : Card} (present : word ∈ Text.words text) : ¬ Undecidable c word := by
  intro undecidable
  obtain ⟨tokens, read, health⟩ := orders_by_health text (text_mem listed)
  obtain ⟨name, comparison, v, found, value, unordered⟩ := undecidable_token read present undecidable
  obtain rfl := health name comparison found
  have number : c.get? (.ofName "health") = some (.int c.properties.health) := rfl
  rw [number] at value
  cases value
  exact unordered _ rfl

-- No two shortcuts have the same words.
theorem find?_moved {text' : String} (same : (Text.words text').Perm (Text.words text)) (other : text' ≠ text) :
    find? text' = none := by
  have distinct : ∀ a ∈ texts, ∀ b ∈ texts, (Text.words a).Perm (Text.words b) → a = b := by decide
  cases found : find? text' with
  | none => rfl
  | some holds' =>
    have listed' := text_mem (find?_eq_some found)
    exact absurd (distinct text' listed' text (text_mem listed) same) other

theorem answer_text (config : Config) (board : Board) {player : PlayerId} (seated : player.isSeated = true) :
    answer config board player text =
      .ok ⟨(board.allCards.filter fun c => holds c (.of player)).map (·.id)⟩ := by
  have nonblank : ∀ a ∈ texts, Text.isBlankText a = false := by decide
  obtain ⟨s, compiled, accepts⟩ := compiles _ listed
  have decides : Decides (s.accepts · (.of player)) (fun c => holds c (.of player) = true) (fun _ _ => False) := by
    constructor
    · intro c
      simp [accepts]
    · intro c e
      simp [accepts]
  have collected := @collect_of_sound _ _ _ decides _ board.allCards (by simp)
  simp only [Bool.decide_eq_true] at collected
  exact answer_eq_collect.mpr ⟨nonblank text (text_mem listed), seated, s, compiled config, collected⟩

theorem answer_moved (config : Config) (board : Board) {player : PlayerId} (seated : player.isSeated = true)
    {text' : String} (same : (Text.words text').Perm (Text.words text)) :
    answer config board player text' =
      .ok ⟨(board.allCards.filter fun c => holds c (.of player)).map (·.id)⟩ := by
  have agree : Agree (answer config board player text') (answer config board player text) := by
    apply agree_of_orderFree same
    intro _
    left
    intro c _ word present
    exact not_undecidable listed present
  rw [answer_text listed config board seated] at agree
  cases moved : answer config board player text' with
  | error e =>
    rw [moved] at agree
    cases agree
  | ok found =>
    rw [moved] at agree
    cases agree
    rfl

end Listed
end Shortcut

theorem shortcut_exact {text : String} {holds : Card → Perspective → Bool} (listed : (text, holds) ∈ Shortcut.table) :
    (∀ config, ∃ s, compile config text = .ok s ∧ ∀ c view, s.accepts c view = .ok (holds c view)) ∧
    Shortcut.find? text = some holds ∧
    ∀ config board player, player.isSeated = true → ∀ text', (Text.words text').Perm (Text.words text) →
      (text' ≠ text → Shortcut.find? text' = none) ∧
      ∀ earlier, (((Engine.ofConfig config).run earlier).evaluate board player text').result =
          (((Engine.ofConfig config).run earlier).evaluate board player text).result ∧
        (((Engine.ofConfig config).run earlier).evaluate board player text).result =
          .ok ⟨(board.allCards.filter fun c => holds c (.of player)).map (·.id)⟩ := by
  refine ⟨?_, Shortcut.find?_of_mem _ listed, ?_⟩
  · intro config
    obtain ⟨s, compiled, accepts⟩ := Shortcut.compiles _ listed
    exact ⟨s, compiled config, accepts⟩
  · intro config board player seated text' same
    refine ⟨Shortcut.find?_moved listed same, ?_⟩
    intro earlier
    rw [Engine.run_result, Engine.run_result, Shortcut.answer_text listed config board seated,
      Shortcut.answer_moved listed config board seated same]
    exact ⟨rfl, rfl⟩

theorem living_enemy_moved :
    ("enemy character .health>0", Shortcut.living (Shortcut.enemy Shortcut.character)) ∈ Shortcut.table ∧
    (Text.words " .health>0\tcharacter enemy").Perm (Text.words "enemy character .health>0") ∧
    Shortcut.find? " .health>0\tcharacter enemy" = none ∧
    ((Engine.ofConfig {}).evaluate (.lone { health := 2 }) .second " .health>0\tcharacter enemy").result =
      .ok ⟨[⟨0⟩]⟩ := by
  have listed : ("enemy character .health>0", Shortcut.living (Shortcut.enemy Shortcut.character)) ∈ Shortcut.table := by
    simp [Shortcut.table]
  have same : (Text.words " .health>0\tcharacter enemy").Perm (Text.words "enemy character .health>0") := by decide
  have moved := (shortcut_exact listed).2.2 {} (.lone { health := 2 }) .second rfl " .health>0\tcharacter enemy" same
  refine ⟨listed, same, moved.1 (by decide), ?_⟩
  obtain ⟨alike, found⟩ := moved.2 []
  exact alike.trans found

end CardQuery
