import CardQuery.Proofs.Narrowing

namespace CardQuery
open Meaning Token

inductive Axis where
  | zone | type
  deriving DecidableEq, Repr

namespace Axis

def Has : Axis → String → Prop
  | zone, word => ∃ name, word = "@" ++ name
  | type, word => ∃ type : TypeWord, word = type.text

-- What one word of the axis lets through. A word for an unknown zone lets nothing through.
def Passes (c : Card) : Axis → String → Prop
  | zone, word => word = "@" ++ c.zone.name
  | type, word => ∃ type : TypeWord, word = type.text ∧ (type = .card ∨ type.Names c.type)

def Says (policy : NoTypePolicy) (ws : List String) (c : Card) : Axis → Prop
  | zone => ZoneSays ws c
  | type => TypeSays policy ws c

def OthersSay (policy : NoTypePolicy) (ws : List String) (view : Perspective) (c : Card) : Axis → Prop
  | zone => OwnerSays ws view c ∧ TypeSays policy ws c ∧ TagsSay ws c
  | type => OwnerSays ws view c ∧ ZoneSays ws c ∧ TagsSay ws c

theorem Has.mild {axis : Axis} {word : String} (has : axis.Has word) : Mild word := by
  cases axis with
  | zone =>
    obtain ⟨name, rfl⟩ := has
    exact (Spelled.zone name).mild nofun nofun
  | type =>
    obtain ⟨type, rfl⟩ := has
    exact (Spelled.type type).mild nofun nofun

theorem admits_iff {policy : NoTypePolicy} {ws : List String} {view : Perspective} {c : Card} (axis : Axis) :
    Admits policy ws view c ↔ axis.OthersSay policy ws view c ∧ axis.Says policy ws c := by
  cases axis with
  | zone =>
    constructor
    · intro admits
      exact ⟨⟨admits.owner, admits.type, admits.tags⟩, admits.zone⟩
    · intro said
      obtain ⟨⟨owner, type, tags⟩, zone⟩ := said
      exact ⟨owner, type, zone, tags⟩
  | type =>
    constructor
    · intro admits
      exact ⟨⟨admits.owner, admits.zone, admits.tags⟩, admits.type⟩
    · intro said
      obtain ⟨⟨owner, zone, tags⟩, type⟩ := said
      exact ⟨owner, type, zone, tags⟩

section Append
variable {axis : Axis} {ws extra : List String} (widens : ∀ word ∈ extra, axis.Has word)
include widens

theorem mem_append_iff {other : String} {token : Token} (spelled : Spelled other token)
    (notZone : axis = .zone → ∀ name, .zone name ≠ token) (notType : axis = .type → ∀ type, .type type ≠ token) :
    other ∈ ws ++ extra ↔ other ∈ ws := by
  have absent : other ∉ extra := by
    intro present
    have has := widens other present
    cases axis with
    | zone =>
      obtain ⟨name, rfl⟩ := has
      exact notZone rfl name ((Spelled.zone name).unique spelled)
    | type =>
      obtain ⟨type, rfl⟩ := has
      exact notType rfl type ((Spelled.type type).unique spelled)
  simp [absent]

theorem othersSay_append {policy : NoTypePolicy} {view : Perspective} {c : Card} :
    axis.OthersSay policy (ws ++ extra) view c ↔ axis.OthersSay policy ws view c := by
  have owner : OwnerSays (ws ++ extra) view c ↔ OwnerSays ws view c := by
    apply ownerSays_congr
    intro word
    exact mem_append_iff widens (.owner word) nofun nofun
  have tags : TagsSay (ws ++ extra) c ↔ TagsSay ws c := by
    apply tagsSay_congr
    intro name nonempty
    exact mem_append_iff widens (.tag nonempty) nofun nofun
  cases axis with
  | zone =>
    have type : TypeSays policy (ws ++ extra) c ↔ TypeSays policy ws c := by
      apply typeSays_congr
      intro word
      exact mem_append_iff widens (.type word) nofun nofun
    simp only [OthersSay, owner, type, tags]
  | type =>
    have zone : ZoneSays (ws ++ extra) c ↔ ZoneSays ws c := by
      apply zoneSays_congr
      intro name
      exact mem_append_iff widens (.zone name) nofun nofun
    simp only [OthersSay, owner, zone, tags]

theorem passes_append (free : ∀ word ∈ ws, ¬ axis.Has word) (nonempty : extra ≠ []) {policy : NoTypePolicy} {c : Card} :
    axis.Says policy (ws ++ extra) c ↔ ∃ word ∈ extra, axis.Passes c word := by
  have inside : ∀ word ∈ ws ++ extra, axis.Has word → word ∈ extra := by
    intro word present has
    rcases List.mem_append.mp present with old | new
    · exact absurd has (free word old)
    · exact new
  obtain ⟨first, present⟩ := List.exists_mem_of_ne_nil _ nonempty
  have has := widens first present
  cases axis with
  | zone =>
    constructor
    · intro said
      rcases said with named | ⟨none, _⟩
      · exact ⟨_, inside _ named ⟨_, rfl⟩, rfl⟩
      · obtain ⟨name, rfl⟩ := has
        exact absurd (List.mem_append_right _ present) (none name)
    · intro passes
      obtain ⟨word, new, rfl⟩ := passes
      exact .inl (List.mem_append_right _ new)
  | type =>
    constructor
    · intro said
      rcases said with whole | ⟨word, named, names⟩ | ⟨none, _⟩
      · exact ⟨_, inside _ whole ⟨.card, rfl⟩, .card, rfl, .inl rfl⟩
      · exact ⟨_, inside _ named ⟨word, rfl⟩, word, rfl, .inr names⟩
      · obtain ⟨type, rfl⟩ := has
        exact absurd (List.mem_append_right _ present) (none type)
    · intro passes
      obtain ⟨_, new, word, rfl, whole | names⟩ := passes
      · subst whole
        exact .inl (List.mem_append_right _ new)
      · exact .inr (.inl ⟨word, List.mem_append_right _ new, names⟩)

theorem admits_append (free : ∀ word ∈ ws, ¬ axis.Has word) (nonempty : extra ≠ []) {policy : NoTypePolicy}
    {view : Perspective} {c : Card} : Admits policy (ws ++ extra) view c ↔
      axis.OthersSay policy ws view c ∧ ∃ word ∈ extra, axis.Passes c word := by
  rw [admits_iff axis, othersSay_append widens, passes_append widens free nonempty]

-- Whether a type is named hangs on the base, or on the axis and so on each of its words.
theorem typed_append {word : String} (has : axis.Has word)
    (typed : ∃ type : TypeWord, type.text ∈ ws ++ extra) : ∃ type : TypeWord, type.text ∈ ws ++ [word] := by
  obtain ⟨type, present⟩ := typed
  rcases List.mem_append.mp present with old | new
  · exact ⟨type, List.mem_append_left _ old⟩
  · have alike := widens _ new
    cases axis with
    | zone =>
      obtain ⟨name, same⟩ := alike
      exact absurd same ((Spelled.type type).ne (Spelled.zone name) nofun)
    | type =>
      obtain ⟨other, rfl⟩ := has
      exact ⟨other, by simp⟩

theorem admissible_append {policy : NoTypePolicy} (nonempty : extra ≠ []) :
    Admissible policy (ws ++ extra) ↔ ∀ word ∈ extra, Admissible policy (ws ++ [word]) := by
  constructor
  · intro admissible word present
    apply admissible.of_mild
    · intro other member
      rcases List.mem_append.mp member with old | new
      · exact .inl (List.mem_append_left _ old)
      · exact .inr ((List.mem_singleton.mp new) ▸ (widens word present).mild)
    · intro strict
      exact typed_append widens (widens word present) (admissible.typed strict)
  · intro each
    obtain ⟨first, present⟩ := List.exists_mem_of_ne_nil _ nonempty
    have admissible := each first present
    apply admissible.of_mild
    · intro other member
      rcases List.mem_append.mp member with old | new
      · exact .inl (List.mem_append_left _ old)
      · exact .inr (widens other new).mild
    · intro strict
      obtain ⟨type, member⟩ := admissible.typed strict
      rcases List.mem_append.mp member with old | new
      · exact ⟨type, List.mem_append_left _ old⟩
      · exact ⟨type, List.mem_append_right _ ((List.mem_singleton.mp new) ▸ present)⟩

theorem stuck_append {c : Card} : Stuck c (ws ++ extra) ↔ Stuck c ws := by
  have mild := @stuck_mild c ws extra [] fun word present => (widens word present).mild
  simpa using mild

theorem propertiesSay_append_iff {c : Card} : PropertiesSay (ws ++ extra) c ↔ PropertiesSay ws c := by
  rw [propertiesSay_append]
  exact and_iff_left (propertiesSay_mild fun word present => (widens word present).mild)

end Append

section Union
variable {axis : Axis} {config : Config} {board : Board} {player : PlayerId} {base text : String} {extra : List String}
  {single : String → String} (nonempty : extra ≠ []) (widens : ∀ word ∈ extra, axis.Has word)
  (free : ∀ word ∈ Text.words base, ¬ axis.Has word) (words : Text.words text = Text.words base ++ extra)
  (each : ∀ word ∈ extra, Text.words (single word) = Text.words base ++ [word])
include nonempty widens free words each

theorem admits_union {view : Perspective} {c : Card} : Admits config.noType (Text.words text) view c ↔
    ∃ word ∈ extra, Admits config.noType (Text.words (single word)) view c := by
  have alone : ∀ word ∈ extra, (Admits config.noType (Text.words (single word)) view c ↔
      axis.OthersSay config.noType (Text.words base) view c ∧ axis.Passes c word) := by
    intro word present
    rw [each word present, @admits_append axis _ [word] (by simpa using widens word present) free (by simp)]
    simp
  rw [words, admits_append widens free nonempty]
  constructor
  · intro admits
    obtain ⟨others, word, present, passes⟩ := admits
    exact ⟨word, present, (alone word present).mpr ⟨others, passes⟩⟩
  · intro admits
    obtain ⟨word, present, admits⟩ := admits
    obtain ⟨others, passes⟩ := (alone word present).mp admits
    exact ⟨others, word, present, passes⟩

omit nonempty free in
theorem stuck_union {word : String} (present : word ∈ extra) {c : Card} :
    Stuck c (Text.words (single word)) ↔ Stuck c (Text.words text) := by
  rw [words, each word present, stuck_append widens, @stuck_append axis _ [word] (by simpa using widens word present)]

theorem kept_union {c : Card} : Kept config player text c ↔ ∃ word ∈ extra, Kept config player (single word) c := by
  have alone : ∀ word ∈ extra, (PropertiesSay (Text.words (single word)) c ↔ PropertiesSay (Text.words text) c) := by
    intro word present
    rw [words, each word present, propertiesSay_append_iff widens,
      @propertiesSay_append_iff axis _ [word] (by simpa using widens word present)]
  constructor
  · intro kept
    obtain ⟨word, present, admits⟩ := (admits_union nonempty widens free words each).mp kept.admitted
    exact ⟨word, present, admits, (alone word present).mpr kept.properties⟩
  · intro kept
    obtain ⟨word, present, kept⟩ := kept
    exact ⟨(admits_union nonempty widens free words each).mpr ⟨word, present, kept.admitted⟩,
      (alone word present).mp kept.properties⟩

theorem answers_union : Answers config board player text ↔ ∀ word ∈ extra, Answers config board player (single word) := by
  have compiles : (∃ s, compile config text = .ok s) ↔ ∀ word ∈ extra, ∃ s, compile config (single word) = .ok s := by
    rw [compile_isOk_iff_admissible, words, admissible_append widens nonempty]
    constructor
    · intro admissible word present
      rw [compile_isOk_iff_admissible, each word present]
      exact admissible word present
    · intro compiles word present
      rw [← each word present, ← compile_isOk_iff_admissible]
      exact compiles word present
  have examined : ∀ c, Examined config board player (Text.words text) c ↔
      ∃ word ∈ extra, Examined config board player (Text.words (single word)) c := by
    intro c
    simp only [Examined, admits_union nonempty widens free words each]
    constructor
    · intro both
      obtain ⟨onBoard, word, present, admits⟩ := both
      exact ⟨word, present, onBoard, admits⟩
    · intro both
      obtain ⟨word, present, onBoard, admits⟩ := both
      exact ⟨onBoard, word, present, admits⟩
  constructor
  · intro answers word present
    refine ⟨Text.nonblank_of_words (by simp [each word present]), answers.seated, compiles.mp answers.compiles word present, ?_⟩
    intro c card stuck
    have stuck := (stuck_union widens words each present).mp stuck
    exact answers.free c ((examined c).mpr ⟨word, present, card⟩) stuck
  · intro answers
    obtain ⟨first, present⟩ := List.exists_mem_of_ne_nil _ nonempty
    refine ⟨Text.nonblank_of_words (by simp [words, nonempty]), (answers first present).seated,
      compiles.mpr fun word present => (answers word present).compiles, ?_⟩
    intro c card stuck
    obtain ⟨word, present, card⟩ := (examined c).mp card
    exact (answers word present).free c card ((stuck_union widens words each present).mpr stuck)

end Union
end Axis

open Classical in
-- The results are put together in the order of the board.
theorem evaluate_broadened (config : Config) (board : Board) (player : PlayerId) (axis : Axis) {base text : String}
    {extra : List String} {single : String → String} (nonempty : extra ≠ []) (widens : ∀ word ∈ extra, axis.Has word)
    (free : ∀ word ∈ Text.words base, ¬ axis.Has word) (words : Text.words text = Text.words base ++ extra)
    (each : ∀ word ∈ extra, Text.words (single word) = Text.words base ++ [word])
    (earlier : List Call) (histories : String → List Call) :
    ((∃ found, Engine.resultAfter config earlier board player text = .ok found) ↔
      ∀ word ∈ extra, ∃ part, Engine.resultAfter config (histories word) board player (single word) = .ok part) ∧
    ∀ found, Engine.resultAfter config earlier board player text = .ok found →
      found.ids = (board.allCards.filter fun c => ∃ word ∈ extra, Kept config player (single word) c).map (·.id) ∧
      ∀ word ∈ extra, Engine.resultAfter config (histories word) board player (single word) =
        .ok ⟨(board.allCards.filter fun c => Kept config player (single word) c).map (·.id)⟩ := by
  have answers := @Axis.answers_union axis config board player base text extra single nonempty widens free words each
  have runs : ∀ calls other, (∃ found, Engine.resultAfter config calls board player other = .ok found) ↔
      Answers config board player other := by
    intro calls other
    simp [Engine.resultAfter_eq_ok]
  refine ⟨?_, ?_⟩
  · simp only [runs, answers]
  · intro found given
    obtain ⟨together, rfl⟩ := Engine.resultAfter_eq_ok.mp given
    refine ⟨?_, ?_⟩
    · simp only [Axis.kept_union nonempty widens free words each]
    · intro word present
      exact Engine.resultAfter_eq_ok.mpr ⟨answers.mp together word present, rfl⟩

-- The first of the two texts with one word is a shortcut, the text with both is not.
theorem enemy_minion_or_hero :
    (["minion", "hero"] ≠ [] ∧ (∀ word ∈ ["minion", "hero"], Axis.type.Has word) ∧
      (∀ word ∈ Text.words "enemy", ¬ Axis.type.Has word)) ∧
    Engine.resultAfter {} [] (.lone { health := 2 }) .second "enemy minion hero" = .ok ⟨[⟨0⟩]⟩ ∧
    ∀ word ∈ ["minion", "hero"], ∃ part,
      Engine.resultAfter {} [] (.lone { health := 2 }) .second ("enemy " ++ word) = .ok part := by
  have widens : ∀ word ∈ ["minion", "hero"], Axis.type.Has word := by
    intro word present
    rcases List.mem_pair.mp present with rfl | rfl
    · exact ⟨.minion, rfl⟩
    · exact ⟨.hero, rfl⟩
  have free : ∀ word ∈ Text.words "enemy", ¬ Axis.type.Has word := by
    intro word present has
    obtain rfl : word = "enemy" := List.mem_singleton.mp present
    obtain ⟨type, same⟩ := has
    exact absurd same (by cases type <;> decide)
  have each : ∀ word ∈ ["minion", "hero"], Text.words ("enemy " ++ word) = Text.words "enemy" ++ [word] := by
    intro word present
    rcases List.mem_pair.mp present with rfl | rfl <;> rfl
  have union := evaluate_broadened {} (.lone { health := 2 }) .second .type (by decide) widens free
    (rfl : Text.words "enemy minion hero" = Text.words "enemy" ++ ["minion", "hero"]) each [] fun _ => []
  have given : Engine.resultAfter {} [] (.lone { health := 2 }) .second "enemy minion hero" = .ok ⟨[⟨0⟩]⟩ := rfl
  exact ⟨⟨by decide, widens, free⟩, given, union.1.mp ⟨_, given⟩⟩

end CardQuery
