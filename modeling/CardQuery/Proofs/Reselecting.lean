import CardQuery.Proofs.OwnerWords
import CardQuery.Proofs.Tidiness

namespace CardQuery
open Meaning

-- A card as it was, but for its owner and zone and for further tags.
structure Card.Extends (c c' : Card) : Prop where
  type : c'.type = c.type
  enchantments : c'.enchantments = c.enchantments
  capabilities : c'.capabilities = c.capabilities
  properties : c'.properties = c.properties
  tags : ∀ tag ∈ c.tags.toList, tag ∈ c'.tags.toList

-- The actions that set something, and what they make of a card.
inductive Action.Assigns : Action → (Card → Card) → Prop where
  | addTag (tag : Tag) : Assigns (.addTag tag) fun c => { c with tags := c.tags.insert tag }
  | moveTo (zone : Zone) : Assigns (.moveTo zone) fun c => { c with zone := zone }
  | destroy : Assigns .destroy fun c => { c with zone := .graveyard }
  | setOwner (owner : PlayerId) : Assigns (.setOwner owner) fun c => { c with owner := owner }

namespace Action.Assigns
variable {action : Action} {g : Card → Card} (assigns : action.Assigns g)
include assigns

theorem settled (b : Board) : b.resolve action = .ok action := by cases assigns <;> rfl

theorem total (c : Card) : action.applyTo c = (.ok (), g c) := by cases assigns <;> rfl

theorem id (c : Card) : (g c).id = c.id := by cases assigns <;> rfl

theorem extended (c : Card) : c.Extends (g c) := by
  cases assigns with
  | addTag tag =>
    refine ⟨rfl, rfl, rfl, rfl, ?_⟩
    intro other present
    have kept := TagSet.contains_insert c.tags tag other
    rw [TagSet.contains_eq.mpr present, Bool.true_or] at kept
    exact TagSet.contains_eq.mp kept
  | moveTo | destroy | setOwner => exact ⟨rfl, rfl, rfl, rfl, fun _ present => present⟩

end Action.Assigns

namespace Meaning

section Extends
variable {c c' : Card} (extended : c.Extends c') {ws : List String}
include extended

theorem get?_extended : c'.get? = c.get? := by
  funext key
  rw [Card.get?, Card.get?, extended.properties]

theorem clauseHolds_extended {name : String} {comparison : Option Comparison} :
    ClauseHolds c' name comparison ↔ ClauseHolds c name comparison := by
  cases comparison with
  | none => simp only [ClauseHolds, get?_extended extended]
  | some comparison =>
    obtain ⟨op, raw⟩ := comparison
    cases op <;> simp only [ClauseHolds, get?_extended extended]

theorem propertiesSay_extended : PropertiesSay ws c' ↔ PropertiesSay ws c := by
  simp only [PropertiesSay, clauseHolds_extended extended]

theorem stuck_extended : Stuck c' ws ↔ Stuck c ws := by
  simp only [Stuck, Rejects, Undecidable, propertiesSay_extended extended, get?_extended extended]

theorem tagHolds_extended {name : String} (held : TagHolds c name) : TagHolds c' name := by
  cases held with
  | battlecry has => exact .battlecry (extended.capabilities ▸ has)
  | deathrattle has => exact .deathrattle (extended.capabilities ▸ has)
  | granted attached grants => exact .granted (extended.enchantments ▸ attached) grants
  | aura has => exact .aura (extended.capabilities ▸ has)
  | trigger has => exact .trigger (extended.capabilities ▸ has)
  | overload costs => exact .overload (extended.properties ▸ costs)
  | tag present => exact .tag (extended.tags _ present)

theorem kept_extended {config : Config} {player : PlayerId} {text : String} (kept : Kept config player text c)
    (owner : OwnerSays (Text.words text) (.of player) c') (zone : ZoneSays (Text.words text) c') :
    Kept config player text c' := by
  have type : TypeSays config.noType (Text.words text) c' := by
    rw [TypeSays, extended.type]
    exact kept.admitted.type
  refine ⟨⟨owner, type, zone, ?_⟩, (propertiesSay_extended extended).mpr kept.properties⟩
  intro name nonempty present
  exact tagHolds_extended extended (kept.admitted.tags name nonempty present)

end Extends

theorem not_stuck_of_properties {c : Card} {ws : List String} (said : PropertiesSay ws c) : ¬ Stuck c ws := by
  rw [← @stops_iff_stuck c ""]
  intro stopped
  obtain ⟨e, stops⟩ := stopped
  induction ws with
  | nil => cases stops
  | cons word rest ih =>
    obtain ⟨here, later⟩ := properties_cons.mp said
    exact ih later ((stops_cons_of_held here).mp stops)

end Meaning

theorem Selector.zones_hold {config : Config} {text : String} {s : Selector} (compiled : compile config text = .ok s)
    (c : Card) : s.zones.holds c = true ↔ ZoneSays (Text.words text) c := by
  obtain ⟨tokens, d, read, taken, finished⟩ := compile_eq_ok.mp compiled
  obtain ⟨types, _, rfl⟩ := Draft.finish_eq_ok.mp finished
  have zone := Draft.zoneFilter_holds (Draft.describes_of_addAll taken) c
  simp only [zone_mem_iff read] at zone
  exact zone

section Applied
variable {config : Config} {earlier : List Call} {board : Board} (tidy : board.Tidy) {player : PlayerId}
  {text text' : String} {found : ResultSet} (given : Engine.resultAfter config earlier board player text = .ok found)
  {action : Action} {g : Card → Card} (assigns : action.Assigns g) (answers : Answers config board player text')
  (stuck : ∀ c, Stuck c (Text.words text') → Stuck c (Text.words text)) (later : List Call)
include tidy given assigns answers stuck

-- The members were kept, so none of them stops a search that asks the same of their properties.
theorem Engine.resultAfter_applied {q : Card → Prop} [DecidablePred q]
    (members : ∀ c ∈ board.allCards, Kept config player text c → (Kept config player text' (g c) ↔ q c))
    (others : ∀ c ∈ board.allCards, ¬ Kept config player text c → (Kept config player text' c ↔ q c)) :
    Engine.resultAfter config later (board.apply found action).board player text' =
      .ok ⟨(board.allCards.filter fun c => q c).map (·.id)⟩ := by
  classical
  have cards := tidy.apply_allCards (assigns.settled board) assigns.total (found_nodup tidy given)
  rw [resultAfter_eq_ok, cards]
  refine ⟨⟨answers.nonblank, answers.seated, answers.compiles, ?_⟩, ?_⟩
  · intro changed examined halted
    obtain ⟨present, admits⟩ := examined
    rw [cards] at present
    obtain ⟨c, shown, rfl⟩ := List.mem_map.mp present
    by_cases member : c.id ∈ found.ids
    · rw [if_pos member, stuck_extended (assigns.extended c)] at halted
      have kept := (mem_found tidy given shown).mp member
      exact not_stuck_of_properties kept.properties (stuck c halted)
    · rw [if_neg member] at halted admits
      exact answers.free c ⟨shown, admits⟩ halted
  · have verdict : ∀ c ∈ board.allCards,
        (Kept config player text' (if c.id ∈ found.ids then g c else c) ↔ q c) := by
      intro c shown
      by_cases member : c.id ∈ found.ids
      · rw [if_pos member]
        exact members c shown ((mem_found tidy given shown).mp member)
      · rw [if_neg member]
        exact others c shown (mt (mem_found tidy given shown).mpr member)
    rw [List.filter_map, List.map_map, List.filter_congr fun c shown => (decide_eq_decide.mpr (verdict c shown)).symm]
    congr 1
    apply List.map_congr_left
    intro c _
    show c.id = (if c.id ∈ found.ids then g c else c).id
    split
    · exact (assigns.id c).symm
    · rfl

-- The text finds no card that it did not find, and says the same of all members.
theorem Engine.resultAfter_members {P : Prop} [Decidable P]
    (members : ∀ c, Kept config player text c → (Kept config player text' (g c) ↔ P))
    (fewer : ∀ c, Kept config player text' c → Kept config player text c) :
    Engine.resultAfter config later (board.apply found action).board player text' = .ok (if P then found else ⟨[]⟩) := by
  classical
  have inside : ∀ c ∈ board.allCards, Kept config player text c →
      (Kept config player text' (g c) ↔ Kept config player text c ∧ P) :=
    fun c _ kept => (members c kept).trans (and_iff_right kept).symm
  have outside : ∀ c ∈ board.allCards, ¬ Kept config player text c →
      (Kept config player text' c ↔ Kept config player text c ∧ P) :=
    fun c _ dropped => iff_of_false (mt (fewer c) dropped) (mt And.left dropped)
  rw [resultAfter_applied tidy given assigns answers stuck later inside outside]
  by_cases holds : P
  · simp only [holds, and_true, if_true, ← found_ids given]
  · simp [holds]

end Applied

section Again
variable {config : Config} {earlier : List Call} {board : Board} (tidy : board.Tidy) {player : PlayerId} {text : String}
  {found : ResultSet} (given : Engine.resultAfter config earlier board player text = .ok found) (later : List Call)
include tidy given

theorem Engine.reselect_tagged (tag : Tag) :
    Engine.resultAfter config later (board.apply found (.addTag tag)).board player text = .ok found ∧
    ∀ tagged, Text.words tagged = Text.words text ++ ["#" ++ tag.name] →
      Engine.resultAfter config later (board.apply found (.addTag tag)).board player tagged = .ok found := by
  obtain ⟨answers, _⟩ := resultAfter_eq_ok.mp given
  have assigns := Action.Assigns.addTag tag
  have kept : ∀ c, Kept config player text c → Kept config player text { c with tags := c.tags.insert tag } :=
    fun c kept => kept_extended (assigns.extended c) kept kept.admitted.owner kept.admitted.zone
  refine ⟨?_, ?_⟩
  · have same := resultAfter_members tidy given assigns answers (fun c stuck => stuck) later
      (fun c old => iff_true_intro (kept c old)) fun c old => old
    rwa [if_pos trivial] at same
  · intro tagged words'
    have nonempty : tag.name ≠ "" := by cases tag <;> decide
    have words : Text.words text = Text.words text ++ [] := (List.append_nil _).symm
    have narrowed := @kept_insert_tag config player text tagged _ _ words _ nonempty words'
    have stuck := fun c => (stuck_insert_tag words nonempty words' c).mp
    have members : ∀ c, Kept config player text c →
        (Kept config player tagged { c with tags := c.tags.insert tag } ↔ True) := by
      intro c old
      have carries : tag ∈ (c.tags.insert tag).toList := by
        simp [← TagSet.contains_eq, TagSet.contains_insert]
      exact iff_true_intro ((narrowed _).mpr ⟨kept c old, .tag carries⟩)
    have same := resultAfter_members tidy given assigns (answers.insert_tag words nonempty words') stuck later members
      fun c new => ((narrowed c).mp new).1
    rwa [if_pos trivial] at same

theorem Engine.reselect_moved {s : Selector} (compiled : compile config text = .ok s) {action : Action} {zone : Zone}
    (assigns : action.Assigns fun c => { c with zone := zone }) :
    Engine.resultAfter config later (board.apply found action).board player text =
      .ok (if s.zones.zones &&& zone.bit = 0 then ⟨[]⟩ else found) := by
  obtain ⟨answers, _⟩ := resultAfter_eq_ok.mp given
  have members : ∀ c, Kept config player text c →
      (Kept config player text { c with zone := zone } ↔ ¬ s.zones.zones &&& zone.bit = 0) := by
    intro c kept
    have listed := Selector.zones_hold compiled { c with zone := zone }
    rw [ZoneFilter.holds, bne_iff_ne] at listed
    constructor
    · intro moved
      exact listed.mpr moved.admitted.zone
    · intro named
      exact kept_extended (assigns.extended c) kept kept.admitted.owner (listed.mp named)
  rw [← ite_not]
  exact resultAfter_members tidy given assigns answers (fun c stuck => stuck) later members fun c old => old

section Sides
variable {base own : String} (unowned : Unowned (Text.words base))
  (enemyWords : Text.words text = OwnerWord.enemy.text :: Text.words base)
include unowned enemyWords

theorem Engine.reselect_taken :
    Engine.resultAfter config later (board.apply found (.setOwner player)).board player text = .ok ⟨[]⟩ := by
  obtain ⟨answers, _⟩ := resultAfter_eq_ok.mp given
  have members : ∀ c, Kept config player text c → (Kept config player text { c with owner := player } ↔ False) := by
    intro c _
    apply iff_false_intro
    intro kept
    exact (OwnerWord.claimed_once answers.seated answers.seated).mp ((kept_owned enemyWords unowned).mp kept).2 rfl
  have same := resultAfter_members tidy given (.setOwner player) answers (fun c stuck => stuck) later members
    fun c old => old
  rwa [if_neg not_false] at same

theorem Engine.reselect_own (ownWords : Text.words own = OwnerWord.own.text :: Text.words base) {before : List Call}
    {mine : ResultSet} (givenOwn : Engine.resultAfter config before board player own = .ok mine) :
    Engine.resultAfter config later (board.apply found (.setOwner player)).board player own =
      .ok ⟨(board.allCards.map (·.id)).filter fun id => id ∈ found.ids ∨ id ∈ mine.ids⟩ := by
  have assigns := Action.Assigns.setOwner player
  have stuck : ∀ c, Stuck c (Text.words own) → Stuck c (Text.words text) :=
    fun c halted => (stuck_owned enemyWords).mpr ((stuck_owned ownWords).mp halted)
  rw [List.filter_map]
  apply resultAfter_applied tidy given assigns (resultAfter_eq_ok.mp givenOwn).1 stuck later
  · intro c shown kept
    have old := ((kept_owned enemyWords unowned).mp kept).1
    have taken := kept_extended (assigns.extended c) old (.inl unowned) old.admitted.zone
    exact iff_of_true ((kept_owned ownWords unowned).mpr ⟨taken, rfl⟩) (.inl ((mem_found tidy given shown).mpr kept))
  · intro c shown dropped
    rw [← mem_found tidy given shown] at dropped
    rw [← mem_found tidy givenOwn shown]
    exact (or_iff_right dropped).symm

end Sides
end Again

theorem evaluate_reselected (config : Config) {board : Board} (played : board.Played) {player : PlayerId} {text : String}
    {earlier : List Call} {found : ResultSet}
    (given : Engine.resultAfter config earlier board player text = .ok found) (later : List Call) :
    (∀ tag : Tag, Engine.resultAfter config later (board.apply found (.addTag tag)).board player text = .ok found ∧
      ∀ tagged, Text.words tagged = Text.words text ++ ["#" ++ tag.name] →
        Engine.resultAfter config later (board.apply found (.addTag tag)).board player tagged = .ok found) ∧
    (∃ s, compile config text = .ok s ∧ ∀ action zone, action = .moveTo zone ∨ (action = .destroy ∧ zone = .graveyard) →
      Engine.resultAfter config later (board.apply found action).board player text =
        .ok (if s.zones.zones &&& zone.bit = 0 then ⟨[]⟩ else found)) ∧
    ∀ base own, Unowned (Text.words base) → Text.words text = "enemy" :: Text.words base →
      Text.words own = "own" :: Text.words base →
      ∀ before mine, Engine.resultAfter config before board player own = .ok mine →
        Engine.resultAfter config later (board.apply found (.setOwner player)).board player text = .ok ⟨[]⟩ ∧
        Engine.resultAfter config later (board.apply found (.setOwner player)).board player own =
          .ok ⟨(board.allCards.map (·.id)).filter fun id => id ∈ found.ids ∨ id ∈ mine.ids⟩ := by
  have tidy := played.tidy
  obtain ⟨s, compiled⟩ := (Engine.resultAfter_eq_ok.mp given).1.compiles
  refine ⟨Engine.reselect_tagged tidy given later, ⟨s, compiled, ?_⟩, ?_⟩
  · intro action zone moves
    apply Engine.reselect_moved tidy given later compiled
    rcases moves with rfl | ⟨rfl, rfl⟩
    · exact .moveTo zone
    · exact .destroy
  · intro base own unowned enemyWords ownWords before mine givenOwn
    exact ⟨Engine.reselect_taken tidy given later unowned enemyWords,
      Engine.reselect_own tidy given later unowned enemyWords ownWords givenOwn⟩

theorem duel_reselected :
    Board.duel.Played ∧ Engine.resultAfter {} [] .duel .first "enemy minion" = .ok ⟨[⟨0⟩]⟩ ∧
    Engine.resultAfter {} [] (Board.duel.apply ⟨[⟨0⟩]⟩ (.addTag .taunt)).board .first "enemy minion #taunt" =
      .ok ⟨[⟨0⟩]⟩ ∧
    Engine.resultAfter {} [] (Board.duel.apply ⟨[⟨0⟩]⟩ .destroy).board .first "enemy minion" = .ok ⟨[]⟩ ∧
    Unowned (Text.words "minion") ∧ Engine.resultAfter {} [] .duel .first "own minion" = .ok ⟨[⟨1⟩]⟩ ∧
    Engine.resultAfter {} [] (Board.duel.apply ⟨[⟨0⟩]⟩ (.setOwner .first)).board .first "own minion" =
      .ok ⟨[⟨0⟩, ⟨1⟩]⟩ := by
  have given : Engine.resultAfter {} [] .duel .first "enemy minion" = .ok ⟨[⟨0⟩]⟩ := rfl
  have unowned : Unowned (Text.words "minion") := by
    intro owner
    cases owner <;> decide
  obtain ⟨tagged, moved, taken⟩ := evaluate_reselected {} Board.duel_played given []
  obtain ⟨s, compiled, moved⟩ := moved
  have selector : compile {} "enemy minion" = .ok ⟨"enemy minion", .enemy, .only CardType.minion.bit, .play, [], []⟩ := rfl
  rw [selector] at compiled
  cases compiled
  exact ⟨Board.duel_played, given, (tagged .taunt).2 _ rfl, moved .destroy .graveyard (.inr ⟨rfl, rfl⟩), unowned, rfl,
    (taken "minion" "own minion" unowned rfl rfl [] ⟨[⟨1⟩]⟩ rfl).2⟩

end CardQuery
