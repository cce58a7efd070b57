import CardQuery.Proofs.Narrowing
import CardQuery.Proofs.Rosters

namespace CardQuery

theorem Seats.flatten_push {s : Seats (List EntityId)} {p : PlayerId} {ids : List EntityId} (seated : s.get? p = some ids)
    (id : EntityId) : (s.set p (ids ++ [id])).toList.flatten.Perm (id :: s.toList.flatten) := by
  have seat : p.isSeated = true := by rw [← Seats.get?_isSome s, seated]; rfl
  rcases PlayerId.isSeated_iff.mp seat with rfl | rfl
  · cases seated
    simp [Seats.set, Seats.toList, List.perm_middle]
  · cases seated
    simp only [Seats.set, Seats.toList, if_neg (show PlayerId.second ≠ .first by decide), List.flatten_cons,
      List.flatten_nil, List.append_nil, ↓reduceIte, ← List.append_assoc]
    exact List.perm_append_singleton _ _

namespace Board

-- `Intact` asks for more, which a pool without a seat takes away.
structure Tidy (b : Board) : Prop where
  distinct : b.pools.toList.flatten.Nodup
  stored : ∀ id ∈ b.pools.toList.flatten, id ∈ b.cards.keys
  numbered : ∀ id card, b.get? id = some card → card.id = id

section Step
variable {b : Board} (tidy : b.Tidy)
include tidy

theorem store_tidy {card : Card} : (b.store card).Tidy := by
  refine ⟨tidy.distinct, ?_, ?_⟩
  · intro id shown
    show id ∈ (b.cards.insert card.id card).keys
    obtain ⟨old, found⟩ := Table.mem_keys.mp (tidy.stored id shown)
    rw [Table.mem_keys, Table.get?_insert]
    split
    · exact ⟨card, rfl⟩
    · exact ⟨old, found⟩
  · intro id other found
    rw [get?, store, Table.get?_insert] at found
    split at found
    · cases found
      assumption
    · exact tidy.numbered id other found

theorem adds_tidy {pool : PlayerId} {card : Card} {result : Except Fault Unit} {after : Board}
    (adds : Adds b pool card result after) : after.Tidy := by
  have kept := @store_tidy b tidy card
  cases adds with
  | duplicate _ => exact tidy
  | unseated _ _ => exact kept
  | added new seated =>
    have grown := Seats.flatten_push seated card.id
    refine ⟨?_, ?_, kept.numbered⟩
    · rw [grown.nodup_iff, List.nodup_cons]
      exact ⟨fun shown => new (tidy.stored _ shown), tidy.distinct⟩
    · intro id shown
      rcases List.mem_cons.mp (grown.mem_iff.mp shown) with rfl | old
      · show card.id ∈ (b.cards.insert card.id card).keys
        rw [Table.mem_keys, Table.get?_insert, if_pos rfl]
        exact ⟨card, rfl⟩
      · exact kept.stored id old

theorem advance_tidy (room : b.next < 0x100000000) : (b.advance room).Tidy :=
  ⟨tidy.distinct, tidy.stored, tidy.numbered⟩

theorem alloc_tidy : b.alloc.2.Tidy := by
  by_cases room : b.next < 0x100000000
  · rw [alloc_of_room room]
    exact advance_tidy tidy room
  · rw [alloc_of_spent (Nat.le_of_not_lt room)]
    exact tidy

theorem add_tidy (pool : PlayerId) (card : Card) : (b.add pool card).2.Tidy := by
  cases added : b.add pool card with
  | mk result after => exact adds_tidy tidy (add_exact.mp added)

theorem spawn_tidy (pool : PlayerId) (d : CardDefinition) (owner : PlayerId) (zone : Zone) :
    (b.spawn pool d owner zone).2.Tidy := by
  by_cases room : b.next < 0x100000000
  · cases added : (b.advance room).add pool (.ofDefinition b.fresh d owner zone) with
    | mk result after =>
      have adds := add_exact.mp added
      rw [spawn_of_room room adds]
      exact adds_tidy (advance_tidy tidy room) adds
  · simp only [spawn, alloc_of_spent (Nat.le_of_not_lt room)]
    exact tidy

theorem spawnNamed_tidy (registry : Registry) (name : String) (pool owner : PlayerId) (zone : Zone) :
    (b.spawnNamed registry name pool owner zone).2.Tidy := by
  unfold spawnNamed
  split
  · exact tidy
  · rename_i d _
    have spawned := spawn_tidy tidy pool d owner zone
    split <;> simp_all

theorem remove_tidy (id : EntityId) : (b.remove id).2.Tidy := by
  have pools : (b.pools.map (·.filter (· != id))).toList.flatten = b.pools.toList.flatten.filter (· != id) := by
    simp [Seats.toList, Seats.map]
  unfold remove
  split
  · exact tidy
  · refine ⟨?_, ?_, ?_⟩
    · rw [pools]
      exact tidy.distinct.filter _
    · intro other shown
      rw [pools, List.mem_filter, bne_iff_ne] at shown
      rw [Table.keys_erase]
      exact (List.mem_erase_of_ne shown.2).mpr (tidy.stored other shown.1)
    · intro other card found
      rw [get?, Table.get?_erase] at found
      split at found
      · cases found
      · exact tidy.numbered other card found

theorem modify_tidy {id : EntityId} {f : Card → Card} (keeps : Roster.Keeps id f) : (b.modify id f).Tidy := by
  refine ⟨tidy.distinct, ?_, ?_⟩
  · intro other shown
    rw [modify, Table.keys_modify]
    exact tidy.stored other shown
  · intro other card found
    rw [get?, modify, Table.get?_modify] at found
    split at found
    · rename_i same
      obtain ⟨old, there, rfl⟩ := Option.map_eq_some_iff.mp found
      exact same ▸ keeps old ((tidy.numbered other old there).trans same.symm)
    · exact tidy.numbered other card found

theorem apply_tidy (targets : ResultSet) (action : Action) : (b.apply targets action).board.Tidy := by
  refine apply_preserves (P := Tidy) ?_ tidy targets action
  intro action b id card tidy found
  apply modify_tidy tidy
  intro _ _
  rw [action.applyTo_id, tidy.numbered id card found]

-- Only an edit could give a card another number.
theorem perform_tidy {change : Change} (keeps : ∀ id f, change = .edit id f → Roster.Keeps id f) :
    (b.perform change).2.Tidy := by
  cases change with
  | alloc => exact alloc_tidy tidy
  | add pool card => exact add_tidy tidy pool card
  | spawn pool d owner zone => exact spawn_tidy tidy pool d owner zone
  | spawnNamed registry name pool owner zone => exact spawnNamed_tidy tidy registry name pool owner zone
  | remove id => exact remove_tidy tidy id
  | edit id f => exact modify_tidy tidy (keeps id f rfl)
  | apply targets action => exact apply_tidy tidy targets action

end Step

theorem run_tidy {b : Board} (tidy : b.Tidy) {changes : List Change}
    (keeps : ∀ id f, .edit id f ∈ changes → Roster.Keeps id f) : (b.run changes).2.Tidy := by
  induction changes generalizing b with
  | nil => exact tidy
  | cons change rest ih =>
    have next : (b.perform change).2.Tidy := perform_tidy tidy fun id f same => keeps id f (same ▸ List.mem_cons_self)
    exact ih next fun id f present => keeps id f (List.mem_cons_of_mem _ present)

-- A board that calls lead to, with any pools and with edits that leave every card its number.
def Played (b : Board) : Prop :=
  ∃ changes, (∀ id f, .edit id f ∈ changes → Roster.Keeps id f) ∧ b = (empty.run changes).2

theorem Played.tidy {b : Board} (played : b.Played) : b.Tidy := by
  obtain ⟨changes, keeps, rfl⟩ := played
  have start : empty.Tidy := by
    refine ⟨List.nodup_nil, ?_, ?_⟩
    · intro id shown
      cases shown
    · intro id card found
      cases found
  exact run_tidy start keeps

-- Each player has a card in the other's pool; a third card was taken away again.
def duelCalls : List Change :=
  [.spawn .first (.named ⟨1⟩ "Wisp" .minion) .second .play, .spawn .second (.named ⟨1⟩ "Wisp" .minion) .first .play,
    .spawn .second (.named ⟨1⟩ "Wisp" .minion) .second .play, .remove ⟨2⟩, .spawn ⟨7⟩ (.named ⟨1⟩ "Wisp" .minion) .first .play]

def duel : Board := (empty.run duelCalls).2

theorem duel_played : duel.Played := ⟨duelCalls, fun _ _ edits => by simp [duelCalls] at edits, rfl⟩

namespace Tidy
variable {b : Board} (tidy : b.Tidy)
include tidy

theorem allCards_ids : b.allCards.map (·.id) = b.pools.toList.flatten := by
  have found : ∀ id ∈ b.pools.toList.flatten, (b.get? id).map (·.id) = some id := by
    intro id shown
    obtain ⟨card, there⟩ := Table.mem_keys.mp (tidy.stored id shown)
    rw [get?, there, Option.map_some, tidy.numbered id card there]
  rw [allCards, List.map_filterMap, List.filterMap_congr found, List.filterMap_some]

theorem ids_nodup : (b.allCards.map (·.id)).Nodup := tidy.allCards_ids ▸ tidy.distinct

theorem found_of_mem {card : Card} (shown : card ∈ b.allCards) : b.get? card.id = some card := by
  obtain ⟨id, _, found⟩ := List.mem_filterMap.mp shown
  rwa [tidy.numbered id card found]

theorem modify_allCards {id : EntityId} {f : Card → Card} :
    (b.modify id f).allCards = b.allCards.map fun card => if card.id = id then f card else card := by
  rw [allCards, allCards, List.map_filterMap]
  apply List.filterMap_congr
  intro other _
  show (b.cards.modify id f).get? other = (b.cards.get? other).map fun card => if card.id = id then f card else card
  rw [Table.get?_modify]
  cases found : b.cards.get? other with
  | none => simp
  | some card =>
    have same := tidy.numbered other card found
    subst same
    by_cases there : id = card.id
    · simp [there]
    · simp [there, Ne.symm there]

-- Each card is worked on once, so it does not matter in which order.
theorem visit_allCards {f : Card → Except Fault Unit × Card} {g : Card → Card} (total : ∀ card, f card = (.ok (), g card))
    (keeps : ∀ card, (g card).id = card.id) {targets : List EntityId} (distinct : targets.Nodup) :
    (b.visit f targets).2.allCards = b.allCards.map fun card => if card.id ∈ targets then g card else card := by
  induction targets generalizing b with
  | nil => simp [visit]
  | cons id rest ih =>
    obtain ⟨fresh, distinct⟩ := List.nodup_cons.mp distinct
    unfold visit
    cases found : b.get? id with
    | none =>
      rw [ih tidy distinct]
      apply List.map_congr_left
      intro card shown
      have other : card.id ≠ id := by
        rintro rfl
        rw [tidy.found_of_mem shown] at found
        cases found
      simp [other]
    | some card =>
      have kept : Roster.Keeps id fun _ => g card := fun _ _ => (keeps card).trans (tidy.numbered id card found)
      have changed := modify_tidy tidy kept
      have rest' : ((b.modify id fun _ => g card).visit f rest).2.allCards =
          b.allCards.map fun card => if card.id ∈ id :: rest then g card else card := by
        rw [ih changed distinct, tidy.modify_allCards, List.map_map]
        apply List.map_congr_left
        intro other shown
        by_cases same : other.id = id
        · have card_eq : other = card := by
            have there := tidy.found_of_mem shown
            rw [same, found] at there
            exact (Option.some.inj there).symm
          subst card_eq
          simp [same, keeps, fresh]
        · simp [same]
      rw [← rest']
      simp only [total]
      split <;> simp_all

theorem apply_allCards {action : Action} {g : Card → Card} (settled : b.resolve action = .ok action)
    (total : ∀ card, action.applyTo card = (.ok (), g card)) {targets : ResultSet} (distinct : targets.ids.Nodup) :
    (b.apply targets action).board.allCards = b.allCards.map fun card => if card.id ∈ targets.ids then g card else card := by
  have keeps : ∀ card, (g card).id = card.id := by
    intro card
    have same := action.applyTo_id card
    rwa [total] at same
  rw [← visit_allCards tidy total keeps distinct]
  unfold apply
  split
  · rename_i none
    rw [List.isEmpty_iff.mp none]
    rfl
  · rw [settled]
    dsimp only
    split <;> simp_all

end Tidy
end Board

section Found
open Meaning
variable {config : Config} {earlier : List Call} {board : Board} (tidy : board.Tidy) {player : PlayerId}
  {text : String} {found : ResultSet} (given : Engine.resultAfter config earlier board player text = .ok found)
include tidy given

omit tidy in
open Classical in
theorem Engine.found_ids : found.ids = (board.allCards.filter fun c => Kept config player text c).map (·.id) := by
  obtain ⟨_, rfl⟩ := resultAfter_eq_ok.mp given
  rfl

omit tidy in
theorem Engine.card_of_found {id : EntityId} (listed : id ∈ found.ids) : ∃ c ∈ board.allCards, c.id = id := by
  rw [found_ids given] at listed
  obtain ⟨c, kept, same⟩ := List.mem_map.mp listed
  exact ⟨c, List.mem_of_mem_filter kept, same⟩

-- A number stands for one card.
theorem Engine.mem_found {c : Card} (shown : c ∈ board.allCards) : c.id ∈ found.ids ↔ Kept config player text c := by
  simp only [found_ids given, List.mem_map, List.mem_filter, decide_eq_true_eq]
  constructor
  · intro listed
    obtain ⟨other, ⟨there, kept⟩, same⟩ := listed
    rwa [List.inj_on_of_nodup_map tidy.ids_nodup shown there same.symm]
  · intro kept
    exact ⟨c, ⟨shown, kept⟩, rfl⟩

theorem Engine.found_nodup : found.ids.Nodup := by
  rw [found_ids given]
  exact tidy.ids_nodup.sublist (List.filter_sublist.map _)

end Found
end CardQuery
