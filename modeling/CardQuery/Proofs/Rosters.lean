import CardQuery.Proofs.Collecting
import CardQuery.Proofs.Insertions
import CardQuery.Proofs.Sparing
import Mathlib.Data.List.Nodup

namespace CardQuery

-- The cards of each seat in order, and the next number to give out.
structure Roster where
  lists : Seats (List Card) := ⟨[], []⟩
  next : Nat := 0

namespace Roster

def cards (r : Roster) : List Card := r.lists.first ++ r.lists.second

def ids (r : Roster) : List EntityId := r.cards.map (·.id)

def find? (r : Roster) (id : EntityId) : Option Card := r.cards.find? (·.id == id)

def append (r : Roster) (pool : PlayerId) (card : Card) : Roster where
  lists := r.lists.set pool ((r.lists.get? pool).getD [] ++ [card])
  next := max r.next (card.id.raw.toNat + 1)

def drop (r : Roster) (id : EntityId) : Roster := { r with lists := r.lists.map (·.filter (·.id != id)) }

def edit (r : Roster) (id : EntityId) (f : Card → Card) : Roster :=
  { r with lists := r.lists.map (·.map fun card => if card.id = id then f card else card) }

def create (r : Roster) (pool : PlayerId) (d : CardDefinition) (owner : PlayerId) (zone : Zone) :
    Except Fault EntityId × Roster :=
  if r.next < 0x100000000 then
    (.ok ⟨.ofNat r.next⟩, r.append pool (.ofDefinition ⟨.ofNat r.next⟩ d owner zone))
  else (.error .idsExhausted, r)

def work (f : Card → Except Fault Unit × Card) (r : Roster) : List EntityId → Except Fault Nat × Roster
  | [] => (.ok 0, r)
  | id :: rest =>
    match r.find? id with
    | none => r.work f rest
    | some card =>
      match f card with
      | (.error fault, card) => (.error fault, r.edit id fun _ => card)
      | (.ok (), card) =>
        match (r.edit id fun _ => card).work f rest with
        | (.error fault, r) => (.error fault, r)
        | (.ok n, r) => (.ok (n + 1), r)

def resolve (r : Roster) : Action → Except Fault Action
  | .dealSpellDamage amount caster =>
    match Board.sumStats 0
        ((r.cards.filter fun c => c.owner == caster && c.zone == .play).map (·.properties.spellDamage)) with
    | .error fault => .error fault
    | .ok bonus =>
      match Number.add? amount bonus with
      | none => .error .addOverflow
      | some total => .ok (.dealDamage total)
  | action => .ok action

def apply (r : Roster) (targets : ResultSet) (action : Action) : Board.Answer × Roster :=
  if targets.isEmpty then (.applied (.ok 0) [], r)
  else match r.resolve action with
    | .error fault => (.applied (.error fault) [], r)
    | .ok resolved =>
      match r.work resolved.applyTo targets.ids with
      | (.error fault, r) => (.applied (.error fault) [], r)
      | (.ok n, r) => (.applied (.ok n) [.applied resolved targets.size n], r)

def perform (r : Roster) : Board.Change → Board.Answer × Roster
  | .alloc =>
    if r.next < 0x100000000 then (.number (.ok ⟨.ofNat r.next⟩), { r with next := r.next + 1 })
    else (.number (.error .idsExhausted), r)
  | .add pool card =>
    if card.id ∈ r.ids then (.done (.error (.duplicateEntity card.id)), r)
    else (.done (.ok ()), r.append pool card)
  | .spawn pool d owner zone => (.number (r.create pool d owner zone).1, (r.create pool d owner zone).2)
  | .spawnNamed registry name pool owner zone =>
    match registry.named? name with
    | none => (.named (.error (.refused (.input name .unknownCardName))), r)
    | some d => (.named ((r.create pool d owner zone).1.mapError .broken), (r.create pool d owner zone).2)
  | .remove id => (.taken (r.find? id), r.drop id)
  | .edit id f => (.found (r.find? id).isSome, r.edit id f)
  | .apply targets action => r.apply targets action

def run (r : Roster) : List Board.Change → List Board.Answer × Roster
  | [] => ([], r)
  | change :: rest => ((r.perform change).1 :: ((r.perform change).2.run rest).1, ((r.perform change).2.run rest).2)

-- No two cards have the same number, and no card has one that is still to be given out.
structure Sound (r : Roster) : Prop where
  distinct : r.ids.Nodup
  below : ∀ card ∈ r.cards, card.id.raw.toNat < r.next

theorem mem_ids {r : Roster} {id : EntityId} : id ∈ r.ids ↔ ∃ card ∈ r.cards, card.id = id := List.mem_map

theorem find?_eq_some {r : Roster} (sound : r.Sound) {id : EntityId} {card : Card} :
    r.find? id = some card ↔ card ∈ r.cards ∧ card.id = id := by
  constructor
  · intro found
    exact ⟨List.mem_of_find?_eq_some found, by simpa using List.find?_some found⟩
  · intro given
    obtain ⟨present, rfl⟩ := given
    cases found : r.find? card.id with
    | none =>
      have absent := List.find?_eq_none.mp found card present
      simp at absent
    | some other =>
      have same : other.id = card.id := by simpa using List.find?_some found
      rw [List.inj_on_of_nodup_map sound.distinct (List.mem_of_find?_eq_some found) present same]

@[simp] theorem drop_cards (r : Roster) (id : EntityId) : (r.drop id).cards = r.cards.filter (·.id != id) := by
  simp [drop, cards, Seats.map]

@[simp] theorem edit_cards (r : Roster) (id : EntityId) (f : Card → Card) :
    (r.edit id f).cards = r.cards.map fun card => if card.id = id then f card else card := by
  simp [edit, cards, Seats.map]

theorem append_cards (r : Roster) {pool : PlayerId} (seated : pool.isSeated = true) (card : Card) :
    (r.append pool card).cards.Perm (card :: r.cards) := by
  rcases PlayerId.isSeated_iff.mp seated with rfl | rfl
  · have lists : (r.append .first card).cards = r.lists.first ++ card :: r.lists.second := by
      simp [append, cards, Seats.set, Seats.get?]
    rw [lists]
    exact List.perm_middle
  · have lists : (r.append .second card).cards = r.cards ++ [card] := by
      simp [append, cards, Seats.set, Seats.get?, show PlayerId.second ≠ PlayerId.first by decide]
    rw [lists]
    exact List.perm_append_singleton _ _

theorem append_sound {r : Roster} (sound : r.Sound) {pool : PlayerId} (seated : pool.isSeated = true) {card : Card}
    (new : card.id ∉ r.ids) : (r.append pool card).Sound := by
  have moved := r.append_cards seated card
  refine ⟨?_, ?_⟩
  · exact ((moved.map _).nodup_iff).mpr (List.nodup_cons.mpr ⟨new, sound.distinct⟩)
  · intro other present
    rcases List.mem_cons.mp (moved.mem_iff.mp present) with rfl | old
    · exact Nat.lt_of_lt_of_le (Nat.lt_succ_self _) (Nat.le_max_right _ _)
    · exact Nat.lt_of_lt_of_le (sound.below other old) (Nat.le_max_left _ _)

theorem drop_of_absent {r : Roster} {id : EntityId} (absent : id ∉ r.ids) : r.drop id = r := by
  have other : ∀ card ∈ r.cards, (card.id != id) = true := by
    intro card present
    rw [bne_iff_ne]
    rintro rfl
    exact absent (mem_ids.mpr ⟨card, present, rfl⟩)
  have first := List.filter_eq_self.mpr fun card present => other card (List.mem_append_left _ present)
  have second := List.filter_eq_self.mpr fun card present => other card (List.mem_append_right _ present)
  simp [drop, Seats.map, first, second]

theorem drop_sound {r : Roster} (sound : r.Sound) (id : EntityId) : (r.drop id).Sound := by
  refine ⟨?_, ?_⟩
  · rw [ids, drop_cards]
    exact sound.distinct.sublist (List.filter_sublist.map _)
  · intro card present
    rw [drop_cards] at present
    exact sound.below card (List.mem_of_mem_filter present)

def Keeps (id : EntityId) (f : Card → Card) : Prop := ∀ card, card.id = id → (f card).id = id

theorem Keeps.map_ids {id : EntityId} {f : Card → Card} (keeps : Keeps id f) (cards : List Card) :
    (cards.map fun card => if card.id = id then f card else card).map (·.id) = cards.map (·.id) := by
  rw [List.map_map]
  refine List.map_congr_left ?_
  intro card _
  by_cases same : card.id = id
  · simp [same, keeps card same]
  · simp [same]

theorem edit_ids {id : EntityId} {f : Card → Card} (r : Roster) (keeps : Keeps id f) : (r.edit id f).ids = r.ids := by
  rw [ids, edit_cards, keeps.map_ids]
  rfl

theorem mem_edit {r : Roster} {id : EntityId} {f : Card → Card} (keeps : Keeps id f) {changed : Card} {other : EntityId} :
    changed ∈ (r.edit id f).cards ∧ changed.id = other ↔
      ∃ card, (card ∈ r.cards ∧ card.id = other) ∧ (if id = other then f card else card) = changed := by
  rw [edit_cards, List.mem_map]
  constructor
  · intro given
    obtain ⟨⟨card, present, rfl⟩, rfl⟩ := given
    by_cases same : card.id = id
    · simp only [if_pos same]
      exact ⟨card, ⟨present, same.trans (keeps card same).symm⟩, by rw [if_pos (keeps card same).symm]⟩
    · simp only [if_neg same]
      exact ⟨card, ⟨present, rfl⟩, by rw [if_neg (Ne.symm same)]⟩
  · intro given
    obtain ⟨card, ⟨present, rfl⟩, rfl⟩ := given
    refine ⟨⟨card, present, by simp only [eq_comm]⟩, ?_⟩
    split
    · rename_i same
      rw [keeps card same.symm, same]
    · rfl

theorem edit_sound {r : Roster} (sound : r.Sound) {id : EntityId} {f : Card → Card} (keeps : Keeps id f) :
    (r.edit id f).Sound := by
  refine ⟨?_, ?_⟩
  · rw [edit_ids r keeps]
    exact sound.distinct
  · intro card present
    have inside : card.id ∈ r.ids := edit_ids r keeps ▸ mem_ids.mpr ⟨card, present, rfl⟩
    obtain ⟨old, there, same⟩ := mem_ids.mp inside
    exact same ▸ sound.below old there

end Roster

namespace Board

structure Shows (b : Board) (r : Roster) : Prop where
  pools : b.pools = r.lists.map (·.map (·.id))
  found : ∀ id, b.get? id = r.find? id
  next : b.next = r.next

section Step
variable {b : Board} {r : Roster} (shows : Shows b r) (sound : r.Sound)
include shows

omit shows in
theorem shows_of_stored {after : Board} {next : Roster} (nextSound : next.Sound)
    (pools : after.pools = next.lists.map (·.map (·.id))) (counter : after.next = next.next)
    (stored : ∀ id card, after.get? id = some card ↔ card ∈ next.cards ∧ card.id = id) : Shows after next := by
  refine ⟨pools, ?_, counter⟩
  intro id
  refine Option.ext fun card => ?_
  rw [stored, Roster.find?_eq_some nextSound]

include sound

theorem stored_iff {id : EntityId} {card : Card} : b.get? id = some card ↔ card ∈ r.cards ∧ card.id = id := by
  rw [shows.found, Roster.find?_eq_some sound]

theorem key_iff {id : EntityId} : id ∈ b.cards.keys ↔ id ∈ r.ids := by
  rw [Table.mem_keys, Roster.mem_ids]
  exact exists_congr fun card => stored_iff shows sound

theorem shows_bounded : b.Bounded := by
  intro id used
  obtain ⟨card, present, rfl⟩ := Roster.mem_ids.mp ((key_iff shows sound).mp used)
  rw [shows.next]
  exact sound.below card present

theorem append_shows {pool : PlayerId} {card : Card} {ids : List EntityId} (new : card.id ∉ b.cards.keys)
    (seated : b.pools.get? pool = some ids) :
    Shows { b.store card with pools := b.pools.set pool (ids ++ [card.id]) } (r.append pool card) ∧
      (r.append pool card).Sound := by
  have seat : pool.isSeated = true := by rw [← Seats.get?_isSome b.pools, seated]; rfl
  have unknown : card.id ∉ r.ids := mt (key_iff shows sound).mpr new
  have nextSound := Roster.append_sound sound seat unknown
  refine ⟨shows_of_stored nextSound ?_ ?_ ?_, nextSound⟩
  · rw [shows.pools, Seats.get?_map] at seated
    obtain ⟨list, held, rfl⟩ := Option.map_eq_some_iff.mp seated
    simp [Roster.append, Seats.map_set, held, shows.pools]
  · simp [Roster.append, store, shows.next]
  · intro id other
    rw [((r.append_cards seat card).mem_iff), List.mem_cons]
    show (b.cards.insert card.id card).get? id = some other ↔ _
    rw [Table.get?_insert]
    split
    · rename_i same
      subst same
      constructor
      · intro last
        cases last
        exact ⟨.inl rfl, rfl⟩
      · intro given
        obtain ⟨rfl | old, same⟩ := given
        · rfl
        · exact absurd (Roster.mem_ids.mpr ⟨other, old, same⟩) unknown
    · rename_i different
      have stored : b.cards.get? id = some other ↔ other ∈ r.cards ∧ other.id = id := stored_iff shows sound
      rw [stored]
      constructor
      · intro given
        exact ⟨.inr given.1, given.2⟩
      · intro given
        obtain ⟨rfl | old, same⟩ := given
        · exact absurd same different
        · exact ⟨old, same⟩

theorem shows_cards : b.allCards = r.cards := by
  have found : ∀ card ∈ r.cards, (b.get? ∘ fun card => card.id) card = some card :=
    fun card present => (stored_iff shows sound).mpr ⟨present, rfl⟩
  have ids : b.pools.toList.flatten = r.cards.map (·.id) := by
    simp [shows.pools, Seats.toList, Seats.map, Roster.cards]
  rw [allCards, ids, List.filterMap_map, List.filterMap_congr found, List.filterMap_some]

theorem remove_shows (id : EntityId) : (b.remove id).1 = r.find? id ∧ Shows (b.remove id).2 (r.drop id) := by
  unfold remove
  rw [shows.found]
  cases taken : r.find? id with
  | none =>
    have absent : id ∉ r.ids := by
      rw [← key_iff shows sound, ← Table.get?_eq_none, ← taken, ← shows.found]
      rfl
    rw [Roster.drop_of_absent absent]
    exact ⟨rfl, shows⟩
  | some card =>
    refine ⟨rfl, shows_of_stored (Roster.drop_sound sound id) ?_ shows.next ?_⟩
    · simp [Roster.drop, shows.pools, Seats.map, List.filter_map, Function.comp_def]
    · intro other stored
      show (b.cards.erase id).get? other = some stored ↔ _
      rw [Table.get?_erase, Roster.drop_cards, List.mem_filter, bne_iff_ne]
      split
      · rename_i same
        simp [← same]
      · rename_i different
        have kept : b.cards.get? other = some stored ↔ stored ∈ r.cards ∧ stored.id = other := stored_iff shows sound
        rw [kept]
        constructor
        · intro given
          obtain ⟨present, rfl⟩ := given
          exact ⟨⟨present, Ne.symm different⟩, rfl⟩
        · intro given
          exact ⟨given.1.1, given.2⟩

theorem edit_shows {id : EntityId} {f : Card → Card} (keeps : Roster.Keeps id f) :
    Shows (b.modify id f) (r.edit id f) := by
  refine shows_of_stored (Roster.edit_sound sound keeps) ?_ shows.next ?_
  · simp [Roster.edit, modify, shows.pools, Seats.map, keeps.map_ids]
  · intro other changed
    rw [Roster.mem_edit keeps]
    show (b.cards.modify id f).get? other = some changed ↔ _
    simp only [Table.get?_modify, ← stored_iff shows sound, get?]
    split <;> simp

-- Actions on a card go on from where the last one left it, on the board as in the lists.
theorem visit_shows {f : Card → Except Fault Unit × Card} (keeps : ∀ card, (f card).2.id = card.id)
    (targets : List EntityId) : (b.visit f targets).1.map List.length = (r.work f targets).1 ∧
      Shows (b.visit f targets).2 (r.work f targets).2 ∧ (r.work f targets).2.Sound := by
  induction targets generalizing b r with
  | nil => exact ⟨rfl, shows, sound⟩
  | cons id rest ih =>
    unfold visit Roster.work
    rw [shows.found]
    cases found : r.find? id with
    | none => exact ih shows sound
    | some card =>
      have numbered := ((Roster.find?_eq_some sound).mp found).2
      dsimp only
      cases worked : f card with
      | mk answer changed =>
        have kept : Roster.Keeps id fun _ => changed := by
          intro _ _
          have same := keeps card
          rw [worked] at same
          exact same.trans numbered
        have edited := edit_shows shows sound kept
        have editedSound := Roster.edit_sound sound kept
        cases answer with
        | error fault => exact ⟨rfl, edited, editedSound⟩
        | ok _ =>
          have later := ih edited editedSound
          dsimp only
          cases visited : (b.modify id fun _ => changed).visit f rest with
          | mk answers left =>
            cases counted : (r.edit id fun _ => changed).work f rest with
            | mk count next =>
              rw [visited, counted] at later
              obtain ⟨same, leftShows, nextSound⟩ := later
              cases answers with
              | error fault =>
                cases same
                exact ⟨rfl, leftShows, nextSound⟩
              | ok list =>
                cases same
                exact ⟨rfl, leftShows, nextSound⟩

theorem resolve_shows (action : Action) : b.resolve action = r.resolve action := by
  cases action with
  | dealSpellDamage amount caster =>
    unfold resolve Roster.resolve spellBonus
    exact shows_cards shows sound ▸ rfl
  | _ => rfl

theorem apply_shows (targets : ResultSet) (action : Action) :
    .applied (b.apply targets action).result (b.apply targets action).events = (r.apply targets action).1 ∧
      Shows (b.apply targets action).board (r.apply targets action).2 ∧ (r.apply targets action).2.Sound := by
  unfold apply Roster.apply
  rw [resolve_shows shows sound]
  cases targets.isEmpty with
  | true => exact ⟨rfl, shows, sound⟩
  | false =>
    cases r.resolve action with
    | error fault => exact ⟨rfl, shows, sound⟩
    | ok resolved =>
      have later := visit_shows shows sound resolved.applyTo_id targets.ids
      dsimp only
      cases visited : b.visit resolved.applyTo targets.ids with
      | mk answers left =>
        cases counted : r.work resolved.applyTo targets.ids with
        | mk count next =>
          rw [visited, counted] at later
          obtain ⟨same, leftShows, nextSound⟩ := later
          cases answers with
          | error fault =>
            cases same
            exact ⟨rfl, leftShows, nextSound⟩
          | ok list =>
            cases same
            exact ⟨rfl, leftShows, nextSound⟩

theorem alloc_shows : .number b.alloc.1 = (r.perform .alloc).1 ∧ Shows b.alloc.2 (r.perform .alloc).2 ∧
    (r.perform .alloc).2.Sound := by
  simp only [Roster.perform, ← shows.next]
  split
  · rename_i room
    rw [alloc_of_room room]
    refine ⟨rfl, ⟨shows.pools, shows.found, rfl⟩, sound.distinct, ?_⟩
    intro card present
    have below := sound.below card present
    rw [← shows.next] at below
    exact Nat.lt_succ_of_lt below
  · rename_i spent
    rw [alloc_of_spent (Nat.le_of_not_lt spent)]
    exact ⟨rfl, shows, sound⟩

theorem add_shows {pool : PlayerId} (seat : pool.isSeated = true) (card : Card) :
    .done (b.add pool card).1 = (r.perform (.add pool card)).1 ∧ Shows (b.add pool card).2 (r.perform (.add pool card)).2 ∧
      (r.perform (.add pool card)).2.Sound := by
  have known : card.id ∈ b.cards.keys ↔ card.id ∈ r.ids := key_iff shows sound
  simp only [Roster.perform]
  cases added : b.add pool card with
  | mk result after =>
    cases add_exact.mp added with
    | duplicate used =>
      rw [if_pos (known.mp used)]
      exact ⟨rfl, shows, sound⟩
    | unseated _ stranger =>
      rw [seat] at stranger
      cases stranger
    | added new seated =>
      rw [if_neg (mt known.mpr new)]
      exact ⟨rfl, append_shows shows sound new seated⟩

theorem spawn_shows {pool : PlayerId} (seat : pool.isSeated = true) (d : CardDefinition) (owner : PlayerId) (zone : Zone) :
    (b.spawn pool d owner zone).1 = (r.create pool d owner zone).1 ∧
      Shows (b.spawn pool d owner zone).2 (r.create pool d owner zone).2 ∧ (r.create pool d owner zone).2.Sound := by
  have bounded := shows_bounded shows sound
  have number : b.fresh = ⟨.ofNat r.next⟩ := by rw [fresh, shows.next]
  unfold Roster.create
  rw [← number, ← shows.next]
  cases spawned : b.spawn pool d owner zone with
  | mk result after =>
    cases (spawn_exact bounded).mp spawned with
    | exhausted spent =>
      rw [if_neg (Nat.not_lt.mpr spent)]
      exact ⟨rfl, shows, sound⟩
    | unseated _ stranger =>
      rw [seat] at stranger
      cases stranger
    | spawned room seated =>
      rw [if_pos room]
      have new : (Card.ofDefinition b.fresh d owner zone).id ∉ b.cards.keys := bounded.fresh_new room
      exact ⟨rfl, append_shows shows sound new seated⟩

end Step

-- Pools are seats, and an edit leaves a card its number.
structure Change.Regular (change : Change) : Prop where
  seated : ∀ pool, change.pool? = some pool → pool.isSeated = true
  keeps : ∀ id f, change = .edit id f → Roster.Keeps id f

theorem perform_shows {b : Board} {r : Roster} (shows : Shows b r) (sound : r.Sound) {change : Change}
    (regular : change.Regular) : (b.perform change).1 = (r.perform change).1 ∧
      Shows (b.perform change).2 (r.perform change).2 ∧ (r.perform change).2.Sound := by
  cases change with
  | alloc => exact alloc_shows shows sound
  | add pool card => exact add_shows shows sound (regular.seated pool rfl) card
  | spawn pool d owner zone =>
    obtain ⟨same, next⟩ := spawn_shows shows sound (regular.seated pool rfl) d owner zone
    exact ⟨congrArg Answer.number same, next⟩
  | spawnNamed registry name pool owner zone =>
    simp only [perform, spawnNamed, Roster.perform]
    cases registry.named? name with
    | none => exact ⟨rfl, shows, sound⟩
    | some d =>
      obtain ⟨same, next⟩ := spawn_shows shows sound (regular.seated pool rfl) d owner zone
      dsimp only
      rw [← same]
      cases spawned : b.spawn pool d owner zone with
      | mk result after =>
        rw [spawned] at next
        cases result <;> exact ⟨rfl, next⟩
  | remove id =>
    obtain ⟨same, next⟩ := remove_shows shows sound id
    exact ⟨congrArg Answer.taken same, next, Roster.drop_sound sound id⟩
  | edit id f =>
    have keeps := regular.keeps id f rfl
    refine ⟨?_, edit_shows shows sound keeps, Roster.edit_sound sound keeps⟩
    exact congrArg (Answer.found ·.isSome) (shows.found id)
  | apply targets action => exact apply_shows shows sound targets action

theorem run_shows {b : Board} {r : Roster} (shows : Shows b r) (sound : r.Sound) {changes : List Change}
    (regular : ∀ change ∈ changes, change.Regular) : (b.run changes).1 = (r.run changes).1 ∧
      Shows (b.run changes).2 (r.run changes).2 ∧ (r.run changes).2.Sound := by
  induction changes generalizing b r with
  | nil => exact ⟨rfl, shows, sound⟩
  | cons change rest ih =>
    obtain ⟨same, next, nextSound⟩ := perform_shows shows sound (regular change (by simp))
    obtain ⟨later, last, lastSound⟩ := ih next nextSound fun other present => regular other (by simp [present])
    refine ⟨?_, last, lastSound⟩
    simp only [run, Roster.run, same, later]

-- The pools, the table of cards and the number to give out next agree.
structure Intact (b : Board) : Prop where
  distinct : b.pools.toList.flatten.Nodup
  pooled : ∀ id, id ∈ b.pools.toList.flatten ↔ id ∈ b.cards.keys
  keyed : ∀ id card, b.get? id = some card → card.id = id
  bounded : b.Bounded

section Reached
variable {b : Board} {r : Roster} (shows : Shows b r) (sound : r.Sound)
include shows sound

theorem shows_intact : b.Intact := by
  have pooled : b.pools.toList.flatten = r.ids := by
    simp [shows.pools, Seats.toList, Seats.map, Roster.ids, Roster.cards]
  refine ⟨?_, ?_, ?_, shows_bounded shows sound⟩
  · rw [pooled]
    exact sound.distinct
  · intro id
    rw [pooled, key_iff shows sound]
  · intro id card stored
    exact ((stored_iff shows sound).mp stored).2

theorem shows_size : b.size = r.cards.length := by
  have same : b.cards.keys.Perm r.ids :=
    (List.perm_ext_iff_of_nodup b.cards.nodup sound.distinct).mpr fun id => key_iff shows sound
  simpa [size, Table.size, Table.keys, Entries.keys, Roster.ids] using same.length_eq

end Reached

end Board

theorem Engine.evaluate_sublist {e : Engine} {b : Board} {player : PlayerId} {text : String} {found : ResultSet}
    (evaluated : (e.evaluate b player text).result = .ok found) : found.ids.Sublist (b.allCards.map (·.id)) := by
  have mapped : ∀ test, (collect test b.allCards).map ResultSet.mk = .ok found →
      found.ids.Sublist (b.allCards.map (·.id)) := by
    intro test result
    cases collected : collect test b.allCards with
    | error _ => simp [collected, Except.map] at result
    | ok ids =>
      rw [collected] at result
      cases result
      exact collect_sublist collected
  unfold evaluate at evaluated
  dsimp only at evaluated
  split at evaluated
  · cases evaluated
  · split at evaluated
    · exact mapped _ evaluated
    · split at evaluated
      · cases evaluated
      · exact mapped _ evaluated

namespace Board

theorem run_refines (changes : List Change) (regular : ∀ change ∈ changes, change.Regular) :
    (empty.run changes).1 = (Roster.run {} changes).1 ∧ (empty.run changes).2.Intact ∧
    Shows (empty.run changes).2 (Roster.run {} changes).2 ∧ (Roster.run {} changes).2.ids.Nodup ∧
    (empty.run changes).2.allCards = (Roster.run {} changes).2.cards ∧
    (empty.run changes).2.size = (Roster.run {} changes).2.cards.length ∧
    ∀ (e : Engine) (player : PlayerId) (text : String) (found : ResultSet),
      (e.evaluate (empty.run changes).2 player text).result = .ok found → found.ids.Nodup := by
  have start : Shows empty {} := ⟨rfl, fun _ => rfl, rfl⟩
  have startSound : Roster.Sound {} := ⟨List.nodup_nil, fun _ present => nomatch present⟩
  obtain ⟨answers, shows, sound⟩ := run_shows start startSound regular
  refine ⟨answers, shows_intact shows sound, shows, sound.distinct, shows_cards shows sound, shows_size shows sound, ?_⟩
  intro e player text found evaluated
  have listed := Engine.evaluate_sublist evaluated
  rw [shows_cards shows sound] at listed
  exact sound.distinct.sublist listed

-- A card comes and cannot come again; another is spawned and taken away.
def strayCalls : List Change :=
  [.add .second stray, .add .first stray, .spawn .first (.named ⟨1⟩ "Wisp" .minion) .second .hand,
    .edit ⟨5⟩ fun card => { card with zone := .hand }, .apply ⟨[⟨6⟩, ⟨5⟩, ⟨7⟩]⟩ .destroy, .remove ⟨6⟩]

theorem strayCalls_refine : (∀ change ∈ strayCalls, change.Regular) ∧
    (empty.run strayCalls).2.allCards = (Roster.run {} strayCalls).2.cards ∧
    (Roster.run {} strayCalls).2.cards = [{ stray with zone := .graveyard }] ∧ (empty.run strayCalls).2.Intact := by
  have regular : ∀ change ∈ strayCalls, change.Regular := by
    intro change present
    simp only [strayCalls, List.mem_cons, List.not_mem_nil, or_false] at present
    rcases present with rfl | rfl | rfl | rfl | rfl | rfl
    all_goals
      refine ⟨?_, ?_⟩
      · intro pool same
        cases same <;> rfl
      · intro id f same
        cases same <;> exact fun _ numbered => numbered
  have refines := run_refines strayCalls regular
  exact ⟨regular, refines.2.2.2.2.1, by decide, refines.2.1⟩

end Board
end CardQuery
