import CardQuery.Proofs.Visits

namespace CardQuery

theorem Seats.modify_of_some {s : Seats α} {p : PlayerId} {f : α → α} {value : α} (seated : s.get? p = some value) :
    s.modify p f = .ok (s.set p (f value)) := by
  simp [modify, update, seated, Except.map]

theorem Seats.modify_of_unseated {s : Seats α} {p : PlayerId} {f : α → α} (stranger : p.isSeated = false) :
    s.modify p f = .error (.unseated p) := by
  have none : s.get? p = none := by simpa [stranger] using s.get?_isSome p
  simp [modify, update, none]

namespace Board

theorem zero_lt_limit : 0 < 0x10000000000000000 := by decide

-- Without cards, and with every number still to give out.
def empty : Board := { next_lt := zero_lt_limit }

inductive Change where
  | alloc
  | add (pool : PlayerId) (card : Card)
  | spawn (pool : PlayerId) (d : CardDefinition) (owner : PlayerId) (zone : Zone)
  | spawnNamed (registry : Registry) (name : String) (pool owner : PlayerId) (zone : Zone)
  | remove (id : EntityId)
  | edit (id : EntityId) (f : Card → Card)
  | apply (targets : ResultSet) (action : Action)

inductive Answer where
  | number (result : Except Fault EntityId)
  | named (result : Except SpawnFailure EntityId)
  | done (result : Except Fault Unit)
  | taken (card : Option Card)
  | found (present : Bool)
  | applied (result : Except Fault Nat) (events : List Event)

def Change.pool? : Change → Option PlayerId
  | .add pool _ | .spawn pool _ _ _ | .spawnNamed _ _ pool _ _ => some pool
  | _ => none

def Answer.failure? : Answer → Option SpawnFailure
  | .number (.error fault) | .done (.error fault) | .applied (.error fault) _ => some (.broken fault)
  | .named (.error failure) => some failure
  | _ => none

def perform (b : Board) : Change → Answer × Board
  | .alloc => (.number b.alloc.1, b.alloc.2)
  | .add pool card => (.done (b.add pool card).1, (b.add pool card).2)
  | .spawn pool d owner zone => (.number (b.spawn pool d owner zone).1, (b.spawn pool d owner zone).2)
  | .spawnNamed registry name pool owner zone =>
    (.named (b.spawnNamed registry name pool owner zone).1, (b.spawnNamed registry name pool owner zone).2)
  | .remove id => (.taken (b.remove id).1, (b.remove id).2)
  | .edit id f => (.found (b.get? id).isSome, b.modify id f)
  | .apply targets action =>
    (.applied (b.apply targets action).result (b.apply targets action).events, (b.apply targets action).board)

def run (b : Board) : List Change → List Answer × Board
  | [] => ([], b)
  | change :: rest => ((b.perform change).1 :: ((b.perform change).2.run rest).1, ((b.perform change).2.run rest).2)

-- With a card under its number, in no pool yet.
def store (b : Board) (card : Card) : Board where
  pools := b.pools
  cards := b.cards.insert card.id card
  next := max b.next (card.id.raw.toNat + 1)
  next_lt := by
    have raw_lt := card.id.raw.toNat_lt
    have next_lt := b.next_lt
    omega

-- Everything that can come of adding a card.
inductive Adds (b : Board) (pool : PlayerId) (card : Card) : Except Fault Unit → Board → Prop where
  | duplicate (known : card.id ∈ b.cards.keys) : Adds b pool card (.error (.duplicateEntity card.id)) b
  | unseated (new : card.id ∉ b.cards.keys) (stranger : pool.isSeated = false) :
      Adds b pool card (.error (.unseated pool)) (b.store card)
  | added (new : card.id ∉ b.cards.keys) (seated : b.pools.get? pool = some ids) :
      Adds b pool card (.ok ()) { b.store card with pools := b.pools.set pool (ids ++ [card.id]) }

theorem add_exact {b after : Board} {pool : PlayerId} {card : Card} {result : Except Fault Unit} :
    b.add pool card = (result, after) ↔ Adds b pool card result after := by
  constructor
  · intro done
    unfold add at done
    split at done
    · rename_i known
      cases done
      exact .duplicate (Table.contains_iff.mp known)
    · rename_i new
      rw [Table.contains_iff] at new
      cases seat : b.pools.get? pool with
      | some ids =>
        simp only [Seats.modify_of_some seat] at done
        cases done
        exact .added new seat
      | none =>
        have stranger : pool.isSeated = false := by rw [← Seats.get?_isSome b.pools, seat]; rfl
        simp only [Seats.modify_of_unseated stranger] at done
        cases done
        exact .unseated new stranger
  · intro adds
    unfold add
    cases adds with
    | duplicate known => rw [if_pos (Table.contains_iff.mpr known)]
    | unseated new stranger =>
      rw [if_neg (mt Table.contains_iff.mp new)]
      simp only [Seats.modify_of_unseated stranger]
      rfl
    | added new seated =>
      rw [if_neg (mt Table.contains_iff.mp new)]
      simp only [Seats.modify_of_some seated]
      rfl

-- Every number in use has been given out.
def Bounded (b : Board) : Prop := ∀ id ∈ b.cards.keys, id.raw.toNat < b.next

def fresh (b : Board) : EntityId := ⟨UInt32.ofNat b.next⟩

theorem fresh_toNat {b : Board} (room : b.next < 0x100000000) : b.fresh.raw.toNat = b.next :=
  UInt32.toNat_ofNat_of_lt' room

theorem Bounded.fresh_new {b : Board} (bounded : b.Bounded) (room : b.next < 0x100000000) : b.fresh ∉ b.cards.keys := by
  intro used
  have below := bounded _ used
  rw [fresh_toNat room] at below
  omega

-- Everything that can come of spawning a card when no number in use can be given out.
inductive Spawns (b : Board) (pool : PlayerId) (d : CardDefinition) (owner : PlayerId) (zone : Zone) :
    Except Fault EntityId → Board → Prop where
  | exhausted (spent : 0x100000000 ≤ b.next) : Spawns b pool d owner zone (.error .idsExhausted) b
  | unseated (room : b.next < 0x100000000) (stranger : pool.isSeated = false) :
      Spawns b pool d owner zone (.error (.unseated pool)) (b.store (.ofDefinition b.fresh d owner zone))
  | spawned (room : b.next < 0x100000000) (seated : b.pools.get? pool = some ids) :
      Spawns b pool d owner zone (.ok b.fresh)
        { b.store (.ofDefinition b.fresh d owner zone) with pools := b.pools.set pool (ids ++ [b.fresh]) }

theorem next_succ_lt {b : Board} (room : b.next < 0x100000000) : b.next + 1 < 0x10000000000000000 := by omega

def advance (b : Board) (room : b.next < 0x100000000) : Board := { b with next := b.next + 1, next_lt := next_succ_lt room }

theorem alloc_of_room {b : Board} (room : b.next < 0x100000000) : b.alloc = (.ok b.fresh, b.advance room) := by
  unfold alloc
  rw [dif_pos room]
  rfl

theorem alloc_of_spent {b : Board} (spent : 0x100000000 ≤ b.next) : b.alloc = (.error .idsExhausted, b) := by
  unfold alloc
  rw [dif_neg (by omega)]

-- Storing the card raises the number as far as giving its number out does.
theorem store_fresh {b : Board} {card : Card} (room : b.next < 0x100000000) (numbered : card.id = b.fresh) :
    (b.advance room).store card = b.store card := by
  unfold store advance
  simp only [Board.mk.injEq, true_and]
  rw [numbered, fresh_toNat room]
  omega

theorem spawn_of_room {b : Board} {pool : PlayerId} {d : CardDefinition} {owner : PlayerId} {zone : Zone}
    {result : Except Fault Unit} {after : Board} (room : b.next < 0x100000000)
    (adds : Adds (b.advance room) pool (.ofDefinition b.fresh d owner zone) result after) :
    b.spawn pool d owner zone = (result.map fun _ => b.fresh, after) := by
  unfold spawn
  simp only [alloc_of_room room, add_exact.mpr adds]
  cases result <;> rfl

theorem spawn_exact {b after : Board} {pool : PlayerId} {d : CardDefinition} {owner : PlayerId} {zone : Zone}
    {result : Except Fault EntityId} (bounded : b.Bounded) :
    b.spawn pool d owner zone = (result, after) ↔ Spawns b pool d owner zone result after := by
  constructor
  · intro done
    by_cases room : b.next < 0x100000000
    · have numbered : (Card.ofDefinition b.fresh d owner zone).id = b.fresh := rfl
      cases added : (b.advance room).add pool (.ofDefinition b.fresh d owner zone) with
      | mk answer left =>
        have adds := add_exact.mp added
        rw [spawn_of_room room adds] at done
        cases done
        cases adds with
        | duplicate known => exact absurd known (bounded.fresh_new room)
        | unseated new stranger =>
          rw [store_fresh room numbered]
          exact .unseated room stranger
        | added new seated =>
          rw [store_fresh room numbered]
          exact .spawned room seated
    · simp only [spawn, alloc_of_spent (Nat.le_of_not_lt room)] at done
      cases done
      exact .exhausted (Nat.le_of_not_lt room)
  · intro spawns
    cases spawns with
    | exhausted spent => simp only [spawn, alloc_of_spent spent]
    | unseated room stranger =>
      rw [spawn_of_room room (.unseated (bounded.fresh_new room) stranger), store_fresh room rfl]
      rfl
    | spawned room seated =>
      rw [spawn_of_room room (.added (bounded.fresh_new room) seated), store_fresh room rfl]
      rfl

theorem store_bounded {b : Board} (bounded : b.Bounded) (card : Card) (pools : Seats (List EntityId)) :
    Bounded { b.store card with pools := pools } := by
  intro id used
  obtain ⟨stored, found⟩ := Table.mem_keys.mp used
  rw [store, Table.get?_insert] at found
  split at found
  · rename_i same
    subst same
    exact Nat.lt_of_lt_of_le (Nat.lt_succ_self _) (Nat.le_max_right _ _)
  · have below := bounded id (Table.mem_keys.mpr ⟨stored, found⟩)
    exact Nat.lt_of_lt_of_le below (Nat.le_max_left _ _)

theorem modify_bounded {b : Board} (bounded : b.Bounded) (id : EntityId) (f : Card → Card) :
    (b.modify id f).Bounded := by
  intro other used
  rw [modify, Table.keys_modify] at used
  exact bounded other used

theorem remove_bounded {b : Board} (bounded : b.Bounded) (id : EntityId) : (b.remove id).2.Bounded := by
  unfold remove
  split
  · exact bounded
  · intro other used
    rw [Table.keys_erase] at used
    exact bounded other (List.mem_of_mem_erase used)

theorem apply_bounded {b : Board} (bounded : b.Bounded) (targets : ResultSet) (action : Action) :
    (b.apply targets action).board.Bounded :=
  apply_preserves (P := Bounded) (fun _ _ id _ bounded _ => modify_bounded bounded id _) bounded targets action

theorem spawn_bounded {b : Board} (bounded : b.Bounded) (pool : PlayerId) (d : CardDefinition) (owner : PlayerId)
    (zone : Zone) : (b.spawn pool d owner zone).2.Bounded := by
  cases spawned : b.spawn pool d owner zone with
  | mk result after =>
    cases (spawn_exact bounded).mp spawned with
    | exhausted _ => exact bounded
    | unseated _ _ => exact store_bounded bounded _ _
    | spawned _ _ => exact store_bounded bounded _ _

theorem perform_bounded {b : Board} (bounded : b.Bounded) (change : Change) : (b.perform change).2.Bounded := by
  cases change with
  | alloc =>
    by_cases room : b.next < 0x100000000
    · simp only [perform, alloc_of_room room]
      exact fun id used => Nat.lt_succ_of_lt (bounded id used)
    · simp only [perform, alloc_of_spent (Nat.le_of_not_lt room)]
      exact bounded
  | add pool card =>
    cases added : b.add pool card with
    | mk result after =>
      simp only [perform, added]
      cases add_exact.mp added with
      | duplicate _ => exact bounded
      | unseated _ _ => exact store_bounded bounded _ _
      | added _ _ => exact store_bounded bounded _ _
  | spawn pool d owner zone => exact spawn_bounded bounded pool d owner zone
  | spawnNamed registry name pool owner zone =>
    simp only [perform, spawnNamed]
    split
    · exact bounded
    · rename_i d _
      have spawned := spawn_bounded bounded pool d owner zone
      split <;> simp_all
  | remove id => exact remove_bounded bounded id
  | edit id f => exact modify_bounded bounded id f
  | apply targets action => exact apply_bounded bounded targets action

theorem run_bounded {b : Board} (bounded : b.Bounded) (changes : List Change) : (b.run changes).2.Bounded := by
  induction changes generalizing b with
  | nil => exact bounded
  | cons change rest ih => exact ih (perform_bounded bounded change)

-- A board that some calls lead to, with any pools and any edits.
def Reached (b : Board) : Prop := ∃ changes, b = (empty.run changes).2

theorem reached_bounded {b : Board} (reached : b.Reached) : b.Bounded := by
  obtain ⟨changes, rfl⟩ := reached
  refine run_bounded ?_ changes
  intro id used
  cases used

-- Every way in which a card can fail to come onto a board: what the caller is told and what is left.
inductive Fails (b : Board) : Change → Answer → Board → Prop where
  | duplicate {pool : PlayerId} (known : card.id ∈ b.cards.keys) :
      Fails b (.add pool card) (.done (.error (.duplicateEntity card.id))) b
  | exhausted {pool : PlayerId} (spent : 0x100000000 ≤ b.next) :
      Fails b (.spawn pool d owner zone) (.number (.error .idsExhausted)) b
  | unknown {pool : PlayerId} (absent : registry.named? name = none) :
      Fails b (.spawnNamed registry name pool owner zone)
        (.named (.error (.refused (.input name .unknownCardName)))) b
  | addUnseated {pool : PlayerId} (new : card.id ∉ b.cards.keys) (stranger : pool.isSeated = false) :
      Fails b (.add pool card) (.done (.error (.unseated pool))) (b.store card)
  | spawnUnseated {pool : PlayerId} (room : b.next < 0x100000000) (stranger : pool.isSeated = false) :
      Fails b (.spawn pool d owner zone) (.number (.error (.unseated pool)))
        (b.store (.ofDefinition b.fresh d owner zone))
  | named {pool : PlayerId} (known : registry.named? name = some d)
      (fails : Fails b (.spawn pool d owner zone) (.number (.error fault)) after) :
      Fails b (.spawnNamed registry name pool owner zone) (.named (.error (.broken fault))) after

section Failures
variable {b after : Board} {pool : PlayerId} {change : Change} {answer : Answer}

theorem add_fails {card : Card} {fault : Fault} : b.add pool card = (.error fault, after) ↔
    Fails b (.add pool card) (.done (.error fault)) after := by
  rw [add_exact]
  constructor
  · intro adds
    cases adds with
    | duplicate known => exact .duplicate known
    | unseated new stranger => exact .addUnseated new stranger
  · intro fails
    cases fails with
    | duplicate known => exact .duplicate known
    | addUnseated new stranger => exact .unseated new stranger

theorem spawn_fails (bounded : b.Bounded) {d : CardDefinition} {owner : PlayerId} {zone : Zone} {fault : Fault} :
    b.spawn pool d owner zone = (.error fault, after) ↔
      Fails b (.spawn pool d owner zone) (.number (.error fault)) after := by
  rw [spawn_exact bounded]
  constructor
  · intro spawns
    cases spawns with
    | exhausted spent => exact .exhausted spent
    | unseated room stranger => exact .spawnUnseated room stranger
  · intro fails
    cases fails with
    | exhausted spent => exact .exhausted spent
    | spawnUnseated room stranger => exact .unseated room stranger

theorem spawnNamed_fails (bounded : b.Bounded) {registry : Registry} {name : String} {owner : PlayerId} {zone : Zone}
    {failure : SpawnFailure} : b.spawnNamed registry name pool owner zone = (.error failure, after) ↔
      Fails b (.spawnNamed registry name pool owner zone) (.named (.error failure)) after := by
  constructor
  · intro done
    unfold spawnNamed at done
    split at done
    · rename_i absent
      cases done
      exact .unknown absent
    · rename_i d known
      split at done
      · rename_i failed
        cases done
        exact .named known ((spawn_fails bounded).mp failed)
      · cases done
  · intro fails
    cases fails with
    | unknown absent => simp only [spawnNamed, absent]
    | named known fails => simp only [spawnNamed, known, (spawn_fails bounded).mpr fails]

theorem perform_fails (bounded : b.Bounded) (inserts : change.pool? = some pool) :
    b.perform change = (answer, after) ∧ answer.failure?.isSome ↔ Fails b change answer after := by
  constructor
  · intro failed
    obtain ⟨done, failed⟩ := failed
    cases change with
    | add pool card =>
      cases added : b.add pool card with
      | mk result left =>
        simp only [perform, added] at done
        cases done
        cases result with
        | ok _ => cases failed
        | error fault => exact add_fails.mp added
    | spawn pool d owner zone =>
      cases spawned : b.spawn pool d owner zone with
      | mk result left =>
        simp only [perform, spawned] at done
        cases done
        cases result with
        | ok _ => cases failed
        | error fault => exact (spawn_fails bounded).mp spawned
    | spawnNamed registry name pool owner zone =>
      cases spawned : b.spawnNamed registry name pool owner zone with
      | mk result left =>
        simp only [perform, spawned] at done
        cases done
        cases result with
        | ok _ => cases failed
        | error failure => exact (spawnNamed_fails bounded).mp spawned
    | alloc | remove | edit | apply => cases inserts
  · intro fails
    cases fails with
    | duplicate known => simp [perform, add_fails.mpr (.duplicate known), Answer.failure?]
    | addUnseated new stranger => simp [perform, add_fails.mpr (.addUnseated new stranger), Answer.failure?]
    | exhausted spent => simp [perform, (spawn_fails bounded).mpr (.exhausted spent), Answer.failure?]
    | spawnUnseated room stranger =>
      simp [perform, (spawn_fails bounded).mpr (.spawnUnseated room stranger), Answer.failure?]
    | unknown absent => simp [perform, (spawnNamed_fails bounded).mpr (.unknown absent), Answer.failure?]
    | named known fails => simp [perform, (spawnNamed_fails bounded).mpr (.named known fails), Answer.failure?]

theorem store_ne {card : Card} (new : card.id ∉ b.cards.keys) : b.store card ≠ b := by
  intro same
  have found : (b.store card).cards.get? card.id = some card := by simp [store, Table.get?_insert]
  rw [same] at found
  exact new (Table.mem_keys.mpr ⟨card, found⟩)

-- Only a card without a pool to go to changes the board it does not come onto.
theorem fails_unchanged_iff (bounded : b.Bounded) (fails : Fails b change answer after) :
    after = b ↔ ∀ pool, answer.failure? ≠ some (.broken (.unseated pool)) := by
  induction fails with
  | duplicate _ | exhausted _ | unknown _ => simp [Answer.failure?]
  | addUnseated new stranger => simp [Answer.failure?, store_ne new]
  | spawnUnseated room stranger =>
    have changed : ∀ d owner zone, b.store (.ofDefinition b.fresh d owner zone) ≠ b :=
      fun _ _ _ => store_ne (bounded.fresh_new room)
    simp [Answer.failure?, changed]
  | named known fails ih => simpa [Answer.failure?] using ih

theorem fails_seated (fails : Fails b change answer after) (inserts : change.pool? = some pool)
    (seated : pool.isSeated = true) : after = b := by
  induction fails with
  | duplicate _ | exhausted _ | unknown _ => rfl
  | addUnseated _ stranger | spawnUnseated _ stranger =>
    cases inserts
    simp [seated] at stranger
  | named known fails ih => exact ih inserts

end Failures

-- A card for a pool without a seat is stored, and no pool shows it.
theorem insertion_exact {b : Board} (reached : b.Reached) {change : Change} {pool : PlayerId}
    (inserts : change.pool? = some pool) (answer : Answer) (after : Board) :
    (b.perform change = (answer, after) ∧ answer.failure?.isSome ↔ Fails b change answer after) ∧
    (Fails b change answer after → (after = b ↔ ∀ p, answer.failure? ≠ some (.broken (.unseated p)))) ∧
    (pool.isSeated = true → Fails b change answer after → after = b) := by
  have bounded := reached_bounded reached
  refine ⟨perform_fails bounded inserts, fails_unchanged_iff bounded, ?_⟩
  intro seated fails
  exact fails_seated fails inserts seated

def stray : Card where
  id := ⟨5⟩
  definition := ⟨1⟩
  owner := .first
  zone := .play
  type := .minion

theorem stray_stored : ((empty.add ⟨2⟩ stray).2.size, (empty.add ⟨2⟩ stray).2.allCards) = (1, []) ∧
    ¬ ∀ (b : Board) (change : Change) (pool : PlayerId), b.Reached → change.pool? = some pool →
      (b.perform change).1.failure?.isSome → (b.perform change).2 = b := by
  refine ⟨rfl, ?_⟩
  intro restored
  have same := restored empty (.add ⟨2⟩ stray) ⟨2⟩ ⟨[], rfl⟩ rfl rfl
  have sizes : (1 : Nat) = 0 := congrArg size same
  cases sizes

theorem stray_fails : Reached empty ∧ (Change.add ⟨2⟩ stray).pool? = some ⟨2⟩ ∧
    Fails empty (.add ⟨2⟩ stray) (.done (.error (.unseated ⟨2⟩))) (empty.store stray) ∧ empty.store stray ≠ empty := by
  have reached : Reached empty := ⟨[], rfl⟩
  have inserts : (Change.add ⟨2⟩ stray).pool? = some ⟨2⟩ := rfl
  have exact := insertion_exact reached inserts (.done (.error (.unseated ⟨2⟩))) (empty.store stray)
  have fails := exact.1.mp ⟨rfl, rfl⟩
  refine ⟨reached, inserts, fails, ?_⟩
  intro same
  exact (exact.2.1 fails).mp same ⟨2⟩ rfl

end Board
end CardQuery
