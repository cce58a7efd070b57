import CardQuery.Proofs.Insertions
import Mathlib.Data.List.Induction

namespace CardQuery
namespace Board

def Change.draws : Change → Bool
  | .alloc | .spawn .. => true
  | .spawnNamed registry name _ _ _ => (registry.named? name).isSome
  | .add .. | .remove _ | .edit .. | .apply .. => false

def Answer.issued? : Answer → Option EntityId
  | .number (.ok id) | .named (.ok id) => some id
  | _ => none

def issued (answers : List Answer) : List EntityId := answers.filterMap Answer.issued?

-- All that a call can do to the numbers of a board.
inductive Numbers (b : Board) : Option EntityId → Board → Prop where
  | kept (next : after.next = b.next) : Numbers b none after
  | drawn (room : b.next < 0x100000000) (next : after.next = b.next + 1) : Numbers b (some b.fresh) after
  | stored {id : EntityId} (present : after.get? id ≠ none) (next : after.next = max b.next (id.raw.toNat + 1)) :
      Numbers b none after

theorem get?_ne_none {b : Board} {id : EntityId} : b.get? id ≠ none ↔ id ∈ b.cards.keys := by
  rw [ne_eq, get?, Table.get?_eq_none, Classical.not_not]

section Numbers
variable {b after : Board} {id : EntityId} {given : Option EntityId}

theorem Numbers.next_le (numbers : Numbers b given after) : b.next ≤ after.next := by
  cases numbers with
  | kept next => exact Nat.le_of_eq next.symm
  | drawn _ next => exact next ▸ Nat.le_succ _
  | stored _ next => exact next ▸ Nat.le_max_left _ _

theorem Numbers.of_some (numbers : Numbers b (some id) after) :
    id.raw.toNat = b.next ∧ after.next = id.raw.toNat + 1 := by
  cases numbers with
  | drawn room next =>
    rw [fresh_toNat room]
    exact ⟨rfl, next⟩

-- If the next number changes, it follows one that has just been given out or brought along.
theorem Numbers.next_cases (numbers : Numbers b given after) : after.next = b.next ∨
    ∃ id : EntityId, (given = some id ∨ after.get? id ≠ none) ∧ after.next = id.raw.toNat + 1 := by
  cases numbers with
  | kept next => exact .inl next
  | drawn room next => exact .inr ⟨b.fresh, .inl rfl, by rw [next, fresh_toNat room]⟩
  | @stored _ id present next =>
    rcases Nat.le_total (id.raw.toNat + 1) b.next with low | high
    · exact .inl (next.trans (Nat.max_eq_left low))
    · exact .inr ⟨id, .inr present, next.trans (Nat.max_eq_right high)⟩

end Numbers

theorem store_numbers (b : Board) (card : Card) (pools : Seats (List EntityId)) :
    Numbers b none { b.store card with pools := pools } := by
  have present : ({ b.store card with pools := pools } : Board).get? card.id ≠ none := by
    simp [get?, store, Table.get?_insert]
  exact .stored present rfl

theorem apply_next (b : Board) (targets : ResultSet) (action : Action) : (b.apply targets action).board.next = b.next :=
  apply_preserves (P := fun after => after.next = b.next) (fun _ _ _ _ same _ => same) rfl targets action

-- All that can come of a call that needs a number: what fails, what is given out, and what is left.
inductive Draws (b : Board) (change : Change) : Option SpawnFailure → Option EntityId → Board → Prop where
  | spent (spent : 0x100000000 ≤ b.next) : Draws b change (some (.broken .idsExhausted)) none b
  | unseated {pool : PlayerId} (room : b.next < 0x100000000) (inserts : change.pool? = some pool)
      (stranger : pool.isSeated = false) (stored : Numbers b none after) :
      Draws b change (some (.broken (.unseated pool))) none after
  | drawn (room : b.next < 0x100000000) (next : after.next = b.next + 1) : Draws b change none (some b.fresh) after

section Draws
variable {b after : Board} {change : Change} {failure : Option SpawnFailure} {given : Option EntityId}
  (draws : Draws b change failure given after)
include draws

theorem Draws.numbers : Numbers b given after := by
  cases draws with
  | spent _ => exact .kept rfl
  | unseated _ _ _ stored => exact stored
  | drawn room next => exact .drawn room next

-- It fails for want of a number exactly when all are used up, and never because its number is taken.
theorem Draws.settled :
    (b.next = 0x100000000 → failure = some (.broken .idsExhausted) ∧ after = b) ∧
    (b.next < 0x100000000 → failure ≠ some (.broken .idsExhausted) ∧
      (change.pool?.all PlayerId.isSeated = true → ∃ id, given = some id)) ∧
    ∀ id, failure ≠ some (.broken (.duplicateEntity id)) := by
  cases draws with
  | spent spent => exact ⟨fun _ => ⟨rfl, rfl⟩, fun room => absurd spent (Nat.not_le.mpr room), by simp⟩
  | unseated room inserts stranger _ =>
    refine ⟨fun spent => absurd spent (Nat.ne_of_lt room), fun _ => ⟨by simp, ?_⟩, by simp⟩
    intro seated
    simp [inserts, stranger] at seated
  | drawn room _ =>
    exact ⟨fun spent => absurd spent (Nat.ne_of_lt room), fun _ => ⟨by simp, fun _ => ⟨_, rfl⟩⟩, by simp⟩

end Draws

section Step
variable {b : Board} (bounded : b.Bounded)
include bounded

theorem spawn_draws {change : Change} {pool : PlayerId} (inserts : change.pool? = some pool) (d : CardDefinition)
    (owner : PlayerId) (zone : Zone) :
    Draws b change (Answer.number (b.spawn pool d owner zone).1).failure?
      (Answer.number (b.spawn pool d owner zone).1).issued? (b.spawn pool d owner zone).2 := by
  cases spawned : b.spawn pool d owner zone with
  | mk result after =>
    cases (spawn_exact bounded).mp spawned with
    | exhausted spent => exact .spent spent
    | unseated room stranger => exact .unseated room inserts stranger (store_numbers b _ b.pools)
    | spawned room _ =>
      refine .drawn room ?_
      show max b.next (b.fresh.raw.toNat + 1) = b.next + 1
      rw [fresh_toNat room]
      omega

theorem perform_draws {change : Change} (draws : change.draws = true) :
    Draws b change (b.perform change).1.failure? (b.perform change).1.issued? (b.perform change).2 := by
  cases change with
  | alloc =>
    by_cases room : b.next < 0x100000000
    · simp only [perform, alloc_of_room room]
      exact .drawn room rfl
    · simp only [perform, alloc_of_spent (Nat.le_of_not_lt room)]
      exact .spent (Nat.le_of_not_lt room)
  | spawn pool d owner zone => exact spawn_draws bounded rfl d owner zone
  | spawnNamed registry name pool owner zone =>
    obtain ⟨d, known⟩ := Option.isSome_iff_exists.mp draws
    have into : (Change.spawnNamed registry name pool owner zone).pool? = some pool := rfl
    have drawn := spawn_draws bounded into d owner zone
    simp only [perform, spawnNamed, known]
    cases spawned : b.spawn pool d owner zone with
    | mk result after =>
      rw [spawned] at drawn
      cases result <;> exact drawn
  | add | remove | edit | apply => cases draws

theorem perform_numbers (change : Change) : Numbers b (b.perform change).1.issued? (b.perform change).2 := by
  by_cases draws : change.draws = true
  · exact (perform_draws bounded draws).numbers
  · cases change with
    | alloc | spawn => exact absurd rfl draws
    | spawnNamed registry name pool owner zone =>
      have absent := Option.not_isSome_iff_eq_none.mp draws
      simp only [perform, spawnNamed, absent]
      exact .kept rfl
    | add pool card =>
      cases added : b.add pool card with
      | mk result after =>
        simp only [perform, added]
        cases add_exact.mp added with
        | duplicate _ => exact .kept rfl
        | unseated _ _ => exact store_numbers b card b.pools
        | added _ _ => exact store_numbers b card _
    | remove id =>
      simp only [perform, remove]
      split <;> exact .kept rfl
    | edit id f => exact .kept rfl
    | apply targets action => exact .kept (apply_next b targets action)

end Step

theorem run_concat (b : Board) (calls : List Change) (call : Change) : b.run (calls ++ [call]) =
    ((b.run calls).1 ++ [((b.run calls).2.perform call).1], ((b.run calls).2.perform call).2) := by
  induction calls generalizing b with
  | nil => rfl
  | cons first rest ih => simp only [List.cons_append, run, ih]

-- A number that has been given out in a run, or has been on the board at some moment of it.
def Used (calls : List Change) (id : EntityId) : Prop :=
  id ∈ issued (empty.run calls).1 ∨ ∃ earlier, earlier <+: calls ∧ (empty.run earlier).2.get? id ≠ none

theorem issued_concat (calls : List Change) (call : Change) : issued (empty.run (calls ++ [call])).1 =
    issued (empty.run calls).1 ++ ((empty.run calls).2.perform call).1.issued?.toList := by
  rw [run_concat, issued, List.filterMap_append, issued]
  cases found : ((empty.run calls).2.perform call).1.issued? <;> simp [found]

theorem used_concat {calls : List Change} {call : Change} {id : EntityId} : Used (calls ++ [call]) id ↔
    Used calls id ∨ ((empty.run calls).2.perform call).1.issued? = some id ∨
      ((empty.run calls).2.perform call).2.get? id ≠ none := by
  have seen : (∃ earlier, earlier <+: calls ++ [call] ∧ (empty.run earlier).2.get? id ≠ none) ↔
      (∃ earlier, earlier <+: calls ∧ (empty.run earlier).2.get? id ≠ none) ∨
        ((empty.run calls).2.perform call).2.get? id ≠ none := by
    simp only [List.prefix_concat_iff, or_and_right, exists_or, exists_eq_left, run_concat]
    exact or_comm
  rw [Used, Used, issued_concat, List.mem_append, Option.mem_toList, seen, or_or_or_comm]

-- The next number is one past the highest that has been used.
structure Numbered (calls : List Change) : Prop where
  bounded : (empty.run calls).2.Bounded
  increasing : (issued (empty.run calls).1).Pairwise fun earlier later => earlier.raw < later.raw
  below : ∀ id, Used calls id → id.raw.toNat < (empty.run calls).2.next
  top : (empty.run calls).2.next = 0 ∨ ∃ id, Used calls id ∧ (empty.run calls).2.next = id.raw.toNat + 1

theorem numbered_nil : Numbered [] := by
  refine ⟨?_, .nil, ?_, .inl rfl⟩
  · intro id present
    cases present
  · rintro id (given | ⟨earlier, start, present⟩)
    · cases given
    · cases List.prefix_nil.mp start
      exact absurd rfl present

theorem numbered_concat {calls : List Change} (numbered : Numbered calls) (call : Change) : Numbered (calls ++ [call]) := by
  have step := perform_numbers numbered.bounded call
  have bounded := perform_bounded numbered.bounded call
  have final : (empty.run (calls ++ [call])).2 = ((empty.run calls).2.perform call).2 := by rw [run_concat]
  refine ⟨final ▸ bounded, ?_, ?_, ?_⟩
  · rw [issued_concat, List.pairwise_append]
    refine ⟨numbered.increasing, by cases Answer.issued? _ <;> simp, ?_⟩
    intro earlier old later new
    rw [Option.mem_toList.mp new] at step
    rw [UInt32.lt_iff_toNat_lt, step.of_some.1]
    exact numbered.below earlier (.inl old)
  · intro id used
    rw [final]
    rcases used_concat.mp used with old | new | present
    · exact Nat.lt_of_lt_of_le (numbered.below id old) step.next_le
    · rw [new] at step
      exact step.of_some.2 ▸ Nat.lt_succ_self _
    · exact bounded id (get?_ne_none.mp present)
  · rw [final]
    rcases step.next_cases with same | ⟨id, used, next⟩
    · rw [same]
      exact numbered.top.imp_right fun ⟨id, used, next⟩ => ⟨id, used_concat.mpr (.inl used), next⟩
    · exact .inr ⟨id, used_concat.mpr (.inr used), next⟩

theorem run_numbered (calls : List Change) : Numbered calls := by
  induction calls using List.reverseRecOn with
  | nil => exact numbered_nil
  | append_singleton calls call ih => exact numbered_concat ih call

def lastId : EntityId := ⟨0xFFFFFFFF⟩

theorem numbers_fresh (calls : List Change) :
    let b := (empty.run calls).2
    (issued (empty.run calls).1).Pairwise (fun earlier later => earlier.raw < later.raw) ∧
    (∀ call id, (b.perform call).1.issued? = some id → ¬ Used calls id) ∧
    b.next ≤ 0x100000000 ∧ (b.next = 0x100000000 ↔ Used calls lastId) ∧
    ∀ call : Change, call.draws = true →
      (b.next = 0x100000000 → (b.perform call).1.failure? = some (.broken .idsExhausted) ∧ (b.perform call).2 = b) ∧
      (b.next < 0x100000000 → (b.perform call).1.failure? ≠ some (.broken .idsExhausted) ∧
        (call.pool?.all PlayerId.isSeated = true → ∃ id, (b.perform call).1.issued? = some id)) ∧
      ∀ id, (b.perform call).1.failure? ≠ some (.broken (.duplicateEntity id)) := by
  intro b
  have numbered := run_numbered calls
  have most : b.next ≤ 0x100000000 := by
    rcases numbered.top with none | ⟨id, _, next⟩
    · exact none ▸ Nat.zero_le _
    · exact next ▸ id.raw.toNat_lt
  refine ⟨numbered.increasing, ?_, most, ?_, ?_⟩
  · intro call id given used
    have step := perform_numbers numbered.bounded call
    rw [given] at step
    exact absurd step.of_some.1 (Nat.ne_of_lt (numbered.below id used))
  · constructor
    · intro spent
      rcases numbered.top with none | ⟨id, used, next⟩
      · cases none.symm.trans spent
      · have last : id = lastId := by
          rw [EntityId.mk.injEq, ← UInt32.toNat_inj]
          exact Nat.succ.inj (next.symm.trans spent)
        exact last ▸ used
    · intro used
      exact Nat.le_antisymm most (numbered.below lastId used)
  · intro call draws
    exact (perform_draws numbered.bounded draws).settled

-- A card that brings the last number but one, and leaves; then one is spawned under the last.
def lateCalls : List Change :=
  [.alloc, .add .second { stray with id := ⟨0xFFFFFFFE⟩ }, .remove ⟨0xFFFFFFFE⟩,
    .spawn .first (.named ⟨1⟩ "Wisp" .minion) .first .play]

theorem lateCalls_spent : issued (empty.run lateCalls).1 = [⟨0⟩, lastId] ∧ Used lateCalls lastId ∧
    Change.alloc.draws = true ∧
    ((empty.run lateCalls).2.perform .alloc).1.failure? = some (.broken .idsExhausted) ∧
    ((empty.run lateCalls).2.perform .alloc).2 = (empty.run lateCalls).2 := by
  obtain ⟨_, _, _, last, draws⟩ := numbers_fresh lateCalls
  have spent : (empty.run lateCalls).2.next = 0x100000000 := rfl
  exact ⟨rfl, last.mp spent, rfl, (draws .alloc rfl).1 spent⟩

end Board
end CardQuery
