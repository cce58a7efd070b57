import CardQuery.ResultSet
import Mathlib.Data.List.Basic

namespace CardQuery
namespace Board

section Step
variable {f : Card → Except Fault α × Card} {b : Board} {id : EntityId} {rest : List EntityId} {card : Card}

theorem visit_absent (absent : b.get? id = none) : b.visit f (id :: rest) = b.visit f rest := by
  rw [visit, absent]

theorem visit_broken (found : b.get? id = some card) {fault : Fault} (broken : (f card).1 = .error fault) :
    b.visit f (id :: rest) = (.error fault, b.modify id fun _ => (f card).2) := by
  rw [visit, found]
  dsimp only
  cases worked : f card with
  | mk answer changed =>
    rw [worked] at broken
    cases broken
    rfl

theorem visit_done (found : b.get? id = some card) {answer : α} (done : (f card).1 = .ok answer) :
    b.visit f (id :: rest) = (((b.modify id fun _ => (f card).2).visit f rest).1.map (answer :: ·),
      ((b.modify id fun _ => (f card).2).visit f rest).2) := by
  rw [visit, found]
  dsimp only
  cases worked : f card with
  | mk answer changed =>
    rw [worked] at done
    cases done
    dsimp only
    cases (b.modify id fun _ => changed).visit f rest with
    | mk result after => cases result <;> rfl

end Step

theorem visit_keeps {P : Board → Prop} {f : Card → Except Fault α × Card} {targets : List EntityId}
    (step : ∀ b, ∀ id ∈ targets, ∀ card, P b → b.get? id = some card → P (b.modify id fun _ => (f card).2)) {b : Board}
    (start : P b) : P (b.visit f targets).2 := by
  induction targets generalizing b with
  | nil => exact start
  | cons id rest ih =>
    have later : ∀ {after : Board}, P after → P (after.visit f rest).2 :=
      ih fun b other listed => step b other (List.mem_cons_of_mem id listed)
    cases found : b.get? id with
    | none =>
      rw [visit_absent found]
      exact later start
    | some card =>
      have changed := step b id List.mem_cons_self card start found
      cases worked : (f card).1 with
      | error fault =>
        rw [visit_broken found worked]
        exact changed
      | ok answer =>
        rw [visit_done found worked]
        exact later changed

theorem visit_preserves {P : Board → Prop} {f : Card → Except Fault α × Card}
    (step : ∀ b id card, P b → b.get? id = some card → P (b.modify id fun _ => (f card).2)) {b : Board} (start : P b)
    (targets : List EntityId) : P (b.visit f targets).2 :=
  visit_keeps (fun b id _ => step b id) start

theorem apply_preserves {P : Board → Prop}
    (step : ∀ (action : Action) b id card, P b → b.get? id = some card → P (b.modify id fun _ => (action.applyTo card).2))
    {b : Board} (start : P b) (targets : ResultSet) (action : Action) : P (b.apply targets action).board := by
  unfold apply
  split
  · exact start
  · split
    · exact start
    · rename_i resolved _
      have visited := visit_preserves (step resolved) start targets.ids
      split <;> simp_all

theorem get?_modify (b : Board) (id other : EntityId) (g : Card → Card) :
    (b.modify id g).get? other = if id = other then (b.get? other).map g else b.get? other :=
  Table.get?_modify b.cards id other g

theorem modify_same {b : Board} {id : EntityId} {card : Card} (found : b.get? id = some card) :
    (b.modify id fun _ => card) = b := by
  have cards : b.cards.modify id (fun _ => card) = b.cards := by
    apply Table.ext_of_keys (Table.keys_modify _ _ _)
    intro other
    refine (get?_modify b id other _).trans ?_
    split
    · rename_i here
      rw [← here, found]
      exact found.symm
    · rfl
  rw [modify, cards]

-- One change relates a card to what it makes of it; so does a visit, however it ends.
theorem visit_related {R : Card → Card → Prop} {f : Card → Except Fault α × Card} (refl : ∀ card, R card card)
    (trans : ∀ {first next last}, R first next → R next last → R first last) (step : ∀ card, R card (f card).2)
    {b : Board} {id : EntityId} {card : Card} (found : b.get? id = some card) (targets : List EntityId) :
    ∃ changed, (b.visit f targets).2.get? id = some changed ∧ R card changed := by
  apply visit_preserves (P := fun after => ∃ changed, after.get? id = some changed ∧ R card changed) _
    ⟨card, found, refl card⟩
  intro after other before held there
  rw [get?_modify]
  obtain ⟨changed, now, related⟩ := held
  by_cases here : other = id
  · subst here
    cases there.symm.trans now
    rw [if_pos rfl, there]
    exact ⟨_, rfl, trans related (step before)⟩
  · rw [if_neg here]
    exact ⟨changed, now, related⟩

theorem modify_view {view : Card → β} {b : Board} {other : EntityId} {card changed : Card} (found : b.get? other = some card)
    (kept : view changed = view card) (id : EntityId) :
    ((b.modify other fun _ => changed).get? id).map view = (b.get? id).map view := by
  rw [get?_modify]
  split
  · rename_i here
    subst here
    rw [found]
    exact congrArg some kept
  · rfl

theorem apply_view {view : Card → β} (kept : ∀ (action : Action) card, view (action.applyTo card).2 = view card) (b : Board)
    (targets : ResultSet) (action : Action) (id : EntityId) :
    ((b.apply targets action).board.get? id).map view = (b.get? id).map view := by
  apply apply_preserves (P := fun after => (after.get? id).map view = (b.get? id).map view) _ rfl
  intro action after other card same found
  exact (modify_view found (kept action card) id).trans same

section Frame
variable {f : Card → Except Fault α × Card} (b : Board) (targets : List EntityId)

theorem visit_frame : (b.visit f targets).2.pools = b.pools ∧ (b.visit f targets).2.next = b.next ∧
    (b.visit f targets).2.cards.keys = b.cards.keys := by
  apply visit_preserves (P := fun after =>
    after.pools = b.pools ∧ after.next = b.next ∧ after.cards.keys = b.cards.keys)
  · intro after id card same _
    refine ⟨same.1, same.2.1, ?_⟩
    rw [modify, Table.keys_modify]
    exact same.2.2
  · exact ⟨rfl, rfl, rfl⟩

-- What no change touches can be read from the board as it was.
theorem visit_view {view : Card → β} (kept : ∀ card, view (f card).2 = view card) (id : EntityId) :
    ((b.visit f targets).2.get? id).map view = (b.get? id).map view := by
  apply visit_preserves (P := fun after => (after.get? id).map view = (b.get? id).map view) _ rfl
  intro after other card same found
  exact (modify_view found (kept card) id).trans same

theorem visit_allCards_view {view : Card → β} (kept : ∀ card, view (f card).2 = view card) :
    (b.visit f targets).2.allCards.map view = b.allCards.map view := by
  rw [allCards, allCards, (visit_frame b targets).1, List.map_filterMap, List.map_filterMap]
  exact List.filterMap_congr fun id _ => visit_view b targets kept id

end Frame

theorem visit_append {f : Card → Except Fault α × Card} (b : Board) (earlier later : List EntityId) :
    b.visit f (earlier ++ later) =
      match b.visit f earlier with
      | (.error fault, left) => (.error fault, left)
      | (.ok answers, left) => ((left.visit f later).1.map (answers ++ ·), (left.visit f later).2) := by
  induction earlier generalizing b with
  | nil =>
    show b.visit f later = ((b.visit f later).1.map ([] ++ ·), (b.visit f later).2)
    cases b.visit f later with
    | mk result after => cases result <;> rfl
  | cons id rest ih =>
    rw [List.cons_append]
    cases found : b.get? id with
    | none => rw [visit_absent found, visit_absent found, ih]
    | some card =>
      cases worked : (f card).1 with
      | error fault => rw [visit_broken found worked, visit_broken found worked]
      | ok answer =>
        rw [visit_done found worked, visit_done found worked, ih]
        cases (b.modify id fun _ => (f card).2).visit f rest with
        | mk result left =>
          cases result with
          | error fault => rfl
          | ok answers =>
            dsimp only [Except.map]
            cases (left.visit f later).1 <;> rfl

-- If a change can end with one fault only, so can a visit.
theorem visit_fault {f : Card → Except Fault α × Card} {only : Fault}
    (single : ∀ card fault, (f card).1 = .error fault → fault = only) {b : Board} {targets : List EntityId} {fault : Fault}
    (broken : (b.visit f targets).1 = .error fault) : fault = only := by
  induction targets generalizing b with
  | nil => cases broken
  | cons id rest ih =>
    cases found : b.get? id with
    | none => exact ih (visit_absent found ▸ broken)
    | some card =>
      cases worked : (f card).1 with
      | error other =>
        rw [visit_broken found worked] at broken
        cases broken
        exact single card _ worked
      | ok answer =>
        rw [visit_done found worked] at broken
        cases later : ((b.modify id fun _ => (f card).2).visit f rest).1 with
        | error other =>
          rw [later] at broken
          cases broken
          exact ih later
        | ok answers =>
          rw [later] at broken
          cases broken

def repeated (f : Card → Except Fault Unit × Card) : Nat → Card → Option Card
  | 0, card => some card
  | n + 1, card =>
    match (f card).1 with
    | .ok () => repeated f n (f card).2
    | .error _ => none

theorem repeated_zero (f : Card → Except Fault Unit × Card) : repeated f 0 = some := rfl

theorem repeated_holds {P : Card → Prop} {f : Card → Except Fault Unit × Card}
    (kept : ∀ card, P card → (f card).1 = .ok () → P (f card).2) {n : Nat} {card changed : Card} (start : P card)
    (made : repeated f n card = some changed) : P changed := by
  induction n generalizing card with
  | zero =>
    cases made
    exact start
  | succ n ih =>
    rw [repeated] at made
    split at made
    · rename_i done
      exact ih (kept card start done) made
    · cases made

-- What a visit leaves that came to its end: the cards changed as often as they are listed.
structure Worked (f : Card → Except Fault Unit × Card) (b : Board) (targets : List EntityId) (after : Board) : Prop where
  pools : after.pools = b.pools
  next : after.next = b.next
  keys : after.cards.keys = b.cards.keys
  cards : ∀ id, after.get? id = (b.get? id).bind (repeated f (targets.count id))

section Worked
variable {f : Card → Except Fault Unit × Card} {b after : Board} {id : EntityId} {rest : List EntityId} {card : Card}

theorem Worked.made {targets : List EntityId} (worked : Worked f b targets after) (found : b.get? id = some card) :
    ∃ changed, after.get? id = some changed ∧ repeated f (targets.count id) card = some changed := by
  have present : id ∈ after.cards.keys := by
    rw [worked.keys]
    exact Table.mem_keys.mpr ⟨card, found⟩
  obtain ⟨changed, left⟩ := Table.mem_keys.mp present
  have made := worked.cards id
  rw [found, Option.bind_some] at made
  exact ⟨changed, left, made.symm.trans left⟩

theorem worked_nil : Worked f b [] after ↔ after = b := by
  constructor
  · intro worked
    have cards : after.cards = b.cards := by
      apply Table.ext_of_keys worked.keys
      intro id
      have same := worked.cards id
      rw [List.count_nil, repeated_zero, Option.bind_fun_some] at same
      exact same
    obtain ⟨pools, _, next, _⟩ := worked
    cases after
    cases b
    simp_all
  · rintro rfl
    exact ⟨rfl, rfl, rfl, fun id => by rw [List.count_nil, repeated_zero, Option.bind_fun_some]⟩

theorem listed_absent (f : Card → Except Fault Unit × Card) (rest : List EntityId) (absent : b.get? id = none)
    (other : EntityId) :
    (b.get? other).bind (repeated f ((id :: rest).count other)) = (b.get? other).bind (repeated f (rest.count other)) := by
  by_cases here : id = other
  · rw [← here, absent]
    rfl
  · rw [List.count_cons_of_ne here]

theorem listed_done (rest : List EntityId) (found : b.get? id = some card) (done : (f card).1 = .ok ()) (other : EntityId) :
    (b.get? other).bind (repeated f ((id :: rest).count other)) =
      ((b.modify id fun _ => (f card).2).get? other).bind (repeated f (rest.count other)) := by
  rw [get?_modify]
  by_cases here : id = other
  · subst here
    rw [if_pos rfl, found, List.count_cons_self, Option.bind_some, repeated, done]
    rfl
  · rw [if_neg here, List.count_cons_of_ne here]

theorem worked_absent (absent : b.get? id = none) : Worked f b (id :: rest) after ↔ Worked f b rest after := by
  have same := listed_absent f rest absent
  constructor
  · intro worked
    exact ⟨worked.pools, worked.next, worked.keys, fun other => (worked.cards other).trans (same other)⟩
  · intro worked
    exact ⟨worked.pools, worked.next, worked.keys, fun other => (worked.cards other).trans (same other).symm⟩

theorem not_worked_broken (found : b.get? id = some card) {fault : Fault} (broken : (f card).1 = .error fault) :
    ¬ Worked f b (id :: rest) after := by
  intro worked
  have lost := worked.cards id
  rw [found, List.count_cons_self, Option.bind_some, repeated, broken] at lost
  have present : id ∈ after.cards.keys := by
    rw [worked.keys, Table.mem_keys]
    exact ⟨card, found⟩
  exact Table.get?_eq_none.mp lost present

theorem worked_done (found : b.get? id = some card) (done : (f card).1 = .ok ()) :
    Worked f b (id :: rest) after ↔ Worked f (b.modify id fun _ => (f card).2) rest after := by
  have same := listed_done rest found done
  have keys : (b.modify id fun _ => (f card).2).cards.keys = b.cards.keys := Table.keys_modify _ _ _
  constructor
  · intro worked
    exact ⟨worked.pools, worked.next, worked.keys.trans keys.symm, fun other => (worked.cards other).trans (same other)⟩
  · intro worked
    exact ⟨worked.pools, worked.next, worked.keys.trans keys, fun other => (worked.cards other).trans (same other).symm⟩

end Worked

theorem contains_modify (b : Board) (id : EntityId) (g : Card → Card) :
    (b.modify id g).cards.contains = b.cards.contains := by
  funext other
  rw [Bool.eq_iff_iff, Table.contains_iff, Table.contains_iff, modify, Table.keys_modify]

theorem length_cons_eq_ok {result : Except Fault (List α)} {answer : α} {n : Nat} :
    (result.map (answer :: ·)).map List.length = .ok n ↔ ∃ k, result.map List.length = .ok k ∧ n = k + 1 := by
  cases result with
  | error fault =>
    constructor
    · rintro ⟨⟩
    · rintro ⟨k, ⟨⟩, _⟩
  | ok answers =>
    constructor
    · rintro ⟨⟩
      exact ⟨_, rfl, rfl⟩
    · rintro ⟨k, ⟨⟩, rfl⟩
      rfl

-- It matters how often each number is listed, and not where.
theorem visit_eq_ok {f : Card → Except Fault Unit × Card} {b after : Board} {targets : List EntityId} {n : Nat} :
    (b.visit f targets).1.map List.length = .ok n ∧ (b.visit f targets).2 = after ↔
      Worked f b targets after ∧ n = targets.countP b.cards.contains := by
  induction targets generalizing b n with
  | nil =>
    rw [worked_nil, List.countP_nil]
    constructor
    · rintro ⟨⟨⟩, rfl⟩
      exact ⟨rfl, rfl⟩
    · rintro ⟨rfl, rfl⟩
      exact ⟨rfl, rfl⟩
  | cons id rest ih =>
    cases found : b.get? id with
    | none =>
      have missing : ¬ b.cards.contains id = true := by
        rw [Table.contains_iff]
        exact Table.get?_eq_none.mp found
      rw [visit_absent found, ih, worked_absent found, List.countP_cons_of_neg missing]
    | some card =>
      have present : b.cards.contains id = true := Table.contains_iff.mpr (Table.mem_keys.mpr ⟨card, found⟩)
      cases done : (f card).1 with
      | error fault =>
        rw [visit_broken found done]
        refine iff_of_false ?_ fun ended => not_worked_broken found done ended.1
        rintro ⟨⟨⟩, _⟩
      | ok answer =>
        rw [visit_done found done, worked_done found done, List.countP_cons_of_pos present,
          ← contains_modify b id fun _ => (f card).2, length_cons_eq_ok]
        constructor
        · rintro ⟨⟨k, counted, rfl⟩, left⟩
          obtain ⟨worked, rfl⟩ := ih.mp ⟨counted, left⟩
          exact ⟨worked, rfl⟩
        · rintro ⟨worked, rfl⟩
          obtain ⟨counted, left⟩ := ih.mpr ⟨worked, rfl⟩
          exact ⟨⟨_, counted, rfl⟩, left⟩

def Stands (f : Card → Except Fault Unit × Card) (b : Board) (targets : List EntityId) : Prop :=
  ∀ id card, b.get? id = some card → (repeated f (targets.count id) card).isSome

theorem stands_iff {f : Card → Except Fault Unit × Card} {b : Board} {targets : List EntityId} : Stands f b targets ↔
    ∀ id, ((b.get? id).bind (repeated f (targets.count id))).isSome = (b.get? id).isSome := by
  refine forall_congr' fun id => ?_
  cases b.get? id <;> simp

theorem visit_completes {f : Card → Except Fault Unit × Card} {b : Board} {targets : List EntityId} :
    (∃ answers, (b.visit f targets).1 = .ok answers) ↔ Stands f b targets := by
  induction targets generalizing b with
  | nil => exact iff_of_true ⟨[], rfl⟩ fun _ _ _ => rfl
  | cons id rest ih =>
    cases found : b.get? id with
    | none =>
      rw [visit_absent found, ih, stands_iff, stands_iff]
      simp only [listed_absent f rest found]
    | some card =>
      cases done : (f card).1 with
      | error fault =>
        rw [visit_broken found done]
        refine iff_of_false ?_ ?_
        · rintro ⟨_, ⟨⟩⟩
        · intro stands
          have stood := stands id card found
          rw [List.count_cons_self, repeated, done] at stood
          cases stood
      | ok answer =>
        have before (other : EntityId) : ((b.modify id fun _ => (f card).2).get? other).isSome = (b.get? other).isSome := by
          rw [get?_modify]
          split
          · exact Option.isSome_map
          · rfl
        rw [visit_done found done, stands_iff]
        simp only [listed_done rest found done, ← before]
        rw [← stands_iff, ← ih]
        cases (b.modify id fun _ => (f card).2).visit f rest with
        | mk result after => cases result <;> simp [Except.map]

-- A fault ends a visit at the first card that does not stand one change more.
theorem visit_stopped {f : Card → Except Fault Unit × Card} {b : Board} {targets : List EntityId} {fault : Fault}
    (broken : (b.visit f targets).1 = .error fault) :
    ∃ done id rest before card, targets = done ++ id :: rest ∧ Worked f b done before ∧ before.get? id = some card ∧
      (f card).1 = .error fault ∧ (b.visit f targets).2 = before.modify id fun _ => (f card).2 := by
  induction targets generalizing b with
  | nil => cases broken
  | cons id rest ih =>
    cases found : b.get? id with
    | none =>
      rw [visit_absent found] at broken ⊢
      obtain ⟨done, last, back, before, card, rfl, worked, met⟩ := ih broken
      exact ⟨id :: done, last, back, before, card, rfl, (worked_absent found).mpr worked, met⟩
    | some card =>
      cases ended : (f card).1 with
      | error other =>
        rw [visit_broken found ended] at broken ⊢
        cases broken
        exact ⟨[], id, rest, b, card, rfl, worked_nil.mpr rfl, found, ended, rfl⟩
      | ok answer =>
        rw [visit_done found ended] at broken ⊢
        cases later : ((b.modify id fun _ => (f card).2).visit f rest).1 with
        | ok answers =>
          rw [later] at broken
          cases broken
        | error other =>
          rw [later] at broken
          cases broken
          obtain ⟨done, last, back, before, struck, rfl, worked, met⟩ := ih later
          exact ⟨id :: done, last, back, before, struck, rfl, (worked_done found ended).mpr worked, met⟩

theorem Worked.contains {f : Card → Except Fault Unit × Card} {b after : Board} {targets : List EntityId}
    (worked : Worked f b targets after) : after.cards.contains = b.cards.contains := by
  funext id
  rw [Bool.eq_iff_iff, Table.contains_iff, Table.contains_iff, worked.keys]

theorem Worked.perm {f : Card → Except Fault Unit × Card} {b after : Board} {targets other : List EntityId}
    (worked : Worked f b targets after) (same : targets.Perm other) : Worked f b other after := by
  refine ⟨worked.pools, worked.next, worked.keys, ?_⟩
  intro id
  rw [worked.cards id, same.count_eq id]

end Board
end CardQuery
