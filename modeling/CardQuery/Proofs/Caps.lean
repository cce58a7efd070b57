import CardQuery.Proofs.Applying
import CardQuery.Proofs.Sparing

namespace CardQuery

namespace Number

theorem max_le {a b c : Int64} (left : a ≤ c) (right : b ≤ c) : max a b ≤ c := by
  show (if a ≤ b then b else a) ≤ c
  split
  · exact right
  · exact left

theorem min_le_right (a b : Int64) : min a b ≤ b := by
  show (if a ≤ b then a else b) ≤ b
  split
  · assumption
  · exact Int64.le_refl b

end Number

namespace Card

def WithinCap (c : Card) : Prop := ∀ cap, c.properties.maxHealth = some cap → c.properties.health ≤ cap

def isCapped (c : Card) : Bool := c.properties.maxHealth.isSome

end Card

namespace Action
variable {card : Card}

theorem strengthen_done {attack health : Int64} (done : (strengthen attack health card).1 = .ok ()) :
    ∃ sum raised, Number.add? card.properties.attack attack = some sum ∧
      Number.add? card.properties.health health = some raised ∧
      (card.properties.maxHealth = none ∧
          (strengthen attack health card).2 = withHealth (withAttack card sum) raised ∨
        ∃ cap moved, card.properties.maxHealth = some cap ∧ Number.add? cap health = some moved ∧
          (strengthen attack health card).2 = withCap (withHealth (withAttack card sum) raised) moved) := by
  simp only [strengthen] at done ⊢
  split at done
  · cases done
  · rename_i sum added
    split at done
    · cases done
    · rename_i raised lifted
      split at done
      · rename_i uncapped
        exact ⟨sum, raised, added, lifted, .inl ⟨uncapped, rfl⟩⟩
      · rename_i cap stops
        split at done
        · cases done
        · rename_i moved fits
          exact ⟨sum, raised, added, lifted, .inr ⟨cap, moved, stops, fits, rfl⟩⟩

section WithinCap
variable (within : card.WithinCap)
include within

theorem damage_withinCap {amount : Int64} (nonneg : 0 ≤ amount) : (damage amount card).2.WithinCap := by
  rw [damage]
  split
  · exact within
  · rename_i health fits
    intro cap capped
    have before := Int64.le_iff_toInt_le.mp (within cap capped)
    have lower := Int64.le_iff_toInt_le.mp nonneg
    have less := Number.sub?_eq_some.mp fits
    rw [Int64.toInt_zero] at lower
    exact Int64.le_iff_toInt_le.mpr (show health.toInt ≤ cap.toInt by omega)

theorem heal_withinCap (amount : Int64) : (heal amount card).2.WithinCap := by
  rw [heal]
  split
  · exact within
  · rename_i healed _
    split
    · rename_i uncapped
      intro cap capped
      cases uncapped.symm.trans capped
    · rename_i cap stops
      intro other capped
      cases stops.symm.trans capped
      exact Number.max_le (Number.min_le_right healed cap) (within cap stops)

-- The cap moves with the health.
theorem strengthen_withinCap {attack health : Int64} (done : (strengthen attack health card).1 = .ok ()) :
    (strengthen attack health card).2.WithinCap := by
  obtain ⟨sum, raised, _, lifted, shape⟩ := strengthen_done done
  rcases shape with ⟨uncapped, left⟩ | ⟨cap, moved, stops, fits, left⟩ <;> rw [left]
  · intro cap capped
    cases uncapped.symm.trans capped
  · intro other capped
    cases capped
    have before := Int64.le_iff_toInt_le.mp (within cap stops)
    have healthier := Number.add?_eq_some.mp lifted
    have higher := Number.add?_eq_some.mp fits
    exact Int64.le_iff_toInt_le.mpr (show raised.toInt ≤ moved.toInt by omega)

end WithinCap

theorem applyTo_isCapped (action : Action) (card : Card) : (action.applyTo card).2.isCapped = card.isCapped := by
  apply applyTo_kept Card.isCapped
  intro card
  cases action with
  | buff => exact Option.isSome_map
  | _ => rfl

end Action

namespace Board

-- Every card, whether it is shown in a pool or not.
def WithinCaps (b : Board) : Prop := ∀ id card, b.get? id = some card → card.WithinCap

-- A spell's damage is counted with its bonus as it is now.
def DamageNonneg (b : Board) (action : Action) : Prop :=
  ∀ total, b.resolve action = .ok (.dealDamage total) → 0 ≤ total

theorem resolved_withinCap {b : Board} {action resolved : Action} (settled : b.resolve action = .ok resolved)
    (nonneg : b.DamageNonneg action) {card : Card} (within : card.WithinCap)
    (done : (resolved.applyTo card).1 = .ok ()) : (resolved.applyTo card).2.WithinCap := by
  cases action with
  | dealDamage amount =>
    cases settled
    exact Action.damage_withinCap within (nonneg amount rfl)
  | dealSpellDamage amount caster =>
    obtain ⟨_, total, _, _, rfl⟩ := resolve_spell_eq_ok.mp settled
    exact Action.damage_withinCap within (nonneg total settled)
  | restoreHealth amount =>
    cases settled
    exact Action.heal_withinCap within amount
  | buff attack health =>
    cases settled
    exact Action.strengthen_withinCap within done
  | addTag | removeTag | moveTo | destroy | setOwner =>
    cases settled
    exact within

theorem apply_withinCaps {b : Board} {targets : ResultSet} {action : Action}
    (completes : (b.apply targets action).Completes) (nonneg : b.DamageNonneg action) (within : b.WithinCaps) :
    (b.apply targets action).board.WithinCaps := by
  obtain ⟨n, result⟩ := completes
  rcases apply_eq_ok.mp (Applied.outcome_of result) with ⟨_, _, same⟩ | ⟨resolved, settled, worked, _⟩
  · rw [same]
    exact within
  · intro id card found
    rw [worked.cards id] at found
    obtain ⟨before, there, changed⟩ := Option.bind_eq_some_iff.mp found
    exact repeated_holds (fun card => resolved_withinCap settled nonneg) (within id before there) changed

inductive Proceeds : Board → List (ResultSet × Action) → Board → Prop where
  | done (b : Board) : Proceeds b [] b
  | step {b after : Board} {targets : ResultSet} {action : Action} {rest : List (ResultSet × Action)}
      (completes : (b.apply targets action).Completes) (nonneg : b.DamageNonneg action)
      (onward : Proceeds (b.apply targets action).board rest after) : Proceeds b ((targets, action) :: rest) after

theorem Proceeds.withinCaps {b after : Board} {steps : List (ResultSet × Action)} (run : b.Proceeds steps after)
    (within : b.WithinCaps) : after.WithinCaps := by
  induction run with
  | done => exact within
  | step completes nonneg _ ih => exact ih (apply_withinCaps completes nonneg within)

theorem apply_isCapped (b : Board) (targets : ResultSet) (action : Action) (id : EntityId) :
    ((b.apply targets action).board.get? id).map Card.isCapped = (b.get? id).map Card.isCapped :=
  apply_view Action.applyTo_isCapped b targets action id

-- A buff that overflows at the cap has raised the health before, so the actions of a run have to complete.
theorem caps_kept :
    (∀ (b : Board) steps after, b.Proceeds steps after → b.WithinCaps → after.WithinCaps) ∧
    ∀ (b : Board) targets action id,
      ((b.apply targets action).board.get? id).map Card.isCapped = (b.get? id).map Card.isCapped :=
  ⟨fun _ _ _ run within => run.withinCaps within, apply_isCapped⟩

theorem brawl_withinCaps : brawl.WithinCaps := by
  intro id card found
  have listed : id ∈ [⟨0⟩, ⟨1⟩] := Table.mem_keys.mpr ⟨card, found⟩
  simp only [List.mem_cons, List.not_mem_nil, or_false] at listed
  rcases listed with rfl | rfl
  · cases found
    intro cap capped
    cases capped
    decide
  · cases found
    intro cap capped
    cases capped

-- A spell that takes the minion's health below zero, a buff that takes two from its cap, and healing past it.
theorem brawl_kept :
    let steps : List (ResultSet × Action) :=
      [(⟨[⟨0⟩, ⟨7⟩, ⟨0⟩]⟩, .dealSpellDamage 1 .first), (⟨[⟨1⟩, ⟨0⟩]⟩, .buff 0 (-2)), (⟨[⟨0⟩]⟩, .restoreHealth 9)]
    let after := (brawl.run (steps.map fun step => .apply step.1 step.2)).2
    brawl.WithinCaps ∧ brawl.Proceeds steps after ∧ after.WithinCaps ∧
      (after.get? ⟨0⟩).map (fun card => (card.properties.health, card.properties.maxHealth)) = some (3, some 3) := by
  intro steps after
  have run : brawl.Proceeds steps after := by
    refine .step ⟨2, rfl⟩ ?_ (.step ⟨2, rfl⟩ ?_ (.step ⟨1, rfl⟩ ?_ (.done _)))
    · intro total settled
      have spell : brawl.resolve (.dealSpellDamage 1 .first) = .ok (.dealDamage 3) := rfl
      cases settled.symm.trans spell
      decide
    all_goals
      intro total settled
      cases settled
  exact ⟨brawl_withinCaps, run, caps_kept.1 brawl steps after run brawl_withinCaps, rfl⟩

end Board
end CardQuery
