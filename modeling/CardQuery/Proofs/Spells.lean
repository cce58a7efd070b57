import CardQuery.Proofs.Shifting

namespace CardQuery

def Card.spellPower (caster : PlayerId) (c : Card) : Int :=
  if c.owner = caster ∧ c.zone = .play then c.properties.spellDamage.toInt else 0

namespace Board
open CardQuery.Action Number
variable {caster : PlayerId}

section Sum

def spellPower (caster : PlayerId) : List Card → Int
  | [] => 0
  | c :: cards => c.spellPower caster + spellPower caster cards

theorem spellPower_nil (caster : PlayerId) : spellPower caster [] = 0 := rfl

theorem spellPower_cons (c : Card) (cards : List Card) :
    spellPower caster (c :: cards) = c.spellPower caster + spellPower caster cards := rfl

theorem spellPower_append (cards others : List Card) :
    spellPower caster (cards ++ others) = spellPower caster cards + spellPower caster others := by
  induction cards with
  | nil => exact (Int.zero_add _).symm
  | cons c rest ih => rw [List.cons_append, spellPower_cons, spellPower_cons, ih, Int.add_assoc]

-- The cards of both pools count, whosever pool it is.
theorem spellPower_allCards (caster : PlayerId) (b : Board) : spellPower caster b.allCards =
    spellPower caster (b.pools.first.filterMap b.get?) + spellPower caster (b.pools.second.filterMap b.get?) := by
  rw [← spellPower_append, ← List.filterMap_append]
  simp [allCards, Seats.toList]

def spellStats (caster : PlayerId) (cards : List Card) : List Int64 :=
  (cards.filter fun c => c.owner == caster && c.zone == .play).map (·.properties.spellDamage)

-- A card that is passed over is as one that adds nothing.
theorem sumStats_cons (total : Int64) (c : Card) (cards : List Card) :
    sumStats total (spellStats caster (c :: cards)) =
      match ofInt? (total.toInt + c.spellPower caster) with
      | none => .error .addOverflow
      | some next => sumStats next (spellStats caster cards) := by
  by_cases counts : c.owner = caster ∧ c.zone = .play
  · have stats : spellStats caster (c :: cards) = c.properties.spellDamage :: spellStats caster cards := by
      simp [spellStats, counts]
    rw [stats, sumStats, Card.spellPower, if_pos counts]
    rfl
  · have stats : spellStats caster (c :: cards) = spellStats caster cards := by
      simp [spellStats, counts]
    have same : ofInt? (total.toInt + 0) = some total := ofInt?_eq_some.mpr (Int.add_zero _).symm
    rw [stats, Card.spellPower, if_neg counts, same]

theorem forall_prefix_cons {P : List α → Prop} {a : α} {l : List α} :
    (∀ front, front <+: a :: l → P front) ↔ P [] ∧ ∀ front, front <+: l → P (a :: front) := by
  constructor
  · intro all
    exact ⟨all [] List.nil_prefix, fun front leads => all _ (List.cons_prefix_cons.mpr ⟨rfl, leads⟩)⟩
  · intro all front leads
    obtain rfl | ⟨rest, rfl, within⟩ := List.prefix_cons_iff.mp leads
    · exact all.1
    · exact all.2 rest within

-- All running sums have to fit, not only the last.
theorem sumStats_eq_ok {total bonus : Int64} {cards : List Card} :
    sumStats total (spellStats caster cards) = .ok bonus ↔
      (∀ front, front <+: cards → Fits (total.toInt + spellPower caster front)) ∧
        bonus.toInt = total.toInt + spellPower caster cards := by
  induction cards generalizing total with
  | nil =>
    have start : spellStats caster [] = [] := rfl
    simp [start, sumStats, spellPower_nil, toInt_fits, Int64.toInt_inj, eq_comm]
  | cons c rest ih =>
    have start : Fits (total.toInt + spellPower caster []) := by
      rw [spellPower_nil, Int.add_zero]
      exact toInt_fits total
    rw [sumStats_cons, forall_prefix_cons, and_iff_right start]
    simp only [spellPower_cons, ← Int.add_assoc]
    cases added : ofInt? (total.toInt + c.spellPower caster) with
    | none =>
      refine iff_of_false ?_ ?_
      · intro told
        cases told
      · intro all
        have first := all.1 [] List.nil_prefix
        rw [spellPower_nil, Int.add_zero] at first
        obtain ⟨next, exact⟩ := exists_toInt.mpr first
        cases added.symm.trans (ofInt?_eq_some.mpr exact)
    | some next =>
      rw [← ofInt?_eq_some.mp added]
      exact ih

end Sum

-- Every running sum is a 64-bit integer, and so is the damage.
structure Reckoned (b : Board) (amount : Int64) (caster : PlayerId) : Prop where
  running : ∀ front, front <+: b.allCards → Fits (spellPower caster front)
  whole : Fits (amount.toInt + spellPower caster b.allCards)

section Resolve
variable {b : Board} {amount : Int64}

theorem spellBonus_eq_ok {bonus : Int64} : b.spellBonus caster = .ok bonus ↔
    (∀ front, front <+: b.allCards → Fits (spellPower caster front)) ∧ bonus.toInt = spellPower caster b.allCards := by
  have summed := @sumStats_eq_ok caster 0 bonus b.allCards
  simp only [Int64.toInt_zero, Int.zero_add] at summed
  exact summed

theorem resolve_spell_iff {resolved : Action} : b.resolve (.dealSpellDamage amount caster) = .ok resolved ↔
    b.Reckoned amount caster ∧ ∃ total : Int64, total.toInt = amount.toInt + spellPower caster b.allCards ∧
      resolved = .dealDamage total := by
  rw [resolve_spell_eq_ok]
  constructor
  · intro settled
    obtain ⟨bonus, total, summed, added, same⟩ := settled
    obtain ⟨running, exact⟩ := spellBonus_eq_ok.mp summed
    have whole := add?_eq_some.mp added
    rw [exact] at whole
    exact ⟨⟨running, exists_toInt.mp ⟨total, whole⟩⟩, total, whole, same⟩
  · intro settled
    obtain ⟨reckoned, total, whole, same⟩ := settled
    obtain ⟨bonus, exact⟩ := exists_toInt.mpr (reckoned.running b.allCards List.prefix_rfl)
    refine ⟨bonus, total, spellBonus_eq_ok.mpr ⟨reckoned.running, exact⟩, add?_eq_some.mpr ?_, same⟩
    rw [exact, whole]

theorem resolve_unreckoned (beyond : ¬ b.Reckoned amount caster) :
    b.resolve (.dealSpellDamage amount caster) = .error .addOverflow := by
  cases settled : b.resolve (.dealSpellDamage amount caster) with
  | error fault => rw [resolve_fault settled]
  | ok resolved => exact absurd (resolve_spell_iff.mp settled).1 beyond

end Resolve

structure Struck (total : Int64) (b : Board) (hit : List EntityId) (after : Board) : Prop where
  pools : after.pools = b.pools
  next : after.next = b.next
  keys : after.cards.keys = b.cards.keys
  cards : ∀ id card, b.get? id = some card → ∃ health : Int64,
    health.toInt = card.healthInt - hit.count id * total.toInt ∧ after.get? id = some (withHealth card health)

theorem Worked.struck {total : Int64} {b after : Board} {hit : List EntityId} (worked : Worked (damage total) b hit after) :
    Struck total b hit after := by
  refine ⟨worked.pools, worked.next, worked.keys, ?_⟩
  intro id card found
  obtain ⟨changed, left, made⟩ := worked.made found
  obtain ⟨health, exact, rfl⟩ := repeated_damage.mp made
  exact ⟨health, exact, left⟩

-- Damage is dealt to all members, or to those before the first card that it cannot be taken from.
inductive Dealt (total : Int64) (b : Board) (targets : List EntityId) : Except Fault Nat → Board → Prop where
  | all {after : Board} : Struck total b targets after → Dealt total b targets (.ok (targets.countP b.cards.contains)) after
  | stopped {hit rest : List EntityId} {id : EntityId} {after : Board} {card : Card} :
      targets = hit ++ id :: rest → Struck total b hit after → after.get? id = some card →
      ¬ Fits (card.healthInt - total.toInt) → Dealt total b targets (.error .subOverflow) after

theorem apply_dealt (b : Board) (targets : ResultSet) (total : Int64) :
    Dealt total b targets.ids (b.apply targets (.dealDamage total)).result (b.apply targets (.dealDamage total)).board := by
  have settled : b.resolve (.dealDamage total) = .ok (.dealDamage total) := rfl
  have applied : (Action.dealDamage total).applyTo = damage total := rfl
  rw [apply_result targets settled, apply_board targets settled, applied]
  cases visited : (b.visit (damage total) targets.ids).1 with
  | ok answers =>
    obtain ⟨worked, counted⟩ := visit_eq_ok.mp ⟨congrArg (·.map List.length) visited, rfl⟩
    rw [Except.map, counted]
    exact .all worked.struck
  | error fault =>
    obtain ⟨hit, id, rest, before, card, split, worked, found, broken, left⟩ := visit_stopped visited
    have beyond : ¬ Fits (card.healthInt - total.toInt) := by
      intro fits
      obtain ⟨health, exact⟩ := exists_toInt.mpr fits
      rw [damage_done exact] at broken
      cases broken
    rw [damage_broken beyond] at broken left
    cases broken
    rw [left, modify_same found]
    exact .stopped split worked.struck found beyond

-- The bonus is summed up once, before any card is hit.
theorem spell_resolved (b : Board) (targets : ResultSet) (amount : Int64) (caster : PlayerId) :
    let spell := b.apply targets (.dealSpellDamage amount caster)
    let power := spellPower caster (b.pools.first.filterMap b.get?) + spellPower caster (b.pools.second.filterMap b.get?)
    (targets.ids = [] → spell = ⟨.ok 0, b, []⟩) ∧
    (targets.ids ≠ [] → b.Reckoned amount caster → ∃ total : Int64, total.toInt = amount.toInt + power ∧
      spell = b.apply targets (.dealDamage total) ∧ Dealt total b targets.ids spell.result spell.board) ∧
    (targets.ids ≠ [] → ¬ b.Reckoned amount caster → spell.outcome = (.error .addOverflow, b)) := by
  intro spell power
  refine ⟨?_, ?_, ?_⟩
  · intro none
    obtain ⟨ids⟩ := targets
    cases none
    rfl
  · intro members reckoned
    obtain ⟨total, exact⟩ := exists_toInt.mpr reckoned.whole
    have settled := resolve_spell_iff.mpr ⟨reckoned, total, exact, rfl⟩
    have same : spell = b.apply targets (.dealDamage total) := apply_as_resolved members settled rfl
    rw [spellPower_allCards] at exact
    exact ⟨total, exact, same, same ▸ apply_dealt b targets total⟩
  · intro members beyond
    exact apply_unresolved members (resolve_unreckoned beyond)

-- A card that was stolen from the second player adds to the first one's spells, and is hit by them.
def heist : Board := (brawl.perform (.spawn .second
  { id := ⟨2⟩, type := .minion, properties := { name := "Kobold", health := 2, spellDamage := 2 } } .first .play)).2

theorem heist_struck :
    let targets : ResultSet := ⟨[⟨0⟩, ⟨2⟩, ⟨0⟩, ⟨9⟩]⟩
    targets.ids ≠ [] ∧ heist.Reckoned 1 .first ∧
    heist.apply targets (.dealSpellDamage 1 .first) = heist.apply targets (.dealDamage 5) ∧
    (heist.apply targets (.dealSpellDamage 1 .first)).result = .ok 3 := by
  intro targets
  have members : targets.ids ≠ [] := List.cons_ne_nil _ _
  have settled : heist.resolve (.dealSpellDamage 1 .first) = .ok (.dealDamage 5) := rfl
  have reckoned := (resolve_spell_iff.mp settled).1
  obtain ⟨total, exact, same, _⟩ := (spell_resolved heist targets 1 .first).2.1 members reckoned
  have five : total = 5 := Int64.toInt_inj.mp exact
  exact ⟨members, reckoned, five ▸ same, rfl⟩

end Board
end CardQuery
