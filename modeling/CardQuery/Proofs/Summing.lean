import CardQuery.Proofs.Shifting
import Mathlib.Data.List.Nodup

namespace CardQuery

namespace Action
open Number
variable {x y z : Int64} {card next last : Card} {n : Nat}

-- A cap that stops the first healing stops the second, and one that stops the second stops both at once.
theorem healedTo_joined (nonneg : 0 ≤ x ∧ 0 ≤ y) (sum : z.toInt = x.toInt + y.toInt)
    (health : next.healthInt = card.healedTo x n) (same : next.properties.maxHealth = card.properties.maxHealth) :
    next.healedTo y n = card.healedTo z n := by
  have first : 0 ≤ n * x.toInt := Int.mul_nonneg (Int.natCast_nonneg n) (nonneg_iff.mp nonneg.1)
  have second : 0 ≤ n * y.toInt := Int.mul_nonneg (Int.natCast_nonneg n) (nonneg_iff.mp nonneg.2)
  have whole : n * z.toInt = n * x.toInt + n * y.toInt := by rw [sum, Int.mul_add]
  cases stops : card.properties.maxHealth with
  | none =>
    rw [Card.healedTo_uncapped _ _ stops] at health
    rw [Card.healedTo_uncapped _ _ stops, Card.healedTo_uncapped _ _ (same.trans stops)]
    omega
  | some cap =>
    rw [Card.healedTo_capped _ _ stops] at health
    rw [Card.healedTo_capped _ _ stops, Card.healedTo_capped _ _ (same.trans stops)]
    omega

theorem repeated_mended (made : Board.repeated (heal x) n card = some next) : Mended x card next :=
  Board.repeated_holds (fun healed mended _ => mended_trans mended (heal_mended x healed)) (mended_refl x card) made

-- Healing changes the health only, so it is known by the health it ends with.
theorem healed_unique {other : Card} (first : next = withHealth card next.properties.health)
    (second : other = withHealth card other.properties.health) (same : next.healthInt = other.healthInt) : next = other := by
  rw [first, second, Int64.toInt_inj.mp same]

theorem repeated_heal_joined (nonneg : 0 ≤ x ∧ 0 ≤ y) (sum : z.toInt = x.toInt + y.toInt)
    (stands : (Board.repeated (heal z) n card).isSome) (first : Board.repeated (heal x) n card = some next)
    (second : Board.repeated (heal y) n next = some last) : Board.repeated (heal z) n card = some last := by
  obtain ⟨whole, made⟩ := Option.isSome_iff_exists.mp stands
  have mended := repeated_mended first
  have frame : last = withHealth card last.properties.health := by
    rw [(repeated_mended second).frame, mended.frame]
    rfl
  have health : whole.healthInt = last.healthInt := by
    rw [repeated_heal made, repeated_heal second]
    exact (healedTo_joined nonneg sum (repeated_heal first) mended.maxHealth).symm
  rw [made, healed_unique (repeated_mended made).frame frame health]

-- What damage took is given back under a cap that was not in the way.
theorem heal_damaged (nonneg : 0 ≤ x) (within : card.WithinCap) (struck : Board.repeated (damage x) 1 card = some next) :
    Board.repeated (heal x) 1 next = some card := by
  have gives := nonneg_iff.mp nonneg
  obtain ⟨health, exact, rfl⟩ := repeated_damage.mp struck
  rw [Int.natCast_one, Int.one_mul] at exact
  have sum : (withHealth card health).healthInt + x.toInt = card.healthInt := by
    show health.toInt + x.toInt = _
    omega
  have done : (heal x (withHealth card health)).1 = .ok () := by
    rw [heal_done, sum]
    exact toInt_fits _
  have healed : (heal x (withHealth card health)).2.healthInt = card.healthInt := by
    cases stops : card.properties.maxHealth with
    | none => rw [heal_uncapped done stops, sum]
    | some cap =>
      have below : card.healthInt ≤ cap.toInt := Int64.le_iff_toInt_le.mp (within cap stops)
      rw [heal_capped done stops, sum]
      show max health.toInt _ = _
      omega
  rw [Board.repeated, done, Board.repeated_zero, healed_unique (heal_card x _) rfl healed]

end Action

namespace Board
open CardQuery.Action Number

section Worked
variable {f g h : Card → Except Fault Unit × Card} {b middle after : Board} {targets : List EntityId}

theorem Worked.joined (earlier : Worked f b targets middle) (later : Worked g middle targets after)
    (step : ∀ id card next last, b.get? id = some card → repeated f (targets.count id) card = some next →
      repeated g (targets.count id) next = some last → repeated h (targets.count id) card = some last) :
    Worked h b targets after := by
  refine ⟨later.pools.trans earlier.pools, later.next.trans earlier.next, later.keys.trans earlier.keys, ?_⟩
  intro id
  cases found : b.get? id with
  | none =>
    rw [later.cards, earlier.cards, found]
    rfl
  | some card =>
    obtain ⟨next, there, first⟩ := earlier.made found
    obtain ⟨last, left, second⟩ := later.made there
    rw [left, Option.bind_some, step id card next last found first second]

theorem Worked.back (earlier : Worked f b targets middle)
    (step : ∀ id card next, b.get? id = some card → repeated f (targets.count id) card = some next →
      repeated g (targets.count id) next = some card) : Worked g middle targets b := by
  refine ⟨earlier.pools.symm, earlier.next.symm, earlier.keys.symm, ?_⟩
  intro id
  cases found : b.get? id with
  | none =>
    rw [earlier.cards, found]
    rfl
  | some card =>
    obtain ⟨next, there, made⟩ := earlier.made found
    rw [there, Option.bind_some, step id card next found made]

end Worked

def inTurn (b : Board) (targets : ResultSet) (first second : Action) : Applied :=
  (b.apply targets first).board.apply targets second

section InTurn
variable {b : Board} {targets : ResultSet} {first second both : Action}
  (settled : ∀ board : Board, board.resolve first = .ok first ∧ board.resolve second = .ok second)
  (completes : (b.apply targets first).Completes)
include settled completes

theorem inTurn_joined (plain : b.resolve both = .ok both) (again : (b.inTurn targets first second).Completes)
    (step : ∀ id card next last, b.get? id = some card → repeated first.applyTo (targets.ids.count id) card = some next →
      repeated second.applyTo (targets.ids.count id) next = some last →
      repeated both.applyTo (targets.ids.count id) card = some last) :
    (b.apply targets both).outcome = (b.inTurn targets first second).outcome := by
  have earlier := apply_worked (settled b).1 completes
  obtain ⟨n, told⟩ := again
  obtain ⟨later, counted⟩ := (apply_resolved_eq_ok (settled _).2).mp (Applied.outcome_of told)
  rw [earlier.contains] at counted
  exact ((apply_resolved_eq_ok plain).mpr ⟨earlier.joined later step, counted⟩).trans (Applied.outcome_of told).symm

theorem inTurn_back
    (step : ∀ id card next, b.get? id = some card → repeated first.applyTo (targets.ids.count id) card = some next →
      repeated second.applyTo (targets.ids.count id) next = some card) :
    (b.inTurn targets first second).outcome = ((b.apply targets first).result, b) := by
  obtain ⟨n, told⟩ := completes
  obtain ⟨earlier, counted⟩ := (apply_resolved_eq_ok (settled b).1).mp (Applied.outcome_of told)
  rw [← earlier.contains] at counted
  rw [told]
  exact (apply_resolved_eq_ok (settled _).2).mpr ⟨earlier.back step, counted⟩

section Shift
variable {s t u : Stat → Int} (shifts : Shifts first.applyTo s ∧ Shifts second.applyTo t)
include shifts

theorem shift_joined (plain : b.resolve both = .ok both) (whole : Shifts both.applyTo u)
    (sum : ∀ stat, u stat = s stat + t stat) (again : (b.inTurn targets first second).Completes) :
    (b.apply targets both).outcome = (b.inTurn targets first second).outcome := by
  apply inTurn_joined settled completes plain again
  intro id card next last _ earlier later
  rw [repeated_shifts shifts.1] at earlier
  rw [repeated_shifts shifts.2] at later
  rw [repeated_shifts whole]
  refine (earlier.then_iff ?_).mp later
  intro stat
  rw [sum, Int.mul_add]

theorem shift_back (opposite : ∀ stat, s stat + t stat = 0) :
    (b.inTurn targets first second).outcome = ((b.apply targets first).result, b) := by
  apply inTurn_back settled completes
  intro id card next _ made
  rw [repeated_shifts shifts.1] at made
  rw [repeated_shifts shifts.2]
  refine (made.then_iff fun _ => rfl).mpr (shifted_refl ?_ card)
  intro stat
  rw [← Int.mul_add, opposite, Int.mul_zero]

end Shift
end InTurn

section Laws
variable {b : Board} {targets : ResultSet}

theorem damage_joined {x y z : Int64} (sum : z.toInt = x.toInt + y.toInt)
    (completes : (b.apply targets (.dealDamage x)).Completes)
    (again : (b.inTurn targets (.dealDamage x) (.dealDamage y)).Completes) :
    (b.apply targets (.dealDamage z)).outcome = (b.inTurn targets (.dealDamage x) (.dealDamage y)).outcome := by
  refine shift_joined (fun _ => ⟨rfl, rfl⟩) completes ⟨damage_shifts x, damage_shifts y⟩ rfl (damage_shifts z) ?_ again
  intro stat
  cases stat with
  | attack | cap => rfl
  | health =>
    show -z.toInt = -x.toInt + -y.toInt
    omega

section Buff
variable {x y x' y' : Int64}

theorem buff_joined {attack health : Int64} (sums : attack.toInt = x.toInt + x'.toInt ∧ health.toInt = y.toInt + y'.toInt)
    (completes : (b.apply targets (.buff x y)).Completes) (again : (b.inTurn targets (.buff x y) (.buff x' y')).Completes) :
    (b.apply targets (.buff attack health)).outcome = (b.inTurn targets (.buff x y) (.buff x' y')).outcome := by
  refine shift_joined (fun _ => ⟨rfl, rfl⟩) completes ⟨strengthen_shifts x y, strengthen_shifts x' y'⟩ rfl
    (strengthen_shifts attack health) ?_ again
  intro stat
  cases stat with
  | attack => exact sums.1
  | health | cap => exact sums.2

theorem buff_back (opposite : x'.toInt = -x.toInt ∧ y'.toInt = -y.toInt)
    (completes : (b.apply targets (.buff x y)).Completes) :
    (b.inTurn targets (.buff x y) (.buff x' y')).outcome = ((b.apply targets (.buff x y)).result, b) := by
  refine shift_back (fun _ => ⟨rfl, rfl⟩) completes ⟨strengthen_shifts x y, strengthen_shifts x' y'⟩ ?_
  intro stat
  cases stat with
  | attack =>
    show x.toInt + x'.toInt = 0
    omega
  | health | cap =>
    show y.toInt + y'.toInt = 0
    omega

end Buff

theorem healing_joined {x y z : Int64} (nonneg : 0 ≤ x ∧ 0 ≤ y) (sum : z.toInt = x.toInt + y.toInt)
    (completes : (b.apply targets (.restoreHealth x)).Completes)
    (again : (b.inTurn targets (.restoreHealth x) (.restoreHealth y)).Completes)
    (whole : (b.apply targets (.restoreHealth z)).Completes) :
    (b.apply targets (.restoreHealth z)).outcome = (b.inTurn targets (.restoreHealth x) (.restoreHealth y)).outcome := by
  refine inTurn_joined (fun _ => ⟨rfl, rfl⟩) completes rfl again ?_
  intro id card next last found
  have stands : Stands (restoreHealth z).applyTo b targets.ids := (apply_completes rfl).mp whole
  exact repeated_heal_joined nonneg sum (stands id card found)

theorem damage_back {x : Int64} (nonneg : 0 ≤ x) (once : targets.ids.Nodup)
    (within : ∀ id ∈ targets.ids, ∀ card, b.get? id = some card → card.WithinCap)
    (completes : (b.apply targets (.dealDamage x)).Completes) :
    (b.inTurn targets (.dealDamage x) (.restoreHealth x)).outcome = ((b.apply targets (.dealDamage x)).result, b) := by
  refine inTurn_back (fun _ => ⟨rfl, rfl⟩) completes ?_
  intro id card next found made
  by_cases listed : id ∈ targets.ids
  · rw [List.count_eq_one_of_mem once listed] at made ⊢
    exact heal_damaged nonneg (within id listed card found) made
  · rw [List.count_eq_zero.mpr listed, repeated_zero] at made ⊢
    exact made.symm

end Laws

theorem stats_composed (b : Board) (targets : ResultSet) :
    (∀ x y z : Int64, z.toInt = x.toInt + y.toInt → (b.apply targets (.dealDamage x)).Completes →
      (b.inTurn targets (.dealDamage x) (.dealDamage y)).Completes →
      (b.apply targets (.dealDamage z)).outcome = (b.inTurn targets (.dealDamage x) (.dealDamage y)).outcome) ∧
    (∀ x y x' y' attack health : Int64, attack.toInt = x.toInt + x'.toInt ∧ health.toInt = y.toInt + y'.toInt →
      (b.apply targets (.buff x y)).Completes → (b.inTurn targets (.buff x y) (.buff x' y')).Completes →
      (b.apply targets (.buff attack health)).outcome = (b.inTurn targets (.buff x y) (.buff x' y')).outcome) ∧
    (∀ x y x' y' : Int64, x'.toInt = -x.toInt ∧ y'.toInt = -y.toInt → (b.apply targets (.buff x y)).Completes →
      (b.inTurn targets (.buff x y) (.buff x' y')).outcome = ((b.apply targets (.buff x y)).result, b)) ∧
    (∀ x y z : Int64, 0 ≤ x ∧ 0 ≤ y → z.toInt = x.toInt + y.toInt → (b.apply targets (.restoreHealth x)).Completes →
      (b.inTurn targets (.restoreHealth x) (.restoreHealth y)).Completes →
      (b.apply targets (.restoreHealth z)).Completes →
      (b.apply targets (.restoreHealth z)).outcome = (b.inTurn targets (.restoreHealth x) (.restoreHealth y)).outcome) ∧
    (∀ x : Int64, 0 ≤ x → targets.ids.Nodup →
      (∀ id ∈ targets.ids, ∀ card, b.get? id = some card → card.WithinCap) →
      (b.apply targets (.dealDamage x)).Completes →
      (b.inTurn targets (.dealDamage x) (.restoreHealth x)).outcome = ((b.apply targets (.dealDamage x)).result, b)) := by
  refine ⟨?_, ?_, ?_, ?_, ?_⟩
  · intro x y z sum
    exact damage_joined sum
  · intro x y x' y' attack health sums
    exact buff_joined sums
  · intro x y x' y' opposite
    exact buff_back opposite
  · intro x y z nonneg sum
    exact healing_joined nonneg sum
  · intro x nonneg once within
    exact damage_back nonneg once within

-- A minion with a cap is listed twice, but for the last.
theorem brawl_composed :
    let targets : ResultSet := ⟨[⟨0⟩, ⟨1⟩, ⟨0⟩, ⟨9⟩]⟩
    (brawl.apply targets (.dealDamage 3)).outcome = (brawl.inTurn targets (.dealDamage 1) (.dealDamage 2)).outcome ∧
    (brawl.apply targets (.buff 4 1)).outcome = (brawl.inTurn targets (.buff 1 2) (.buff 3 (-1))).outcome ∧
    (brawl.inTurn targets (.buff 1 2) (.buff (-1) (-2))).outcome = (.ok 3, brawl) ∧
    (brawl.apply targets (.restoreHealth 5)).outcome =
      (brawl.inTurn targets (.restoreHealth 2) (.restoreHealth 3)).outcome ∧
    (brawl.inTurn ⟨[⟨1⟩, ⟨0⟩]⟩ (.dealDamage 4) (.restoreHealth 4)).outcome = (.ok 2, brawl) := by
  intro targets
  obtain ⟨damage, buff, opposite, healing, _⟩ := stats_composed brawl targets
  obtain ⟨_, _, _, _, undone⟩ := stats_composed brawl ⟨[⟨1⟩, ⟨0⟩]⟩
  refine ⟨?_, ?_, ?_, ?_, ?_⟩
  · exact damage 1 2 3 rfl ⟨3, rfl⟩ ⟨3, rfl⟩
  · exact buff 1 2 3 (-1) 4 1 ⟨rfl, rfl⟩ ⟨3, rfl⟩ ⟨3, rfl⟩
  · exact opposite 1 2 (-1) (-2) ⟨rfl, rfl⟩ ⟨3, rfl⟩
  · exact healing 2 3 5 (by decide) rfl ⟨3, rfl⟩ ⟨3, rfl⟩ ⟨3, rfl⟩
  · exact undone 4 (by decide) (by decide) (fun id _ => brawl_withinCaps id) ⟨2, rfl⟩

-- At a cap the whole can overflow where the parts do not.
example : (brawl.inTurn ⟨[⟨0⟩]⟩ (.restoreHealth 0x4000000000000000) (.restoreHealth 0x3fffffffffffffff)).result = .ok 1 ∧
    (brawl.apply ⟨[⟨0⟩]⟩ (.restoreHealth 0x7fffffffffffffff)).result = .error .addOverflow :=
  ⟨rfl, rfl⟩

end Board
end CardQuery
