import CardQuery.Proofs.Framing
import CardQuery.Proofs.Healing

namespace CardQuery
open CardQuery.Action Number

inductive Stat where
  | attack | health | cap

-- The stats that a card has, over all integers.
def Card.stat? (c : Card) : Stat → Option Int
  | .attack => some c.properties.attack.toInt
  | .health => some c.healthInt
  | .cap => c.properties.maxHealth.map Int64.toInt

theorem stat?_fits {card : Card} {stat : Stat} {n : Int} (has : card.stat? stat = some n) : Fits n := by
  cases stat with
  | attack | health =>
    cases has
    exact toInt_fits _
  | cap =>
    obtain ⟨cap, _, rfl⟩ := Option.map_eq_some_iff.mp has
    exact toInt_fits cap

theorem Card.ext_stats {card other : Card} (statless : card.statless = other.statless)
    (stats : ∀ stat, card.stat? stat = other.stat? stat) : card = other := by
  have attack : card.properties.attack = other.properties.attack := Int64.toInt_inj.mp (Option.some.inj (stats .attack))
  have health : card.properties.health = other.properties.health := Int64.toInt_inj.mp (Option.some.inj (stats .health))
  have cap : card.properties.maxHealth = other.properties.maxHealth :=
    Option.map_injective (fun _ _ => Int64.toInt_inj.mp) (stats .cap)
  obtain ⟨_, _, _, _, _, _, _, _, properties⟩ := card
  obtain ⟨_, _, _, _, _, _, _, _, otherProperties⟩ := other
  cases properties
  cases otherProperties
  simp_all [Card.statless]

structure Shifted (s : Stat → Int) (card changed : Card) : Prop where
  statless : changed.statless = card.statless
  stats : ∀ stat, changed.stat? stat = (card.stat? stat).map (· + s stat)

section Shifted
variable {s t u : Stat → Int} {card next last : Card}

theorem Shifted.unique (one : Shifted s card next) (other : Shifted s card last) : next = last :=
  Card.ext_stats (one.statless.trans other.statless.symm) fun stat => (one.stats stat).trans (other.stats stat).symm

theorem shifted_refl (still : ∀ stat, s stat = 0) (card : Card) : Shifted s card card := by
  refine ⟨rfl, ?_⟩
  intro stat
  rw [still]
  cases card.stat? stat <;> simp

theorem Shifted.then_iff (first : Shifted s card next) (sum : ∀ stat, u stat = s stat + t stat) :
    Shifted t next last ↔ Shifted u card last := by
  have stats (stat : Stat) : (next.stat? stat).map (· + t stat) = (card.stat? stat).map (· + u stat) := by
    rw [first.stats, sum]
    cases card.stat? stat with
    | none => rfl
    | some n => simp [Int.add_assoc]
  constructor
  · intro later
    exact ⟨later.statless.trans first.statless, fun stat => (later.stats stat).trans (stats stat)⟩
  · intro both
    exact ⟨both.statless.trans first.statless.symm, fun stat => (both.stats stat).trans (stats stat).symm⟩

theorem exists_shifted : (∃ changed, Shifted s card changed) ↔ ∀ stat n, card.stat? stat = some n → Fits (n + s stat) := by
  constructor
  · intro moves stat n has
    obtain ⟨changed, shifted⟩ := moves
    have moved := shifted.stats stat
    rw [has, Option.map_some] at moved
    exact stat?_fits moved
  · intro fits
    obtain ⟨attack, sum⟩ := exists_toInt.mpr (fits .attack _ rfl)
    obtain ⟨health, raised⟩ := exists_toInt.mpr (fits .health _ rfl)
    cases stops : card.properties.maxHealth with
    | none =>
      refine ⟨withHealth (withAttack card attack) health, rfl, ?_⟩
      intro stat
      cases stat with
      | attack => exact congrArg some sum
      | health => exact congrArg some raised
      | cap => simp [Card.stat?, withHealth, withAttack, stops]
    | some cap =>
      obtain ⟨moved, higher⟩ := exists_toInt.mpr (fits .cap _ (congrArg (·.map Int64.toInt) stops))
      refine ⟨withCap (withHealth (withAttack card attack) health) moved, ?_, ?_⟩
      · simp [Card.statless, withCap, withHealth, withAttack, stops]
      · intro stat
        cases stat with
        | attack => exact congrArg some sum
        | health => exact congrArg some raised
        | cap => simp [Card.stat?, withCap, stops, higher]

theorem shifted_health (attack : s .attack = 0) (cap : s .cap = 0) : Shifted s card next ↔
    ∃ health : Int64, health.toInt = card.healthInt + s .health ∧ next = withHealth card health := by
  have shifted {health : Int64} (exact : health.toInt = card.healthInt + s .health) :
      Shifted s card (withHealth card health) := by
    refine ⟨rfl, ?_⟩
    intro stat
    cases stat with
    | attack => simp [Card.stat?, withHealth, attack]
    | health => exact congrArg some exact
    | cap => cases stops : card.properties.maxHealth <;> simp [Card.stat?, withHealth, cap, stops]
  constructor
  · intro moved
    have exact : next.properties.health.toInt = card.healthInt + s .health := Option.some.inj (moved.stats .health)
    exact ⟨next.properties.health, exact, moved.unique (shifted exact)⟩
  · intro raised
    obtain ⟨health, exact, rfl⟩ := raised
    exact shifted exact

end Shifted

-- A change that shifts the cards of which all sums fit, and breaks at every other.
structure Shifts (f : Card → Except Fault Unit × Card) (s : Stat → Int) : Prop where
  shifted : ∀ {card}, (f card).1 = .ok () → Shifted s card (f card).2
  done : ∀ {card changed}, Shifted s card changed → (f card).1 = .ok ()

-- Between the first and the last sum lie all others.
theorem fits_between {n : Nat} {start step : Int} (first : Fits start) (last : Fits (start + ((n + 1 : Nat) : Int) * step)) :
    Fits (start + step) := by
  rw [scaled_succ] at last
  unfold Fits at *
  rcases scaled_cases n step with falls | rises <;> omega

theorem repeated_shifts {f : Card → Except Fault Unit × Card} {s : Stat → Int} (shifts : Shifts f s) {n : Nat}
    {card changed : Card} :
    Board.repeated f n card = some changed ↔ Shifted (fun stat => n * s stat) card changed := by
  induction n generalizing card with
  | zero =>
    have still : Shifted (fun stat => (0 : Nat) * s stat) card card := shifted_refl (fun stat => Int.zero_mul _) card
    rw [Board.repeated_zero, Option.some.injEq]
    constructor
    · intro same
      exact same ▸ still
    · intro moved
      exact still.unique moved
  | succ n ih =>
    cases worked : (f card).1 with
    | ok answer =>
      have sum (stat : Stat) : ((n + 1 : Nat) : Int) * s stat = s stat + n * s stat := by rw [scaled_succ, Int.add_comm]
      rw [Board.repeated, worked]
      exact ih.trans ((shifts.shifted worked).then_iff sum)
    | error fault =>
      rw [Board.repeated, worked]
      refine iff_of_false ?_ ?_
      · intro made
        cases made
      · intro last
        have fits : ∀ stat m, card.stat? stat = some m → Fits (m + s stat) := by
          intro stat m has
          exact fits_between (stat?_fits has) (exists_shifted.mp ⟨changed, last⟩ stat m has)
        obtain ⟨next, first⟩ := exists_shifted.mpr fits
        cases worked.symm.trans (shifts.done first)

section Damage
variable {total : Int64} {card changed : Card}

def struckBy (total : Int64) : Stat → Int
  | .health => -total.toInt
  | _ => 0

theorem damage_done {health : Int64} (fits : health.toInt = card.healthInt - total.toInt) :
    damage total card = (.ok (), withHealth card health) := by
  rw [damage, sub?_eq_some.mpr fits]

theorem damage_broken (beyond : ¬ Fits (card.healthInt - total.toInt)) :
    damage total card = (.error .subOverflow, card) := by
  rw [damage]
  split
  · rfl
  · rename_i health taken
    exact absurd (exists_toInt.mp ⟨health, sub?_eq_some.mp taken⟩) beyond

theorem damage_shifts (total : Int64) : Shifts (damage total) (struckBy total) := by
  constructor
  · intro card done
    by_cases fits : Fits (card.healthInt - total.toInt)
    · obtain ⟨health, exact⟩ := exists_toInt.mpr fits
      rw [damage_done exact]
      exact (shifted_health rfl rfl).mpr ⟨health, exact, rfl⟩
    · rw [damage_broken fits] at done
      cases done
  · intro card changed shifted
    obtain ⟨health, exact, _⟩ := (shifted_health rfl rfl).mp shifted
    rw [damage_done exact]

theorem repeated_damage {n : Nat} : Board.repeated (damage total) n card = some changed ↔
    ∃ health : Int64, health.toInt = card.healthInt - n * total.toInt ∧ changed = withHealth card health := by
  rw [repeated_shifts (damage_shifts total), shifted_health (Int.mul_zero _) (Int.mul_zero _)]
  simp only [struckBy, Int.mul_neg, ← Int.sub_eq_add_neg]

end Damage

-- The cap moves with the health.
def buffedBy (attack health : Int64) : Stat → Int
  | .attack => attack.toInt
  | _ => health.toInt

theorem strengthen_shifts (attack health : Int64) : Shifts (strengthen attack health) (buffedBy attack health) := by
  constructor
  · intro card done
    obtain ⟨sum, raised, added, lifted, shape⟩ := strengthen_done done
    have attackInt : sum.toInt = _ := add?_eq_some.mp added
    have healthInt : raised.toInt = _ := add?_eq_some.mp lifted
    rcases shape with ⟨uncapped, left⟩ | ⟨cap, moved, stops, fits, left⟩ <;> rw [left]
    · refine ⟨rfl, ?_⟩
      intro stat
      cases stat with
      | attack => exact congrArg some attackInt
      | health => exact congrArg some healthInt
      | cap => simp [Card.stat?, withHealth, withAttack, uncapped]
    · have capInt : moved.toInt = _ := add?_eq_some.mp fits
      refine ⟨?_, ?_⟩
      · simp [Card.statless, withCap, withHealth, withAttack, stops]
      · intro stat
        cases stat with
        | attack => exact congrArg some attackInt
        | health => exact congrArg some healthInt
        | cap => simp [Card.stat?, withCap, stops, buffedBy, capInt]
  · intro card changed shifted
    have added : add? card.properties.attack attack = some changed.properties.attack :=
      add?_eq_some.mpr (Option.some.inj (shifted.stats .attack))
    have lifted : add? card.properties.health health = some changed.properties.health :=
      add?_eq_some.mpr (Option.some.inj (shifted.stats .health))
    cases stops : card.properties.maxHealth with
    | none => simp [strengthen, added, withAttack, lifted, withHealth, stops]
    | some cap =>
      have moved := shifted.stats .cap
      rw [Card.stat?, Card.stat?, stops] at moved
      obtain ⟨other, _, exact⟩ := Option.map_eq_some_iff.mp moved
      have fits : add? cap health = some other := add?_eq_some.mpr exact
      simp [strengthen, added, withAttack, lifted, withHealth, stops, fits]

end CardQuery
