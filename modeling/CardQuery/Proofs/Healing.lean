import CardQuery.Proofs.Caps

namespace CardQuery

namespace Number

def Fits (n : Int) : Prop := -0x8000000000000000 ≤ n ∧ n < 0x8000000000000000

theorem toInt_fits (a : Int64) : Fits a.toInt := ⟨Int64.le_toInt a, Int64.toInt_lt a⟩

theorem exists_toInt {n : Int} : (∃ a : Int64, a.toInt = n) ↔ Fits n := by
  constructor
  · rintro ⟨a, rfl⟩
    exact toInt_fits a
  · intro fits
    exact ⟨Int64.ofInt n, Int64.toInt_ofInt_of_le fits.1 fits.2⟩

theorem add?_fits {a b : Int64} : (∃ sum, add? a b = some sum) ↔ Fits (a.toInt + b.toInt) := by
  simp only [add?_eq_some]
  exact exists_toInt

theorem toInt_max (a b : Int64) : (max a b).toInt = max a.toInt b.toInt := by
  show (if a ≤ b then b else a).toInt = _
  split
  · rename_i less
    exact (Int.max_eq_right (Int64.le_iff_toInt_le.mp less)).symm
  · rename_i more
    exact (Int.max_eq_left (Int.le_of_not_le fun less => more (Int64.le_iff_toInt_le.mpr less))).symm

theorem toInt_min (a b : Int64) : (min a b).toInt = min a.toInt b.toInt := by
  show (if a ≤ b then a else b).toInt = _
  split
  · rename_i less
    exact (Int.min_eq_left (Int64.le_iff_toInt_le.mp less)).symm
  · rename_i more
    exact (Int.min_eq_right (Int.le_of_not_le fun less => more (Int64.le_iff_toInt_le.mpr less))).symm

theorem scaled_cases (n : Nat) (a : Int) : 0 ≤ a ∧ 0 ≤ n * a ∨ a ≤ 0 ∧ n * a ≤ 0 := by
  rcases Int.le_total 0 a with raises | lowers
  · exact .inl ⟨raises, Int.mul_nonneg (Int.natCast_nonneg n) raises⟩
  · exact .inr ⟨lowers, Int.mul_nonpos_of_nonneg_of_nonpos (Int.natCast_nonneg n) lowers⟩

theorem scaled_succ (n : Nat) (a : Int) : ((n + 1 : Nat) : Int) * a = n * a + a := by
  rw [Int.natCast_succ, Int.add_mul, Int.one_mul]

end Number

namespace Card

def healthInt (c : Card) : Int := c.properties.health.toInt

-- The health that an amount restored `n` times brings a card to, if all sums fit.
def healedTo (c : Card) (amount : Int64) (n : Nat) : Int :=
  match c.properties.maxHealth with
  | none => c.healthInt + n * amount.toInt
  | some cap => max c.healthInt (min (c.healthInt + n * amount.toInt) cap.toInt)

section HealedTo
variable {c : Card} (amount : Int64) (n : Nat)

theorem healedTo_uncapped (uncapped : c.properties.maxHealth = none) :
    c.healedTo amount n = c.healthInt + n * amount.toInt := by
  rw [healedTo, uncapped]

theorem healedTo_capped {cap : Int64} (capped : c.properties.maxHealth = some cap) :
    c.healedTo amount n = max c.healthInt (min (c.healthInt + n * amount.toInt) cap.toInt) := by
  rw [healedTo, capped]

theorem healedTo_zero (c : Card) : c.healedTo amount 0 = c.healthInt := by
  cases stops : c.properties.maxHealth with
  | none => simp [healedTo_uncapped _ _ stops]
  | some cap =>
    rw [healedTo_capped _ _ stops, Int.natCast_zero, Int.zero_mul, Int.add_zero]
    omega

end HealedTo
end Card

namespace Action
open Number
variable {card : Card} {amount : Int64}

theorem heal_done : (heal amount card).1 = .ok () ↔ Fits (card.healthInt + amount.toInt) := by
  rw [Card.healthInt, ← add?_fits, heal]
  cases add? card.properties.health amount with
  | none => simp
  | some healed =>
    cases card.properties.maxHealth <;> simp

-- Also if the sum does not fit: then the card is as it was.
theorem heal_card (amount : Int64) (card : Card) :
    (heal amount card).2 = withHealth card (heal amount card).2.properties.health := by
  rw [heal]
  split
  · rfl
  · split <;> rfl

theorem heal_maxHealth (amount : Int64) (card : Card) :
    (heal amount card).2.properties.maxHealth = card.properties.maxHealth := by
  rw [heal_card]
  rfl

theorem heal_broken (broken : ¬ Fits (card.healthInt + amount.toInt)) : heal amount card = (.error .addOverflow, card) := by
  rw [Card.healthInt, ← add?_fits] at broken
  rw [heal]
  split
  · rfl
  · rename_i healed fits
    exact absurd ⟨healed, fits⟩ broken

section Done
variable (done : (heal amount card).1 = .ok ())
include done

theorem heal_uncapped (uncapped : card.properties.maxHealth = none) :
    (heal amount card).2.healthInt = card.healthInt + amount.toInt := by
  obtain ⟨healed, fits⟩ := add?_fits.mpr (heal_done.mp done)
  simp only [heal, fits, uncapped]
  exact add?_eq_some.mp fits

theorem heal_capped {cap : Int64} (capped : card.properties.maxHealth = some cap) :
    (heal amount card).2.healthInt = max card.healthInt (min (card.healthInt + amount.toInt) cap.toInt) := by
  obtain ⟨healed, fits⟩ := add?_fits.mpr (heal_done.mp done)
  have sum : healed.toInt = card.healthInt + amount.toInt := add?_eq_some.mp fits
  simp only [heal, fits, capped]
  show (max (min healed cap) card.properties.health).toInt = _
  rw [toInt_max, toInt_min, sum, Int.max_comm]
  rfl

theorem healedTo_succ (n : Nat) : (heal amount card).2.healedTo amount n = card.healedTo amount (n + 1) := by
  have next := scaled_succ n amount.toInt
  cases stops : card.properties.maxHealth with
  | none =>
    have left := (heal_maxHealth amount card).trans stops
    rw [Card.healedTo_uncapped _ _ stops, Card.healedTo_uncapped _ _ left, heal_uncapped done stops, next]
    omega
  | some cap =>
    have left := (heal_maxHealth amount card).trans stops
    rw [Card.healedTo_capped _ _ stops, Card.healedTo_capped _ _ left, heal_capped done stops, next]
    rcases scaled_cases n amount.toInt with raises | lowers <;> omega

end Done

-- With a cap, the health is the same but for the cap, and where it would fall.
theorem healedTo_withCap (uncapped : card.properties.maxHealth = none) (cap : Int64) (n : Nat) :
    (withCap card cap).healedTo amount n = max card.healthInt (min (card.healedTo amount n) cap.toInt) := by
  have capped : (withCap card cap).properties.maxHealth = some cap := rfl
  rw [Card.healedTo_capped _ _ capped, Card.healedTo_uncapped _ _ uncapped]
  rfl

-- If the sums fit without a cap, they do with any.
theorem withCap_fits (uncapped : card.properties.maxHealth = none) (cap : Int64) {n : Nat}
    (fits : ∀ k < n, Fits (card.healedTo amount k + amount.toInt)) :
    ∀ k < n, Fits ((withCap card cap).healedTo amount k + amount.toInt) := by
  intro k less
  have first := fits 0 (Nat.zero_lt_of_lt less)
  have last := fits k less
  have sum := Card.healedTo_uncapped amount k uncapped
  rw [Card.healedTo_zero] at first
  rw [healedTo_withCap uncapped, sum]
  rw [sum] at last
  unfold Fits at *
  rcases scaled_cases k amount.toInt with raises | lowers <;> omega

-- A healing that stops before its end has met a sum that does not fit.
theorem stands_heal {n : Nat} : (Board.repeated (heal amount) n card).isSome ↔
    ∀ k < n, Fits (card.healedTo amount k + amount.toInt) := by
  induction n generalizing card with
  | zero => exact iff_of_true rfl fun _ less => absurd less (Nat.not_lt_zero _)
  | succ n ih =>
    rw [Nat.forall_lt_succ_left, Card.healedTo_zero, ← heal_done, Board.repeated]
    cases done : (heal amount card).1 with
    | error fault => simp
    | ok answer => simp only [ih, healedTo_succ done, true_and]

theorem repeated_heal {changed : Card} {n : Nat} (made : Board.repeated (heal amount) n card = some changed) :
    changed.healthInt = card.healedTo amount n := by
  induction n generalizing card with
  | zero =>
    cases made
    exact (Card.healedTo_zero amount _).symm
  | succ n ih =>
    rw [Board.repeated] at made
    split at made
    · rename_i done
      exact (ih made).trans (healedTo_succ done n)
    · cases made

-- Nothing but the health changes, which rises no further than the cap.
structure Mended (amount : Int64) (card changed : Card) : Prop where
  frame : changed = withHealth card changed.properties.health
  raised : 0 ≤ amount ∨ card.isCapped = true → card.healthInt ≤ changed.healthInt
  stopped : ∀ cap, card.properties.maxHealth = some cap → changed.healthInt ≤ max card.healthInt cap.toInt

theorem nonneg_iff : 0 ≤ amount ↔ 0 ≤ amount.toInt := by rw [Int64.le_iff_toInt_le, Int64.toInt_zero]

theorem mended_refl (amount : Int64) (card : Card) : Mended amount card card :=
  ⟨rfl, fun _ => Int.le_refl _, fun _ _ => Int.le_max_left _ _⟩

theorem Mended.maxHealth {changed : Card} (mended : Mended amount card changed) :
    changed.properties.maxHealth = card.properties.maxHealth := by
  rw [mended.frame]
  rfl

theorem mended_trans {first next last : Card} (earlier : Mended amount first next) (later : Mended amount next last) :
    Mended amount first last := by
  have same := earlier.maxHealth
  refine ⟨?_, ?_, ?_⟩
  · rw [later.frame, earlier.frame]
    rfl
  · intro either
    have capped : next.isCapped = first.isCapped := congrArg Option.isSome same
    exact Int.le_trans (earlier.raised either) (later.raised (capped ▸ either))
  · intro cap stops
    have before := earlier.stopped cap stops
    have after := later.stopped cap (same.trans stops)
    omega

theorem heal_mended (amount : Int64) (card : Card) : Mended amount card (heal amount card).2 := by
  by_cases fits : Fits (card.healthInt + amount.toInt)
  · have done := heal_done.mpr fits
    refine ⟨heal_card amount card, ?_, ?_⟩
    · intro either
      cases stops : card.properties.maxHealth with
      | none =>
        have nonneg : 0 ≤ amount := either.resolve_right (by simp [Card.isCapped, stops])
        have raises := nonneg_iff.mp nonneg
        rw [heal_uncapped done stops]
        omega
      | some cap =>
        rw [heal_capped done stops]
        exact Int.le_max_left _ _
    · intro cap stops
      rw [heal_capped done stops]
      omega
  · rw [heal_broken fits]
    exact mended_refl amount card

end Action

namespace Board
open CardQuery.Action Number

-- The sum is formed before the cap is looked at, so it can overflow where the capped value would fit.
theorem capped_healing {card : Card} {cap amount : Int64} (capped : card.properties.maxHealth = some cap)
    (nonneg : 0 ≤ amount) :
    ∃ health : Int64, health.toInt = max card.healthInt (min (card.healthInt + amount.toInt) cap.toInt) ∧
      (card.healthInt + amount.toInt < 0x8000000000000000 →
        (restoreHealth amount).applyTo card = (.ok (), withHealth card health) ∧
        ∀ (b : Board) id, b.get? id = some card →
          (b.apply ⟨[id]⟩ (.restoreHealth amount)).outcome = (.ok 1, b.modify id fun _ => withHealth card health)) ∧
      (0x8000000000000000 ≤ card.healthInt + amount.toInt →
        (restoreHealth amount).applyTo card = (.error .addOverflow, card) ∧
        ∀ (b : Board) id, b.get? id = some card →
          (b.apply ⟨[id]⟩ (.restoreHealth amount)).outcome = (.error .addOverflow, b)) := by
  have adds := nonneg_iff.mp nonneg
  have between := toInt_fits card.properties.health
  have limit := toInt_fits cap
  have fitting : Fits (max card.healthInt (min (card.healthInt + amount.toInt) cap.toInt)) := by
    unfold Fits Card.healthInt at *
    omega
  obtain ⟨health, exact⟩ := exists_toInt.mpr fitting
  refine ⟨health, exact, ?_, ?_⟩
  · intro below
    have fits : Fits (card.healthInt + amount.toInt) := ⟨Int.le_trans between.1 (Int.le_add_of_nonneg_right adds), below⟩
    have done := heal_done.mpr fits
    have reached : (heal amount card).2.properties.health = health :=
      Int64.toInt_inj.mp ((heal_capped done capped).trans exact.symm)
    have whole : (restoreHealth amount).applyTo card = (.ok (), withHealth card health) :=
      Prod.ext done (reached ▸ heal_card amount card)
    exact ⟨whole, fun b id found => apply_one_done rfl found whole⟩
  · intro beyond
    have whole : (restoreHealth amount).applyTo card = (.error .addOverflow, card) :=
      heal_broken fun fits => absurd fits.2 (Int.not_lt.mpr beyond)
    refine ⟨whole, ?_⟩
    intro b id found
    rw [apply_one_broken rfl found whole, modify_same found]

def wounded : Card := { stray with properties := { health := 1, maxHealth := some 5 } }

theorem wounded_overflows : (restoreHealth Int64.maxValue).applyTo wounded = (.error .addOverflow, wounded) ∧
    ¬ ∀ (card : Card) (cap amount : Int64), card.properties.maxHealth = some cap → 0 ≤ amount →
      ((restoreHealth amount).applyTo card).1 = .ok () ∧ ((restoreHealth amount).applyTo card).2.healthInt =
        max card.healthInt (min (card.healthInt + amount.toInt) cap.toInt) := by
  refine ⟨rfl, ?_⟩
  intro exact
  have done := (exact wounded 5 Int64.maxValue rfl (by decide)).1
  cases done

theorem wounded_healed : wounded.properties.maxHealth = some 5 ∧ (0 : Int64) ≤ 9 ∧
    wounded.healthInt + 9 < 0x8000000000000000 ∧ (restoreHealth 9).applyTo wounded = (.ok (), withHealth wounded 5) := by
  have capped : wounded.properties.maxHealth = some 5 := rfl
  have nonneg : (0 : Int64) ≤ 9 := by decide
  have fits : wounded.healthInt + 9 < 0x8000000000000000 := by decide
  obtain ⟨health, exact, done, _⟩ := capped_healing capped nonneg
  have five : health = 5 := Int64.toInt_inj.mp exact
  exact ⟨capped, nonneg, fits, five ▸ (done fits).1⟩

variable (b : Board) (targets : ResultSet) (amount : Int64)

theorem healing_completes : (b.apply targets (.restoreHealth amount)).Completes ↔
    ∀ id card, b.get? id = some card → ∀ k < targets.ids.count id, Fits (card.healedTo amount k + amount.toInt) := by
  rw [apply_completes rfl, Stands]
  exact forall_congr' fun id => forall_congr' fun card => forall_congr' fun _ => stands_heal

variable {b targets amount}

theorem healing_mended {id : EntityId} {card : Card} (found : b.get? id = some card) :
    ∃ changed, (b.apply targets (.restoreHealth amount)).board.get? id = some changed ∧ Mended amount card changed := by
  have settled : b.resolve (.restoreHealth amount) = .ok (.restoreHealth amount) := rfl
  exact apply_related (mended_refl amount) mended_trans settled (heal_mended amount) found

theorem healing_health (completes : (b.apply targets (.restoreHealth amount)).Completes) {id : EntityId} {card : Card}
    (found : b.get? id = some card) : ((b.apply targets (.restoreHealth amount)).board.get? id).map Card.healthInt =
      some (card.healedTo amount (targets.ids.count id)) := by
  have stands := apply_completes rfl |>.mp completes
  obtain ⟨changed, made⟩ := Option.isSome_iff_exists.mp (stands id card found)
  have health := repeated_heal made
  rw [(apply_worked rfl completes).cards id, found, Option.bind_some, made, Option.map_some, health]

section Uncapped
variable (completes : (b.apply targets (.restoreHealth amount)).Completes)
include completes

-- Only a card without a cap can fall, and it falls as soon as it is listed.
theorem healing_raises_iff : (∀ id card changed, b.get? id = some card →
      (b.apply targets (.restoreHealth amount)).board.get? id = some changed → card.healthInt ≤ changed.healthInt) ↔
    0 ≤ amount ∨ ∀ id ∈ targets.ids, ∀ card, b.get? id = some card → card.isCapped = true := by
  constructor
  · intro raises
    rw [nonneg_iff, or_iff_not_imp_left]
    intro lowers id listed card found
    cases stops : card.properties.maxHealth with
    | some cap => exact congrArg Option.isSome stops
    | none =>
      obtain ⟨changed, left, health⟩ := Option.map_eq_some_iff.mp (healing_health completes found)
      have kept := raises id card changed found left
      have often := List.count_pos_iff.mpr listed
      have falls : (targets.ids.count id : Int) * amount.toInt < 0 :=
        Int.mul_neg_of_pos_of_neg (Int.natCast_pos.mpr often) (Int.not_le.mp lowers)
      rw [health, Card.healedTo_uncapped _ _ stops] at kept
      omega
  · intro either id card changed found left
    obtain ⟨other, there, mended⟩ := healing_mended found
    cases there.symm.trans left
    rcases either with nonneg | capped
    · exact mended.raised (.inl nonneg)
    · by_cases listed : id ∈ targets.ids
      · exact mended.raised (.inr (capped id listed card found))
      · have health := healing_health completes found
        rw [left, List.count_eq_zero.mpr listed, Card.healedTo_zero, Option.map_some, Option.some.injEq] at health
        exact Int.le_of_eq health.symm

-- The same card with a cap. It ends alike if nothing is taken and the cap is not in the way.
theorem healing_twin {id : EntityId} {card : Card} (found : b.get? id = some card)
    (uncapped : card.properties.maxHealth = none) (cap : Int64) :
    ((b.modify id (withCap · cap)).apply targets (.restoreHealth amount)).Completes ∧
      ((((b.modify id (withCap · cap)).apply targets (.restoreHealth amount)).board.get? id).map Card.healthInt =
          ((b.apply targets (.restoreHealth amount)).board.get? id).map Card.healthInt ↔
        card.healthInt ≤ card.healedTo amount (targets.ids.count id) ∧
          card.healedTo amount (targets.ids.count id) ≤ max card.healthInt cap.toInt) := by
  have there : (b.modify id (withCap · cap)).get? id = some (withCap card cap) := by
    rw [get?_modify, if_pos rfl, found]
    rfl
  have fits := (healing_completes b targets amount).mp completes
  have ends : ((b.modify id (withCap · cap)).apply targets (.restoreHealth amount)).Completes := by
    rw [healing_completes]
    intro other changed present
    by_cases here : id = other
    · subst here
      cases there.symm.trans present
      exact withCap_fits uncapped cap (fits id card found)
    · rw [get?_modify, if_neg here] at present
      exact fits other changed present
  refine ⟨ends, ?_⟩
  rw [healing_health ends there, healing_health completes found, healedTo_withCap uncapped, Option.some.injEq]
  omega

end Uncapped

-- A negative amount takes health only from a card without a cap.
theorem healing_bounded (b : Board) (targets : ResultSet) (amount : Int64) :
    let healed := b.apply targets (.restoreHealth amount)
    (∀ id card, b.get? id = some card → ∃ changed, healed.board.get? id = some changed ∧ Mended amount card changed) ∧
    (healed.Completes ↔
      ∀ id card, b.get? id = some card → ∀ k < targets.ids.count id, Fits (card.healedTo amount k + amount.toInt)) ∧
    (healed.Completes →
      ((∀ id card changed, b.get? id = some card → healed.board.get? id = some changed →
          card.healthInt ≤ changed.healthInt) ↔
        0 ≤ amount ∨ ∀ id ∈ targets.ids, ∀ card, b.get? id = some card → card.isCapped = true) ∧
      ∀ id card cap, b.get? id = some card → card.properties.maxHealth = none →
        let sum := card.healthInt + targets.ids.count id * amount.toInt
        let twin := (b.modify id (withCap · cap)).apply targets (.restoreHealth amount)
        twin.Completes ∧ ((twin.board.get? id).map Card.healthInt = (healed.board.get? id).map Card.healthInt ↔
          card.healthInt ≤ sum ∧ sum ≤ max card.healthInt cap.toInt)) := by
  intro healed
  refine ⟨fun id card found => healing_mended found, healing_completes b targets amount, ?_⟩
  intro completes
  refine ⟨healing_raises_iff completes, ?_⟩
  intro id card cap found uncapped
  have twin := healing_twin completes found uncapped cap
  rw [Card.healedTo_uncapped _ _ uncapped] at twin
  exact twin

def frail : Card := { stray with id := ⟨0⟩, properties := { health := 5 } }

def infirmary : Board := (empty.run [.add .first frail]).2

theorem frail_falls :
    ((infirmary.apply ⟨[⟨0⟩]⟩ (.restoreHealth (-3))).board.get? ⟨0⟩).map Card.healthInt = some 2 ∧
    ¬ ∀ (b : Board) id card changed (amount : Int64), b.get? id = some card → Fits (card.healthInt + amount.toInt) →
      (b.apply ⟨[id]⟩ (.restoreHealth amount)).board.get? id = some changed → card.healthInt ≤ changed.healthInt := by
  refine ⟨rfl, ?_⟩
  intro raises
  have kept := raises infirmary ⟨0⟩ frail (withHealth frail 2) (-3) rfl (by unfold Fits; decide) rfl
  exact absurd kept (by decide)

-- The second is healed with a cap as without one; the first is healed twice.
theorem brawl_mended :
    let targets : ResultSet := ⟨[⟨0⟩, ⟨1⟩, ⟨0⟩]⟩
    let healed := brawl.apply targets (.restoreHealth 3)
    let twin := (brawl.modify ⟨1⟩ (withCap · 4)).apply targets (.restoreHealth 3)
    healed.Completes ∧ (∀ id card changed, brawl.get? id = some card → healed.board.get? id = some changed →
      card.healthInt ≤ changed.healthInt) ∧
    (twin.board.get? ⟨1⟩).map Card.healthInt = (healed.board.get? ⟨1⟩).map Card.healthInt := by
  intro targets healed twin
  have completes : healed.Completes := ⟨3, rfl⟩
  obtain ⟨_, _, settled⟩ := healing_bounded brawl targets 3
  obtain ⟨raises, twins⟩ := settled completes
  refine ⟨completes, raises.mpr (.inl (by decide)), ?_⟩
  exact (twins ⟨1⟩ _ 4 rfl rfl).2.mpr ⟨by decide, by decide⟩

end Board
end CardQuery
