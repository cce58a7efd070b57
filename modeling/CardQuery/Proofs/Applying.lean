import CardQuery.Proofs.Insertions

namespace CardQuery

def Action.overflow : Action → Fault
  | dealDamage _ | dealSpellDamage _ _ => .subOverflow
  | _ => .addOverflow

theorem Action.applyTo_fault (action : Action) (card : Card) {fault : Fault}
    (broken : (action.applyTo card).1 = .error fault) : fault = action.overflow := by
  cases action with
  | dealDamage | dealSpellDamage =>
    simp only [applyTo, damage] at broken
    split at broken
    · cases broken
      rfl
    · cases broken
  | restoreHealth =>
    simp only [applyTo, heal] at broken
    split at broken
    · cases broken
      rfl
    · split at broken <;> cases broken
  | buff =>
    simp only [applyTo, strengthen] at broken
    repeat' split at broken
    all_goals cases broken
    all_goals rfl
  | addTag | removeTag | moveTo | destroy | setOwner => cases broken

theorem Action.overflow_cases (action : Action) : action.overflow = .addOverflow ∨ action.overflow = .subOverflow := by
  cases action with
  | dealDamage | dealSpellDamage => exact .inr rfl
  | _ => exact .inl rfl

def Card.spellSource (c : Card) : PlayerId × Zone × Int64 := (c.owner, c.zone, c.properties.spellDamage)

theorem Action.damage_spellSource (amount : Int64) (card : Card) :
    (damage amount card).2.spellSource = card.spellSource := by
  rw [damage]
  split <;> rfl

namespace Board

namespace Applied

def Completes (a : Applied) : Prop := ∃ n, a.result = .ok n

def Overflows (a : Applied) : Prop := a.result = .error .addOverflow ∨ a.result = .error .subOverflow

-- What a caller is told and the board that is left, without the reported events.
def outcome (a : Applied) : Except Fault Nat × Board := (a.result, a.board)

theorem outcome_of {a : Applied} {told : Except Fault Nat} (result : a.result = told) : a.outcome = (told, a.board) :=
  Prod.ext result rfl

-- A second application on the board that the first left, with the counts added up; a fault of the first is the end.
def andThen (first : Applied) (next : Board → Applied) : Except Fault Nat × Board :=
  match first.result with
  | .error fault => (.error fault, first.board)
  | .ok n => ((next first.board).result.map (n + ·), (next first.board).board)

end Applied

theorem sumStats_fault {total : Int64} {stats : List Int64} {fault : Fault}
    (broken : sumStats total stats = .error fault) : fault = .addOverflow := by
  induction stats generalizing total with
  | nil => cases broken
  | cons n rest ih =>
    rw [sumStats] at broken
    split at broken
    · cases broken
      rfl
    · exact ih broken

theorem resolve_fault {b : Board} {action : Action} {fault : Fault} (broken : b.resolve action = .error fault) :
    fault = .addOverflow := by
  cases action with
  | dealSpellDamage amount caster =>
    simp only [resolve] at broken
    cases summed : b.spellBonus caster with
    | error other =>
      rw [summed] at broken
      cases broken
      exact sumStats_fault summed
    | ok bonus =>
      rw [summed] at broken
      dsimp only at broken
      split at broken
      · cases broken
        rfl
      · cases broken
  | _ => cases broken

theorem spellBonus_eq (b : Board) (player : PlayerId) :
    b.spellBonus player = sumStats 0
      (((b.allCards.map Card.spellSource).filter fun source => source.1 == player && source.2.1 == .play).map (·.2.2)) := by
  rw [spellBonus, List.filter_map, List.map_map]
  rfl

theorem resolve_spell_eq_ok {b : Board} {amount : Int64} {caster : PlayerId} {resolved : Action} :
    b.resolve (.dealSpellDamage amount caster) = .ok resolved ↔ ∃ bonus total,
      b.spellBonus caster = .ok bonus ∧ Number.add? amount bonus = some total ∧ resolved = .dealDamage total := by
  constructor
  · intro settled
    simp only [resolve] at settled
    split at settled
    · cases settled
    · rename_i bonus summed
      split at settled
      · cases settled
      · rename_i total added
        cases settled
        exact ⟨bonus, total, summed, added, rfl⟩
  · rintro ⟨bonus, total, summed, added, rfl⟩
    simp only [resolve, summed, added]

-- A spell's damage does not touch its bonus, so it is as much for the next members as for these.
theorem resolve_kept {b : Board} {action resolved : Action} (settled : b.resolve action = .ok resolved)
    (targets : List EntityId) : (b.visit resolved.applyTo targets).2.resolve action = .ok resolved := by
  cases action with
  | dealSpellDamage amount caster =>
    obtain ⟨bonus, total, summed, added, rfl⟩ := resolve_spell_eq_ok.mp settled
    have same : (b.visit (Action.damage total) targets).2.spellBonus caster = b.spellBonus caster := by
      rw [spellBonus_eq, spellBonus_eq, visit_allCards_view b targets (Action.damage_spellSource total)]
    exact resolve_spell_eq_ok.mpr ⟨bonus, total, same.trans summed, added, rfl⟩
  | _ => exact settled

section Apply
variable {b : Board} {targets : ResultSet} {action resolved : Action}

theorem apply_empty (b : Board) (action : Action) : (b.apply ⟨[]⟩ action).outcome = (.ok 0, b) := rfl

theorem apply_unresolved (some : targets.ids ≠ []) {fault : Fault} (broken : b.resolve action = .error fault) :
    (b.apply targets action).outcome = (.error fault, b) := by
  have isEmpty : targets.isEmpty = false := List.isEmpty_eq_false_iff.mpr some
  simp [apply, isEmpty, broken, Applied.outcome]

theorem apply_resolved (targets : ResultSet) (settled : b.resolve action = .ok resolved) :
    (b.apply targets action).outcome =
      ((b.visit resolved.applyTo targets.ids).1.map List.length, (b.visit resolved.applyTo targets.ids).2) := by
  obtain ⟨ids⟩ := targets
  cases ids with
  | nil => rfl
  | cons id rest =>
    simp only [apply, ResultSet.isEmpty, List.isEmpty_cons, settled]
    cases b.visit resolved.applyTo (id :: rest) with
    | mk result after => cases result <;> rfl

-- The events too: an application reports the action as it was resolved.
theorem apply_as_resolved (members : targets.ids ≠ []) (settled : b.resolve action = .ok resolved)
    (plain : b.resolve resolved = .ok resolved) : b.apply targets action = b.apply targets resolved := by
  have isEmpty : targets.isEmpty = false := List.isEmpty_eq_false_iff.mpr members
  simp only [apply, isEmpty, settled, plain]

theorem apply_result (targets : ResultSet) (settled : b.resolve action = .ok resolved) :
    (b.apply targets action).result = (b.visit resolved.applyTo targets.ids).1.map List.length :=
  congrArg Prod.fst (apply_resolved targets settled)

theorem apply_board (targets : ResultSet) (settled : b.resolve action = .ok resolved) :
    (b.apply targets action).board = (b.visit resolved.applyTo targets.ids).2 :=
  congrArg Prod.snd (apply_resolved targets settled)

section One
variable {id : EntityId} {card changed : Card} (settled : b.resolve action = .ok resolved) (found : b.get? id = some card)
include settled found

theorem apply_one_done (done : resolved.applyTo card = (.ok (), changed)) :
    (b.apply ⟨[id]⟩ action).outcome = (.ok 1, b.modify id fun _ => changed) := by
  rw [apply_resolved ⟨[id]⟩ settled, visit_done found (congrArg Prod.fst done), done]
  rfl

theorem apply_one_broken {fault : Fault} (broken : resolved.applyTo card = (.error fault, changed)) :
    (b.apply ⟨[id]⟩ action).outcome = (.error fault, b.modify id fun _ => changed) := by
  rw [apply_resolved ⟨[id]⟩ settled, visit_broken found (congrArg Prod.fst broken), broken]
  rfl

end One

theorem apply_completes (settled : b.resolve action = .ok resolved) :
    (b.apply targets action).Completes ↔ Stands resolved.applyTo b targets.ids := by
  rw [← visit_completes, Applied.Completes, apply_result targets settled]
  cases (b.visit resolved.applyTo targets.ids).1 <;> simp [Except.map]

theorem apply_related {R : Card → Card → Prop} (refl : ∀ card, R card card)
    (trans : ∀ {first next last}, R first next → R next last → R first last) (settled : b.resolve action = .ok resolved)
    (step : ∀ card, R card (resolved.applyTo card).2) {id : EntityId} {card : Card} (found : b.get? id = some card) :
    ∃ changed, (b.apply targets action).board.get? id = some changed ∧ R card changed := by
  rw [apply_board targets settled]
  exact visit_related refl trans step found targets.ids

theorem apply_resolved_eq_ok (settled : b.resolve action = .ok resolved) {n : Nat} {after : Board} :
    (b.apply targets action).outcome = (.ok n, after) ↔
      Worked resolved.applyTo b targets.ids after ∧ n = targets.ids.countP b.cards.contains := by
  rw [apply_resolved targets settled, Prod.mk.injEq, visit_eq_ok]

theorem apply_worked (settled : b.resolve action = .ok resolved) (completes : (b.apply targets action).Completes) :
    Worked resolved.applyTo b targets.ids (b.apply targets action).board := by
  obtain ⟨n, result⟩ := completes
  exact ((apply_resolved_eq_ok settled).mp (Applied.outcome_of result)).1

-- It matters how often each member is listed, and not where.
theorem apply_eq_ok {n : Nat} {after : Board} : (b.apply targets action).outcome = (.ok n, after) ↔
    (targets.ids = [] ∧ n = 0 ∧ after = b) ∨ ∃ resolved, b.resolve action = .ok resolved ∧
      Worked resolved.applyTo b targets.ids after ∧ n = targets.ids.countP b.cards.contains := by
  cases settled : b.resolve action with
  | error fault =>
    obtain ⟨ids⟩ := targets
    cases ids with
    | nil =>
      rw [apply_empty]
      constructor
      · rintro ⟨⟩
        exact .inl ⟨rfl, rfl, rfl⟩
      · rintro (⟨_, rfl, rfl⟩ | ⟨_, ⟨⟩, _⟩)
        rfl
    | cons id rest =>
      rw [apply_unresolved (List.cons_ne_nil id rest) settled]
      constructor
      · rintro ⟨⟩
      · rintro (⟨⟨⟩, _⟩ | ⟨_, ⟨⟩, _⟩)
  | ok resolved =>
    rw [apply_resolved_eq_ok settled]
    constructor
    · intro worked
      exact .inr ⟨resolved, rfl, worked⟩
    · rintro (⟨none, rfl, rfl⟩ | ⟨_, ⟨⟩, worked⟩)
      · rw [none, worked_nil]
        exact ⟨rfl, rfl⟩
      · exact worked

def overflow (b : Board) (action : Action) : Fault :=
  match b.resolve action with
  | .error fault => fault
  | .ok resolved => resolved.overflow

theorem overflow_cases (b : Board) (action : Action) :
    b.overflow action = .addOverflow ∨ b.overflow action = .subOverflow := by
  rw [overflow]
  split
  · rename_i fault broken
    exact .inl (resolve_fault broken)
  · rename_i resolved _
    exact resolved.overflow_cases

theorem apply_fault {fault : Fault} (broken : (b.apply targets action).result = .error fault) :
    fault = b.overflow action := by
  rw [overflow]
  cases settled : b.resolve action with
  | error other =>
    obtain ⟨ids⟩ := targets
    cases ids with
    | nil => cases broken
    | cons id rest =>
      have result := congrArg Prod.fst (apply_unresolved (List.cons_ne_nil id rest) settled)
      exact Except.error.inj (broken.symm.trans result)
  | ok resolved =>
    have result := apply_result targets settled
    rw [broken] at result
    cases visited : (b.visit resolved.applyTo targets.ids).1 with
    | ok answers =>
      rw [visited] at result
      cases result
    | error other =>
      rw [visited] at result
      cases result
      exact visit_fault resolved.applyTo_fault visited

theorem completes_or_overflows (b : Board) (targets : ResultSet) (action : Action) :
    (b.apply targets action).Completes ∨ (b.apply targets action).Overflows := by
  cases result : (b.apply targets action).result with
  | ok n => exact .inl ⟨n, result⟩
  | error fault =>
    rw [apply_fault result] at result
    rcases b.overflow_cases action with overflow | overflow <;> rw [overflow] at result
    · exact .inr (.inl result)
    · exact .inr (.inr result)

end Apply

namespace Applied

theorem Completes.not_overflows {a : Applied} (completes : a.Completes) : ¬ a.Overflows := by
  obtain ⟨n, result⟩ := completes
  rintro (overflow | overflow) <;> rw [result] at overflow <;> cases overflow

theorem andThen_of_error {a : Applied} {next : Board → Applied} {fault : Fault} {left : Board}
    (ended : a.outcome = (.error fault, left)) : a.andThen next = (.error fault, left) := by
  obtain ⟨result, board, events⟩ := a
  cases ended
  rfl

theorem andThen_of_ok {a : Applied} {next : Board → Applied} {n : Nat} {left : Board}
    (ended : a.outcome = (.ok n, left)) : a.andThen next = ((next left).result.map (n + ·), (next left).board) := by
  obtain ⟨result, board, events⟩ := a
  cases ended
  rfl

theorem overflows_andThen {first joined : Applied} {next : Board → Applied} (same : joined.outcome = first.andThen next)
    (ended : first.Completes ∨ first.Overflows) :
    joined.Overflows ↔ first.Overflows ∨ (next first.board).Overflows := by
  rcases ended with completes | overflows
  · rw [or_iff_right completes.not_overflows]
    obtain ⟨n, result⟩ := completes
    rw [andThen_of_ok (outcome_of result)] at same
    have told : joined.result = (next first.board).result.map (n + ·) := congrArg Prod.fst same
    rw [Overflows, Overflows, told]
    cases (next first.board).result <;> simp [Except.map]
  · refine iff_of_true ?_ (.inl overflows)
    rcases overflows with result | result
    · rw [andThen_of_error (outcome_of result)] at same
      exact .inl (congrArg Prod.fst same)
    · rw [andThen_of_error (outcome_of result)] at same
      exact .inr (congrArg Prod.fst same)

end Applied

theorem apply_append (b : Board) (earlier later : ResultSet) (action : Action) :
    (b.apply (earlier.append later) action).outcome = (b.apply earlier action).andThen (·.apply later action) := by
  cases settled : b.resolve action with
  | error fault =>
    obtain ⟨first⟩ := earlier
    cases first with
    | nil =>
      rw [Applied.andThen_of_ok (apply_empty b action)]
      show ((b.apply later action).result, _) = _
      cases (b.apply later action).result with
      | error other => rfl
      | ok n =>
        rw [Except.map, Nat.zero_add]
        rfl
    | cons id rest =>
      rw [Applied.andThen_of_error (apply_unresolved (List.cons_ne_nil id rest) settled)]
      exact apply_unresolved (List.cons_ne_nil id _) settled
  | ok resolved =>
    have began := apply_resolved earlier settled
    have again := resolve_kept settled earlier.ids
    rw [apply_resolved (earlier.append later) settled, ResultSet.append, visit_append]
    cases visited : b.visit resolved.applyTo earlier.ids with
    | mk result left =>
      rw [visited] at began again
      cases result with
      | error fault =>
        rw [Applied.andThen_of_error began]
        rfl
      | ok answers =>
        obtain ⟨counted, board⟩ := Prod.mk.inj (apply_resolved later again)
        rw [Applied.andThen_of_ok began, counted, board]
        dsimp only [Except.map]
        cases (left.visit resolved.applyTo later.ids).1 with
        | error fault => rfl
        | ok rest => simp

theorem apply_concatenated (b : Board) (earlier later : ResultSet) (action : Action) :
    (b.apply (earlier.append later) action).outcome = (b.apply earlier action).andThen (·.apply later action) ∧
      ((b.apply (earlier.append later) action).Overflows ↔
        (b.apply earlier action).Overflows ∨ ((b.apply earlier action).board.apply later action).Overflows) := by
  have joined := apply_append b earlier later action
  exact ⟨joined, Applied.overflows_andThen joined (completes_or_overflows b earlier action)⟩

theorem apply_perm {b : Board} {targets other : ResultSet} (same : targets.ids.Perm other.ids) {action : Action} {n : Nat}
    {after : Board} (ended : (b.apply targets action).outcome = (.ok n, after)) :
    (b.apply other action).outcome = (.ok n, after) := by
  rcases apply_eq_ok.mp ended with ⟨none, rfl, rfl⟩ | ⟨resolved, settled, worked, rfl⟩
  · exact apply_eq_ok.mpr (.inl ⟨(none ▸ same).nil_eq.symm, rfl, rfl⟩)
  · exact apply_eq_ok.mpr (.inr ⟨resolved, settled, worked.perm same, same.countP_eq _⟩)

-- An overflow leaves what was done before it, so then the boards may differ.
theorem apply_reordered (b : Board) {targets other : ResultSet} (same : targets.ids.Perm other.ids) (action : Action) :
    (b.apply other action).result = (b.apply targets action).result ∧
      ((b.apply targets action).Completes → (b.apply other action).board = (b.apply targets action).board) := by
  cases result : (b.apply targets action).result with
  | ok n =>
    have ended := apply_perm same (Applied.outcome_of result)
    exact ⟨congrArg Prod.fst ended, fun _ => congrArg Prod.snd ended⟩
  | error fault =>
    refine ⟨?_, ?_⟩
    · cases again : (b.apply other action).result with
      | ok n =>
        have ended := apply_perm same.symm (Applied.outcome_of again)
        rw [← result]
        exact (congrArg Prod.fst ended).symm
      | error another => rw [apply_fault result, apply_fault again]
    · rintro ⟨n, completed⟩
      rw [result] at completed
      cases completed

-- A minion with a cap, and one without that adds to its owner's spells.
def brawlCalls : List Change :=
  [.spawn .second ((CardDefinition.named ⟨1⟩ "Yeti" .minion).withStats 4 5) .second .play,
    .spawn .first { id := ⟨2⟩, type := .minion, properties := { name := "Kobold", spellDamage := 2 } } .first .play]

def brawl : Board := (empty.run brawlCalls).2

-- The first is hit twice, and a member is not on the board.
theorem brawl_reordered :
    let targets : ResultSet := ⟨[⟨0⟩, ⟨1⟩, ⟨0⟩, ⟨9⟩]⟩
    let other : ResultSet := ⟨[⟨9⟩, ⟨0⟩, ⟨0⟩, ⟨1⟩]⟩
    targets.ids.Perm other.ids ∧ (brawl.apply targets (.dealSpellDamage 1 .first)).Completes ∧
      (brawl.apply other (.dealSpellDamage 1 .first)).result = .ok 3 ∧
      (brawl.apply other (.dealSpellDamage 1 .first)).board = (brawl.apply targets (.dealSpellDamage 1 .first)).board := by
  intro targets other
  have same : targets.ids.Perm other.ids := by decide
  have told : (brawl.apply targets (.dealSpellDamage 1 .first)).result = .ok 3 := rfl
  obtain ⟨answer, left⟩ := apply_reordered brawl same (.dealSpellDamage 1 .first)
  exact ⟨same, ⟨3, told⟩, answer.trans told, left ⟨3, told⟩⟩

end Board
end CardQuery
