import CardQuery.Proofs.Applying
import CardQuery.Proofs.Sparing

namespace CardQuery
namespace Board

-- A spell's damage writes what plain damage does.
theorem resolve_rest {b : Board} {action resolved : Action} (settled : b.resolve action = .ok resolved) :
    resolved.rest = action.rest := by
  cases action with
  | dealSpellDamage =>
    obtain ⟨_, total, _, _, rfl⟩ := resolve_spell_eq_ok.mp settled
    rfl
  | _ =>
    cases settled
    rfl

theorem visit_unlisted {f : Card → Except Fault α × Card} {b : Board} {targets : List EntityId} {id : EntityId}
    (unlisted : id ∉ targets) : (b.visit f targets).2.get? id = b.get? id := by
  apply visit_keeps (P := fun after => after.get? id = b.get? id) _ rfl
  intro after other listed card same _
  have elsewhere : other ≠ id := fun here => unlisted (here ▸ listed)
  rw [get?_modify, if_neg elsewhere]
  exact same

section Apply
variable (b : Board) (targets : ResultSet) (action : Action)

theorem apply_board_cases : (b.apply targets action).board = b ∨
    ∃ resolved, b.resolve action = .ok resolved ∧
      (b.apply targets action).board = (b.visit resolved.applyTo targets.ids).2 := by
  cases settled : b.resolve action with
  | ok resolved => exact .inr ⟨resolved, rfl, apply_board targets settled⟩
  | error fault =>
    left
    obtain ⟨ids⟩ := targets
    cases ids with
    | nil => rfl
    | cons id others => exact congrArg Prod.snd (apply_unresolved (List.cons_ne_nil id others) settled)

theorem apply_frame : (b.apply targets action).board.pools = b.pools ∧ (b.apply targets action).board.next = b.next ∧
    (b.apply targets action).board.cards.keys = b.cards.keys := by
  rcases apply_board_cases b targets action with same | ⟨resolved, _, left⟩
  · rw [same]
    exact ⟨rfl, rfl, rfl⟩
  · rw [left]
    exact visit_frame b targets.ids

theorem apply_unlisted {id : EntityId} (unlisted : id ∉ targets.ids) :
    (b.apply targets action).board.get? id = b.get? id := by
  rcases apply_board_cases b targets action with same | ⟨resolved, _, left⟩
  · rw [same]
  · rw [left]
    exact visit_unlisted unlisted

theorem apply_rest (id : EntityId) :
    ((b.apply targets action).board.get? id).map action.rest = (b.get? id).map action.rest := by
  rcases apply_board_cases b targets action with same | ⟨resolved, settled, left⟩
  · rw [same]
  · rw [left, ← resolve_rest settled]
    exact visit_view b targets.ids resolved.applyTo_rest id

theorem apply_counts {n : Nat} (told : (b.apply targets action).result = .ok n) :
    n = targets.ids.countP b.cards.contains := by
  rcases apply_eq_ok.mp (Applied.outcome_of told) with ⟨none, rfl, _⟩ | ⟨_, _, _, counted⟩
  · rw [none, List.countP_nil]
  · exact counted

end Apply

theorem apply_framed (b : Board) (targets : ResultSet) (action : Action) :
    let applied := b.apply targets action
    (applied.board.pools = b.pools ∧ applied.board.next = b.next ∧ applied.board.cards.keys = b.cards.keys) ∧
    (∀ id, id ∉ targets.ids → applied.board.get? id = b.get? id) ∧
    (∀ id, (applied.board.get? id).map action.rest = (b.get? id).map action.rest) ∧
    (applied.result = .ok (targets.ids.countP b.cards.contains) ∨ applied.Overflows) := by
  refine ⟨apply_frame b targets action, fun id => apply_unlisted b targets action, apply_rest b targets action, ?_⟩
  rcases completes_or_overflows b targets action with ⟨n, told⟩ | overflows
  · exact .inl (apply_counts b targets action told ▸ told)
  · exact .inr overflows

-- An overflow of the health: the attack is written, and stays so.
example : (brawl.apply ⟨[⟨0⟩]⟩ (.buff 1 0x7fffffffffffffff)).result = .error .addOverflow ∧
    ((brawl.apply ⟨[⟨0⟩]⟩ (.buff 1 0x7fffffffffffffff)).board.get? ⟨0⟩).map
      (fun card => (card.properties.attack, card.properties.health)) = some (5, 5) :=
  ⟨rfl, rfl⟩

end Board
end CardQuery
