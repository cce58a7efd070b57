import CardQuery.Action

namespace CardQuery

def Card.statless (c : Card) : Card :=
  { c with properties :=
    { c.properties with attack := 0, health := 0, maxHealth := c.properties.maxHealth.map fun _ => 0 } }

namespace Action

-- A card with the fields blanked that an action may write.
def rest : Action → Card → Card
  | dealDamage _, c | dealSpellDamage _ _, c | restoreHealth _, c => withHealth c 0
  | buff _ _, c => c.statless
  | addTag _, c | removeTag _, c => { c with tags := {} }
  | moveTo _, c | destroy, c => { c with zone := .deck }
  | setOwner _, c => { c with owner := .first }

theorem applyTo_rest (action : Action) (card : Card) : action.rest (action.applyTo card).2 = action.rest card := by
  cases action with
  | dealDamage | dealSpellDamage =>
    simp only [applyTo, damage]
    split <;> rfl
  | restoreHealth =>
    simp only [applyTo, heal]
    split
    · rfl
    · split <;> rfl
  | buff attack health =>
    simp only [applyTo, strengthen]
    split
    · rfl
    · split
      · rfl
      · split
        · rfl
        · rename_i cap stops
          have capped : card.properties.maxHealth = some cap := stops
          split
          · rfl
          · simp [rest, Card.statless, withCap, withHealth, withAttack, capped]
  | addTag | removeTag | moveTo | destroy | setOwner => rfl

-- What can be told of a card without the fields that an action may write.
theorem applyTo_kept (view : Card → β) {action : Action} (blind : ∀ card, view (action.rest card) = view card)
    (card : Card) : view (action.applyTo card).2 = view card := by
  rw [← blind, applyTo_rest, blind]

theorem applyTo_id (action : Action) (card : Card) : (action.applyTo card).2.id = card.id := by
  apply applyTo_kept Card.id
  intro card
  cases action <;> rfl

end Action
end CardQuery
