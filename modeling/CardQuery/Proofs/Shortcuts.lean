import CardQuery.Engine

namespace CardQuery

theorem ZoneFilter.play_holds (c : Card) : play.holds c = Shortcut.inPlay c := by
  unfold holds play Shortcut.inPlay
  cases c.zone <;> rfl

theorem TypeFilter.minion_holds (c : Card) : (only CardType.minion.bit).holds c = (c.type == .minion) := by
  unfold holds
  cases c.type <;> rfl

theorem TypeFilter.character_holds (c : Card) : character.holds c = c.isCharacter := by
  unfold holds character Card.isCharacter
  cases c.type <;> rfl

def Selector.broad (text : String) (owner : OwnerFilter) (types : TypeFilter) (clauses : List PropertyFilter) :
    Selector := ⟨text, owner, types, .play, [], clauses⟩

namespace Selector
variable {text : String} (owner : OwnerFilter) (types : TypeFilter) (c : Card) (view : Perspective)

theorem broad_admits (clauses : List PropertyFilter) : (broad text owner types clauses).admits c view =
    (owner.holds c view && (Shortcut.inPlay c && types.holds c)) := by
  simp [broad, admits, ZoneFilter.play_holds, Bool.and_assoc, Bool.and_comm (types.holds c)]

theorem broad_accepts : (broad text owner types []).accepts c view =
    .ok (owner.holds c view && (Shortcut.inPlay c && types.holds c)) := by
  rw [← broad_admits owner types c view []]
  unfold accepts
  split
  · rename_i admitted
    rw [admitted]
    rfl
  · rename_i refused
    rw [Bool.not_eq_true] at refused
    rw [refused]

theorem minion_accepts : (broad text owner (.only CardType.minion.bit) []).accepts c view =
    .ok (owner.holds c view && Shortcut.minion c view) := by
  rw [broad_accepts, TypeFilter.minion_holds]
  rfl

theorem character_accepts : (broad text owner .character []).accepts c view =
    .ok (owner.holds c view && Shortcut.character c view) := by
  rw [broad_accepts, TypeFilter.character_holds]
  rfl

-- Health is a number on every card, so the clause always has an answer.
theorem living_accepts : (broad text owner .character [⟨.health, .order .gt 0⟩]).accepts c view =
    .ok (owner.holds c view && Shortcut.character c view && 0 < c.properties.health) := by
  have clause : PropertyFilter.accepts ⟨.health, .order .gt 0⟩ c text = .ok (decide (0 < c.properties.health)) := rfl
  have admits := @broad_admits text owner .character c view [⟨.health, .order .gt 0⟩]
  rw [TypeFilter.character_holds] at admits
  unfold accepts Shortcut.character
  rw [← admits]
  split
  · rename_i admitted
    rw [admitted, Bool.true_and]
    show PropertyFilter.allAccept c text [⟨.health, .order .gt 0⟩] = _
    unfold PropertyFilter.allAccept
    rw [clause]
    cases decide (0 < c.properties.health) <;> rfl
  · rename_i refused
    rw [Bool.not_eq_true] at refused
    rw [refused, Bool.false_and]

end Selector

namespace Shortcut

theorem find?_eq_some {text : String} {holds : Card → Perspective → Bool} (found : find? text = some holds) :
    (text, holds) ∈ table := by
  obtain ⟨entry, first, rfl⟩ := Option.map_eq_some_iff.mp found
  have same : entry.1 = text := by simpa using (List.find?_eq_some_iff_append.mp first).1
  subst same
  exact List.mem_of_find?_eq_some first

theorem compiles : ∀ entry ∈ table, ∃ s, (∀ config, compile config entry.1 = .ok s) ∧
    ∀ c view, s.accepts c view = .ok (entry.2 c view) := by
  unfold table
  simp only [List.forall_mem_cons]
  refine ⟨?_, ?_, ?_, ?_, ?_, ?_, ?_, by simp⟩
  · exact ⟨_, fun _ => rfl, Selector.minion_accepts .any⟩
  · exact ⟨_, fun _ => rfl, Selector.character_accepts .any⟩
  · exact ⟨_, fun _ => rfl, Selector.minion_accepts .own⟩
  · exact ⟨_, fun _ => rfl, Selector.minion_accepts .enemy⟩
  · exact ⟨_, fun _ => rfl, Selector.character_accepts .own⟩
  · exact ⟨_, fun _ => rfl, Selector.character_accepts .enemy⟩
  · exact ⟨_, fun _ => rfl, Selector.living_accepts .enemy⟩

end Shortcut
end CardQuery
