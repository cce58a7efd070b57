import CardQuery.Proofs.Visits

namespace CardQuery
namespace PropertyKey

theorem ofName_label {key : PropertyKey} (typed : key ∈ known) : ofName key.label = key := by
  revert key
  decide

theorem ofName_of_unknown {text : String} (fresh : ∀ key ∈ known, key.label ≠ text) : ofName text = other text := by
  have unfound : known.find? (·.label == text) = none := by
    rw [List.find?_eq_none]
    intro key typed same
    exact fresh key typed (beq_iff_eq.mp same)
  rw [ofName, unfound, Option.getD_none]

@[simp] theorem label_resolve (key : PropertyKey) : key.resolve.label = key.label := label_ofName key.label

theorem resolve_resolve (key : PropertyKey) : key.resolve.resolve = key.resolve := by
  rw [resolve, label_resolve, resolve]

theorem resolve_ofName (text : String) : (ofName text).resolve = ofName text := by
  rw [resolve, label_ofName]

theorem eq_resolve_or_other (key : PropertyKey) : key = key.resolve ∨ key = other key.label := by
  cases key with
  | other text => exact .inr rfl
  | _ => exact .inl (by decide)

-- A key stands under another than its name is read to only if it was written by hand under a known name.
theorem resolve_ne_iff {key : PropertyKey} : key.resolve ≠ key ↔ ∃ shadowed ∈ known, key = other shadowed.label := by
  constructor
  · intro misread
    have extension := (eq_resolve_or_other key).resolve_left misread.symm
    by_contra fresh
    apply misread
    have unknown : ∀ typed ∈ known, typed.label ≠ key.label := by
      intro typed listed same
      exact fresh ⟨typed, listed, same ▸ extension⟩
    exact (ofName_of_unknown unknown).trans extension.symm
  · rintro ⟨shadowed, typed, rfl⟩ same
    have back : ofName shadowed.label = other shadowed.label := same
    rw [ofName_label typed] at back
    rw [back] at typed
    simp [known] at typed

inductive Takes (key : PropertyKey) : Value → Prop where
  | integer (kind : key.kind? = some .integer) : Takes key (.int n)
  | text (kind : key.kind? = some .text) : Takes key (.text s)
  | extension (kind : key.kind? = none) : Takes key value

end PropertyKey

open PropertyKey

namespace Properties

-- Everything that a write can do, by the key that the written name is read to.
inductive Writes (p : Properties) : PropertyKey → Value → Properties → Prop where
  | attack : Writes p .attack (.int n) { p with attack := n }
  | health : Writes p .health (.int n) { p with health := n }
  | maxHealth : Writes p .maxHealth (.int n) { p with maxHealth := some n }
  | cost : Writes p .cost (.int n) { p with cost := n }
  | overload : Writes p .overload (.int n) { p with overload := n }
  | spellDamage : Writes p .spellDamage (.int n) { p with spellDamage := n }
  | race : Writes p .race (.text s) { p with race := some s }
  | name : Writes p .name (.text s) { p with name := s }
  | other {text : String} : Writes p (.other text) value { p with extra := p.extra.insert text value }

variable {p p' : Properties} {key : PropertyKey} {value : Value}

theorem set_eq_ok : p.set key value = .ok p' ↔ p.Writes key.resolve value p' := by
  unfold set
  generalize key.resolve = named
  constructor
  · intro written
    split at written <;> cases written <;> constructor
  · intro writes
    cases writes <;> rfl

theorem writes_iff_takes : (∃ p', p.Writes key value p') ↔ key.Takes value := by
  constructor
  · rintro ⟨p', writes⟩
    cases writes with
    | race | name => exact .text rfl
    | other => exact .extension rfl
    | _ => exact .integer rfl
  · intro taken
    cases taken with
    | integer kind | text kind | extension kind => cases key <;> cases kind <;> exact ⟨_, by constructor⟩

theorem set_eq_error {e : SelectorError} :
    p.set key value = .error e ↔ ¬ key.resolve.Takes value ∧ e = refuse key.resolve value := by
  have told : (∃ p', p.set key value = .ok p') ∨ p.set key value = .error (refuse key.resolve value) := by
    unfold set
    split <;> first | exact .inl ⟨_, rfl⟩ | exact .inr rfl
  simp only [set_eq_ok, writes_iff_takes] at told
  constructor
  · intro refused
    have untaken : ¬ key.resolve.Takes value := by
      rw [← @writes_iff_takes p]
      rintro ⟨p', writes⟩
      rw [set_eq_ok.mpr writes] at refused
      cases refused
    have given := told.resolve_left untaken
    rw [refused] at given
    exact ⟨untaken, Except.error.inj given⟩
  · rintro ⟨untaken, rfl⟩
    exact told.resolve_left untaken

-- Every key reads as before but the one that the written name is read to.
theorem get?_set (written : p.set key value = .ok p') (asked : PropertyKey) :
    p'.get? asked = if asked = key.resolve then some value else p.get? asked := by
  have writes := set_eq_ok.mp written
  generalize key.resolve = named at writes ⊢
  cases writes with
  | @other _ name =>
    cases asked with
    | other text => simp [get?, Table.get?_insert, eq_comm]
    | _ => rfl
  | _ => cases asked <;> rfl

theorem get?_of_label {asked other : PropertyKey} (same : asked.label = other.label) :
    p.get? asked = p.get? other ↔ asked = other ∨ p.get? asked.resolve = p.get? (.other asked.label) := by
  by_cases equal : asked = other
  · exact iff_of_true (congrArg p.get? equal) (.inl equal)
  · rw [or_iff_right equal]
    have resolved : other.resolve = asked.resolve := by rw [resolve, resolve, same]
    have hidden : PropertyKey.other other.label = .other asked.label := congrArg PropertyKey.other same.symm
    rcases eq_resolve_or_other asked with typed | extension
    · rcases eq_resolve_or_other other with typed' | extension'
      · exact absurd (typed.trans (resolved.symm.trans typed'.symm)) equal
      · rw [← typed, ← hidden, ← extension']
    · rcases eq_resolve_or_other other with typed' | extension'
      · rw [← extension, ← resolved, ← typed']
        exact eq_comm
      · exact absurd (extension.trans (hidden.symm.trans extension'.symm)) equal

-- A write goes by the name of its key, a read by the key itself.
theorem written_readable (written : p.set key value = .ok p') :
    (p'.get? key = some value ↔ key.resolve = key ∨ p.get? key = some value) ∧
    ∀ asked other : PropertyKey, asked.label = other.label →
      (p.get? asked = p.get? other ↔ asked = other ∨ p.get? asked.resolve = p.get? (.other asked.label)) := by
  refine ⟨?_, fun asked other same => get?_of_label same⟩
  rw [get?_set written]
  split
  · rename_i same
    exact iff_of_true rfl (.inl same.symm)
  · rename_i hidden
    exact (or_iff_right (Ne.symm hidden)).symm

theorem mood_readable : ({} : Properties).set (.ofName "mood") (.text "grumpy") = .ok
      { extra := Table.ofList [("mood", .text "grumpy")] } ∧
    ({ extra := Table.ofList [("mood", .text "grumpy")] } : Properties).get? (.ofName "mood") = some (.text "grumpy") := by
  have written : ({} : Properties).set (.ofName "mood") (.text "grumpy") = .ok
      { extra := Table.ofList [("mood", .text "grumpy")] } := rfl
  exact ⟨written, (written_readable written).1.mpr (.inl (resolve_ofName "mood"))⟩

-- Written by hand, the key writes the attack and reads an extension.
theorem hand_written_attack : ({} : Properties).set (.other "attack") (.int 4) = .ok { attack := 4 } ∧
    ({ attack := 4 } : Properties).get? (.other "attack") = none ∧
    ({ attack := 4 } : Properties).get? .attack = some (.int 4) ∧
    (¬ ∀ (p p' : Properties) key value, p.set key value = .ok p' → p'.get? key = some value) ∧
    ¬ ∀ (p : Properties) (asked other : PropertyKey), asked.label = other.label → p.get? asked = p.get? other := by
  refine ⟨rfl, rfl, rfl, ?_, ?_⟩
  · intro readable
    cases readable {} { attack := 4 } (.other "attack") (.int 4) rfl
  · intro alike
    cases alike { attack := 4 } (.other "attack") .attack rfl

-- No extension has the name of a typed property.
def Unshadowed (p : Properties) : Prop := ∀ typed ∈ known, p.extra.get? typed.label = none

def write (p : Properties) (key : PropertyKey) (value : Value) : Properties :=
  match p.set key value with
  | .ok p' => p'
  | .error _ => p

-- One write after another, whether or not those before were refused.
def writeAll (p : Properties) (writes : List (PropertyKey × Value)) : Properties :=
  writes.foldl (fun p entry => p.write entry.1 entry.2) p

theorem write_shadow (p : Properties) (key : PropertyKey) (value : Value) {typed : PropertyKey} (listed : typed ∈ known) :
    (p.write key value).extra.get? typed.label = p.extra.get? typed.label := by
  rw [write]
  split
  · rename_i p' written
    have unnamed : PropertyKey.other typed.label ≠ key.resolve := by
      intro hidden
      have misread : key.resolve.resolve ≠ key.resolve := resolve_ne_iff.mpr ⟨typed, listed, hidden.symm⟩
      exact misread (resolve_resolve key)
    have read := get?_set written (.other typed.label)
    rwa [if_neg unnamed] at read
  · rfl

theorem writeAll_shadow (p : Properties) (writes : List (PropertyKey × Value)) {typed : PropertyKey}
    (listed : typed ∈ known) : (p.writeAll writes).extra.get? typed.label = p.extra.get? typed.label := by
  induction writes generalizing p with
  | nil => rfl
  | cons entry rest ih => exact (ih (p.write entry.1 entry.2)).trans (write_shadow p entry.1 entry.2 listed)

theorem writeAll_unshadowed (p : Properties) (writes : List (PropertyKey × Value)) :
    (p.writeAll writes).Unshadowed ↔ p.Unshadowed :=
  forall₂_congr fun _ listed => by rw [writeAll_shadow p writes listed]

end Properties

open Properties

theorem Board.setAll_one {b : Board} {id : EntityId} {card : Card} (found : b.get? id = some card) (key : PropertyKey)
    (value : Value) : b.setAll ⟨[id]⟩ key value = match card.properties.set key value with
      | .ok p => (.ok [.ok ()], b.modify id fun _ => { card with properties := p })
      | .error e => (.ok [.error e], b) := by
  cases told : card.properties.set key value with
  | ok p =>
    have worked : card.set key value = .ok { card with properties := p } := by rw [Card.set, told]; rfl
    rw [setAll, @visit_done _ _ b id [] card found (.ok ()) (by rw [worked]), worked]
    rfl
  | error e =>
    have worked : card.set key value = .error e := by rw [Card.set, told]; rfl
    rw [setAll, @visit_done _ _ b id [] card found (.error e) (by rw [worked]), worked]
    exact Prod.ext rfl (modify_same found)

theorem Properties.set_exact (p : Properties) :
    (∀ key value,
      ((∃ p', p.set key value = .ok p') ↔ key.resolve.Takes value) ∧
      (∀ p', p.set key value = .ok p' → p'.get? key.resolve = some value ∧
        ∀ other, other ≠ key.resolve → p'.get? other = p.get? other) ∧
      ∀ e, p.set key value = .error e → e = refuse key.resolve value ∧ e.kind = .input ∧ p.write key value = p ∧
        ∀ (b : Board) id card, b.get? id = some card → card.properties = p → b.setAll ⟨[id]⟩ key value = (.ok [.error e], b)) ∧
    ∀ writes, (p.writeAll writes).Unshadowed ↔ p.Unshadowed := by
  refine ⟨?_, writeAll_unshadowed p⟩
  intro key value
  refine ⟨?_, ?_, ?_⟩
  · simp only [set_eq_ok]
    exact writes_iff_takes
  · intro p' written
    have reads := get?_set written
    refine ⟨?_, ?_⟩
    · rw [reads, if_pos rfl]
    · intro other different
      rw [reads, if_neg different]
  · intro e refused
    have reason := (set_eq_error.mp refused).2
    refine ⟨reason, ?_, ?_, ?_⟩
    · rw [reason]
      rfl
    · rw [write, refused]
    · rintro b id card found rfl
      rw [Board.setAll_one found, refused]

end CardQuery
