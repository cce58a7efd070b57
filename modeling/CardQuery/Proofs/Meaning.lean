import CardQuery.Proofs.Collecting
import CardQuery.Proofs.Drafting

namespace CardQuery

def Value.WrittenAs (raw : String) : Value → Prop
  | .int n => Text.readInt64 raw = some n
  | .bool b => raw = if b then "true" else "false"
  | .text s => raw = s

def Value.Counts : Value → Prop
  | .int n => n.toInt ≠ 0
  | .bool b => b = true
  | .text s => s ≠ ""

def Operator.Relates (left right : Int) : Operator → Prop
  | .lt => left < right
  | .gt => right < left
  | .le => left ≤ right
  | .ge => right ≤ left
  | .eq => left = right
  | .ne => left ≠ right

namespace Meaning

def OwnerSays (ws : List String) (view : Perspective) (c : Card) : Prop :=
  (∀ word : OwnerWord, word.text ∉ ws) ∨ "any" ∈ ws ∨
    ("own" ∈ ws ∧ c.owner = view.own) ∨ ("enemy" ∈ ws ∧ c.owner = view.enemy)

def TypeSays (policy : NoTypePolicy) (ws : List String) (c : Card) : Prop :=
  "card" ∈ ws ∨ (∃ word : TypeWord, word.text ∈ ws ∧ word.Names c.type) ∨
    ((∀ word : TypeWord, word.text ∉ ws) ∧ policy = .matchAny)

-- A word with `@` ends the default whether or not it names a zone.
def ZoneSays (ws : List String) (c : Card) : Prop :=
  "@" ++ c.zone.name ∈ ws ∨ ((∀ name, "@" ++ name ∉ ws) ∧ c.zone = .play)

inductive TagHolds (c : Card) : String → Prop where
  | battlecry (has : c.capabilities.battlecry = true) : TagHolds c "battlecry"
  | deathrattle (has : c.capabilities.deathrattle = true) : TagHolds c "deathrattle"
  | granted (attached : e ∈ c.enchantments) (grants : e.grantsDeathrattle = true) : TagHolds c "deathrattle"
  | aura (has : c.capabilities.aura = true) : TagHolds c "aura"
  | trigger (has : c.capabilities.trigger = true) : TagHolds c "trigger"
  | overload (costs : c.properties.overload ≠ 0) : TagHolds c "overload"
  | tag (present : t ∈ c.tags.toList) : TagHolds c t.name

def TagsSay (ws : List String) (c : Card) : Prop := ∀ name, name ≠ "" → "#" ++ name ∈ ws → TagHolds c name

-- A property that a card does not have differs from every literal, and no other comparison holds of it.
def ClauseHolds (c : Card) (name : String) : Option Comparison → Prop
  | none => ∃ v, c.get? (.ofName name) = some v ∧ v.Counts
  | some ⟨.eq, raw⟩ => ∃ v, c.get? (.ofName name) = some v ∧
      (v.WrittenAs raw ∨ ∃ pattern, Pattern.ofClause? raw = some pattern ∧ pattern.isMatch v.render = true)
  | some ⟨.ne, raw⟩ => ∀ v, c.get? (.ofName name) = some v → ¬ v.WrittenAs raw
  | some ⟨op, raw⟩ => ∃ n bound, c.get? (.ofName name) = some (.int n) ∧ Text.readInt64 raw = some bound ∧
      op.Relates n.toInt bound.toInt

def PropertiesSay (ws : List String) (c : Card) : Prop :=
  ∀ word ∈ ws, ∀ name comparison, Token.Spelled word (.property name comparison) → ClauseHolds c name comparison

-- Everything but the properties.
structure Admits (policy : NoTypePolicy) (ws : List String) (view : Perspective) (c : Card) : Prop where
  owner : OwnerSays ws view c
  type : TypeSays policy ws c
  zone : ZoneSays ws c
  tags : TagsSay ws c

structure Satisfies (policy : NoTypePolicy) (ws : List String) (view : Perspective) (c : Card) : Prop where
  admitted : Admits policy ws view c
  properties : PropertiesSay ws c

-- The property words from left to right: one that orders what is no number stops, unless an earlier one failed.
inductive Stops (selector : String) (c : Card) : List String → SelectorError → Prop where
  | here (spelled : Token.Spelled word (.property name (some ⟨op, raw⟩))) (ordering : op.isOrdering = true)
      (found : c.get? (.ofName name) = some v) (unordered : ∀ n, v ≠ .int n) :
      Stops selector c (word :: rest) (.meaningless selector (.propertyNotNumeric op (.ofName name) c.id v))
  | later (held : PropertiesSay [word] c) (stops : Stops selector c rest e) : Stops selector c (word :: rest) e

-- Only a card that is admitted can make the search fail.
structure Fails (policy : NoTypePolicy) (selector : String) (view : Perspective) (c : Card) (e : SelectorError) :
    Prop where
  admitted : Admits policy (Text.words selector) view c
  stops : Stops selector c (Text.words selector) e

end Meaning

theorem Value.looselyEquals_iff {v : Value} {raw : String} : v.looselyEquals raw = true ↔ v.WrittenAs raw := by
  cases v with
  | int n => simp [looselyEquals, WrittenAs]
  | bool b => cases b <;> simp [looselyEquals, WrittenAs]
  | text s =>
    rw [looselyEquals, WrittenAs, beq_iff_eq]
    exact eq_comm

theorem Value.isTruthy_iff {v : Value} : v.isTruthy = true ↔ v.Counts := by
  cases v with
  | int n =>
    have zero : n = 0 ↔ n.toInt = 0 := by rw [← Int64.toInt_inj]; rfl
    simp [isTruthy, Counts, zero]
  | bool b => simp [isTruthy, Counts]
  | text s => simp [isTruthy, Counts]

theorem Operator.compare_iff {op : Operator} {left right : Int64} :
    op.compare left right = true ↔ op.Relates left.toInt right.toInt := by
  cases op <;> simp [compare, Relates, Int64.lt_iff_toInt_lt, Int64.le_iff_toInt_le, ← Int64.toInt_inj]

open Meaning

theorem TagFilter.ofName_holds {name : String} {c : Card} : (ofName name).holds c = true ↔ TagHolds c name := by
  constructor
  · intro held
    unfold ofName at held
    split at held
    · subst name; exact .battlecry held
    · split at held
      · subst name
        rcases Bool.or_eq_true_iff.mp held with own | attached
        · exact .deathrattle own
        · obtain ⟨e, present, grants⟩ := List.any_eq_true.mp attached
          exact .granted present grants
      · split at held
        · subst name; exact .aura held
        · split at held
          · subst name; exact .trigger held
          · split at held
            · subst name; exact .overload (by simpa [holds, Card.hasOverload] using held)
            · split at held
              · rename_i tag found
                have named := List.find?_some found
                have same : tag.name = name := beq_iff_eq.mp named
                subst name
                exact .tag (TagSet.contains_eq.mp held)
              · cases held
  · intro carried
    cases carried with
    | battlecry has => exact has
    | deathrattle has => exact Bool.or_eq_true_iff.mpr (.inl has)
    | granted attached grants => exact Bool.or_eq_true_iff.mpr (.inr (List.any_eq_true.mpr ⟨_, attached, grants⟩))
    | aura has => exact has
    | trigger has => exact has
    | overload costs => simpa [ofName, holds, Card.hasOverload] using costs
    | @tag t present =>
      have named : ofName t.name = .has t := by cases t <;> rfl
      rw [named]
      exact TagSet.contains_eq.mpr present

inductive PropertyTest.Expresses : Option Comparison → PropertyTest → Prop where
  | truthy : Expresses none .truthy
  | equals (read : Pattern.ofClause? raw = some pattern) : Expresses (some ⟨.eq, raw⟩) (.equals raw pattern)
  | notEquals : Expresses (some ⟨.ne, raw⟩) (.notEquals raw)
  | order (ordering : op.isOrdering = true) (read : Text.readInt64 raw = some bound) :
      Expresses (some ⟨op, raw⟩) (.order op bound)

theorem PropertyFilter.expresses_of_compile {text name : String} {comparison : Option Comparison}
    {f : PropertyFilter} (compiled : PropertyFilter.compile text name comparison = .ok f) :
    ∃ test, f = ⟨.ofName name, test⟩ ∧ PropertyTest.Expresses comparison test := by
  cases comparison with
  | none => cases compiled; exact ⟨_, rfl, .truthy⟩
  | some comparison =>
    obtain ⟨op, raw⟩ := comparison
    simp only [PropertyFilter.compile, PropertyTest.compile] at compiled
    cases op with
    | ne => cases compiled; exact ⟨_, rfl, .notEquals⟩
    | eq =>
      cases read : Pattern.ofClause? raw with
      | none => simp [read, Except.map] at compiled
      | some pattern =>
        rw [read] at compiled
        cases compiled
        exact ⟨_, rfl, .equals read⟩
    | lt | gt | le | ge =>
      dsimp only at compiled
      split at compiled
      · cases compiled
      · cases read : Text.readInt64 raw with
        | none => simp [read, Except.map] at compiled
        | some bound =>
          rw [read] at compiled
          cases compiled
          exact ⟨_, rfl, .order rfl read⟩

theorem Meaning.clauseHolds_ordering {c : Card} {name raw : String} {op : Operator}
    (ordering : op.isOrdering = true) :
    ClauseHolds c name (some ⟨op, raw⟩) ↔ ∃ n bound, c.get? (.ofName name) = some (.int n) ∧
      Text.readInt64 raw = some bound ∧ op.Relates n.toInt bound.toInt := by
  cases op with
  | eq | ne => cases ordering
  | lt | gt | le | ge => rfl

section
variable {text name : String} {comparison : Option Comparison} {f : PropertyFilter}
  (compiled : PropertyFilter.compile text name comparison = .ok f) (c : Card) (selector : String)
include compiled

theorem PropertyFilter.accepts_eq_true : f.accepts c selector = .ok true ↔ ClauseHolds c name comparison := by
  obtain ⟨test, rfl, expresses⟩ := expresses_of_compile compiled
  cases expresses with
  | truthy =>
    cases found : c.get? (.ofName name) with
    | none => simp [accepts, PropertyTest.holds, ClauseHolds, found]
    | some v => simp [accepts, PropertyTest.holds, ClauseHolds, found, Value.isTruthy_iff]
  | equals read =>
    cases found : c.get? (.ofName name) with
    | none => simp [accepts, PropertyTest.holds, ClauseHolds, found]
    | some v => simp [accepts, PropertyTest.holds, ClauseHolds, found, read, Value.looselyEquals_iff]
  | notEquals =>
    cases found : c.get? (.ofName name) with
    | none => simp [accepts, PropertyTest.holds, ClauseHolds, found]
    | some v =>
      simp only [accepts, PropertyTest.holds, ClauseHolds, found, ← Value.looselyEquals_iff]
      simp
  | order ordering read =>
    rw [clauseHolds_ordering ordering]
    cases found : c.get? (.ofName name) with
    | none => simp [accepts, PropertyTest.holds, found]
    | some v =>
      cases v with
      | int n => simp [accepts, PropertyTest.holds, found, read, Operator.compare_iff]
      | bool b => simp [accepts, found]
      | text s => simp [accepts, found]

theorem PropertyFilter.accepts_eq_error (e : SelectorError) :
    f.accepts c selector = .error e ↔ ∃ op raw v, comparison = some ⟨op, raw⟩ ∧ op.isOrdering = true ∧
      c.get? (.ofName name) = some v ∧ (∀ n, v ≠ .int n) ∧
      e = .meaningless selector (.propertyNotNumeric op (.ofName name) c.id v) := by
  obtain ⟨test, rfl, expresses⟩ := expresses_of_compile compiled
  cases expresses with
  | truthy => simp [accepts]
  | equals read => simp [accepts, Operator.isOrdering]
  | notEquals => simp [accepts, Operator.isOrdering]
  | order ordering read =>
    cases found : c.get? (.ofName name) with
    | none => simp [accepts, found]
    | some v =>
      cases v with
      | int n => simp [accepts, found]
      | bool b | text s =>
        simp only [accepts, found, Except.error.injEq]
        constructor
        · intro same
          subst same
          exact ⟨_, _, _, rfl, ordering, rfl, by simp, rfl⟩
        · intro stuck
          obtain ⟨_, _, _, ⟨⟩, _, ⟨⟩, _, rfl⟩ := stuck
          rfl

end

end CardQuery
