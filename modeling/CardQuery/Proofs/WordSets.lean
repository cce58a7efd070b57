import CardQuery.Proofs.Refusals
import CardQuery.Proofs.Reordering
import Mathlib.Algebra.Group.Nat.Defs

namespace CardQuery

def gather (bits : List UInt8) (mask : UInt8) : UInt8 :=
  (bits.filter fun bit => mask &&& bit ≠ 0).foldl (· ||| ·) 0

theorem gather_congr {bits : List UInt8} {a b : UInt8} (same : ∀ bit ∈ bits, a &&& bit ≠ 0 ↔ b &&& bit ≠ 0) :
    gather bits a = gather bits b := by
  unfold gather
  rw [List.filter_congr fun bit inside => decide_eq_decide.mpr (same bit inside)]

theorem CardType.gather_bits {mask : UInt8} (small : mask.toNat < 2 ^ 5) : gather (all.map bit) mask = mask := by
  have each : ∀ n < 2 ^ 5, gather (all.map bit) (UInt8.ofNat n) = UInt8.ofNat n := by decide
  simpa using each mask.toNat small

theorem Zone.gather_bits {mask : UInt8} (small : mask.toNat < 2 ^ 6) : gather (all.map bit) mask = mask := by
  have each : ∀ n < 2 ^ 6, gather (all.map bit) (UInt8.ofNat n) = UInt8.ofNat n := by decide
  simpa using each mask.toNat small

theorem CardType.masks_eq {a b : UInt8} (left : a.toNat < 2 ^ 5) (right : b.toNat < 2 ^ 5)
    (same : ∀ type : CardType, a &&& type.bit ≠ 0 ↔ b &&& type.bit ≠ 0) : a = b := by
  rw [← gather_bits left, ← gather_bits right]
  apply gather_congr
  intro bit inside
  obtain ⟨type, _, rfl⟩ := List.mem_map.mp inside
  exact same type

theorem Zone.masks_eq {a b : UInt8} (left : a.toNat < 2 ^ 6) (right : b.toNat < 2 ^ 6)
    (same : ∀ zone : Zone, a &&& zone.bit ≠ 0 ↔ b &&& zone.bit ≠ 0) : a = b := by
  rw [← gather_bits left, ← gather_bits right]
  apply gather_congr
  intro bit inside
  obtain ⟨zone, _, rfl⟩ := List.mem_map.mp inside
  exact same zone

theorem or_toNat_lt {a b : UInt8} {width : Nat} (left : a.toNat < 2 ^ width) (right : b.toNat < 2 ^ width) :
    (a ||| b).toNat < 2 ^ width := by
  rw [UInt8.toNat_or]
  exact Nat.or_lt_two_pow left right

namespace Draft

-- No bits besides those of types and zones.
structure Trim (d : Draft) : Prop where
  types : d.types.toNat < 2 ^ 5
  zones : (d.zones.getD 0).toNat < 2 ^ 6

theorem takes_trim {text : String} {d next : Draft} {token : Token} (trim : Trim d)
    (takes : Takes text d token next) : Trim next := by
  cases takes with
  | @type word single =>
    have named : word.types.toNat < 2 ^ 5 := by cases word <;> decide
    exact ⟨or_toNat_lt trim.types named, trim.zones⟩
  | @zone _ name =>
    have named : (((Zone.ofName? name).map Zone.bit).getD 0).toNat < 2 ^ 6 := by
      cases Zone.ofName? name with
      | none => decide
      | some zone => cases zone <;> decide
    exact ⟨trim.types, or_toNat_lt trim.zones named⟩
  | firstOwner | sameOwner | wholeType | tag | property | unknown => exact ⟨trim.types, trim.zones⟩

theorem addAll_trim {text : String} {d final : Draft} {tokens : List Token} (trim : Trim d)
    (taken : (d.addAll text tokens).result = .ok final) : Trim final := by
  induction tokens generalizing d with
  | nil =>
    cases taken
    exact trim
  | cons token rest ih =>
    obtain ⟨next, takes, later⟩ := addAll_cons_eq_ok.mp taken
    exact ih (takes_trim trim takes) later

theorem trim_of_addAll {text : String} {final : Draft} {tokens : List Token}
    (taken : (addAll text {} tokens).result = .ok final) : Trim final :=
  addAll_trim ⟨by decide, by decide⟩ taken

-- Two drafts that say the same; of tags and properties only which there are.
structure Alike (d d' : Draft) : Prop where
  owner : d'.owner = d.owner
  anyType : d'.anyType = d.anyType
  types : d'.types = d.types
  zones : d'.zones = d.zones
  tags : ∀ f, f ∈ d'.tags ↔ f ∈ d.tags
  properties : ∀ f, f ∈ d'.properties ↔ f ∈ d.properties

theorem alike_of_tokens {d d' : Draft} {tokens tokens' : List Token} (described : Describes d tokens)
    (described' : Describes d' tokens') (trim : Trim d) (trim' : Trim d')
    (same : ∀ token, token ∈ tokens' ↔ token ∈ tokens) : Alike d d' := by
  have kept : ∀ (β : Type) (read : Token → Option β) (b : β),
      b ∈ tokens'.filterMap read ↔ b ∈ tokens.filterMap read := by
    intro β read b
    simp only [List.mem_filterMap, same]
  refine ⟨?_, ?_, ?_, ?_, ?_, ?_⟩
  · apply Option.ext
    intro word
    rw [described'.owner, described.owner, same]
  · rw [Bool.eq_iff_iff, described'.anyType, described.anyType, same]
  · apply CardType.masks_eq trim'.types trim.types
    intro type
    rw [described'.types, described.types]
    simp only [same]
  · have values : d'.zones.getD 0 = d.zones.getD 0 := by
      apply Zone.masks_eq trim'.zones trim.zones
      intro zone
      rw [described'.zones, described.zones, same]
    have zoned : d'.zones = none ↔ d.zones = none := by
      rw [described'.zoned, described.zoned]
      simp only [same]
    cases zones : d.zones with
    | none => exact zoned.mpr zones
    | some mask =>
      cases zones' : d'.zones with
      | none =>
        rw [zoned.mp zones'] at zones
        cases zones
      | some mask' => simpa [zones, zones'] using values
  · intro f
    rw [described'.tags, described.tags, kept]
  · intro f
    rw [described'.properties, described.properties, kept]

theorem Alike.typeFilter {d d' : Draft} {text text' : String} {policy : NoTypePolicy} {types types' : TypeFilter}
    (alike : Alike d d') (typed : d.typeFilter text policy = .ok types)
    (typed' : d'.typeFilter text' policy = .ok types') : types' = types := by
  unfold Draft.typeFilter at typed typed'
  rw [alike.anyType, alike.types] at typed'
  split at typed
  · rename_i whole
    rw [if_pos whole] at typed'
    cases typed
    cases typed'
    rfl
  · rename_i narrow
    rw [if_neg narrow] at typed'
    split at typed
    · rename_i named
      rw [if_pos named] at typed'
      cases typed
      cases typed'
      rfl
    · rename_i unnamed
      rw [if_neg unnamed] at typed'
      cases policy with
      | matchAny | matchNone =>
        cases typed
        cases typed'
        rfl
      | reject => cases typed

end Draft

theorem Admissible.congr {policy : NoTypePolicy} {ws ws' : List String} (same : ∀ word, word ∈ ws' ↔ word ∈ ws) :
    Admissible policy ws' ↔ Admissible policy ws := by
  have mono : ∀ {ws ws' : List String}, (∀ word, word ∈ ws' ↔ word ∈ ws) → Admissible policy ws →
      Admissible policy ws' := by
    intro ws ws' same admissible
    refine ⟨?_, ?_, ?_, ?_, ?_⟩
    · intro word present
      exact admissible.legible word ((same word).mp present)
    · intro a b left right
      exact admissible.oneOwner a b ((same _).mp left) ((same _).mp right)
    · intro word present
      exact admissible.orders word ((same word).mp present)
    · intro word present
      exact admissible.patterns word ((same word).mp present)
    · intro strict
      obtain ⟨word, present⟩ := admissible.typed strict
      exact ⟨word, (same _).mpr present⟩
  exact ⟨mono fun word => (same word).symm, mono same⟩

theorem compile_same_words (config : Config) {text text' : String}
    (same : ∀ word, word ∈ Text.words text' ↔ word ∈ Text.words text) :
    ((∃ s', compile config text' = .ok s') ↔ ∃ s, compile config text = .ok s) ∧
    ∀ s s', compile config text = .ok s → compile config text' = .ok s' →
      s'.owner = s.owner ∧ s'.types = s.types ∧ s'.zones = s.zones ∧
      (∀ f, f ∈ s'.tags ↔ f ∈ s.tags) ∧ (∀ f, f ∈ s'.properties ↔ f ∈ s.properties) ∧
      ∀ c view, (s'.accepts c view = .ok true ↔ s.accepts c view = .ok true) ∧
        ∀ keep keep', s.accepts c view = .ok keep → s'.accepts c view = .ok keep' → keep' = keep := by
  refine ⟨?_, ?_⟩
  · rw [compile_isOk_iff_admissible, compile_isOk_iff_admissible, Admissible.congr same]
  · intro s s' compiled compiled'
    obtain ⟨tokens, d, read, taken, finished⟩ := compile_eq_ok.mp compiled
    obtain ⟨tokens', d', read', taken', finished'⟩ := compile_eq_ok.mp compiled'
    obtain ⟨types, typed, rfl⟩ := Draft.finish_eq_ok.mp finished
    obtain ⟨types', typed', rfl⟩ := Draft.finish_eq_ok.mp finished'
    have tokens_iff : ∀ token, token ∈ tokens' ↔ token ∈ tokens := by
      intro token
      simp only [mem_tokens_iff read, mem_tokens_iff read', same]
    have alike := Draft.alike_of_tokens (Draft.describes_of_addAll taken) (Draft.describes_of_addAll taken')
      (Draft.trim_of_addAll taken) (Draft.trim_of_addAll taken') tokens_iff
    refine ⟨?_, alike.typeFilter typed typed', ?_, alike.tags, alike.properties, ?_⟩
    · simp only [Draft.ownerFilter, alike.owner]
    · simp only [Draft.zoneFilter, alike.zones]
    · intro c view
      have accepted := ((Selector.decides compiled' view).accept c).trans
        ((Meaning.satisfies_congr same view c).trans ((Selector.decides compiled view).accept c).symm)
      refine ⟨accepted, ?_⟩
      intro keep keep' answered answered'
      rw [answered, answered', Except.ok.injEq, Except.ok.injEq] at accepted
      exact Bool.eq_iff_iff.mpr accepted

-- Moved and repeated words leave no trace.
theorem compile_repeated_words :
    (∀ word, word ∈ Text.words "@play\t#taunt own  .cost=1 minion own @play" ↔
      word ∈ Text.words "own minion #taunt .cost=1 @play") ∧
    ∃ s s', compile {} "own minion #taunt .cost=1 @play" = .ok s ∧
      compile {} "@play\t#taunt own  .cost=1 minion own @play" = .ok s' ∧
      s'.types = s.types ∧ s'.zones = s.zones ∧ ∀ f, f ∈ s'.properties ↔ f ∈ s.properties := by
  have same : ∀ word, word ∈ Text.words "@play\t#taunt own  .cost=1 minion own @play" ↔
      word ∈ Text.words "own minion #taunt .cost=1 @play" := by
    have moved : Text.words "@play\t#taunt own  .cost=1 minion own @play" =
        ["@play", "#taunt", "own", ".cost=1", "minion", "own", "@play"] := rfl
    have given : Text.words "own minion #taunt .cost=1 @play" = ["own", "minion", "#taunt", ".cost=1", "@play"] := rfl
    intro word
    rw [moved, given]
    simp only [List.mem_cons, List.not_mem_nil]
    tauto
  refine ⟨same, ?_⟩
  obtain ⟨together, alike⟩ := compile_same_words {} same
  have compiled : ∃ s, compile {} "own minion #taunt .cost=1 @play" = .ok s := ⟨_, rfl⟩
  obtain ⟨s', compiled'⟩ := together.mpr compiled
  obtain ⟨s, compiled⟩ := compiled
  obtain ⟨_, types, zones, _, properties, _⟩ := alike s s' compiled compiled'
  exact ⟨s, s', compiled, compiled', types, zones, properties⟩

end CardQuery
