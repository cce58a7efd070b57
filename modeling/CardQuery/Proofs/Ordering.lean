import CardQuery.Proofs.Meaning

namespace CardQuery
namespace Meaning

-- The word orders by a property that is no number on the card.
def Undecidable (c : Card) (word : String) : Prop :=
  ∃ name op raw v, Token.Spelled word (.property name (some ⟨op, raw⟩)) ∧ op.isOrdering = true ∧
    c.get? (.ofName name) = some v ∧ ∀ n, v ≠ .int n

-- The word turns the card away, so the words behind it are not looked at.
def Rejects (c : Card) (word : String) : Prop := ¬ PropertiesSay [word] c ∧ ¬ Undecidable c word

-- The words from left to right come to one that cannot be decided.
def Stuck (c : Card) (ws : List String) : Prop :=
  ∃ front word back, ws = front ++ word :: back ∧ Undecidable c word ∧ ∀ other ∈ front, ¬ Rejects c other

-- Words of which the first one stops the search, whichever it is: what could turn its card away comes later.
structure Blocks (cards : Card → Prop) (ws blocking : List String) : Prop where
  nonempty : blocking ≠ []
  inside : ∀ word ∈ blocking, word ∈ ws
  stops : ∀ word ∈ blocking, ∃ c, cards c ∧ Undecidable c word ∧ ∀ other ∈ ws, Rejects c other → other ∈ blocking

def OrderFree (cards : Card → Prop) (ws : List String) : Prop :=
  (∀ c, cards c → ∀ word ∈ ws, ¬ Undecidable c word) ∨ ∃ blocking, Blocks cards ws blocking

section
variable {c : Card}

theorem stuck_cons {word : String} {rest : List String} :
    Stuck c (word :: rest) ↔ Undecidable c word ∨ (¬ Rejects c word ∧ Stuck c rest) := by
  constructor
  · intro stuck
    obtain ⟨front, last, back, split, undecidable, clear⟩ := stuck
    cases front with
    | nil =>
      cases split
      exact .inl undecidable
    | cons first front =>
      cases split
      refine .inr ⟨clear _ (by simp), front, last, back, rfl, undecidable, ?_⟩
      intro other present
      exact clear other (List.mem_cons_of_mem _ present)
  · intro cases
    rcases cases with undecidable | ⟨kept, front, last, back, rfl, undecidable, clear⟩
    · exact ⟨[], word, rest, rfl, undecidable, by simp⟩
    · refine ⟨word :: front, last, back, rfl, undecidable, ?_⟩
      intro other present
      rcases List.mem_cons.mp present with rfl | old
      · exact kept
      · exact clear other old

theorem stops_cons {selector word : String} {rest : List String} :
    (∃ e, Stops selector c (word :: rest) e) ↔
      Undecidable c word ∨ (PropertiesSay [word] c ∧ ∃ e, Stops selector c rest e) := by
  constructor
  · intro stopped
    obtain ⟨e, stops⟩ := stopped
    cases stops with
    | here spelled ordering found unordered => exact .inl ⟨_, _, _, _, spelled, ordering, found, unordered⟩
    | later held stops => exact .inr ⟨held, e, stops⟩
  · intro cases
    rcases cases with ⟨name, op, raw, v, spelled, ordering, found, unordered⟩ | ⟨held, e, stops⟩
    · exact ⟨_, .here spelled ordering found unordered⟩
    · exact ⟨e, .later held stops⟩

theorem stops_iff_stuck {selector : String} {ws : List String} : (∃ e, Stops selector c ws e) ↔ Stuck c ws := by
  induction ws with
  | nil =>
    apply iff_of_false
    · intro stopped
      obtain ⟨e, stops⟩ := stopped
      cases stops
    · intro stuck
      obtain ⟨front, word, back, split, _⟩ := stuck
      cases front <;> cases split
  | cons word rest ih =>
    rw [stops_cons, stuck_cons, ih]
    by_cases undecidable : Undecidable c word
    · simp [undecidable]
    · simp [Rejects, undecidable]

end

section
variable {cards : Card → Prop} {ws : List String}

theorem stuck_first {c : Card} {word : String} (present : word ∈ ws) (undecidable : Undecidable c word) :
    ∃ order, order.Perm ws ∧ Stuck c order := by
  refine ⟨word :: ws.erase word, (List.perm_cons_erase present).symm, ?_⟩
  exact stuck_cons.mpr (.inl undecidable)

-- The first of the blocking words in any order finds no word in front of it that turns its card away.
theorem stuck_of_blocks {blocking order : List String} (blocks : Blocks cards ws blocking) (moved : order.Perm ws) :
    ∃ c, cards c ∧ Stuck c order := by
  obtain ⟨some', member⟩ := List.exists_mem_of_ne_nil _ blocks.nonempty
  have found : (order.find? (· ∈ blocking)).isSome = true := by
    rw [List.find?_isSome]
    exact ⟨some', moved.mem_iff.mpr (blocks.inside _ member), by simpa using member⟩
  obtain ⟨word, first⟩ := Option.isSome_iff_exists.mp found
  obtain ⟨chosen, front, back, split, before⟩ := List.find?_eq_some_iff_append.mp first
  obtain ⟨c, card, undecidable, later⟩ := blocks.stops word (by simpa using chosen)
  refine ⟨c, card, front, word, back, split, undecidable, ?_⟩
  intro other present rejects
  have inside : other ∈ ws := moved.mem_iff.mp (by simp [split, present])
  have outside := before other present
  simp [later other inside rejects] at outside

-- Without blocking words there is always a next one behind the words that turn its cards away.
theorem exists_order (free : ∀ blocking, ¬ Blocks cards ws blocking) (left : List String)
    (inside : ∀ word ∈ left, word ∈ ws) :
    ∃ order, order.Perm left ∧ ∀ front word back, order = front ++ word :: back → ∀ c, cards c → Undecidable c word →
      ∃ other ∈ ws, Rejects c other ∧ (other ∈ front ∨ other ∉ left) := by
  induction size : left.length generalizing left with
  | zero =>
    obtain rfl := List.eq_nil_of_length_eq_zero size
    refine ⟨[], .refl _, ?_⟩
    intro front word back split
    cases front <;> cases split
  | succ n ih =>
    have next : ∃ word ∈ left, ∀ c, cards c → Undecidable c word → ∃ other ∈ ws, Rejects c other ∧ other ∉ left := by
      by_contra none
      push Not at none
      have nonempty : left ≠ [] := by
        intro empty
        rw [empty] at size
        cases size
      exact free left ⟨nonempty, inside, none⟩
    obtain ⟨word, present, safe⟩ := next
    have shorter : (left.erase word).length = n := by
      have erased := List.length_erase_of_mem present
      omega
    obtain ⟨order, moved, later⟩ := ih (left.erase word)
      (fun other member => inside other (List.mem_of_mem_erase member)) shorter
    refine ⟨word :: order, (moved.cons word).trans (List.perm_cons_erase present).symm, ?_⟩
    intro front chosen back split c card undecidable
    cases front with
    | nil =>
      cases split
      obtain ⟨other, member, rejects, outside⟩ := safe c card undecidable
      exact ⟨other, member, rejects, .inr outside⟩
    | cons first front =>
      cases split
      obtain ⟨other, member, rejects, place⟩ := later front chosen back rfl c card undecidable
      refine ⟨other, member, rejects, ?_⟩
      by_cases same : other = word
      · exact .inl (by simp [same])
      · rcases place with before | outside
        · exact .inl (List.mem_cons_of_mem _ before)
        · refine .inr ?_
          intro kept
          exact outside ((List.mem_erase_of_ne same).mpr kept)

theorem exists_safe_order (free : ∀ blocking, ¬ Blocks cards ws blocking) :
    ∃ order, order.Perm ws ∧ ∀ c, cards c → ¬ Stuck c order := by
  obtain ⟨order, moved, safe⟩ := exists_order free ws (fun _ present => present)
  refine ⟨order, moved, ?_⟩
  intro c card stuck
  obtain ⟨front, word, back, split, undecidable, clear⟩ := stuck
  obtain ⟨other, inside, rejects, place⟩ := safe front word back split c card undecidable
  rcases place with before | outside
  · exact clear other before rejects
  · exact outside inside

-- The order shows unless nothing is undecidable or some words stop the search whichever stands first.
theorem orderFree_iff : OrderFree cards ws ↔
    (∀ order, order.Perm ws → ∀ c, cards c → ¬ Stuck c order) ∨
      ∀ order, order.Perm ws → ∃ c, cards c ∧ Stuck c order := by
  constructor
  · intro free
    rcases free with decidable | ⟨blocking, blocks⟩
    · left
      intro order moved c card stuck
      obtain ⟨front, word, back, split, undecidable, _⟩ := stuck
      have inside : word ∈ ws := moved.mem_iff.mp (by simp [split])
      exact decidable c card word inside undecidable
    · right
      intro order moved
      exact stuck_of_blocks blocks moved
  · intro uniform
    rcases uniform with never | always
    · left
      intro c card word present undecidable
      obtain ⟨order, moved, stuck⟩ := stuck_first present undecidable
      exact never order moved c card stuck
    · right
      by_contra none
      push Not at none
      obtain ⟨order, moved, safe⟩ := exists_safe_order none
      obtain ⟨c, card, stuck⟩ := always order moved
      exact safe c card stuck

end
end Meaning
end CardQuery
