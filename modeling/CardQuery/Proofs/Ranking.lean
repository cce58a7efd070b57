import CardQuery.Counters
import Mathlib.Data.List.Infix
import Mathlib.Data.List.Nodup
import Mathlib.Data.Prod.Lex
import Mathlib.Data.String.Basic

namespace CardQuery

namespace Table
variable {κ ν : Type} [DecidableEq κ] {t u : Table κ ν}

theorem mem_entries {k : κ} {v : ν} : (k, v) ∈ t.entries ↔ t.get? k = some v :=
  ⟨Entries.get?_of_mem t.nodup, Entries.mem_of_get?⟩

omit [DecidableEq κ] in
theorem nodup_entries (t : Table κ ν) : t.entries.Nodup := List.Nodup.of_map _ t.nodup

-- Tables with the same values differ at most in the order of their entries.
theorem entries_perm : t.entries.Perm u.entries ↔ ∀ k, t.get? k = u.get? k := by
  rw [List.perm_ext_iff_of_nodup t.nodup_entries u.nodup_entries]
  constructor
  · intro same k
    apply Option.ext
    intro v
    rw [← mem_entries, ← mem_entries, same]
  · rintro same ⟨k, v⟩
    rw [mem_entries, mem_entries, same]

end Table

namespace Counters

-- Called more often, or as often and with the smaller text.
def Ahead (a b : String × Nat) : Prop := b.2 < a.2 ∨ a.2 = b.2 ∧ a.1 < b.1

instance : DecidableRel Ahead := fun _ _ => inferInstanceAs (Decidable (_ ∨ _))

-- At most `limit` entries, each ahead of those behind it and of all that are left out.
structure Leading (t : Table String Nat) (limit : Nat) (report : List (String × Nat)) : Prop where
  length : report.length = min limit t.size
  listed : report ⊆ t.entries
  nodup : (Entries.keys report).Nodup
  ordered : report.Pairwise Ahead
  omitted : ∀ e ∈ t.entries, e ∉ report → ∀ first ∈ report, Ahead first e

-- Where an entry stands: a larger count comes before a smaller one, then a smaller text before a larger one.
def rank (e : String × Nat) : ℕᵒᵈ ×ₗ String := toLex (OrderDual.toDual e.2, e.1)

section Rank
variable {a b : String × Nat}

theorem rank_injective : Function.Injective rank := by
  intro a b same
  obtain ⟨counts, texts⟩ := Prod.ext_iff.mp (toLex_inj.mp same)
  exact Prod.ext texts (OrderDual.toDual_inj.mp counts)

theorem ahead_iff : Ahead a b ↔ rank a < rank b := by
  rw [rank, rank, Prod.Lex.toLex_lt_toLex, OrderDual.toDual_lt_toDual, OrderDual.toDual_inj, Ahead]

theorem hotter_iff : hotter a b = true ↔ rank a ≤ rank b := by
  rw [rank, rank, Prod.Lex.toLex_le_toLex, OrderDual.toDual_lt_toDual, OrderDual.toDual_inj, hotter]
  simp

theorem Ahead.ne (ahead : Ahead a b) : a ≠ b := by
  rintro rfl
  exact lt_irrefl _ (ahead_iff.mp ahead)

end Rank

def ranking (t : Table String Nat) : List (String × Nat) := t.entries.mergeSort hotter

section Ranking
variable {t u : Table String Nat}

theorem hottest_eq (c : Counters) (limit : Nat) : c.hottest limit = (ranking c.slowTexts).take limit := rfl

theorem ranking_perm (t : Table String Nat) : (ranking t).Perm t.entries := List.mergeSort_perm _ _

theorem length_ranking (t : Table String Nat) : (ranking t).length = t.size := (ranking_perm t).length_eq

-- Sorting leaves equals side by side in the order they came in; here there are none.
theorem ranking_ordered (t : Table String Nat) : (ranking t).Pairwise Ahead := by
  have sorted : (ranking t).Pairwise (hotter · ·) := by
    apply List.pairwise_mergeSort
    · intro a b c first second
      exact hotter_iff.mpr (le_trans (hotter_iff.mp first) (hotter_iff.mp second))
    · intro a b
      rw [Bool.or_eq_true, hotter_iff, hotter_iff]
      exact le_total _ _
  have distinct : (ranking t).Pairwise (· ≠ ·) := (ranking_perm t).nodup_iff.mpr t.nodup_entries
  refine sorted.imp₂ ?_ distinct
  intro a b first differs
  exact ahead_iff.mpr (lt_of_le_of_ne (hotter_iff.mp first) (rank_injective.ne differs))

theorem eq_ranking {es : List (String × Nat)} (ordered : es.Pairwise Ahead) (same : es.Perm t.entries) :
    es = ranking t := by
  refine List.Perm.eq_of_pairwise ?_ ordered (ranking_ordered t) (same.trans (ranking_perm t).symm)
  intro a b _ _ before after
  exact absurd (ahead_iff.mp after) (lt_asymm (ahead_iff.mp before))

theorem ranking_congr (same : ∀ text, t.get? text = u.get? text) : ranking t = ranking u :=
  eq_ranking (ranking_ordered t) ((ranking_perm t).trans (Table.entries_perm.mpr same))

theorem leading_take (t : Table String Nat) (limit : Nat) : Leading t limit ((ranking t).take limit) := by
  have split : (ranking t).take limit ++ (ranking t).drop limit = ranking t := List.take_append_drop _ _
  have ordered := ranking_ordered t
  rw [← split, List.pairwise_append] at ordered
  obtain ⟨within, _, across⟩ := ordered
  refine ⟨?_, ?_, ?_, within, ?_⟩
  · rw [List.length_take, length_ranking]
  · intro e taken
    exact (ranking_perm t).mem_iff.mp (List.mem_of_mem_take taken)
  · have keys : (Entries.keys (ranking t)).Nodup := ((ranking_perm t).map _).nodup_iff.mpr t.nodup
    exact keys.sublist ((List.take_sublist _ _).map _)
  · intro e listed left first taken
    have ranked : e ∈ (ranking t).take limit ++ (ranking t).drop limit := by
      rw [split]
      exact (ranking_perm t).mem_iff.mpr listed
    exact across first taken e ((List.mem_append.mp ranked).resolve_left left)

section Leading
variable {limit : Nat} {report : List (String × Nat)} (leading : Leading t limit report)
include leading

-- The ranking is the report and behind it, ranked, what the report leaves out.
theorem Leading.followed : report ++ (ranking t).filter (· ∉ report) = ranking t := by
  have ordered : (report ++ (ranking t).filter (· ∉ report)).Pairwise Ahead := by
    rw [List.pairwise_append]
    refine ⟨leading.ordered, (ranking_ordered t).filter _, ?_⟩
    intro first taken e later
    obtain ⟨ranked, left⟩ := List.mem_filter.mp later
    exact leading.omitted e ((ranking_perm t).mem_iff.mp ranked) (of_decide_eq_true left) first taken
  apply eq_ranking ordered
  rw [List.perm_ext_iff_of_nodup (ordered.imp Ahead.ne) t.nodup_entries]
  intro e
  rw [List.mem_append, List.mem_filter, (ranking_perm t).mem_iff, decide_eq_true_iff]
  constructor
  · rintro (taken | ⟨listed, _⟩)
    · exact leading.listed taken
    · exact listed
  · intro listed
    by_cases taken : e ∈ report
    · exact .inl taken
    · exact .inr ⟨listed, taken⟩

theorem Leading.eq_take : report = (ranking t).take limit := by
  have start : report <+: ranking t := ⟨_, leading.followed⟩
  have lengths : min report.length (ranking t).length = min limit (ranking t).length := by
    rw [leading.length, length_ranking, min_assoc, min_self]
  exact (List.prefix_iff_eq_take.mp start).trans (List.take_eq_take_iff.mpr lengths)

end Leading
end Ranking

theorem hottest_exact (c : Counters) (limit : Nat) :
    (∀ report, Leading c.slowTexts limit report ↔ report = c.hottest limit) ∧
    (∀ d : Counters, (∀ text, d.slowTexts.get? text = c.slowTexts.get? text) → d.hottest limit = c.hottest limit) ∧
    ∀ smaller ≤ limit, c.hottest smaller <+: c.hottest limit := by
  refine ⟨?_, ?_, ?_⟩
  · intro report
    constructor
    · exact Leading.eq_take
    · rintro rfl
      exact leading_take c.slowTexts limit
  · intro d same
    rw [hottest_eq, hottest_eq, ranking_congr same]
  · intro smaller less
    exact List.take_prefix_take_left less

-- Two texts are as hot as each other, and the limit of the first report falls between them.
def tied : Counters where
  slowTexts := ⟨[("minion #taunt", 1), ("own spell @hand", 2), ("own card @hand", 2)], by decide⟩

def tiedAnew : Counters where
  slowTexts := ⟨[("own card @hand", 2), ("minion #taunt", 1), ("own spell @hand", 2)], by decide⟩

theorem tied_ranked :
    Leading tied.slowTexts 1 [("own card @hand", 2)] ∧ tied.hottest 1 = [("own card @hand", 2)] ∧
    Leading tied.slowTexts 2 [("own card @hand", 2), ("own spell @hand", 2)] ∧
    tied.hottest 2 = [("own card @hand", 2), ("own spell @hand", 2)] ∧
    (∀ text, tiedAnew.slowTexts.get? text = tied.slowTexts.get? text) ∧ tiedAnew.hottest 2 = tied.hottest 2 ∧
    1 ≤ 2 ∧ tied.hottest 1 <+: tied.hottest 2 := by
  obtain ⟨reports, orders, limits⟩ := hottest_exact tied 2
  have one : Leading tied.slowTexts 1 [("own card @hand", 2)] := by constructor <;> decide
  have two : Leading tied.slowTexts 2 [("own card @hand", 2), ("own spell @hand", 2)] := by constructor <;> decide
  have same : ∀ text, tiedAnew.slowTexts.get? text = tied.slowTexts.get? text := Table.entries_perm.mp (by decide)
  exact ⟨one, (((hottest_exact tied 1).1 _).mp one).symm, two, ((reports _).mp two).symm, same, orders tiedAnew same,
    by decide, limits 1 (by decide)⟩

end Counters
end CardQuery
