import CardQuery.Proofs.Removing
import Mathlib.Data.List.Induction

namespace CardQuery
namespace TagSet

inductive Edit where
  | insert (t : Tag)
  | remove (t : Tag)
  deriving DecidableEq, Repr

def Edit.tag : Edit → Tag
  | insert t | remove t => t

def perform (s : TagSet) : Edit → Bool × TagSet
  | .insert t => s.put t
  | .remove t => s.take t

def run (s : TagSet) : List Edit → List Bool × TagSet
  | [] => ([], s)
  | edit :: rest => ((s.perform edit).1 :: ((s.perform edit).2.run rest).1, ((s.perform edit).2.run rest).2)

def arrange (tags : List Tag) : Edit → List Tag
  | .insert t => if t ∈ tags then tags else tags ++ [t]
  | .remove t => tags.filter (· != t)

def arranged (history : List Edit) : List Tag := history.foldl arrange []

theorem run_append (s : TagSet) (earlier later : List Edit) : s.run (earlier ++ later) =
    ((s.run earlier).1 ++ ((s.run earlier).2.run later).1, ((s.run earlier).2.run later).2) := by
  induction earlier generalizing s with
  | nil => rfl
  | cons edit rest ih =>
    rw [List.cons_append, run, ih]
    rfl

theorem run_concat (s : TagSet) (edits : List Edit) (edit : Edit) : s.run (edits ++ [edit]) =
    ((s.run edits).1 ++ [((s.run edits).2.perform edit).1], ((s.run edits).2.perform edit).2) :=
  run_append s edits [edit]

theorem arranged_concat (history : List Edit) (edit : Edit) :
    arranged (history ++ [edit]) = arrange (arranged history) edit := by
  rw [arranged, List.foldl_append]
  rfl

section Step
variable {s : TagSet} (nodup : s.toList.Nodup) (edit : Edit)
include nodup

-- The first occurrence of a tag is its only one.
theorem perform_toList : (s.perform edit).2.toList = arrange s.toList edit := by
  cases edit with
  | insert t => exact toList_insert s t
  | remove t => exact nodup.erase_eq_filter t

theorem perform_nodup : (s.perform edit).2.toList.Nodup := by
  cases edit with
  | insert t => exact nodup_insert nodup t
  | remove t => exact nodup.erase t

end Step

-- With or without repetitions, a call answers whether it changed the set.
theorem perform_answer (s : TagSet) (edit : Edit) : (s.perform edit).1 = decide ((s.perform edit).2 ≠ s) := by
  rw [Bool.eq_iff_iff, decide_eq_true_eq]
  cases edit with
  | insert t =>
    simp only [perform, put]
    split
    · simp
    · refine iff_of_true rfl ?_
      intro same
      have longer := congrArg size same
      simp [size] at longer
  | remove t =>
    show s.contains t = true ↔ s.erase t ≠ s
    constructor
    · intro present same
      have shorter := congrArg (count · t) same
      have listed := mt contains_eq_false.mpr (Bool.not_eq_false _ ▸ present)
      simp only [count_erase, if_pos] at shorter
      omega
    · intro changed
      by_contra absent
      apply changed
      have missing : t ∉ s.toList := mt contains_eq.mpr absent
      exact congrArg TagSet.mk (List.erase_of_not_mem missing)

theorem run_ofList (tags : List Tag) (s : TagSet) : (s.run (tags.map .insert)).2 = tags.foldl insert s := by
  induction tags generalizing s with
  | nil => rfl
  | cons t rest ih => exact ih (s.insert t)

theorem run_arranged (history : List Edit) :
    (run {} history).2.toList = arranged history ∧ (run {} history).2.toList.Nodup := by
  induction history using List.reverseRecOn with
  | nil => exact ⟨rfl, List.nodup_nil⟩
  | append_singleton history edit ih =>
    obtain ⟨same, nodup⟩ := ih
    rw [run_concat]
    refine ⟨?_, perform_nodup nodup edit⟩
    rw [perform_toList nodup, same, arranged_concat]

def Last (history : List Edit) (t : Tag) : Option Edit := (history.filter (·.tag = t)).getLast?

theorem last_concat (history : List Edit) (edit : Edit) (t : Tag) :
    Last (history ++ [edit]) t = if edit.tag = t then some edit else Last history t := by
  rw [Last, List.filter_append]
  split <;> simp [*, Last]

theorem mem_arranged {history : List Edit} {t : Tag} : t ∈ arranged history ↔ Last history t = some (.insert t) := by
  induction history using List.reverseRecOn with
  | nil => exact iff_of_false (List.not_mem_nil) nofun
  | append_singleton history edit ih =>
    rw [arranged_concat, last_concat]
    cases edit with
    | insert u =>
      have grown : t ∈ arrange (arranged history) (.insert u) ↔ u = t ∨ t ∈ arranged history := by
        rw [arrange]
        split
        · rename_i old
          exact ⟨.inr, fun either => either.elim (· ▸ old) id⟩
        · simp [or_comm, eq_comm]
      rw [grown]
      by_cases here : u = t
      · simp [Edit.tag, here]
      · simpa [Edit.tag, here] using ih
    | remove u =>
      rw [arrange, List.mem_filter, bne_iff_ne]
      by_cases here : u = t
      · simp [Edit.tag, here]
      · simpa [Edit.tag, here, Ne.symm here] using ih

theorem size_eq_countP {s : TagSet} (nodup : s.toList.Nodup) : s.size = Tag.all.countP s.contains := by
  have every : ∀ t, t ∈ Tag.all := by
    intro t
    cases t <;> decide
  have once : Tag.all.Nodup := by decide
  rw [List.countP_eq_length_filter]
  apply List.Perm.length_eq
  rw [List.perm_ext_iff_of_nodup nodup (once.filter _)]
  intro t
  rw [List.mem_filter, contains_eq, and_iff_right (every t)]

theorem history_arranged (tags : List Tag) (edits : List Edit) :
    let history := tags.map Edit.insert ++ edits
    let after := (ofList tags).run edits
    after.2.toList = arranged history ∧ after.2.toList.Nodup ∧
    (∀ edit, ∃ next, (ofList tags).run (edits ++ [edit]) = (after.1 ++ [decide (next ≠ after.2)], next) ∧
      next.toList = arrange (arranged history) edit) ∧
    (∀ t, (after.2.contains t = true ↔ t ∈ arranged history) ∧
      (t ∈ arranged history ↔ Last history t = some (.insert t))) ∧
    after.2.size = Tag.all.countP (· ∈ arranged history) ∧
    ∀ others changes, (∀ t, ((ofList others).run changes).2.contains t = after.2.contains t) →
      ((ofList others).run changes).2.toList.Perm after.2.toList := by
  have reached (tags : List Tag) (edits : List Edit) :
      ((ofList tags).run edits).2.toList = arranged (tags.map .insert ++ edits) ∧
        ((ofList tags).run edits).2.toList.Nodup := by
    have whole := run_arranged (tags.map .insert ++ edits)
    rwa [run_append, run_ofList] at whole
  intro history after
  obtain ⟨same, nodup⟩ := reached tags edits
  refine ⟨same, nodup, ?_, ?_, ?_, ?_⟩
  · intro edit
    refine ⟨(after.2.perform edit).2, ?_, ?_⟩
    · rw [run_concat, perform_answer]
    · rw [perform_toList nodup, same]
  · intro t
    rw [contains_eq, same]
    exact ⟨Iff.rfl, mem_arranged⟩
  · rw [size_eq_countP nodup]
    apply List.countP_congr
    intro t _
    rw [contains_eq, same, decide_eq_true_eq]
  · intro others changes members
    rw [List.perm_ext_iff_of_nodup (reached others changes).2 nodup]
    intro t
    rw [← contains_eq, ← contains_eq, members]

end TagSet
end CardQuery
