import CardQuery.Proofs.Groups

namespace CardQuery.Pattern

def Reader.within (parent : Level) (r : Reader) : Reader := { r with outer := r.outer ++ [parent] }

section Within
variable (parent : Level) (r : Reader)

theorem Reader.within_level : (r.within parent).level = r.level := rfl
theorem Reader.within_outer : (r.within parent).outer = r.outer ++ [parent] := rfl
theorem Reader.within_names : (r.within parent).names = r.names := rfl

theorem namedGroup_within (cs : List Char) : namedGroup (r.within parent) cs =
    (namedGroup r cs).map fun part => (part.1.within parent, part.2) := by
  unfold namedGroup
  cases readName cs with
  | none => rfl
  | some part =>
    dsimp only [Option.bind_eq_bind, Option.bind_some]
    rw [Reader.within_names]
    split <;> rfl

theorem flaggedGroup_within (cs : List Char) : flaggedGroup (r.within parent) cs =
    (flaggedGroup r cs).map fun part => (part.1.within parent, part.2) := by
  unfold flaggedGroup
  rw [Reader.within_level]
  cases readFlags r.level.flags [] false false cs with
  | none => rfl
  | some part =>
    obtain ⟨flags, stop, named, after⟩ := part
    dsimp only [Option.bind_eq_bind, Option.bind_some]
    split
    · rfl
    · split <;> rfl

theorem readGroup_within (cs : List Char) : readGroup (r.within parent) cs =
    (readGroup r cs).map fun part => (part.1.within parent, part.2) := by
  simp only [readGroup_eq, namedGroup_within, flaggedGroup_within, Reader.within_level]
  split <;> rfl

theorem repeatMarked_within (least : Nat) (most : Option Nat) (cs : List Char) :
    (r.within parent).repeatMarked least most cs =
      (r.repeatMarked least most cs).map fun part => (part.1.within parent, part.2) := by
  simp only [Reader.repeatMarked, Reader.repeatLast, Reader.within_level, Option.map_map]
  rfl

end Within

theorem Reader.Step.of_within {parent : Level} {r next : Reader} {c : Char} {cs rest : List Char}
    (step : (r.within parent).Step c cs next rest) (opened : c = ')' → r.outer ≠ []) :
    ∃ r', r.Step c cs r' rest ∧ next = r'.within parent := by
  have repeated {least : Nat} {most : Option Nat} {cs : List Char}
      (marked : (r.within parent).repeatMarked least most cs = some (next, rest)) :
      ∃ r', r.repeatMarked least most cs = some (r', rest) ∧ next = r'.within parent := by
    rw [repeatMarked_within, Option.map_eq_some_iff] at marked
    obtain ⟨part, marked, equal⟩ := marked
    cases equal
    exact ⟨_, marked, rfl⟩
  cases step with
  | opens group =>
    rw [readGroup_within, Option.map_eq_some_iff] at group
    obtain ⟨part, group, equal⟩ := group
    cases equal
    exact ⟨_, .opens group, rfl⟩
  | closes closed =>
    simp only [closeGroup, within_outer] at closed
    cases around : r.outer with
    | nil => exact absurd around (opened rfl)
    | cons inner outer =>
      simp only [around, List.cons_append, Option.some.injEq] at closed
      subst closed
      exact ⟨_, .closes (by simp only [closeGroup, around]; rfl), rfl⟩
  | alternates => exact ⟨_, .alternates, rfl⟩
  | set bracket => exact ⟨_, .set bracket, rfl⟩
  | repeats marks marked =>
    obtain ⟨r', marked, same⟩ := repeated marked
    exact ⟨r', .repeats marks marked, same⟩
  | counts count marked =>
    obtain ⟨r', marked, same⟩ := repeated marked
    exact ⟨r', .counts count marked, same⟩
  | item plain primitive => exact ⟨_, .item plain primitive, rfl⟩

-- The groups around are left only through a `)`.

theorem namedGroup_outer {r r' : Reader} {cs rest : List Char} (read : namedGroup r cs = some (r', rest)) :
    r.outer <:+ r'.outer := by
  simp only [namedGroup, Option.bind_eq_bind, Option.bind_eq_some_iff, Prod.exists] at read
  obtain ⟨name, after, _, read⟩ := read
  split at read
  · cases read
  · cases read
    exact List.suffix_cons r.level r.outer

theorem flaggedGroup_outer {r r' : Reader} {cs rest : List Char} (read : flaggedGroup r cs = some (r', rest)) :
    r.outer <:+ r'.outer := by
  simp only [flaggedGroup, Option.bind_eq_bind, Option.bind_eq_some_iff, Prod.exists] at read
  obtain ⟨flags, stop, given, after, _, read⟩ := read
  split at read
  · cases read
    exact List.suffix_cons r.level r.outer
  · split at read
    · cases read
      exact List.suffix_rfl
    · cases read

theorem Opens.outer {r r' : Reader} {cs rest : List Char} (opens : Opens r cs r' rest) : r.outer <:+ r'.outer := by
  cases opens with
  | marked read => exact namedGroup_outer read
  | named _ _ read => exact namedGroup_outer read
  | flagged _ _ _ _ read => exact flaggedGroup_outer read
  | plain _ => exact List.suffix_cons r.level r.outer

theorem repeatMarked_outer {r r' : Reader} {least : Nat} {most : Option Nat} {cs rest : List Char}
    (read : r.repeatMarked least most cs = some (r', rest)) : r.outer <:+ r'.outer := by
  simp only [Reader.repeatMarked, Reader.repeatLast, Option.map_map, Option.map_eq_some_iff] at read
  obtain ⟨part, _, equal⟩ := read
  cases equal
  exact List.suffix_rfl

theorem Reader.Step.outer {r r' : Reader} {c : Char} {cs rest : List Char} (step : r.Step c cs r' rest)
    (other : c ≠ ')') : r.outer <:+ r'.outer := by
  cases step with
  | opens group => exact (Opens.of_readGroup group).outer
  | closes => exact absurd rfl other
  | alternates => exact List.suffix_rfl
  | set => exact List.suffix_rfl
  | repeats _ marked => exact repeatMarked_outer marked
  | counts _ marked => exact repeatMarked_outer marked
  | item => exact List.suffix_rfl

theorem run_succ_eq_some {fuel : Nat} {r last : Reader} {cs : List Char} :
    Reader.run (fuel + 1) r cs = some last ↔ (r.level.flags.skip cs = [] ∧ last = r) ∨
      ∃ c behind next after, r.level.flags.skip cs = c :: behind ∧ r.Step c behind next after ∧
        Reader.run fuel next after = some last := by
  simp only [Reader.run]
  split
  · rename_i start
    simp [start, eq_comm]
  · rename_i c behind start
    simp only [start, Option.bind_eq_some_iff, Prod.exists, step_eq_some]
    constructor
    · intro read
      obtain ⟨next, after, step, read⟩ := read
      exact .inr ⟨c, behind, next, after, rfl, step, read⟩
    · intro read
      rcases read with ⟨empty, _⟩ | ⟨_, _, next, after, same, step, read⟩
      · cases empty
      · cases same
        exact ⟨next, after, step, read⟩

theorem run_outer {fuel : Nat} {r last : Reader} {cs : List Char} (read : Reader.run fuel r cs = some last)
    (unclosed : ')' ∉ cs) : r.outer <:+ last.outer := by
  induction fuel generalizing r cs with
  | zero => cases read
  | succ fuel ih =>
    rcases run_succ_eq_some.mp read with ⟨_, rfl⟩ | ⟨c, behind, next, after, start, step, read⟩
    · exact List.suffix_rfl
    · have within : c :: behind <:+ cs := start ▸ r.level.flags.skip_suffix cs
      have other : c ≠ ')' := by
        rintro rfl
        exact unclosed (within.mem (by simp))
      have unclosed' : ')' ∉ after := by
        intro member
        exact unclosed (within.mem (List.mem_cons_of_mem c (step.suffix.mem member)))
      exact (step.outer other).trans (ih read unclosed')

inductive Reader.Runs : Reader → List Char → Reader → List Char → Prop where
  | here {r : Reader} {cs : List Char} : Runs r cs r cs
  | step {r next last : Reader} {c : Char} {cs behind after rest : List Char}
      (start : r.level.flags.skip cs = c :: behind) (step : r.Step c behind next after)
      (onwards : Runs next after last rest) : Runs r cs last rest

def Reader.Ends (r : Reader) (cs : List Char) (last : Reader) : Prop :=
  ∃ rest, r.Runs cs last rest ∧ last.outer = [] ∧ last.level.flags.skip rest = []

def Reader.Strays (r : Reader) (cs : List Char) : Prop :=
  ∃ last rest behind, r.Runs cs last rest ∧ last.outer = [] ∧ last.level.flags.skip rest = ')' :: behind

section Later
variable {r next : Reader} {c : Char} {cs behind after : List Char} (start : r.level.flags.skip cs = c :: behind)
  (step : r.Step c behind next after)
include start step

theorem Reader.Ends.later {last : Reader} (ends : next.Ends after last) : r.Ends cs last := by
  obtain ⟨rest, runs, closed, done⟩ := ends
  exact ⟨rest, .step start step runs, closed, done⟩

theorem Reader.Strays.later (strays : next.Strays after) : r.Strays cs := by
  obtain ⟨last, rest, tail, runs, closed, stray⟩ := strays
  exact ⟨last, rest, tail, .step start step runs, closed, stray⟩

end Later

theorem Reader.Ends.run_eq {r last : Reader} {cs : List Char} (ends : r.Ends cs last) {fuel : Nat}
    (enough : cs.length < fuel) : Reader.run fuel r cs = some last := by
  obtain ⟨rest, runs, closed, done⟩ := ends
  induction runs generalizing fuel with
  | here =>
    cases fuel with
    | zero => omega
    | succ fuel => exact run_succ_eq_some.mpr (.inl ⟨done, rfl⟩)
  | @step r next last c cs behind after rest start step onwards ih =>
    cases fuel with
    | zero => omega
    | succ fuel =>
      have shorter := r.level.flags.skip_length cs
      have fewer := step.suffix.length_le
      simp only [start, List.length_cons] at shorter
      exact run_succ_eq_some.mpr (.inr ⟨c, behind, next, after, start, step, ih (by omega) closed done⟩)

theorem Reader.Strays.run_eq {r : Reader} {cs : List Char} (strays : r.Strays cs) (fuel : Nat) :
    Reader.run fuel r cs = none := by
  obtain ⟨last, rest, behind, runs, closed, stray⟩ := strays
  induction runs generalizing fuel with
  | here =>
    cases fuel with
    | zero => rfl
    | succ fuel => simp [Reader.run, stray, Reader.step, Reader.closeGroup, closed]
  | step start step onwards ih =>
    cases fuel with
    | zero => rfl
    | succ fuel =>
      simp only [Reader.run, start, step_eq_some.mpr step, Option.bind_some]
      exact ih fuel closed stray

theorem run_stalled {r : Reader} {cs : List Char} (stalled : Stalled r.level.flags cs) (fuel : Nat) :
    Reader.run fuel r cs = none := by
  obtain ⟨brace, rfl, uncounted⟩ := stalled
  have start : r.level.flags.skip ('\x7b' :: brace) = '\x7b' :: brace := by
    unfold Flags.skip
    split <;> rfl
  cases fuel with
  | zero => rfl
  | succ fuel => simp [Reader.run, start, Reader.step, uncounted]

-- The only group around the text is closed behind it, or by it.
theorem run_within {more : List Char} (plain : '\n' ∉ more) (unclosed : ')' ∉ more) {parent : Level} {fuel : Nat}
    {r last : Reader} {cs : List Char} (read : Reader.run fuel (r.within parent) (cs ++ ')' :: more) = some last)
    (closed : last.outer = []) :
    (∃ inner outer, r.Ends cs inner ∧ (inner.within parent).closeGroup = some outer ∧
      ∃ fuel, Reader.run fuel outer more = some last) ∨ r.Strays cs := by
  induction fuel generalizing r cs with
  | zero => cases read
  | succ fuel ih =>
    -- past the `)` nothing closes the group any more
    have stuck {r : Reader} {cs : List Char} (left : cs <:+ more)
        (read : Reader.run fuel (r.within parent) cs = some last) : False := by
      have kept := run_outer read fun member => unclosed (left.mem member)
      rw [closed, Reader.within_outer] at kept
      simp at kept
    rcases run_succ_eq_some.mp read with ⟨_, rfl⟩ | ⟨c, behind, next, after, start, step, read⟩
    · simp [Reader.within_outer] at closed
    · rw [Reader.within_level] at start
      rcases r.level.flags.skip_append plain cs with same | lost
      · rw [same] at start
        cases alone : r.level.flags.skip cs with
        | nil =>
          rw [alone] at start
          cases start
          by_cases unopened : r.outer = []
          · cases step with
            | closes closes => exact .inl ⟨r, next, ⟨cs, .here, unopened, alone⟩, closes, fuel, read⟩
            | repeats marks => cases marks
            | item plain => simp at plain
          · obtain ⟨next, outside, rfl⟩ := step.of_within fun _ => unopened
            exact (stuck outside.suffix read).elim
        | cons d inside =>
          rw [alone] at start
          cases start
          by_cases stray : c = ')' ∧ r.outer = []
          · obtain ⟨rfl, unopened⟩ := stray
            exact .inr ⟨r, cs, inside, .here, unopened, alone⟩
          · obtain ⟨next, outside, rfl⟩ := step.of_within fun here unopened => stray ⟨here, unopened⟩
            rcases outside.cut plain with cut | stalled
            · cases cut with
              | before front taken =>
                rcases ih read with ⟨inner, outer, ends, rest⟩ | strays
                · exact .inl ⟨inner, outer, ends.later alone taken, rest⟩
                · exact .inr (strays.later alone taken)
              | past left => exact (stuck left read).elim
            · rw [run_stalled (r := next.within parent) stalled] at read
              cases read
      · rw [lost] at start
        cases start

end CardQuery.Pattern
