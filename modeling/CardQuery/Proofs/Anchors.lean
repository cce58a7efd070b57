import CardQuery.Proofs.Enclosed
import CardQuery.Proofs.Matching

namespace CardQuery
namespace Pattern

def Reader.start (flags : Flags) : Reader := { level := { flags := flags } }

-- Alone the text is a pattern and stands for the expression; the room it takes is left aside.
def Reads (flags : Flags) (cs : List Char) (e : Expr) : Prop :=
  ∃ last, Reader.run (cs.length + 1) (Reader.start flags) cs = some last ∧ last.outer = [] ∧
    last.level.close.depth ≤ depthLimit ∧ last.level.close.body = e

theorem readExpr_eq_some {flags : Flags} {cs : List Char} {e : Expr} :
    readExpr flags cs = some e ↔ Reads flags cs e ∧ e.fits = true := by
  simp only [readExpr, Option.bind_eq_bind, Option.bind_eq_some_iff]
  constructor
  · intro read
    obtain ⟨last, run, read⟩ := read
    split at read
    · rename_i whole
      obtain ⟨closed, shallow, fits⟩ := whole
      cases read
      exact ⟨⟨last, run, List.isEmpty_iff.mp closed, shallow, rfl⟩, fits⟩
    · cases read
  · intro both
    obtain ⟨⟨last, run, closed, shallow, rfl⟩, fits⟩ := both
    exact ⟨last, run, by simp [closed, shallow, fits]⟩

theorem Reader.Strays.not_reads {flags : Flags} {cs : List Char} (strays : (Reader.start flags).Strays cs) (e : Expr) :
    ¬ Reads flags cs e := by
  intro reads
  obtain ⟨last, run, _⟩ := reads
  rw [strays.run_eq] at run
  cases run

def between (captures : Bool) (e : Expr) : Expr :=
  .cat (.cat (.cat .empty (.look .textStart)) (.group captures e)) (.look .textEnd)

theorem isMatch_between {captures : Bool} {e : Expr} {text : String} :
    (between captures e).isMatch text = true ↔ e.TakesAll text := by
  rw [isMatch_iff]
  simp only [between, Takes, Look.holds, Expr.TakesAll, beq_iff_eq]
  constructor
  · intro taken
    obtain ⟨i, j, _, m, ⟨k, ⟨_, rfl, rfl, _, rfl⟩, taken⟩, rfl, _, rfl⟩ := taken
    exact taken
  · intro taken
    exact ⟨0, _, Nat.zero_le _, _, ⟨0, ⟨0, rfl, rfl, Nat.zero_le _, rfl⟩, taken⟩, rfl, Nat.le_refl _, rfl⟩

def clauseFlags : Flags := { ignoreCase := true }

def opening : Level := { flags := clauseFlags, branch := { last := some ⟨.look .textStart, 0⟩, count := 1 } }

theorem run_opening (fuel : Nat) (cs : List Char) :
    Reader.run (fuel + 2) (Reader.start clauseFlags) ('^' :: '(' :: '?' :: ':' :: cs) =
      Reader.run fuel ((Reader.start clauseFlags).within opening) cs := by
  rfl

theorem run_closing {inner outer last : Reader} {fuel : Nat} (unopened : inner.outer = [])
    (closes : (inner.within opening).closeGroup = some outer) (run : Reader.run fuel outer ['$'] = some last) :
    last.level.close.body = between inner.level.captures inner.level.close.body ∧
      inner.level.close.depth ≤ last.level.close.depth := by
  simp only [Reader.closeGroup, Reader.within_outer, unopened, List.nil_append, Option.some.injEq] at closes
  subst closes
  cases fuel with
  | zero => cases run
  | succ fuel =>
    cases fuel with
    | zero => cases run
    | succ fuel =>
      cases run
      refine ⟨rfl, ?_⟩
      change _ ≤ max (max (max 0 0) (inner.level.close.depth + 1)) 0 + 1
      omega

theorem reads_anchored {raw : String} {e : Expr} (read : Reads clauseFlags (anchored raw).toList e) :
    (∃ captures inner, Reads clauseFlags raw.toList inner ∧ e = between captures inner) ∨
      (Reader.start clauseFlags).Strays raw.toList := by
  obtain ⟨last, run, closed, shallow, rfl⟩ := read
  have text : (anchored raw).toList = '^' :: '(' :: '?' :: ':' :: (raw.toList ++ [')', '$']) := by
    simp [anchored, String.toList_append]
  rw [text] at run
  have inside := (run_opening _ _).symm.trans run
  rcases run_within (by decide) (by decide) inside closed with ⟨inner, outer, ends, closes, fuel, run⟩ | strays
  · have unopened : inner.outer = [] := ends.choose_spec.2.1
    obtain ⟨body, depth⟩ := run_closing unopened closes run
    have alone := ends.run_eq (Nat.lt_succ_self raw.toList.length)
    exact .inl ⟨_, _, ⟨inner, alone, unopened, Nat.le_trans depth shallow, rfl⟩, body⟩
  · exact .inr strays

theorem Reads.unique {flags : Flags} {cs : List Char} {e e' : Expr} (reads : Reads flags cs e)
    (reads' : Reads flags cs e') : e' = e := by
  obtain ⟨last, run, _, _, rfl⟩ := reads
  obtain ⟨last', run', _, _, rfl⟩ := reads'
  rw [run] at run'
  cases run'
  rfl

theorem ofClause?_exact {raw : String} {pattern : Pattern} (read : ofClause? raw = some pattern) :
    ((∃ e, Reads clauseFlags raw.toList e) ↔ ¬ (Reader.start clauseFlags).Strays raw.toList) ∧
      ∀ e, Reads clauseFlags raw.toList e → ∀ value, pattern.isMatch value = true ↔ e.TakesAll value := by
  simp only [ofClause?, ofText?, Option.map_eq_some_iff] at read
  obtain ⟨whole, read, rfl⟩ := read
  rcases reads_anchored (readExpr_eq_some.mp read).1 with ⟨captures, inner, reads, rfl⟩ | strays
  · refine ⟨iff_of_true ⟨inner, reads⟩ fun strays => strays.not_reads inner reads, ?_⟩
    intro e reads' value
    rw [reads.unique reads']
    exact isMatch_between
  · refine ⟨iff_of_false ?_ (not_not_intro strays), ?_⟩
    · intro reads
      obtain ⟨e, reads⟩ := reads
      exact strays.not_reads e reads
    · intro e reads
      exact absurd reads (strays.not_reads e)

end Pattern

end CardQuery
