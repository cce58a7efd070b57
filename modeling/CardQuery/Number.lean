namespace CardQuery.Number

def ofInt? (n : Int) : Option Int64 :=
  if -0x8000000000000000 ≤ n ∧ n < 0x8000000000000000 then some (Int64.ofInt n) else none

-- A sum is formed over all integers first and is an answer only if it fits.
def add? (a b : Int64) : Option Int64 := ofInt? (a.toInt + b.toInt)
def sub? (a b : Int64) : Option Int64 := ofInt? (a.toInt - b.toInt)

theorem ofInt?_eq_some {n : Int} {w : Int64} : ofInt? n = some w ↔ w.toInt = n := by
  unfold ofInt?
  constructor
  · intro h
    split at h
    · rename_i bounds
      cases h
      exact Int64.toInt_ofInt_of_le bounds.1 bounds.2
    · cases h
  · rintro rfl
    rw [if_pos ⟨Int64.le_toInt w, Int64.toInt_lt w⟩, Int64.ofInt_toInt]

theorem add?_eq_some {a b c : Int64} : add? a b = some c ↔ c.toInt = a.toInt + b.toInt := ofInt?_eq_some
theorem sub?_eq_some {a b c : Int64} : sub? a b = some c ↔ c.toInt = a.toInt - b.toInt := ofInt?_eq_some

end CardQuery.Number
