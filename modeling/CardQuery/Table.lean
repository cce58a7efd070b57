namespace CardQuery

variable {κ ν : Type} [DecidableEq κ]

namespace Entries

def get? (k : κ) : List (κ × ν) → Option ν
  | [] => none
  | (key, value) :: rest => if key = k then some value else get? k rest

def insert (k : κ) (v : ν) : List (κ × ν) → List (κ × ν)
  | [] => [(k, v)]
  | (key, value) :: rest => if key = k then (key, v) :: rest else (key, value) :: insert k v rest

def erase (k : κ) : List (κ × ν) → List (κ × ν)
  | [] => []
  | (key, value) :: rest => if key = k then rest else (key, value) :: erase k rest

def modify (k : κ) (f : ν → ν) : List (κ × ν) → List (κ × ν)
  | [] => []
  | (key, value) :: rest => if key = k then (key, f value) :: rest else (key, value) :: modify k f rest

def keys (es : List (κ × ν)) : List κ := es.map (·.1)

omit [DecidableEq κ] in
@[simp] theorem keys_cons (e : κ × ν) (es : List (κ × ν)) : keys (e :: es) = e.1 :: keys es := rfl

theorem get?_eq_none {k : κ} {es : List (κ × ν)} : get? k es = none ↔ k ∉ keys es := by
  induction es with
  | nil => simp [get?, keys]
  | cons e es ih =>
    simp only [get?, keys_cons, List.mem_cons, not_or]
    split
    · simp_all
    · rename_i ne; simp [ih, Ne.symm ne]

theorem mem_of_get? {k : κ} {v : ν} {es : List (κ × ν)} (h : get? k es = some v) : (k, v) ∈ es := by
  induction es with
  | nil => cases h
  | cons e es ih =>
    simp only [get?] at h
    split at h
    · rename_i same; cases h; simp [← same]
    · exact List.mem_cons_of_mem _ (ih h)

theorem keys_insert (k : κ) (v : ν) (es : List (κ × ν)) :
    keys (insert k v es) = if k ∈ keys es then keys es else keys es ++ [k] := by
  induction es with
  | nil => simp [insert, keys]
  | cons e es ih =>
    simp only [insert, keys_cons, List.mem_cons]
    split
    · rename_i same; simp [same]
    · rename_i ne
      rw [keys_cons, ih]
      by_cases old : k ∈ keys es <;> simp [old, Ne.symm ne]

theorem keys_modify (k : κ) (f : ν → ν) (es : List (κ × ν)) : keys (modify k f es) = keys es := by
  induction es with
  | nil => rfl
  | cons e es ih => simp only [modify]; split <;> simp [ih]

theorem keys_erase (k : κ) (es : List (κ × ν)) : keys (erase k es) = (keys es).erase k := by
  induction es with
  | nil => rfl
  | cons e es ih =>
    simp only [erase]
    split
    · rename_i same; simp [same]
    · rename_i ne; simp [ih, ne]

theorem get?_insert (k j : κ) (v : ν) (es : List (κ × ν)) :
    get? j (insert k v es) = if k = j then some v else get? j es := by
  induction es with
  | nil => simp [insert, get?]
  | cons e es ih =>
    simp only [insert]
    split
    · rename_i same; subst same; simp only [get?]; split <;> rfl
    · rename_i ne
      simp only [get?]
      split
      · rename_i same; simp [← same, Ne.symm ne]
      · exact ih

theorem get?_modify (k j : κ) (f : ν → ν) (es : List (κ × ν)) :
    get? j (modify k f es) = if k = j then (get? j es).map f else get? j es := by
  induction es with
  | nil => simp [modify, get?]
  | cons e es ih =>
    simp only [modify]
    split
    · rename_i same; subst same; simp only [get?]; split <;> simp
    · rename_i ne
      simp only [get?]
      split
      · rename_i same; simp [← same, Ne.symm ne]
      · exact ih

theorem get?_erase (k j : κ) {es : List (κ × ν)} (nodup : (keys es).Nodup) :
    get? j (erase k es) = if k = j then none else get? j es := by
  induction es with
  | nil => simp [erase, get?]
  | cons e es ih =>
    obtain ⟨fresh, rest⟩ := List.nodup_cons.mp nodup
    simp only [erase]
    split
    · rename_i same
      subst same
      split
      · rename_i same; subst same; exact get?_eq_none.mpr fresh
      · rename_i ne; simp [get?, ne]
    · rename_i ne
      simp only [get?]
      split
      · rename_i same; simp [← same, Ne.symm ne]
      · exact ih rest

theorem get?_of_mem {k : κ} {v : ν} {es : List (κ × ν)} (nodup : (keys es).Nodup) (h : (k, v) ∈ es) :
    get? k es = some v := by
  induction es with
  | nil => cases h
  | cons e es ih =>
    obtain ⟨fresh, rest⟩ := List.nodup_cons.mp nodup
    rcases List.mem_cons.mp h with rfl | old
    · simp [get?]
    · have ne : e.1 ≠ k := by
        rintro rfl; exact fresh (List.mem_map.mpr ⟨_, old, rfl⟩)
      simp [get?, ne, ih rest old]

theorem ext_of_keys {es fs : List (κ × ν)} (nodup : (keys es).Nodup) (same : keys es = keys fs)
    (found : ∀ k, get? k es = get? k fs) : es = fs := by
  induction es generalizing fs with
  | nil =>
    cases fs with
    | nil => rfl
    | cons f fs => cases same
  | cons e es ih =>
    cases fs with
    | nil => cases same
    | cons f fs =>
      obtain ⟨key, value⟩ := e
      obtain ⟨other, value'⟩ := f
      obtain ⟨rfl, tails⟩ : key = other ∧ keys es = keys fs := by simpa using same
      obtain ⟨fresh, rest⟩ := List.nodup_cons.mp nodup
      have values : value = value' := by simpa [get?] using found key
      have later : ∀ k, get? k es = get? k fs := by
        intro k
        by_cases here : key = k
        · subst here
          rw [get?_eq_none.mpr fresh, get?_eq_none.mpr (tails ▸ fresh)]
        · simpa [get?, here] using found k
      rw [values, ih rest tails later]

theorem insert_of_fresh {k : κ} {v : ν} {es : List (κ × ν)} (fresh : k ∉ keys es) : insert k v es = es ++ [(k, v)] := by
  induction es with
  | nil => rfl
  | cons e es ih =>
    rw [keys_cons, List.mem_cons, not_or] at fresh
    simp [insert, Ne.symm fresh.1, ih fresh.2]

end Entries

structure Table (κ ν : Type) where
  entries : List (κ × ν) := []
  nodup : (Entries.keys entries).Nodup := by exact List.nodup_nil

namespace Table

instance [DecidableEq ν] : DecidableEq (Table κ ν) := fun a b =>
  if h : a.entries = b.entries then .isTrue (by cases a; cases b; cases h; rfl)
  else .isFalse fun same => h (same ▸ rfl)

def empty : Table κ ν := {}

def get? (t : Table κ ν) (k : κ) : Option ν := Entries.get? k t.entries
def contains (t : Table κ ν) (k : κ) : Bool := (t.get? k).isSome
def keys (t : Table κ ν) : List κ := Entries.keys t.entries
def values (t : Table κ ν) : List ν := t.entries.map (·.2)
def size (t : Table κ ν) : Nat := t.entries.length
def isEmpty (t : Table κ ν) : Bool := t.entries.isEmpty

def insert (t : Table κ ν) (k : κ) (v : ν) : Table κ ν where
  entries := Entries.insert k v t.entries
  nodup := by
    rw [Entries.keys_insert]
    split
    · exact t.nodup
    · rename_i fresh
      exact List.nodup_append.mpr ⟨t.nodup, by simp, by rintro a old b new rfl; exact fresh (by simp_all)⟩

def modify (t : Table κ ν) (k : κ) (f : ν → ν) : Table κ ν where
  entries := Entries.modify k f t.entries
  nodup := by rw [Entries.keys_modify]; exact t.nodup

def erase (t : Table κ ν) (k : κ) : Table κ ν where
  entries := Entries.erase k t.entries
  nodup := by rw [Entries.keys_erase]; exact t.nodup.erase k

-- Later entries win over earlier ones with the same key.
def ofList (es : List (κ × ν)) : Table κ ν := es.foldl (fun t (k, v) => t.insert k v) {}

theorem get?_insert (t : Table κ ν) (k j : κ) (v : ν) :
    (t.insert k v).get? j = if k = j then some v else t.get? j := Entries.get?_insert k j v t.entries

theorem get?_modify (t : Table κ ν) (k j : κ) (f : ν → ν) :
    (t.modify k f).get? j = if k = j then (t.get? j).map f else t.get? j := Entries.get?_modify k j f t.entries

theorem get?_erase (t : Table κ ν) (k j : κ) :
    (t.erase k).get? j = if k = j then none else t.get? j := Entries.get?_erase k j t.nodup

@[simp] theorem get?_empty (k : κ) : (Table.get? ({} : Table κ ν) k) = none := rfl

theorem keys_modify (t : Table κ ν) (k : κ) (f : ν → ν) : (t.modify k f).keys = t.keys := Entries.keys_modify k f t.entries

theorem keys_erase (t : Table κ ν) (k : κ) : (t.erase k).keys = t.keys.erase k := Entries.keys_erase k t.entries

theorem get?_eq_none {t : Table κ ν} {k : κ} : t.get? k = none ↔ k ∉ t.keys := Entries.get?_eq_none

theorem mem_keys {t : Table κ ν} {k : κ} : k ∈ t.keys ↔ ∃ v, t.get? k = some v := by
  rw [← Option.ne_none_iff_exists', ne_eq, get?_eq_none, Classical.not_not]

theorem contains_iff {t : Table κ ν} {k : κ} : t.contains k = true ↔ k ∈ t.keys := by
  rw [mem_keys]
  exact Option.isSome_iff_exists

omit [DecidableEq κ] in
theorem ext_entries {t u : Table κ ν} (same : t.entries = u.entries) : t = u := by
  cases t
  cases u
  cases same
  rfl

theorem ext_of_keys {t u : Table κ ν} (same : t.keys = u.keys) (found : ∀ k, t.get? k = u.get? k) : t = u :=
  ext_entries (Entries.ext_of_keys t.nodup same found)

theorem entries_foldl_insert (t : Table κ ν) {es : List (κ × ν)} (fresh : (Entries.keys (t.entries ++ es)).Nodup) :
    (es.foldl (fun t e => t.insert e.1 e.2) t).entries = t.entries ++ es := by
  induction es generalizing t with
  | nil => simp
  | cons e es ih =>
    have new : e.1 ∉ Entries.keys t.entries := by
      intro old
      rw [Entries.keys, List.map_append, List.map_cons] at fresh
      exact (List.nodup_append.mp fresh).2.2 e.1 old e.1 List.mem_cons_self rfl
    have entries : (t.insert e.1 e.2).entries = t.entries ++ [e] := Entries.insert_of_fresh new
    rw [List.foldl_cons, ih, entries, List.append_assoc, List.singleton_append]
    rwa [entries, List.append_assoc, List.singleton_append]

theorem ofList_entries (t : Table κ ν) : ofList t.entries = t :=
  ext_entries (entries_foldl_insert {} t.nodup)

end Table
end CardQuery
