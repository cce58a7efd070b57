import CardQuery.Pattern.Reading

namespace CardQuery.Pattern

-- What is left over by a reading: what `reads` says is left of the text alone, or no more than what stands behind it.
inductive Cut (more : List Char) (reads : List Char → Prop) : List Char → Prop where
  | before (front : List Char) (read : reads front) : Cut more reads (front ++ ')' :: more)
  | past (left : rest <:+ more) : Cut more reads rest

def Stalled (flags : Flags) (cs : List Char) : Prop := ∃ brace, cs = '\x7b' :: brace ∧ readCount flags brace = none

section Cut
variable {more : List Char} {reads reads' : List Char → Prop} {mid rest : List Char}

theorem Cut.mono (cut : Cut more reads rest) (weaker : ∀ front, reads front → reads' front) : Cut more reads' rest := by
  cases cut with
  | before front read => exact .before front (weaker front read)
  | past left => exact .past left

-- What is read after something that went past has gone past too.
theorem Cut.next (cut : Cut more reads mid) (suffix : rest <:+ mid)
    (next : ∀ front, reads front → mid = front ++ ')' :: more → Cut more reads' rest) : Cut more reads' rest := by
  cases cut with
  | before front read => exact next front read rfl
  | past left => exact .past (suffix.trans left)

theorem Cut.tail {c : Char} (cut : Cut more reads (c :: rest)) (other : c ≠ ')') :
    Cut more (fun front => reads (c :: front)) rest := by
  generalize whole : c :: rest = mid at cut
  cases cut with
  | before front read =>
    cases front with
    | nil => cases whole; exact absurd rfl other
    | cons d front => cases whole; exact .before front read
  | past left =>
    subst whole
    exact .past ((List.suffix_cons c rest).trans left)

end Cut

theorem split_of_append {more cs rest : List Char} {c : Char} (whole : cs ++ ')' :: more = c :: rest) (other : c ≠ ')') :
    ∃ front, cs = c :: front ∧ rest = front ++ ')' :: more := by
  cases cs with
  | nil => cases whole; exact absurd rfl other
  | cons d front => cases whole; exact ⟨front, rfl, rfl⟩

-- Of what is taken from the front, either all belongs to the text, or the `)` does too.
theorem cut_of_append {more cs taken rest : List Char} (whole : cs ++ ')' :: more = taken ++ rest) :
    Cut more (fun front => cs = taken ++ front) rest := by
  rcases List.append_eq_append_iff.mp whole with ⟨middle, rfl, tail⟩ | ⟨front, rfl, rfl⟩
  · cases middle with
    | nil =>
      simp only [List.nil_append] at tail
      subst tail
      exact .before [] (by simp)
    | cons c middle =>
      cases tail
      exact .past (List.suffix_append middle rest)
  · exact .before front rfl

-- A reading is told by the characters it takes, whatever stands behind them.
def Told (reads : List Char → List Char → Prop) (cs rest : List Char) : Prop :=
  ∃ taken, cs = taken ++ rest ∧ ∀ back, reads (taken ++ back) back

section Told
variable {reads : List Char → List Char → Prop} {cs rest : List Char}

theorem Told.suffix (told : Told reads cs rest) : rest <:+ cs := by
  obtain ⟨taken, rfl, _⟩ := told
  exact List.suffix_append taken rest

theorem Told.cut {more : List Char} (told : Told reads (cs ++ ')' :: more) rest) : Cut more (reads cs) rest := by
  obtain ⟨taken, whole, again⟩ := told
  refine (cut_of_append whole).mono ?_
  intro front alone
  rw [alone]
  exact again front

end Told

-- What does not stand at the front of a text does not stand there either if the text is cut short.
theorem absent_of_append {cs back : List Char} (front : List Char) (absent : ∀ tail, cs ++ back = front ++ tail → False) :
    ∀ tail, cs = front ++ tail → False := by
  intro tail whole
  exact absent (tail ++ back) (by rw [whole, List.append_assoc])

theorem dropSpace_suffix (inComment : Bool) (cs : List Char) : dropSpace inComment cs <:+ cs := by
  induction cs generalizing inComment with
  | nil => exact List.suffix_rfl
  | cons c cs ih =>
    unfold dropSpace
    split
    · exact (ih _).trans (List.suffix_cons c cs)
    · split
      · exact (ih _).trans (List.suffix_cons c cs)
      · split
        · exact (ih _).trans (List.suffix_cons c cs)
        · exact List.suffix_rfl

theorem Flags.skip_suffix (flags : Flags) (cs : List Char) : flags.skip cs <:+ cs := by
  unfold skip
  split
  · exact dropSpace_suffix false cs
  · exact List.suffix_rfl

theorem Flags.skip_length (flags : Flags) (cs : List Char) : (flags.skip cs).length ≤ cs.length :=
  (flags.skip_suffix cs).length_le

theorem Flags.takeRun_suffix (flags : Flags) (accept : Char → Bool) (fuel : Nat) (cs : List Char) :
    (flags.takeRun accept fuel cs).2 <:+ cs := by
  induction fuel generalizing cs with
  | zero => exact List.suffix_rfl
  | succ fuel ih =>
    cases cs with
    | nil => exact List.suffix_rfl
    | cons c cs =>
      simp only [takeRun]
      split
      · exact (ih _).trans ((flags.skip_suffix cs).trans (List.suffix_cons c cs))
      · exact List.suffix_rfl

theorem Flags.takeBraced_suffix {flags : Flags} {cs run rest : List Char}
    (read : flags.takeBraced cs = some (run, rest)) : rest <:+ cs := by
  unfold takeBraced at read
  split at read
  · rename_i run' after back
    cases read
    have suffix := flags.takeRun_suffix (· != '\x7d') cs.length (flags.skip cs)
    rw [back] at suffix
    exact ((List.suffix_cons _ rest).trans suffix).trans (flags.skip_suffix cs)
  · cases read

theorem Flags.takeExactly_suffix {flags : Flags} {count : Nat} {cs run rest : List Char}
    (read : flags.takeExactly count cs = some (run, rest)) : rest <:+ cs := by
  induction count generalizing cs run with
  | zero => cases read; exact List.suffix_rfl
  | succ count ih =>
    cases cs with
    | nil => cases read
    | cons c cs =>
      simp only [takeExactly, Option.map_eq_some_iff, Prod.exists] at read
      obtain ⟨run', rest', back, equal⟩ := read
      cases equal
      exact (ih back).trans ((flags.skip_suffix cs).trans (List.suffix_cons c cs))

theorem readHex_suffix {flags : Flags} {width : Nat} {cs rest : List Char} {c : Char}
    (read : readHex flags width cs = some (c, rest)) : rest <:+ flags.skip cs := by
  unfold readHex at read
  split at read
  · rename_i inside start
    simp only [Option.bind_eq_bind, Option.bind_eq_some_iff, Prod.exists] at read
    obtain ⟨run, after, braced, n, number, d, scalar, equal⟩ := read
    cases equal
    rw [start]
    exact ((flags.skip_suffix after).trans (Flags.takeBraced_suffix braced)).trans (List.suffix_cons _ inside)
  · simp only [Option.bind_eq_bind, Option.bind_eq_some_iff, Prod.exists] at read
    obtain ⟨run, after, digits, n, number, d, scalar, equal⟩ := read
    split at equal
    · cases equal
    · cases equal
      exact Flags.takeExactly_suffix digits

-- What the name of a property is read from: a character, or what stands in braces.
def propertyName (flags : Flags) : List Char → Option (List Char × List Char)
  | [] => none
  | '\\' :: _ => none
  | '\x7b' :: rest => flags.takeBraced rest
  | c :: rest => some ([c], flags.skip rest)

theorem readProperty_eq_some {flags : Flags} {negated : Bool} {cs rest : List Char} {item : Primitive} :
    readProperty flags negated cs = some (item, rest) ↔ flags.unicode = true ∧
      ∃ name, propertyName flags (flags.skip cs) = some (name, rest) ∧ ∃ members unlike,
        readPropertyName name = some (members, unlike) ∧
        item = .set ((flags.foldSet members).negatedIf (negated != unlike)) := by
  have step : readProperty flags negated cs = if !flags.unicode then none else
      (propertyName flags (flags.skip cs)).bind fun named => (readPropertyName named.1).bind fun known =>
        some (.set ((flags.foldSet known.1).negatedIf (negated != known.2)), named.2) := by
    simp only [readProperty]
    split
    · rfl
    · split <;> simp_all [propertyName]
  rw [step]
  constructor
  · intro read
    split at read
    · cases read
    · rename_i unicode
      simp only [Option.bind_eq_some_iff, Prod.exists] at read
      obtain ⟨name, after, named, members, unlike, known, equal⟩ := read
      cases equal
      exact ⟨by simpa using unicode, name, named, members, unlike, known, rfl⟩
  · intro parts
    obtain ⟨unicode, name, named, members, unlike, known, rfl⟩ := parts
    simp [unicode, named, known]

theorem propertyName_suffix {flags : Flags} {cs name rest : List Char}
    (read : propertyName flags cs = some (name, rest)) : rest <:+ cs := by
  unfold propertyName at read
  split at read
  · cases read
  · cases read
  · rename_i inside
    exact (Flags.takeBraced_suffix read).trans (List.suffix_cons _ inside)
  · rename_i c inside _ _
    cases read
    exact (flags.skip_suffix inside).trans (List.suffix_cons c inside)

theorem readProperty_suffix {flags : Flags} {negated : Bool} {cs rest : List Char} {item : Primitive}
    (read : readProperty flags negated cs = some (item, rest)) : rest <:+ cs := by
  obtain ⟨_, _, named, _⟩ := readProperty_eq_some.mp read
  exact (propertyName_suffix named).trans (flags.skip_suffix cs)

theorem readBoundary_unbraced {flags : Flags} {cs : List Char} (unbraced : ∀ inside, cs ≠ '\x7b' :: inside) :
    readBoundary flags cs = some (.look (.word .boundary flags.unicode), cs) := by
  unfold readBoundary
  split
  · exact absurd rfl (unbraced _)
  · rfl

theorem readBoundary_suffix {flags : Flags} {cs rest : List Char} {item : Primitive}
    (read : readBoundary flags cs = some (item, rest)) : rest <:+ cs := by
  unfold readBoundary at read
  split at read
  · rename_i inside
    split at read
    · cases read
    · rename_i c more start
      split at read
      · split at read
        · rename_i name after named
          simp only [Option.map_eq_some_iff, Prod.mk.injEq] at read
          obtain ⟨kind, _, _, rfl⟩ := read
          have suffix := flags.takeRun_suffix isWordLookChar inside.length (c :: more)
          rw [named, ← start] at suffix
          have within := ((List.suffix_cons _ after).trans suffix).trans (flags.skip_suffix inside)
          exact within.trans (List.suffix_cons _ inside)
        · cases read
      · cases read
        exact List.suffix_rfl
  · cases read
    exact List.suffix_rfl

theorem readEscape_suffix {flags : Flags} {cs rest : List Char} {item : Primitive}
    (read : readEscape flags cs = some (item, rest)) : rest <:+ cs := by
  cases cs with
  | nil => cases read
  | cons c cs =>
    have behind : rest <:+ cs := by
      simp only [readEscape] at read
      split at read
      case h_1 | h_2 | h_3 =>
        simp only [Option.map_eq_some_iff, Prod.exists, Prod.mk.injEq] at read
        obtain ⟨d, after, coded, _, rfl⟩ := read
        exact (readHex_suffix coded).trans (flags.skip_suffix cs)
      case h_4 | h_5 => exact readProperty_suffix read
      case h_9 | h_10 | h_11 =>
        simp only [Option.map_eq_some_iff, Prod.mk.injEq] at read
        obtain ⟨s, _, _, rfl⟩ := read
        exact List.suffix_rfl
      case h_20 => exact readBoundary_suffix read
      case h_24 =>
        split at read
        · cases read
          exact List.suffix_rfl
        · cases read
      all_goals cases read; exact List.suffix_rfl
    exact behind.trans (List.suffix_cons c cs)

theorem readPrimitive_suffix {flags : Flags} {c : Char} {cs rest : List Char} {item : Primitive}
    (read : readPrimitive flags c cs = some (item, rest)) : rest <:+ cs := by
  simp only [readPrimitive] at read
  split at read
  case h_1 => exact readEscape_suffix read
  case h_2 =>
    split at read
    · cases read
      exact List.suffix_rfl
    · cases read
  all_goals cases read; exact List.suffix_rfl

theorem readCount_closing {flags : Flags} {cs rest : List Char} (start : flags.skip cs = ')' :: rest) :
    readCount flags cs = none := by
  have noDigits : readDecimal flags (')' :: rest) = none := rfl
  simp [readCount, start, noDigits]

theorem dropSpace_plain {cs : List Char} (plain : '\n' ∉ cs) : dropSpace true cs = [] := by
  induction cs with
  | nil => rfl
  | cons c cs ih =>
    obtain ⟨other, plain⟩ := List.ne_and_not_mem_of_not_mem_cons plain
    have going : (c != '\n') = true := by simpa using other.symm
    simp only [dropSpace, going, if_true]
    exact ih plain

section Tail
variable {more : List Char} (plain : '\n' ∉ more)
include plain

theorem dropSpace_append (inComment : Bool) (cs : List Char) :
    dropSpace inComment (cs ++ ')' :: more) = dropSpace inComment cs ++ ')' :: more ∨
      dropSpace inComment (cs ++ ')' :: more) = [] := by
  induction cs generalizing inComment with
  | nil =>
    cases inComment with
    | false => exact .inl rfl
    | true => exact .inr (dropSpace_plain (by simpa using plain))
  | cons c cs ih =>
    simp only [List.cons_append, dropSpace]
    split
    · exact ih _
    · split
      · exact ih _
      · split
        · exact ih _
        · exact .inl rfl

theorem Flags.skip_append (flags : Flags) (cs : List Char) :
    flags.skip (cs ++ ')' :: more) = flags.skip cs ++ ')' :: more ∨ flags.skip (cs ++ ')' :: more) = [] := by
  unfold skip
  split
  · exact dropSpace_append plain false cs
  · exact .inl rfl

theorem Flags.skip_cut (flags : Flags) (cs : List Char) :
    Cut more (flags.skip cs = ·) (flags.skip (cs ++ ')' :: more)) := by
  rcases flags.skip_append plain cs with same | lost
  · rw [same]
    exact .before _ rfl
  · rw [lost]
    exact .past List.nil_suffix

theorem Flags.takeRun_cut {flags : Flags} {accept : Char → Bool} {fuel fuel' : Nat} {cs run rest : List Char}
    (enough : cs.length ≤ fuel) (enough' : (cs ++ ')' :: more).length ≤ fuel')
    (read : flags.takeRun accept fuel' (cs ++ ')' :: more) = (run, rest)) :
    Cut more (fun front => flags.takeRun accept fuel cs = (run, front)) rest := by
  induction fuel' generalizing fuel cs run rest with
  | zero => simp at enough'
  | succ fuel' ih =>
    cases cs with
    | nil =>
      simp only [List.nil_append, takeRun] at read
      split at read
      · cases read
        exact .past ((flags.takeRun_suffix _ _ _).trans (flags.skip_suffix more))
      · cases read
        exact .before [] (by cases fuel <;> rfl)
    | cons c cs =>
      cases fuel with
      | zero => simp at enough
      | succ fuel =>
        simp only [List.cons_append, takeRun] at read ⊢
        split at read
        · rename_i accepted
          rcases flags.skip_append plain cs with same | lost
          · rw [same] at read
            cases back : flags.takeRun accept fuel' (flags.skip cs ++ ')' :: more) with
            | mk run' rest' =>
              rw [back] at read
              cases read
              have shorter := flags.skip_length cs
              simp only [List.length_cons, List.length_append, Nat.add_le_add_iff_right] at enough enough'
              refine (@ih fuel _ _ _ (by omega) (by simp; omega) back).mono ?_
              intro front alone
              simp [accepted, alone]
          · rw [lost] at read
            cases fuel' <;> cases read <;> exact .past List.nil_suffix
        · cases read
          rename_i refused
          exact .before (c :: cs) (by simp [refused])

theorem Flags.takeBraced_cut {flags : Flags} {cs run rest : List Char}
    (read : flags.takeBraced (cs ++ ')' :: more) = some (run, rest)) :
    Cut more (fun front => flags.takeBraced cs = some (run, front)) rest := by
  unfold takeBraced at read
  split at read
  · rename_i run' after back
    cases read
    rcases flags.skip_append plain cs with same | lost
    · rw [same] at back
      have shorter := flags.skip_length cs
      have cut := takeRun_cut plain shorter (by simp; omega) back
      refine (cut.tail (by decide)).mono ?_
      intro front alone
      simp [takeBraced, alone]
    · rw [lost] at back
      simp [takeRun] at back
  · cases read

theorem Flags.takeExactly_cut {flags : Flags} {count : Nat} {cs run rest : List Char}
    (read : flags.takeExactly count (cs ++ ')' :: more) = some (run, rest)) :
    Cut more (fun front => flags.takeExactly count cs = some (run, front)) rest := by
  induction count generalizing cs run with
  | zero => cases read; exact .before cs rfl
  | succ count ih =>
    cases cs with
    | nil =>
      simp only [List.nil_append, takeExactly, Option.map_eq_some_iff, Prod.exists] at read
      obtain ⟨run', rest', back, equal⟩ := read
      cases equal
      exact .past ((takeExactly_suffix back).trans (flags.skip_suffix more))
    | cons c cs =>
      simp only [List.cons_append, takeExactly, Option.map_eq_some_iff, Prod.exists] at read
      obtain ⟨run', rest', back, equal⟩ := read
      cases equal
      rcases flags.skip_append plain cs with same | lost
      · rw [same] at back
        refine (ih back).mono ?_
        intro front alone
        simp [takeExactly, alone]
      · rw [lost] at back
        exact .past ((takeExactly_suffix back).trans List.nil_suffix)

theorem readHex_cut {flags : Flags} {width : Nat} {cs rest : List Char} {c : Char}
    (read : readHex flags width (cs ++ ')' :: more) = some (c, rest)) :
    Cut more (fun front => readHex flags width cs = some (c, front)) rest := by
  have suffix := readHex_suffix read
  unfold readHex at read
  rcases flags.skip_append plain cs with same | lost
  · rw [same] at read
    split at read
    · rename_i rest' opened
      obtain ⟨inside, start, rfl⟩ := split_of_append opened (by decide)
      simp only [Option.bind_eq_bind, Option.bind_eq_some_iff, Prod.exists] at read
      obtain ⟨run, after, braced, n, number, d, scalar, equal⟩ := read
      cases equal
      refine (Flags.takeBraced_cut plain braced).next (flags.skip_suffix after) ?_
      intro front alone behind
      subst behind
      refine (flags.skip_cut plain front).mono ?_
      intro front' skipped
      simp [readHex, start, alone, number, scalar, skipped]
    · rename_i unbraced
      simp only [Option.bind_eq_bind, Option.bind_eq_some_iff, Prod.exists] at read
      obtain ⟨run, after, digits, n, number, d, scalar, equal⟩ := read
      split at equal
      · cases equal
      · rename_i allowed
        cases equal
        refine (Flags.takeExactly_cut plain digits).mono ?_
        intro front alone
        unfold readHex
        split
        · rename_i inside start
          exact (absent_of_append ['\x7b'] unbraced inside start).elim
        · simp only [Option.bind_eq_bind, alone, number, scalar, Option.bind_some, if_neg allowed]
  · rw [lost] at suffix
    exact .past (suffix.trans List.nil_suffix)

theorem propertyName_cut {flags : Flags} {cs name rest : List Char}
    (read : propertyName flags (cs ++ ')' :: more) = some (name, rest)) :
    Cut more (fun front => propertyName flags cs = some (name, front)) rest := by
  cases cs with
  | nil =>
    cases read
    exact .past (flags.skip_suffix more)
  | cons c cs =>
    simp only [List.cons_append] at read
    unfold propertyName at read ⊢
    split at read
    · cases read
    · cases read
    · rename_i inside start
      cases start
      exact Flags.takeBraced_cut plain read
    · rename_i d inside escaped braced start
      cases start
      cases read
      refine (flags.skip_cut plain cs).mono ?_
      intro front skipped
      split <;> simp_all

theorem readProperty_cut {flags : Flags} {negated : Bool} {cs rest : List Char} {item : Primitive}
    (read : readProperty flags negated (cs ++ ')' :: more) = some (item, rest)) :
    Cut more (fun front => readProperty flags negated cs = some (item, front)) rest := by
  simp only [readProperty_eq_some] at read ⊢
  obtain ⟨unicode, name, named, known⟩ := read
  rcases flags.skip_append plain cs with same | lost
  · rw [same] at named
    refine (propertyName_cut plain named).mono ?_
    intro front alone
    exact ⟨unicode, name, alone, known⟩
  · rw [lost] at named
    cases named

theorem readBoundary_braced_cut {flags : Flags} {cs rest : List Char} {item : Primitive}
    (read : readBoundary flags ('\x7b' :: (cs ++ ')' :: more)) = some (item, rest)) :
    Cut more (fun front => readBoundary flags ('\x7b' :: cs) = some (item, front)) rest ∨
      (∃ l, item = .look l) ∧ Stalled flags rest := by
  simp only [readBoundary] at read
  rcases flags.skip_append plain cs with same | lost
  · rw [same] at read
    cases inner : flags.skip cs with
    | nil =>
      simp only [inner, List.nil_append] at read
      cases read
      exact .inr ⟨⟨_, rfl⟩, _, rfl, readCount_closing (by rw [same, inner]; rfl)⟩
    | cons c word =>
      simp only [inner, List.cons_append] at read
      split at read
      · rename_i lettered
        split at read
        · rename_i name after named
          simp only [Option.map_eq_some_iff, Prod.mk.injEq] at read
          obtain ⟨kind, known, rfl, rfl⟩ := read
          have shorter := flags.skip_length cs
          simp only [inner, List.length_cons] at shorter
          rw [← List.cons_append] at named
          have cut := Flags.takeRun_cut plain shorter (by simp; omega) named
          refine .inl ((cut.tail (by decide)).mono ?_)
          intro front alone
          simp [readBoundary, inner, lettered, alone, known]
        · cases read
      · rename_i other
        cases read
        refine .inl (.before ('\x7b' :: cs) ?_)
        simp [readBoundary, inner, other]
  · simp [lost] at read

theorem readBoundary_cut {flags : Flags} {cs rest : List Char} {item : Primitive}
    (read : readBoundary flags (cs ++ ')' :: more) = some (item, rest)) :
    Cut more (fun front => readBoundary flags cs = some (item, front)) rest ∨
      (∃ l, item = .look l) ∧ Stalled flags rest := by
  by_cases braced : ∃ inside, cs = '\x7b' :: inside
  · obtain ⟨inside, rfl⟩ := braced
    exact readBoundary_braced_cut plain read
  · have unbraced : ∀ inside, cs ++ ')' :: more ≠ '\x7b' :: inside := by
      intro inside start
      obtain ⟨front, alone, _⟩ := split_of_append start (by decide)
      exact braced ⟨front, alone⟩
    rw [readBoundary_unbraced unbraced] at read
    cases read
    exact .inl (.before cs (readBoundary_unbraced fun inside start => braced ⟨inside, start⟩))

theorem readEscape_cut {flags : Flags} {cs rest : List Char} {item : Primitive}
    (read : readEscape flags (cs ++ ')' :: more) = some (item, rest)) :
    Cut more (fun front => readEscape flags cs = some (item, front)) rest ∨
      (∃ l, item = .look l) ∧ Stalled flags rest := by
  cases cs with
  | nil =>
    cases read
    exact .inl (.past List.suffix_rfl)
  | cons c cs =>
    simp only [List.cons_append, readEscape] at read ⊢
    split at read
    case h_1 | h_2 | h_3 =>
      simp only [Option.map_eq_some_iff, Prod.exists, Prod.mk.injEq] at read
      obtain ⟨d, after, coded, rfl, rfl⟩ := read
      refine .inl ((readHex_cut plain coded).mono ?_)
      intro front alone
      simp [alone]
    case h_4 | h_5 => exact .inl (readProperty_cut plain read)
    case h_9 | h_10 | h_11 =>
      simp only [Option.map_eq_some_iff, Prod.mk.injEq] at read
      obtain ⟨s, negated, rfl, rfl⟩ := read
      exact .inl (.before cs (by simpa using negated))
    case h_20 => exact readBoundary_cut plain read
    case h_24 =>
      split at read
      · rename_i accepted
        cases read
        exact .inl (.before cs (by simp_all))
      · cases read
    all_goals cases read; exact .inl (.before cs rfl)

theorem readPrimitive_cut {flags : Flags} {c : Char} {cs rest : List Char} {item : Primitive}
    (read : readPrimitive flags c (cs ++ ')' :: more) = some (item, rest)) :
    Cut more (fun front => readPrimitive flags c cs = some (item, front)) rest ∨
      (∃ l, item = .look l) ∧ Stalled flags rest := by
  simp only [readPrimitive] at read ⊢
  split at read
  case h_1 => exact readEscape_cut plain read
  case h_2 =>
    split at read
    · rename_i unicode
      cases read
      exact .inl (.before cs (by simp [unicode]))
    · cases read
  case h_5 => cases read; exact .inl (.before cs (by simp_all))
  all_goals cases read; exact .inl (.before cs rfl)

end Tail
end CardQuery.Pattern
