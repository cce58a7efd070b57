import CardQuery.Proofs.Brackets

namespace CardQuery.Pattern

-- Flags and names are told by their characters, whatever stands behind them.

theorem readFlags_told {flags flags' : Flags} {seen : List Flag} {clearing dangling named : Bool} {stop : Char}
    {cs rest : List Char} (read : readFlags flags seen clearing dangling cs = some (flags', stop, named, rest)) :
    Told (fun cs rest => readFlags flags seen clearing dangling cs = some (flags', stop, named, rest)) cs rest := by
  induction cs generalizing flags seen clearing dangling with
  | nil => cases read
  | cons c cs ih =>
    unfold readFlags at read
    split at read
    · rename_i stops
      split at read
      · cases read
      · rename_i settled
        cases read
        refine ⟨[stop], rfl, ?_⟩
        intro back
        simp only [List.cons_append, List.nil_append, readFlags, if_pos stops, if_neg settled]
    · rename_i going
      split at read
      · rename_i hyphen
        split at read
        · cases read
        · rename_i first
          obtain ⟨taken, rfl, again⟩ := ih read
          refine ⟨c :: taken, rfl, ?_⟩
          intro back
          simp only [List.cons_append, readFlags, if_neg going, if_pos hyphen, if_neg first, again]
      · rename_i letter
        split at read
        · cases read
        · rename_i flag known
          split at read
          · cases read
          · rename_i fresh
            obtain ⟨taken, rfl, again⟩ := ih read
            refine ⟨c :: taken, rfl, ?_⟩
            intro back
            simp only [List.cons_append, readFlags, if_neg going, if_neg letter, known, if_neg fresh, again]

theorem readName_told {cs rest : List Char} {name : String} (read : readName cs = some (name, rest)) :
    Told (fun cs rest => readName cs = some (name, rest)) cs rest := by
  unfold readName at read
  split at read
  · rename_i c letters stop after front ended
    have mark : stop = '>' := by
      have nonempty : cs.dropWhile (· != '>') ≠ [] := by simp [ended]
      have refused := List.head_dropWhile_not (· != '>') nonempty
      simpa [ended] using refused
    subst mark
    obtain ⟨run, rfl, clear⟩ := exists_span_mark ended
    rw [(span_mark clear after).1] at front
    subst front
    split at read
    · rename_i formed
      cases read
      refine ⟨c :: letters ++ ['>'], by simp, ?_⟩
      intro back
      obtain ⟨front, rest⟩ := span_mark clear back
      simp only [List.append_assoc, List.cons_append, List.nil_append] at front rest ⊢
      simp only [readName, front, rest, if_pos formed]
    · cases read
  · cases read

def namedGroup (r : Reader) (cs : List Char) : Option (Reader × List Char) := do
  let (name, after) ← readName cs
  if r.names.contains name then none
  else some ({ r.openGroup r.level.flags true with names := name :: r.names }, after)

def flaggedGroup (r : Reader) (cs : List Char) : Option (Reader × List Char) := do
  let (flags, stop, named, after) ← readFlags r.level.flags [] false false cs
  if stop = ':' then some (r.openGroup flags false, after)
  else if named then
    some ({ r with level := { r.level with flags := flags, branch := r.level.branch.pushFlags } }, after)
  else none

theorem readGroup_eq (r : Reader) (cs : List Char) : readGroup r cs =
    match r.level.flags.skip cs with
    | '?' :: '=' :: _ | '?' :: '!' :: _ | '?' :: '<' :: '=' :: _ | '?' :: '<' :: '!' :: _ => none
    | '?' :: 'P' :: '<' :: rest | '?' :: '<' :: rest => namedGroup r rest
    | '?' :: rest => flaggedGroup r rest
    | rest => some (r.openGroup r.level.flags true, rest) := by
  rfl

theorem namedGroup_told {r r' : Reader} {cs rest : List Char} (read : namedGroup r cs = some (r', rest)) :
    Told (fun cs rest => namedGroup r cs = some (r', rest)) cs rest := by
  simp only [namedGroup, Option.bind_eq_bind, Option.bind_eq_some_iff, Prod.exists] at read
  obtain ⟨name, after, named, read⟩ := read
  split at read
  · cases read
  · rename_i fresh
    cases read
    obtain ⟨taken, rfl, again⟩ := readName_told named
    refine ⟨taken, rfl, ?_⟩
    intro back
    simp only [namedGroup, again, Option.bind_eq_bind, Option.bind_some, if_neg fresh]

theorem flaggedGroup_told {r r' : Reader} {cs rest : List Char} (read : flaggedGroup r cs = some (r', rest)) :
    Told (fun cs rest => flaggedGroup r cs = some (r', rest)) cs rest := by
  simp only [flaggedGroup, Option.bind_eq_bind, Option.bind_eq_some_iff, Prod.exists] at read
  obtain ⟨flags, stop, named, after, flagged, read⟩ := read
  obtain ⟨taken, rfl, again⟩ := readFlags_told flagged
  split at read
  · rename_i colon
    cases read
    refine ⟨taken, rfl, ?_⟩
    intro back
    simp only [flaggedGroup, again, Option.bind_eq_bind, Option.bind_some, if_pos colon]
  · rename_i other
    split at read
    · rename_i given
      cases read
      refine ⟨taken, rfl, ?_⟩
      intro back
      simp only [flaggedGroup, again, Option.bind_eq_bind, Option.bind_some, if_neg other, if_pos given]
    · cases read

-- All that can follow an opening parenthesis of a group: a name, flags, or at once what is in the group.
inductive Opens (r : Reader) : List Char → Reader → List Char → Prop where
  | marked (read : namedGroup r inside = some (next, rest)) : Opens r ('?' :: 'P' :: '<' :: inside) next rest
  | named (ahead : ∀ tail, inside ≠ '=' :: tail) (other : ∀ tail, inside ≠ '!' :: tail)
      (read : namedGroup r inside = some (next, rest)) : Opens r ('?' :: '<' :: inside) next rest
  | flagged (ahead : ∀ tail, inside ≠ '=' :: tail) (other : ∀ tail, inside ≠ '!' :: tail)
      (named : ∀ tail, inside ≠ '<' :: tail) (marked : ∀ tail, inside ≠ 'P' :: '<' :: tail)
      (read : flaggedGroup r inside = some (next, rest)) : Opens r ('?' :: inside) next rest
  | plain (unmarked : ∀ tail, cs ≠ '?' :: tail) : Opens r cs (r.openGroup r.level.flags true) cs

theorem Opens.of_readGroup {r r' : Reader} {cs rest : List Char} (read : readGroup r cs = some (r', rest)) :
    Opens r (r.level.flags.skip cs) r' rest := by
  rw [readGroup_eq] at read
  split at read
  · cases read
  · cases read
  · cases read
  · cases read
  · rename_i text
    exact text ▸ .marked read
  · rename_i ahead other text
    exact text ▸ .named ahead other read
  · rename_i ahead other _ _ marked named text
    exact text ▸ .flagged ahead other named marked read
  · rename_i unmarked
    cases read
    exact .plain unmarked

theorem readGroup_eq_some {r r' : Reader} {cs rest : List Char} :
    readGroup r cs = some (r', rest) ↔ Opens r (r.level.flags.skip cs) r' rest := by
  refine ⟨Opens.of_readGroup, ?_⟩
  intro opens
  rw [readGroup_eq]
  generalize r.level.flags.skip cs = text at opens ⊢
  cases opens with
  | marked read => exact read
  | named ahead other read => simpa using read
  | flagged ahead other named marked read =>
    split
    · rename_i text; cases text; exact absurd rfl (ahead _)
    · rename_i text; cases text; exact absurd rfl (other _)
    · rename_i text; cases text; exact absurd rfl (named _)
    · rename_i text; cases text; exact absurd rfl (named _)
    · rename_i text; cases text; exact absurd rfl (marked _)
    · rename_i text; cases text; exact absurd rfl (named _)
    · rename_i text; cases text; exact read
    · rename_i unmarked; exact absurd rfl (unmarked _)
  | plain unmarked =>
    split
    case h_8 => rfl
    all_goals exact absurd rfl (unmarked _)

theorem Opens.suffix {r r' : Reader} {cs rest : List Char} (opens : Opens r cs r' rest) : rest <:+ cs := by
  cases opens with
  | @marked inside _ _ read => exact (namedGroup_told read).suffix.trans (List.suffix_append ['?', 'P', '<'] inside)
  | @named inside _ _ _ _ read => exact (namedGroup_told read).suffix.trans (List.suffix_append ['?', '<'] inside)
  | @flagged inside _ _ _ _ _ _ read => exact (flaggedGroup_told read).suffix.trans (List.suffix_append ['?'] inside)
  | plain _ => exact List.suffix_rfl

theorem readGroup_suffix {r r' : Reader} {cs rest : List Char} (read : readGroup r cs = some (r', rest)) :
    rest <:+ r.level.flags.skip cs :=
  (Opens.of_readGroup read).suffix

theorem Opens.cut {more : List Char} {r r' : Reader} {cs rest : List Char} (opens : Opens r (cs ++ ')' :: more) r' rest) :
    Cut more (fun front => Opens r cs r' front) rest := by
  generalize whole : cs ++ ')' :: more = text at opens
  cases opens with
  | marked read =>
    obtain ⟨behind, rfl, marked⟩ := split_of_append whole (by decide)
    obtain ⟨letter, rfl, opened⟩ := split_of_append marked.symm (by decide)
    obtain ⟨inside, rfl, rfl⟩ := split_of_append opened.symm (by decide)
    exact (namedGroup_told read).cut.mono fun _ read => .marked read
  | named ahead other read =>
    obtain ⟨behind, rfl, opened⟩ := split_of_append whole (by decide)
    obtain ⟨inside, rfl, rfl⟩ := split_of_append opened.symm (by decide)
    exact (namedGroup_told read).cut.mono fun _ read =>
      .named (absent_of_append ['='] ahead) (absent_of_append ['!'] other) read
  | flagged ahead other named marked read =>
    obtain ⟨inside, rfl, rfl⟩ := split_of_append whole (by decide)
    exact (flaggedGroup_told read).cut.mono fun _ read =>
      .flagged (absent_of_append ['='] ahead) (absent_of_append ['!'] other) (absent_of_append ['<'] named)
        (absent_of_append ['P', '<'] marked) read
  | plain unmarked =>
    subst whole
    exact .before cs (.plain (absent_of_append ['?'] unmarked))

theorem readDecimal_suffix {flags : Flags} {cs rest : List Char} {n : Nat} (read : readDecimal flags cs = some (n, rest)) :
    rest <:+ cs := by
  unfold readDecimal at read
  split at read
  rename_i digits after taken
  have suffix := flags.takeRun_suffix Unicode.isAsciiDigit cs.length (cs.dropWhile Text.isBlank)
  rw [taken] at suffix
  dsimp only at read
  split at read
  · cases read
  · cases read
    exact (flags.skip_suffix _).trans ((List.dropWhile_suffix _).trans (suffix.trans (List.dropWhile_suffix _)))

-- From behind the lower bound of a count.
def countEnd (flags : Flags) (least : Nat) (cs : List Char) : Option (Nat × Option Nat × List Char) := do
  match cs with
  | '\x7d' :: after => some (least, some least, after)
  | ',' :: after =>
    match flags.skip after with
    | '\x7d' :: after => some (least, none, after)
    | after =>
      let (most, after) ← readDecimal flags after
      match after with
      | '\x7d' :: after => if least ≤ most then some (least, some most, after) else none
      | _ => none
  | _ => none

theorem readCount_eq (flags : Flags) (cs : List Char) : readCount flags cs =
    (readDecimal flags (flags.skip cs)).bind fun part => countEnd flags part.1 part.2 := by
  rfl

theorem countEnd_suffix {flags : Flags} {start least : Nat} {most : Option Nat} {cs rest : List Char}
    (read : countEnd flags start cs = some (least, most, rest)) : rest <:+ cs := by
  unfold countEnd at read
  split at read
  · cases read
    exact List.suffix_cons _ rest
  · rename_i inside
    have within := (flags.skip_suffix inside).trans (List.suffix_cons ',' inside)
    split at read
    · rename_i tail closed
      cases read
      rw [closed] at within
      exact (List.suffix_cons _ rest).trans within
    · simp only [Option.bind_eq_bind, Option.bind_eq_some_iff, Prod.exists] at read
      obtain ⟨bound, after, decimal, read⟩ := read
      split at read
      · split at read
        · cases read
          exact (List.suffix_cons _ rest).trans ((readDecimal_suffix decimal).trans within)
        · cases read
      · cases read
  · cases read

theorem readCount_suffix {flags : Flags} {cs rest : List Char} {least : Nat} {most : Option Nat}
    (read : readCount flags cs = some (least, most, rest)) : rest <:+ cs := by
  simp only [readCount_eq, Option.bind_eq_some_iff, Prod.exists] at read
  obtain ⟨start, after, decimal, read⟩ := read
  exact (countEnd_suffix read).trans ((readDecimal_suffix decimal).trans (flags.skip_suffix cs))

theorem repeatMarked_suffix {r r' : Reader} {least : Nat} {most : Option Nat} {cs rest : List Char}
    (read : r.repeatMarked least most cs = some (r', rest)) : rest <:+ cs := by
  simp only [Reader.repeatMarked, Option.map_eq_some_iff, Prod.mk.injEq] at read
  obtain ⟨_, _, _, rfl⟩ := read
  unfold readLazy
  split
  · exact List.suffix_cons _ _
  · exact List.suffix_rfl

theorem repeatMarked_cut {more : List Char} {r r' : Reader} {least : Nat} {most : Option Nat} {cs rest : List Char}
    (read : r.repeatMarked least most (cs ++ ')' :: more) = some (r', rest)) :
    Cut more (fun front => r.repeatMarked least most cs = some (r', front)) rest := by
  unfold Reader.repeatMarked readLazy at read
  split at read
  rename_i ungreedy after marked
  simp only [Option.map_eq_some_iff, Prod.mk.injEq] at read
  obtain ⟨_, repeats, rfl, rfl⟩ := read
  split at marked
  · rename_i behind mark
    obtain ⟨front, rfl, rfl⟩ := split_of_append mark (by decide)
    cases marked
    exact .before front (by simp [Reader.repeatMarked, readLazy, repeats])
  · rename_i unmarked
    cases marked
    refine .before cs ?_
    have unmarked : ∀ tail, cs = '?' :: tail → False := absent_of_append ['?'] unmarked
    simp [Reader.repeatMarked, readLazy, repeats]

inductive Marks : Char → Nat → Option Nat → Prop where
  | optional : Marks '?' 0 (some 1)
  | any : Marks '*' 0 none
  | several : Marks '+' 1 none

-- Everything that one step of reading can do.
inductive Reader.Step (r : Reader) : Char → List Char → Reader → List Char → Prop where
  | opens (group : readGroup r cs = some (r', rest)) : Step r '(' cs r' rest
  | closes (parent : r.closeGroup = some r') : Step r ')' cs r' cs
  | alternates : Step r '|' cs { r with level := r.level.alternate } cs
  | set (bracket : readClass r.level.flags cs = some (s, rest)) : Step r '[' cs (r.push ⟨.set s.body, s.depth⟩) rest
  | repeats (marks : Marks c least most) (marked : r.repeatMarked least most cs = some (r', rest)) : Step r c cs r' rest
  | counts (count : readCount r.level.flags cs = some (least, most, after))
      (marked : r.repeatMarked least most (r.level.flags.skip after) = some (r', rest)) : Step r '\x7b' cs r' rest
  | item (plain : c ∉ ['(', ')', '|', '[', '?', '*', '+', '\x7b'])
      (primitive : readPrimitive r.level.flags c cs = some (item, rest)) :
      Step r c cs (r.push ⟨item.expr r.level.flags, 0⟩) rest

theorem step_eq_some {r r' : Reader} {c : Char} {cs rest : List Char} :
    r.step c cs = some (r', rest) ↔ r.Step c cs r' rest := by
  constructor
  · intro read
    unfold Reader.step at read
    split at read
    · exact .opens read
    · simp only [Option.map_eq_some_iff, Prod.mk.injEq] at read
      obtain ⟨_, parent, rfl, rfl⟩ := read
      exact .closes parent
    · cases read
      exact .alternates
    · simp only [Option.map_eq_some_iff, Prod.exists, Prod.mk.injEq] at read
      obtain ⟨s, after, bracket, rfl, rfl⟩ := read
      exact .set bracket
    · exact .repeats .optional read
    · exact .repeats .any read
    · exact .repeats .several read
    · simp only [Option.bind_eq_bind, Option.bind_eq_some_iff, Prod.exists] at read
      obtain ⟨least, most, after, count, marked⟩ := read
      exact .counts count marked
    · simp only [Option.bind_eq_bind, Option.bind_eq_some_iff, Prod.exists] at read
      obtain ⟨item, after, primitive, read⟩ := read
      cases read
      refine .item ?_ primitive
      simp_all
  · intro step
    cases step with
    | opens group => exact group
    | closes parent => simp [Reader.step, parent]
    | alternates => rfl
    | set bracket => simp [Reader.step, bracket]
    | repeats marks marked => cases marks <;> exact marked
    | counts count marked => simp [Reader.step, count, marked]
    | item plain primitive =>
      simp only [List.mem_cons, List.not_mem_nil, or_false, not_or] at plain
      simp [Reader.step, plain, primitive]

theorem Reader.Step.suffix {r r' : Reader} {c : Char} {cs rest : List Char} (step : r.Step c cs r' rest) :
    rest <:+ cs := by
  cases step with
  | opens group => exact (readGroup_suffix group).trans (r.level.flags.skip_suffix cs)
  | closes => exact List.suffix_rfl
  | alternates => exact List.suffix_rfl
  | set bracket => exact readClass_suffix bracket
  | repeats marks marked => exact repeatMarked_suffix marked
  | counts count marked =>
    exact ((repeatMarked_suffix marked).trans (r.level.flags.skip_suffix _)).trans (readCount_suffix count)
  | item plain primitive => exact readPrimitive_suffix primitive

section Tail
variable {more : List Char} (plain : '\n' ∉ more)
include plain

theorem readGroup_cut {r r' : Reader} {cs rest : List Char} (read : readGroup r (cs ++ ')' :: more) = some (r', rest)) :
    Cut more (fun front => readGroup r cs = some (r', front)) rest := by
  simp only [readGroup_eq_some] at read ⊢
  rcases r.level.flags.skip_append plain cs with same | lost
  · rw [same] at read
    exact read.cut
  · rw [lost] at read
    exact .past (read.suffix.trans List.nil_suffix)

theorem readDecimal_cut {flags : Flags} {cs rest : List Char} {n : Nat}
    (read : readDecimal flags (cs ++ ')' :: more) = some (n, rest)) :
    Cut more (fun front => readDecimal flags cs = some (n, front)) rest := by
  have blanks (cs : List Char) : (cs ++ ')' :: more).dropWhile Text.isBlank = cs.dropWhile Text.isBlank ++ ')' :: more := by
    rw [List.dropWhile_append]
    split
    · rename_i empty
      rw [List.isEmpty_iff.mp empty]
      rfl
    · rfl
  unfold readDecimal at read
  rw [blanks] at read
  split at read
  rename_i digits after taken
  have fewer := (List.dropWhile_suffix Text.isBlank (l := cs)).length_le
  have cut := Flags.takeRun_cut plain fewer (by simp; omega) taken
  dsimp only at read
  split at read
  · cases read
  · rename_i small
    cases read
    refine cut.next ((flags.skip_suffix _).trans (List.dropWhile_suffix _)) ?_
    intro front alone behind
    rw [behind, blanks]
    refine (flags.skip_cut plain _).mono ?_
    intro front' skipped
    simp only [readDecimal, alone, if_neg small, skipped]

theorem countEnd_cut {flags : Flags} {start least : Nat} {most : Option Nat} {cs rest : List Char}
    (read : countEnd flags start (cs ++ ')' :: more) = some (least, most, rest)) :
    Cut more (fun front => countEnd flags start cs = some (least, most, front)) rest := by
  unfold countEnd at read
  split at read
  · rename_i behind closed
    obtain ⟨front, rfl, rfl⟩ := split_of_append closed (by decide)
    cases read
    exact .before front rfl
  · rename_i behind comma
    obtain ⟨inside, rfl, rfl⟩ := split_of_append comma (by decide)
    rcases flags.skip_append plain inside with same | lost
    · rw [same] at read
      split at read
      · rename_i tail closed
        obtain ⟨front, alone, rfl⟩ := split_of_append closed (by decide)
        cases read
        exact .before front (by simp [countEnd, alone])
      · rename_i bounded
        simp only [Option.bind_eq_bind, Option.bind_eq_some_iff, Prod.exists] at read
        obtain ⟨bound, after, decimal, read⟩ := read
        have unclosed : ∀ tail, flags.skip inside = '\x7d' :: tail → False := absent_of_append ['\x7d'] bounded
        split at read
        · split at read
          · rename_i ordered
            cases read
            refine ((readDecimal_cut plain decimal).tail (by decide)).mono ?_
            intro front alone
            simp [countEnd, alone, ordered]
          · cases read
        · cases read
    · rw [lost] at read
      cases read
  · cases read

theorem readCount_cut {flags : Flags} {cs rest : List Char} {least : Nat} {most : Option Nat}
    (read : readCount flags (cs ++ ')' :: more) = some (least, most, rest)) :
    Cut more (fun front => readCount flags cs = some (least, most, front)) rest := by
  simp only [readCount_eq, Option.bind_eq_some_iff, Prod.exists] at read ⊢
  obtain ⟨start, after, decimal, read⟩ := read
  rcases flags.skip_append plain cs with same | lost
  · rw [same] at decimal
    refine (readDecimal_cut plain decimal).next (countEnd_suffix read) ?_
    intro front alone behind
    rw [behind] at read
    refine (countEnd_cut plain read).mono ?_
    intro front' ended
    exact ⟨start, front, alone, ended⟩
  · rw [lost] at decimal
    cases decimal

-- A step on a text with more behind it is a step on the text alone. Only the look of a boundary may be taken too early,
-- and then no step follows.
theorem Reader.Step.cut {r r' : Reader} {c : Char} {cs rest : List Char} (step : r.Step c (cs ++ ')' :: more) r' rest) :
    Cut more (fun front => r.Step c cs r' front) rest ∨ Stalled r'.level.flags rest := by
  cases step with
  | opens group => exact .inl ((readGroup_cut plain group).mono fun _ => .opens)
  | closes parent => exact .inl (.before cs (.closes parent))
  | alternates => exact .inl (.before cs .alternates)
  | set bracket => exact .inl ((readClass_cut plain bracket).mono fun _ => .set)
  | repeats marks marked => exact .inl ((repeatMarked_cut marked).mono fun _ => .repeats marks)
  | counts count marked =>
    have suffix := repeatMarked_suffix marked
    refine .inl ((readCount_cut plain count).next (suffix.trans (r.level.flags.skip_suffix _)) ?_)
    intro front alone behind
    subst behind
    rcases r.level.flags.skip_append plain front with same | lost
    · rw [same] at marked
      exact (repeatMarked_cut marked).mono fun _ => .counts alone
    · rw [lost] at suffix
      exact .past (suffix.trans List.nil_suffix)
  | item other primitive =>
    rcases readPrimitive_cut plain primitive with cut | ⟨_, stalled⟩
    · exact .inl (cut.mono fun _ => .item other)
    · exact .inr stalled

end Tail
end CardQuery.Pattern
