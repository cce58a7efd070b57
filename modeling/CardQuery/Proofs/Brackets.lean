import CardQuery.Proofs.Pieces
import Mathlib.Data.List.TakeWhile

namespace CardQuery.Pattern

theorem split_twice {more cs rest : List Char} {c : Char} (whole : cs ++ ')' :: more = c :: c :: rest) (other : c ≠ ')') :
    ∃ front, cs = c :: c :: front ∧ rest = front ++ ')' :: more := by
  obtain ⟨second, rfl, next⟩ := split_of_append whole other
  obtain ⟨front, rfl, behind⟩ := split_of_append next.symm other
  exact ⟨front, rfl, behind⟩

theorem span_mark {mark : Char} {run : List Char} (clear : ∀ c ∈ run, (c != mark) = true) (back : List Char) :
    (run ++ mark :: back).takeWhile (· != mark) = run ∧ (run ++ mark :: back).dropWhile (· != mark) = mark :: back := by
  rw [List.takeWhile_append_of_pos clear, List.dropWhile_append_of_pos clear]
  simp

theorem exists_span_mark {mark : Char} {cs after : List Char} (found : cs.dropWhile (· != mark) = mark :: after) :
    ∃ run, cs = run ++ mark :: after ∧ ∀ c ∈ run, (c != mark) = true := by
  refine ⟨cs.takeWhile (· != mark), ?_, ?_⟩
  · rw [← found, List.takeWhile_append_dropWhile]
  · intro c member
    exact List.mem_takeWhile_imp (p := (· != mark)) member

theorem readAsciiClass_told {cs rest : List Char} {named : AsciiClass} {negated : Bool}
    (read : readAsciiClass cs = some (named, negated, rest)) :
    Told (fun cs rest => readAsciiClass cs = some (named, negated, rest)) cs rest := by
  unfold readAsciiClass at read
  split at read
  · rename_i inside
    split at read
    rename_i mark name marked
    split at read
    · rename_i after ended
      simp only [Option.map_eq_some_iff, Prod.mk.injEq] at read
      obtain ⟨k, known, rfl, rfl, rfl⟩ := read
      obtain ⟨run, rfl, clear⟩ := exists_span_mark ended
      rw [(span_mark clear _).1] at known
      split at marked
      · rename_i inside
        cases marked
        refine ⟨':' :: '^' :: (run ++ [':', ']']), by simp, ?_⟩
        intro back
        obtain ⟨front, rest⟩ := span_mark clear (']' :: back)
        simp [readAsciiClass, front, rest, known]
      · rename_i unmarked
        cases marked
        refine ⟨':' :: (run ++ [':', ']']), by simp, ?_⟩
        intro back
        obtain ⟨front, rest⟩ := span_mark clear (']' :: back)
        have unmarked : ∀ other, run ++ ':' :: ']' :: back ≠ '^' :: other := by
          intro other same
          cases run with
          | nil => cases same
          | cons c run => cases same; exact unmarked _ rfl
        simp [readAsciiClass, front, rest, known]
    · cases read
  · cases read

theorem readAsciiClass_append {cs : List Char} (back : List Char) (unread : readAsciiClass (cs ++ back) = none) :
    readAsciiClass cs = none := by
  cases alone : readAsciiClass cs with
  | none => rfl
  | some part =>
    obtain ⟨named, negated, rest⟩ := part
    obtain ⟨taken, rfl, again⟩ := readAsciiClass_told alone
    rw [List.append_assoc, again] at unread
    cases unread

namespace Bracket

-- From behind the mark of negation: hyphens, or else a closing bracket, stand for themselves.
def startAt (flags : Flags) (negated : Bool) (cs : List Char) : Bracket × List Char :=
  let (hyphens, after) := flags.takeRun (· == '-') cs.length cs
  let opened := hyphens.foldl (fun b c => b.push ⟨.single c, 0⟩) { negated := negated }
  match hyphens, after with
  | [], ']' :: rest => (opened.push ⟨.single ']', 0⟩, flags.skip rest)
  | _, after => (opened, after)

theorem start_marked {flags : Flags} {cs rest : List Char} (opens : flags.skip cs = '^' :: rest) :
    start flags cs = startAt flags true (flags.skip rest) := by
  unfold start
  rw [opens]
  rfl

theorem start_unmarked {flags : Flags} {cs : List Char} (unmarked : ¬ ∃ rest, flags.skip cs = '^' :: rest) :
    start flags cs = startAt flags false (flags.skip cs) := by
  unfold start
  split
  rename_i negated inside marked
  split at marked
  · rename_i rest opens
    exact absurd ⟨rest, opens⟩ unmarked
  · cases marked
    rfl

theorem startAt_suffix {flags : Flags} {negated : Bool} {cs rest : List Char} {b : Bracket}
    (read : startAt flags negated cs = (b, rest)) : rest <:+ cs := by
  have suffix := flags.takeRun_suffix (· == '-') cs.length cs
  unfold startAt at read
  split at read
  rename_i hyphens after taken
  rw [taken] at suffix
  split at read
  · rename_i inside
    cases read
    exact (flags.skip_suffix inside).trans ((List.suffix_cons _ inside).trans suffix)
  · cases read
    exact suffix

theorem start_suffix {flags : Flags} {cs rest : List Char} {b : Bracket} (read : start flags cs = (b, rest)) :
    rest <:+ flags.skip cs := by
  by_cases marked : ∃ inside, flags.skip cs = '^' :: inside
  · obtain ⟨inside, opens⟩ := marked
    rw [start_marked opens] at read
    rw [opens]
    exact (startAt_suffix read).trans ((flags.skip_suffix inside).trans (List.suffix_cons _ inside))
  · rw [start_unmarked marked] at read
    exact startAt_suffix read

section Tail
variable {more : List Char} (plain : '\n' ∉ more)
include plain

theorem startAt_cut {flags : Flags} {negated : Bool} {cs rest : List Char} {b : Bracket}
    (read : startAt flags negated (cs ++ ')' :: more) = (b, rest)) :
    Cut more (fun front => startAt flags negated cs = (b, front)) rest := by
  unfold startAt at read
  split at read
  rename_i hyphens after taken
  have cut := Flags.takeRun_cut plain (Nat.le_refl _) (Nat.le_refl _) taken
  split at read
  · rename_i inside
    cases read
    refine (cut.tail (by decide)).next (flags.skip_suffix inside) ?_
    intro front alone behind
    subst behind
    refine (flags.skip_cut plain front).mono ?_
    intro front' skipped
    simp [startAt, alone, skipped]
  · rename_i unopened
    cases read
    cases cut with
    | before front alone =>
      refine .before front ?_
      unfold startAt
      rw [alone]
      split
      rename_i hyphens' after' equal
      cases equal
      split
      · rename_i inside
        exact absurd rfl (unopened (inside ++ ')' :: more) rfl)
      · rfl
    | past left => exact .past left

theorem start_cut {flags : Flags} {cs rest : List Char} {b : Bracket}
    (read : start flags (cs ++ ')' :: more) = (b, rest)) :
    Cut more (fun front => start flags cs = (b, front)) rest := by
  have suffix := start_suffix read
  rcases flags.skip_append plain cs with same | lost
  · by_cases marked : ∃ inside, flags.skip cs = '^' :: inside
    · obtain ⟨inside, alone⟩ := marked
      have opens : flags.skip (cs ++ ')' :: more) = '^' :: (inside ++ ')' :: more) := by
        rw [same, alone]
        rfl
      rw [start_marked opens] at read
      refine (flags.skip_cut plain inside).next (startAt_suffix read) ?_
      intro front skipped behind
      rw [behind] at read
      refine (startAt_cut plain read).mono ?_
      intro front' started
      rw [start_marked alone, skipped, started]
    · have unmarked : ¬ ∃ inside, flags.skip (cs ++ ')' :: more) = '^' :: inside := by
        rintro ⟨inside, opens⟩
        rw [same] at opens
        obtain ⟨front, alone, _⟩ := split_of_append opens (by decide)
        exact marked ⟨front, alone⟩
      rw [start_unmarked unmarked, same] at read
      refine (startAt_cut plain read).mono ?_
      intro front started
      rw [start_unmarked marked, started]
  · rw [lost] at suffix
    exact .past (suffix.trans List.nil_suffix)

end Tail

end Bracket

theorem readItem_suffix {flags : Flags} {c : Char} {cs rest : List Char} {item : Primitive}
    (read : readItem flags c cs = some (item, rest)) : rest <:+ cs := by
  unfold readItem at read
  split at read
  · exact readEscape_suffix read
  · cases read
    exact List.suffix_rfl

def rangeEnd (flags : Flags) (first : Primitive) (cs : List Char) : Option (Unicode.RangeSet × List Char) := do
  match cs with
  | [] => none
  | '-' :: more =>
    match flags.skip more with
    | [] => none
    | ']' :: _ | '-' :: _ => return (← first.item? flags, '-' :: more)
    | d :: more =>
      let (second, after) ← readItem flags d more
      let low ← first.literal? flags
      let high ← second.literal? flags
      if low ≤ high then return (.range low.toNat high.toNat, after) else none
  | after => return (← first.item? flags, after)

theorem readRange_eq (flags : Flags) (c : Char) (cs : List Char) : readRange flags c cs =
    (readItem flags c cs).bind fun part => rangeEnd flags part.1 (flags.skip part.2) := by
  rfl

-- All that can follow the first item: nothing of the range, a hyphen that stands for itself, or the other end.
inductive RangeEnds (flags : Flags) (first : Primitive) : List Char → Unicode.RangeSet → List Char → Prop where
  | single (other : c ≠ '-') (known : first.item? flags = some s) : RangeEnds flags first (c :: cs) s (c :: cs)
  | hyphen (next : flags.skip inside = c :: tail) (stops : c = ']' ∨ c = '-') (known : first.item? flags = some s) :
      RangeEnds flags first ('-' :: inside) s ('-' :: inside)
  | range (next : flags.skip inside = c :: tail) (goesOn : c ≠ ']' ∧ c ≠ '-')
      (item : readItem flags c tail = some (second, rest)) (lower : first.literal? flags = some low)
      (upper : second.literal? flags = some high) (ordered : low ≤ high) :
      RangeEnds flags first ('-' :: inside) (.range low.toNat high.toNat) rest

theorem rangeEnd_eq_some {flags : Flags} {first : Primitive} {cs rest : List Char} {s : Unicode.RangeSet} :
    rangeEnd flags first cs = some (s, rest) ↔ RangeEnds flags first cs s rest := by
  constructor
  · intro read
    unfold rangeEnd at read
    split at read
    · cases read
    · split at read
      · cases read
      · rename_i next
        obtain ⟨_, known, equal⟩ := Option.bind_eq_some_iff.mp read
        cases equal
        exact .hyphen next (.inl rfl) known
      · rename_i next
        obtain ⟨_, known, equal⟩ := Option.bind_eq_some_iff.mp read
        cases equal
        exact .hyphen next (.inr rfl) known
      · rename_i notClosing notHyphen next
        simp only [Option.bind_eq_bind, Option.bind_eq_some_iff, Prod.exists] at read
        obtain ⟨second, after, item, low, lower, high, upper, equal⟩ := read
        split at equal
        · rename_i ordered
          cases equal
          exact .range next ⟨fun same => notClosing same, fun same => notHyphen same⟩ item lower upper ordered
        · cases equal
    · rename_i present unmarked
      obtain ⟨_, known, equal⟩ := Option.bind_eq_some_iff.mp read
      cases equal
      cases cs with
      | nil => exact absurd rfl present
      | cons c cs => exact .single (by rintro rfl; exact unmarked cs rfl) known
  · intro ends
    cases ends with
    | single other known => simp [rangeEnd, other, known]
    | hyphen next stops known =>
      rcases stops with rfl | rfl
      · simp [rangeEnd, next, known]
      · simp [rangeEnd, next, known]
    | range next goesOn item lower upper ordered => simp [rangeEnd, next, goesOn, item, lower, upper, ordered]

theorem rangeEnd_look (flags : Flags) (l : Look) (cs : List Char) : rangeEnd flags (.look l) cs = none := by
  cases read : rangeEnd flags (.look l) cs with
  | none => rfl
  | some part =>
    obtain ⟨s, rest⟩ := part
    cases rangeEnd_eq_some.mp read with
    | single _ known => cases known
    | hyphen _ _ known => cases known
    | range _ _ _ lower _ _ => cases lower

theorem rangeEnd_suffix {flags : Flags} {first : Primitive} {cs rest : List Char} {s : Unicode.RangeSet}
    (read : rangeEnd flags first cs = some (s, rest)) : rest <:+ cs := by
  cases rangeEnd_eq_some.mp read with
  | single _ _ => exact List.suffix_rfl
  | hyphen _ _ _ => exact List.suffix_rfl
  | @range inside c tail _ _ _ _ next _ item _ _ _ =>
    have within := flags.skip_suffix inside
    rw [next] at within
    have behind := (List.suffix_cons c tail).trans within
    exact (readItem_suffix item).trans (behind.trans (List.suffix_cons _ inside))

theorem readRange_suffix {flags : Flags} {c : Char} {cs rest : List Char} {s : Unicode.RangeSet}
    (read : readRange flags c cs = some (s, rest)) : rest <:+ cs := by
  simp only [readRange_eq, Option.bind_eq_some_iff, Prod.exists] at read
  obtain ⟨first, after, item, read⟩ := read
  exact (rangeEnd_suffix read).trans ((flags.skip_suffix after).trans (readItem_suffix item))

inductive Bracket.Round where
  | closed (whole : Part Unicode.RangeSet)
  | onwards (b : Bracket) (outer : List Bracket)

def Bracket.round (flags : Flags) (b : Bracket) (outer : List Bracket) (cs : List Char) :
    Option (Round × List Char) :=
  match flags.skip cs with
  | [] => none
  | '[' :: rest =>
    match readAsciiClass rest with
    | some (named, negated, after) =>
      (flags.negate? negated (flags.foldSet named.members)).map fun members => (.onwards (b.push ⟨members, 0⟩) outer, after)
    | none => some (.onwards (start flags rest).1 (b :: outer), (start flags rest).2)
  | ']' :: rest =>
    match b.close? flags, outer with
    | none, _ => none
    | some whole, [] => some (.closed whole, rest)
    | some whole, parent :: outer => some (.onwards (parent.push whole) outer, rest)
  | '&' :: '&' :: rest => some (.onwards (b.operate flags .inter) outer, rest)
  | '-' :: '-' :: rest => some (.onwards (b.operate flags .diff) outer, rest)
  | '~' :: '~' :: rest => some (.onwards (b.operate flags .symmDiff) outer, rest)
  | c :: rest => (readRange flags c rest).map fun (item, after) => (.onwards (b.push ⟨item, 0⟩) outer, after)

def Bracket.Round.finish (flags : Flags) (fuel : Nat) : Round × List Char → Option (Part Unicode.RangeSet × List Char)
  | (.closed whole, rest) => some (whole, rest)
  | (.onwards b outer, rest) => readBrackets flags fuel b outer rest

theorem readBrackets_succ (flags : Flags) (fuel : Nat) (b : Bracket) (outer : List Bracket) (cs : List Char) :
    readBrackets flags (fuel + 1) b outer cs = (Bracket.round flags b outer cs).bind (Bracket.Round.finish flags fuel) := by
  unfold readBrackets Bracket.round
  generalize flags.skip cs = text
  split
  · rfl
  · rename_i inside
    cases named : readAsciiClass inside with
    | none => simp_all [Bracket.Round.finish]
    | some part =>
      obtain ⟨k, negated, after⟩ := part
      cases members : flags.negate? negated (flags.foldSet k.members) <;> simp_all [Bracket.Round.finish]
  · split <;> simp_all [Bracket.Round.finish]
  · rfl
  · rfl
  · rfl
  · rename_i c inside _ _ _ _ _
    cases range : readRange flags c inside <;> simp_all [Bracket.Round.finish]

namespace Bracket

-- The characters that stand twice for an operator.
inductive Operates : Char → SetOp → Prop where
  | inter : Operates '&' .inter
  | diff : Operates '-' .diff
  | symmDiff : Operates '~' .symmDiff

-- What one round does with a text that starts with what it takes.
inductive Turn (flags : Flags) (b : Bracket) : List Bracket → List Char → Round → List Char → Prop where
  | named {k : AsciiClass} {inverse : Bool} (known : readAsciiClass inside = some (k, inverse, rest))
      (negates : flags.negate? inverse (flags.foldSet k.members) = some members) :
      Turn flags b outer ('[' :: inside) (.onwards (b.push ⟨members, 0⟩) outer) rest
  | opened {b' : Bracket} (unnamed : readAsciiClass inside = none) (opens : start flags inside = (b', rest)) :
      Turn flags b outer ('[' :: inside) (.onwards b' (b :: outer)) rest
  | closed (closes : b.close? flags = some whole) : Turn flags b [] (']' :: rest) (.closed whole) rest
  | shut (closes : b.close? flags = some whole) :
      Turn flags b (parent :: outer) (']' :: rest) (.onwards (parent.push whole) outer) rest
  | operated (operates : Operates c op) : Turn flags b outer (c :: c :: rest) (.onwards (b.operate flags op) outer) rest
  | item (opening : c ≠ '[') (closing : c ≠ ']') (single : ∀ op tail, Operates c op → inside ≠ c :: tail)
      (range : readRange flags c inside = some (s, rest)) :
      Turn flags b outer (c :: inside) (.onwards (b.push ⟨s, 0⟩) outer) rest

theorem Turn.of_round {flags : Flags} {b : Bracket} {outer : List Bracket} {cs rest : List Char} {next : Round}
    (read : round flags b outer cs = some (next, rest)) : Turn flags b outer (flags.skip cs) next rest := by
  unfold round at read
  split at read
  · cases read
  · rename_i inside text
    rw [text]
    split at read
    · rename_i known
      simp only [Option.map_eq_some_iff, Prod.mk.injEq] at read
      obtain ⟨members, negates, rfl, rfl⟩ := read
      exact .named known negates
    · rename_i unnamed
      cases read
      exact .opened unnamed rfl
  · rename_i inside text
    rw [text]
    split at read
    · cases read
    · rename_i closes
      cases read
      exact .closed closes
    · rename_i closes
      cases read
      exact .shut closes
  · rename_i text
    cases read
    exact text ▸ .operated .inter
  · rename_i text
    cases read
    exact text ▸ .operated .diff
  · rename_i text
    cases read
    exact text ▸ .operated .symmDiff
  · rename_i c inside opening closing inter diff symm text
    simp only [Option.map_eq_some_iff, Prod.exists, Prod.mk.injEq] at read
    obtain ⟨s, after, range, rfl, rfl⟩ := read
    rw [text]
    refine .item opening closing ?_ range
    intro op tail operates twice
    cases operates with
    | inter => exact inter tail rfl twice
    | diff => exact diff tail rfl twice
    | symmDiff => exact symm tail rfl twice

theorem round_eq_some {flags : Flags} {b : Bracket} {outer : List Bracket} {cs rest : List Char} {next : Round} :
    round flags b outer cs = some (next, rest) ↔ Turn flags b outer (flags.skip cs) next rest := by
  refine ⟨Turn.of_round, ?_⟩
  intro turn
  unfold round
  generalize flags.skip cs = text at turn ⊢
  cases turn with
  | named known negates => simp [known, negates]
  | opened unnamed opens => simp [unnamed, opens]
  | closed closes => simp [closes]
  | shut closes => simp [closes]
  | operated operates => cases operates <;> rfl
  | item opening closing single range =>
    split
    · rename_i nothing; cases nothing
    · rename_i same; cases same; exact absurd rfl opening
    · rename_i same; cases same; exact absurd rfl closing
    · rename_i same; cases same; exact absurd rfl (single _ _ .inter)
    · rename_i same; cases same; exact absurd rfl (single _ _ .diff)
    · rename_i same; cases same; exact absurd rfl (single _ _ .symmDiff)
    · rename_i same; cases same; simp [range]

theorem Turn.suffix {flags : Flags} {b : Bracket} {outer : List Bracket} {cs rest : List Char} {next : Round}
    (turn : Turn flags b outer cs next rest) : ∃ c inside, cs = c :: inside ∧ rest <:+ inside := by
  cases turn with
  | named known _ => exact ⟨_, _, rfl, (readAsciiClass_told known).suffix⟩
  | @opened inside _ _ _ _ opens => exact ⟨_, _, rfl, (start_suffix opens).trans (flags.skip_suffix inside)⟩
  | closed _ => exact ⟨_, _, rfl, List.suffix_rfl⟩
  | shut _ => exact ⟨_, _, rfl, List.suffix_rfl⟩
  | operated _ => exact ⟨_, _, rfl, List.suffix_cons _ rest⟩
  | item _ _ _ range => exact ⟨_, _, rfl, readRange_suffix range⟩

theorem round_suffix {flags : Flags} {b : Bracket} {outer : List Bracket} {cs rest : List Char} {next : Round}
    (read : round flags b outer cs = some (next, rest)) : ∃ c, c :: rest <:+ cs := by
  obtain ⟨c, inside, text, taken, rfl⟩ := (Turn.of_round read).suffix
  have suffix := flags.skip_suffix cs
  rw [text] at suffix
  cases taken.eq_nil_or_concat with
  | inl empty => subst empty; exact ⟨c, suffix⟩
  | inr last =>
    obtain ⟨front, d, rfl⟩ := last
    refine ⟨d, List.IsSuffix.trans ?_ suffix⟩
    exact ⟨c :: front, by simp⟩

end Bracket

theorem readBrackets_suffix {flags : Flags} {fuel : Nat} {b : Bracket} {outer : List Bracket} {cs rest : List Char}
    {s : Part Unicode.RangeSet} (read : readBrackets flags fuel b outer cs = some (s, rest)) :
    ∃ c, c :: rest <:+ cs := by
  induction fuel generalizing b outer cs with
  | zero => cases read
  | succ fuel ih =>
    simp only [readBrackets_succ, Option.bind_eq_some_iff, Prod.exists] at read
    obtain ⟨next, after, round, read⟩ := read
    have taken := Bracket.round_suffix round
    cases next with
    | closed whole => cases read; exact taken
    | onwards b outer =>
      obtain ⟨c, within⟩ := taken
      obtain ⟨d, suffix⟩ := ih read
      exact ⟨d, suffix.trans ((List.suffix_cons c after).trans within)⟩

theorem readClass_suffix {flags : Flags} {cs rest : List Char} {s : Part Unicode.RangeSet}
    (read : readClass flags cs = some (s, rest)) : rest <:+ cs := by
  unfold readClass at read
  split at read
  rename_i b after opened
  obtain ⟨c, suffix⟩ := readBrackets_suffix read
  have opens := (Bracket.start_suffix opened).trans (flags.skip_suffix cs)
  exact ((List.suffix_cons c rest).trans suffix).trans opens

section Tail
variable {more : List Char} (plain : '\n' ∉ more)
include plain

-- The first character behind what is skipped belongs to the text, or it is the `)` and the text is all skipped.
theorem skip_cons_append {flags : Flags} {c : Char} {cs rest : List Char}
    (next : flags.skip (cs ++ ')' :: more) = c :: rest) :
    (∃ front, flags.skip cs = c :: front ∧ rest = front ++ ')' :: more) ∨ c = ')' ∧ rest = more := by
  rcases flags.skip_append plain cs with same | lost
  · rw [same] at next
    cases alone : flags.skip cs with
    | nil => rw [alone] at next; cases next; exact .inr ⟨rfl, rfl⟩
    | cons d front => rw [alone] at next; cases next; exact .inl ⟨front, rfl, rfl⟩
  · rw [lost] at next
    cases next

theorem readItem_cut {flags : Flags} {c : Char} {cs rest : List Char} {item : Primitive}
    (read : readItem flags c (cs ++ ')' :: more) = some (item, rest)) :
    Cut more (fun front => readItem flags c cs = some (item, front)) rest ∨ ∃ l, item = .look l := by
  unfold readItem at read ⊢
  split at read
  · rename_i escaped
    simp only [escaped, if_true]
    rcases readEscape_cut plain read with cut | ⟨look, _⟩
    · exact .inl cut
    · exact .inr look
  · rename_i unescaped
    cases read
    simp only [unescaped, if_false]
    exact .inl (.before cs rfl)

theorem rangeEnd_cut {flags : Flags} {first : Primitive} {cs rest : List Char} {s : Unicode.RangeSet}
    (read : rangeEnd flags first (cs ++ ')' :: more) = some (s, rest)) :
    Cut more (fun front => rangeEnd flags first cs = some (s, front)) rest ∨ rest = ')' :: more := by
  simp only [rangeEnd_eq_some] at read ⊢
  generalize whole : cs ++ ')' :: more = text at read
  cases read with
  | single other known =>
    cases cs with
    | nil => exact .inr whole.symm
    | cons d inside => cases whole; exact .inl (.before (_ :: inside) (.single other known))
  | hyphen next stops known =>
    obtain ⟨inside, rfl, rfl⟩ := split_of_append whole (by decide)
    rcases skip_cons_append plain next with ⟨front, alone, _⟩ | ⟨rfl, _⟩
    · exact .inl (.before ('-' :: inside) (.hyphen alone stops known))
    · exact absurd stops (by decide)
  | range next goesOn item lower upper ordered =>
    obtain ⟨inside, rfl, rfl⟩ := split_of_append whole (by decide)
    rcases skip_cons_append plain next with ⟨front, alone, rfl⟩ | ⟨_, rfl⟩
    · rcases readItem_cut plain item with cut | ⟨l, rfl⟩
      · exact .inl (cut.mono fun _ item => .range alone goesOn item lower upper ordered)
      · cases upper
    · exact .inl (.past (readItem_suffix item))

theorem readRange_cut {flags : Flags} {c : Char} {cs rest : List Char} {s : Unicode.RangeSet}
    (read : readRange flags c (cs ++ ')' :: more) = some (s, rest)) :
    Cut more (fun front => readRange flags c cs = some (s, front)) rest ∨ rest = ')' :: more := by
  simp only [readRange_eq, Option.bind_eq_some_iff, Prod.exists] at read ⊢
  obtain ⟨first, after, item, read⟩ := read
  rcases readItem_cut plain item with cut | ⟨l, rfl⟩
  · cases cut with
    | before front alone =>
      rcases flags.skip_append plain front with same | lost
      · rw [same] at read
        refine (rangeEnd_cut plain read).imp_left fun cut => cut.mono ?_
        intro front' ended
        exact ⟨first, front, alone, ended⟩
      · rw [lost] at read
        cases read
    | past left => exact .inl (.past ((rangeEnd_suffix read).trans ((flags.skip_suffix after).trans left)))
  · rw [rangeEnd_look] at read
    cases read

-- At the end of the text an item might still become a range, so alone it is not read; the `)` behind it ends it.
theorem Bracket.Turn.cut {flags : Flags} {b : Bracket} {outer : List Bracket} {cs rest : List Char} {next : Round}
    (turn : Turn flags b outer (cs ++ ')' :: more) next rest) :
    Cut more (fun front => Turn flags b outer cs next front) rest ∨
      (∃ b' outer', next = .onwards b' outer') ∧ rest = ')' :: more := by
  generalize whole : cs ++ ')' :: more = text at turn
  cases turn with
  | named known negates =>
    obtain ⟨inside, rfl, rfl⟩ := split_of_append whole (by decide)
    exact .inl ((readAsciiClass_told known).cut.mono fun _ known => .named known negates)
  | opened unnamed opens =>
    obtain ⟨inside, rfl, rfl⟩ := split_of_append whole (by decide)
    exact .inl ((start_cut plain opens).mono fun _ opens => .opened (readAsciiClass_append _ unnamed) opens)
  | closed closes =>
    obtain ⟨inside, rfl, rfl⟩ := split_of_append whole (by decide)
    exact .inl (.before inside (.closed closes))
  | shut closes =>
    obtain ⟨inside, rfl, rfl⟩ := split_of_append whole (by decide)
    exact .inl (.before inside (.shut closes))
  | operated operates =>
    obtain ⟨inside, rfl, rfl⟩ := split_twice whole (by rintro rfl; cases operates)
    exact .inl (.before inside (.operated operates))
  | item opening closing single range =>
    cases cs with
    | nil => cases whole; exact .inl (.past (readRange_suffix range))
    | cons c inside =>
      cases whole
      rcases readRange_cut plain range with cut | rfl
      · refine .inl (cut.mono fun _ range => .item opening closing ?_ range)
        intro op tail operates twice
        exact single op (tail ++ ')' :: more) operates (by rw [twice]; rfl)
      · exact .inr ⟨⟨_, _, rfl⟩, rfl⟩

theorem Bracket.round_cut {flags : Flags} {b : Bracket} {outer : List Bracket} {cs rest : List Char} {next : Round}
    (read : round flags b outer (cs ++ ')' :: more) = some (next, rest)) :
    Cut more (fun front => round flags b outer cs = some (next, front)) rest ∨
      (∃ b' outer', next = .onwards b' outer') ∧ rest = ')' :: more := by
  simp only [round_eq_some] at read ⊢
  rcases flags.skip_append plain cs with same | lost
  · rw [same] at read
    exact read.cut plain
  · rw [lost] at read
    cases read

theorem readBrackets_cut {flags : Flags} {fuel fuel' : Nat} {b : Bracket} {outer : List Bracket} {cs rest : List Char}
    {s : Part Unicode.RangeSet} (enough : cs.length < fuel)
    (read : readBrackets flags fuel' b outer (cs ++ ')' :: more) = some (s, rest)) :
    Cut more (fun front => readBrackets flags fuel b outer cs = some (s, front)) rest := by
  induction fuel' generalizing fuel b outer cs with
  | zero => cases read
  | succ fuel' ih =>
    cases fuel with
    | zero => omega
    | succ fuel =>
      simp only [readBrackets_succ, Option.bind_eq_some_iff, Prod.exists] at read ⊢
      obtain ⟨next, after, round, read⟩ := read
      rcases Bracket.round_cut plain round with cut | ⟨⟨b', outer', rfl⟩, rfl⟩
      · cases next with
        | closed whole =>
          cases read
          refine cut.mono ?_
          intro front alone
          exact ⟨_, front, alone, rfl⟩
        | onwards b' outer' =>
          obtain ⟨c, suffix⟩ := readBrackets_suffix read
          refine cut.next ((List.suffix_cons c rest).trans suffix) ?_
          intro front alone behind
          subst behind
          obtain ⟨d, shorter⟩ := Bracket.round_suffix alone
          have fewer := shorter.length_le
          simp only [List.length_cons] at fewer
          refine (@ih fuel _ _ _ (by omega) read).mono ?_
          intro front' back
          exact ⟨_, front, alone, back⟩
      · -- what comes next takes the parenthesis
        obtain ⟨c, suffix⟩ := readBrackets_suffix read
        rcases List.suffix_cons_iff.mp suffix with whole | within
        · cases whole
          exact .past List.suffix_rfl
        · exact .past ((List.suffix_cons c rest).trans within)

theorem readClass_cut {flags : Flags} {cs rest : List Char} {s : Part Unicode.RangeSet}
    (read : readClass flags (cs ++ ')' :: more) = some (s, rest)) :
    Cut more (fun front => readClass flags cs = some (s, front)) rest := by
  unfold readClass at read ⊢
  split at read
  rename_i b after opened
  obtain ⟨c, suffix⟩ := readBrackets_suffix read
  have within := (List.suffix_cons c rest).trans suffix
  refine (Bracket.start_cut plain opened).next within ?_
  intro front opens behind
  subst behind
  have fewer := ((Bracket.start_suffix opens).trans (flags.skip_suffix cs)).length_le
  refine (readBrackets_cut plain (Nat.lt_succ_of_le fewer) read).mono ?_
  intro front' back
  rw [opens]
  exact back

end Tail

end CardQuery.Pattern
