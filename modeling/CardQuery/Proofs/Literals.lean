import CardQuery.Proofs.Anchors
import Mathlib.Algebra.GroupWithZero.Nat

namespace CardQuery.Pattern

def marks : List Char := ['(', ')', '|', '[', '?', '*', '+', '\x7b', '\\', '.', '^', '$']

-- The character means itself, and it is equal to no other one up to case.
structure Verbatim (c : Char) : Prop where
  unmarked : c ∉ marks
  caseless : Unicode.caseOrbit c = [c]

theorem verbatim_iff {c : Char} : Verbatim c ↔ c ∉ marks ∧ Unicode.caseOrbit c = [c] :=
  ⟨fun verbatim => ⟨verbatim.unmarked, verbatim.caseless⟩, fun both => ⟨both.1, both.2⟩⟩

instance (c : Char) : Decidable (Verbatim c) := decidable_of_iff' _ verbatim_iff

def Expr.then (e : Expr) : List Char → Expr
  | [] => e
  | c :: cs => Expr.then (.cat e (.set (.single c))) cs

def Branch.pushAll (b : Branch) : List Char → Branch
  | [] => b
  | c :: cs => (b.push ⟨.set (.single c), 0⟩).pushAll cs

theorem Branch.joined_pushAll (b : Branch) (cs : List Char) : (b.pushAll cs).joined = b.joined.then cs := by
  induction cs generalizing b with
  | nil => rfl
  | cons c cs ih => exact ih _

theorem Branch.deepest_pushAll (b : Branch) (cs : List Char) : (b.pushAll cs).deepest = b.deepest := by
  induction cs generalizing b with
  | nil => rfl
  | cons c cs ih => exact (ih _).trans (Nat.max_zero _)

theorem literalSet_of_caseless {c : Char} (caseless : Unicode.caseOrbit c = [c]) :
    clauseFlags.literalSet c = .single c := by
  unfold Flags.literalSet
  rw [if_pos ⟨rfl, rfl⟩, caseless]
  rfl

theorem Verbatim.step {c : Char} (verbatim : Verbatim c) {r : Reader} (flags : r.level.flags = clauseFlags)
    (rest : List Char) : r.step c rest = some (r.push ⟨.set (.single c), 0⟩, rest) := by
  obtain ⟨unmarked, caseless⟩ := verbatim
  have primitive : readPrimitive r.level.flags c rest = some (.literal c, rest) := by
    unfold readPrimitive
    split <;> simp_all [marks]
  have plain : c ∉ ['(', ')', '|', '[', '?', '*', '+', '\x7b'] :=
    fun marked => unmarked (List.mem_append_left ['\\', '.', '^', '$'] marked)
  have read := step_eq_some.mpr (.item plain primitive)
  rwa [flags, Primitive.expr, literalSet_of_caseless caseless] at read

theorem run_verbatim {cs : List Char} (verbatim : ∀ c ∈ cs, Verbatim c) {r : Reader} (flags : r.level.flags = clauseFlags)
    (fuel : Nat) (rest : List Char) : Reader.run (fuel + cs.length) r (cs ++ rest) =
      Reader.run fuel { r with level.branch := r.level.branch.pushAll cs } rest := by
  induction cs generalizing r with
  | nil => rfl
  | cons c cs ih =>
    have start : r.level.flags.skip ((c :: cs) ++ rest) = c :: (cs ++ rest) := by rw [flags]; rfl
    have here := (verbatim c List.mem_cons_self).step flags (cs ++ rest)
    rw [List.length_cons, ← Nat.add_assoc, Reader.run, start]
    simp only [here, Option.bind_some]
    exact ih (fun d member => verbatim d (List.mem_cons_of_mem c member)) flags

-- The reader behind the closing anchor, if the group between the anchors was one branch.
def ended (b : Branch) : Reader where
  level := (opening.push ⟨.group false b.joined, b.close.depth + 1⟩).push ⟨.look .textEnd, 0⟩

theorem run_ending (b : Branch) :
    Reader.run 5 { (Reader.start clauseFlags).within opening with level.branch := b } [')', '$'] = some (ended b) := rfl

theorem ended_depth (b : Branch) : (ended b).level.close.depth ≤ b.deepest + 3 := by
  have inner : b.close.depth ≤ b.deepest + 1 := by
    simp only [Branch.close]
    split <;> omega
  change max (max (max 0 0) (b.close.depth + 1)) 0 + 1 ≤ _
  omega

theorem reads_verbatim {raw : String} (verbatim : ∀ c ∈ raw.toList, Verbatim c) :
    Reads clauseFlags (anchored raw).toList (between false (Expr.empty.then raw.toList)) := by
  have text : (anchored raw).toList = '^' :: '(' :: '?' :: ':' :: (raw.toList ++ [')', '$']) := by
    simp [anchored, String.toList_append]
  have length : (anchored raw).toList.length + 1 = 5 + raw.toList.length + 2 := by
    rw [text]
    simp only [List.length_cons, List.length_append, List.length_nil]
    omega
  have flags : ((Reader.start clauseFlags).within opening).level.flags = clauseFlags := rfl
  have run : Reader.run ((anchored raw).toList.length + 1) (Reader.start clauseFlags) (anchored raw).toList =
      some (ended (({} : Branch).pushAll raw.toList)) := by
    rw [length, text, run_opening, run_verbatim verbatim flags]
    exact run_ending _
  have depth := ended_depth (({} : Branch).pushAll raw.toList)
  rw [Branch.deepest_pushAll] at depth
  refine ⟨_, run, rfl, Nat.le_trans depth (by decide), ?_⟩
  change between false _ = _
  rw [Branch.joined_pushAll]
  rfl

theorem cons_prefix_drop {subject : Array Char} {c : Char} {cs : List Char} {j : Nat} :
    c :: cs <+: subject.toList.drop j ↔ charAt subject j = some c ∧ cs <+: subject.toList.drop (j + 1) := by
  have here : charAt subject j = (subject.toList.drop j).head? := by
    rw [List.head?_drop, charAt, Array.getElem?_toList]
  rw [here, ← List.tail_drop]
  cases subject.toList.drop j with
  | nil => simp
  | cons d rest => simp [List.cons_prefix_cons, eq_comm]

theorem takes_then {subject : Array Char} {e : Expr} {cs : List Char} {i k : Nat} : Takes subject (e.then cs) i k ↔
    ∃ j, Takes subject e i j ∧ cs <+: subject.toList.drop j ∧ k = j + cs.length := by
  induction cs generalizing e with
  | nil => simp [Expr.then]
  | cons c cs ih =>
    simp only [Expr.then, ih, Takes, cons_prefix_drop, Unicode.RangeSet.contains_single, beq_iff_eq, List.length_cons]
    constructor
    · rintro ⟨_, ⟨j, taken, rfl, d, here, rfl⟩, ahead, rfl⟩
      exact ⟨j, taken, ⟨here, ahead⟩, by omega⟩
    · rintro ⟨j, taken, ⟨here, ahead⟩, rfl⟩
      exact ⟨j + 1, ⟨j, taken, rfl, c, here, rfl⟩, ahead, by omega⟩

theorem takesAll_then {cs : List Char} {text : String} : (Expr.empty.then cs).TakesAll text ↔ text.toList = cs := by
  simp only [Expr.TakesAll, takes_then, Takes, exists_eq_left, List.drop_zero, List.size_toArray, Nat.zero_add]
  constructor
  · rintro ⟨front, length⟩
    exact (front.eq_of_length length.symm).symm
  · rintro rfl
    exact ⟨List.prefix_rfl, rfl⟩

theorem ofSet_single (c : Char) : Form.ofSet (.single c) = .literal [c.toNat] := if_pos rfl

-- In normal form the characters are one literal.
theorem form_then {e : Expr} {codes : List Nat} (literal : e.form = .literal codes) (cs : List Char) :
    (e.then cs).form = .literal (codes ++ cs.map Char.toNat) := by
  induction cs generalizing e codes with
  | nil => simpa [Expr.then] using literal
  | cons c cs ih =>
    have next : (Expr.cat e (.set (.single c))).form = .literal (codes ++ [c.toNat]) := by
      show Form.choose [.concat [e.form, .choose [.ofSet (.single c)]]] = _
      rw [literal, ofSet_single]
      rfl
    rw [Expr.then, ih next, List.map_cons, List.append_assoc]
    rfl

theorem form_literal {cs : List Char} (nonempty : cs ≠ []) : (Expr.empty.then cs).form = .literal (cs.map Char.toNat) := by
  cases cs with
  | nil => exact absurd rfl nonempty
  | cons c cs =>
    have first : (Expr.cat .empty (.set (.single c))).form = .literal [c.toNat] := by
      show Form.choose [.concat [.choose [.empty], .choose [.ofSet (.single c)]]] = _
      rw [ofSet_single]
      rfl
    exact form_then first cs

theorem form_between {e : Expr} {codes : List Nat} (literal : e.form = .literal codes) :
    (between false e).form = .sequence [.look .textStart, .literal codes, .look .textEnd] := by
  show Form.choose [.concat [.choose [.concat [.choose [.concat [.choose [.empty], .choose [.look .textStart]]],
    .choose [e.form]]], .choose [.look .textEnd]]] = _
  rw [literal]
  rfl

def room (codes : List Nat) : Nat := (codes.map encodedLength).sum

theorem room_ascii {cs : List Char} (ascii : ∀ c ∈ cs, c.toNat < 0x80) : room (cs.map Char.toNat) = cs.length := by
  induction cs with
  | nil => rfl
  | cons c cs ih =>
    have one : encodedLength c.toNat = 1 := if_pos (ascii c List.mem_cons_self)
    have rest := ih fun d member => ascii d (List.mem_cons_of_mem c member)
    rw [room, List.map_cons, List.map_cons, List.sum_cons, one, ← room, rest, List.length_cons, Nat.add_comm]

theorem tooLarge_states {states : Nat} :
    ({ states := states } : Footprint).tooLarge = true ↔ Footprint.limit < 32 * states := by
  simp [Footprint.tooLarge, Footprint.size]

-- Nothing is counted behind a literal that is too long by itself.
theorem measureAll_literal (d : Direction) (before after : Look) (codes : List Nat) {states : Nat} (small : states ≤ 2) :
    ∃ total, Form.measureAll d [.look before, .literal codes, .look after] { states := states } = { states := total } ∧
      (total = states + 1 + room codes + 1 ∨ total = states + 1 + room codes ∧ Footprint.limit < 32 * total) := by
  have roomy {few : Nat} (le : few ≤ 3) : ¬ ({ states := few } : Footprint).tooLarge = true := by
    rw [tooLarge_states, Footprint.limit]
    omega
  have measured : Form.measureAll d [.look before, .literal codes, .look after] { states := states } =
      Form.measureAll d [.look after] { states := states + 1 + room codes } := by
    rw [Form.measureAll, if_neg (roomy (by omega))]
    show Form.measureAll d [.literal codes, .look after] { states := states + 1 } = _
    rw [Form.measureAll, if_neg (roomy (by omega))]
    rfl
  rw [measured, Form.measureAll]
  split
  · rename_i full
    exact ⟨_, rfl, .inr ⟨rfl, tooLarge_states.mp full⟩⟩
  · exact ⟨_, rfl, .inl rfl⟩

theorem measure_capture (body : Form) (t : Footprint) :
    (Form.capture body).measure .forwards t = (body.measure .forwards (t.make 1 0)).link.make 1 0 := rfl

theorem measure_sequence (d : Direction) (parts : List Form) (t : Footprint) :
    (Form.sequence parts).measure d t = Form.measureAll d parts t := rfl

theorem footprint_forwards (codes : List Nat) :
    ((Form.sequence [.look .textStart, .literal codes, .look .textEnd]).footprint .forwards).tooLarge = true ↔
      Footprint.limit < 32 * (room codes + 6) := by
  obtain ⟨total, counted, reached⟩ := measureAll_literal .forwards .textStart .textEnd codes (Nat.le_refl 2)
  have whole : (Form.sequence [.look .textStart, .literal codes, .look .textEnd]).footprint .forwards =
      { states := total + 2 } := by
    simp [Form.footprint, Form.opensWith, Form.sequenceOpens, measure_capture, measure_sequence, Footprint.make,
      Footprint.link, counted]
  rw [whole, tooLarge_states]
  omega

theorem footprint_backwards (codes : List Nat) :
    ((Form.sequence [.look .textStart, .literal codes, .look .textEnd]).footprint .backwards).tooLarge = true ↔
      Footprint.limit < 32 * (room codes + 4) := by
  obtain ⟨total, counted, reached⟩ := measureAll_literal .backwards .textEnd .textStart codes (Nat.le_succ 1)
  have whole : (Form.sequence [.look .textStart, .literal codes, .look .textEnd]).footprint .backwards =
      { states := total + 1 } := by
    simp [Form.footprint, Form.reversed, Form.allReversed, Form.opensWith, Form.sequenceOpens, measure_sequence,
      Footprint.make, Footprint.link, counted]
  rw [whole, tooLarge_states]
  omega

-- The way forwards takes the most room.
theorem fits_between {e : Expr} {codes : List Nat} (literal : e.form = .literal codes) :
    (between false e).fits = true ↔ 32 * (room codes + 6) ≤ Footprint.limit := by
  rw [Expr.fits, form_between literal, Bool.and_eq_true, Bool.not_eq_true', Bool.not_eq_true', ← Bool.not_eq_true,
    ← Bool.not_eq_true, footprint_forwards, footprint_backwards]
  omega

theorem ofClause?_verbatim {raw : String} (nonempty : raw ≠ "") (verbatim : ∀ c ∈ raw.toList, Verbatim c) :
    ((∃ pattern, ofClause? raw = some pattern) ↔ 32 * (room (raw.toList.map Char.toNat) + 6) ≤ Footprint.limit) ∧
      ∀ pattern, ofClause? raw = some pattern → ∀ value, pattern.isMatch value = true ↔ value = raw := by
  have reads := reads_verbatim verbatim
  have form := form_literal (mt String.toList_eq_nil_iff.mp nonempty)
  have read {e : Expr} : readExpr clauseFlags (anchored raw).toList = some e ↔
      e = between false (Expr.empty.then raw.toList) ∧ 32 * (room (raw.toList.map Char.toNat) + 6) ≤ Footprint.limit := by
    rw [readExpr_eq_some]
    constructor
    · rintro ⟨reads', fits⟩
      cases reads.unique reads'
      exact ⟨rfl, (fits_between form).mp fits⟩
    · rintro ⟨rfl, short⟩
      exact ⟨reads, (fits_between form).mpr short⟩
  have clause {pattern : Pattern} : ofClause? raw = some pattern ↔
      pattern = ⟨anchored raw, between false (Expr.empty.then raw.toList)⟩ ∧
        32 * (room (raw.toList.map Char.toNat) + 6) ≤ Footprint.limit := by
    simp only [ofClause?, ofText?, Option.map_eq_some_iff]
    constructor
    · rintro ⟨e, found, rfl⟩
      obtain ⟨rfl, short⟩ := read.mp found
      exact ⟨rfl, short⟩
    · rintro ⟨rfl, short⟩
      exact ⟨_, read.mpr ⟨rfl, short⟩, rfl⟩
  refine ⟨⟨?_, ?_⟩, ?_⟩
  · rintro ⟨pattern, found⟩
    exact (clause.mp found).2
  · intro short
    exact ⟨_, clause.mpr ⟨rfl, short⟩⟩
  · intro pattern found value
    obtain ⟨rfl, _⟩ := clause.mp found
    rw [isMatch, isMatch_between, takesAll_then, String.toList_inj]

theorem ofClause?_repeating {raw : String} {rest : List Char} (sign : raw.toList = '+' :: rest) : ofClause? raw = none := by
  have text : (anchored raw).toList = '^' :: '(' :: '?' :: ':' :: '+' :: (rest ++ [')', '$']) := by
    simp [anchored, String.toList_append, sign]
  have unread : readExpr clauseFlags (anchored raw).toList = none := by
    rw [text]
    rfl
  rw [ofClause?, ofText?]
  exact congrArg _ unread

end CardQuery.Pattern
