import CardQuery.Proofs.Clauses
import CardQuery.Proofs.Narrowing

namespace CardQuery

namespace Text

theorem exists_digit {c : Char} (digit : isDigit c = true) : ∃ d < 10, c = Char.ofNat (d + 48) := by
  simp only [isDigit, Bool.and_eq_true, decide_eq_true_eq] at digit
  have low : 48 ≤ c.toNat := digit.1
  have high : c.toNat ≤ 57 := digit.2
  refine ⟨c.toNat - 48, by omega, ?_⟩
  rw [Nat.sub_add_cancel low, Char.ofNat_toNat]

theorem numeral_of_read {raw : String} {n : Int64} (read : readInt64 raw = some n) :
    ∃ sign digits, raw.toList = sign ++ digits ∧ (sign = [] ∨ sign = ['+'] ∨ sign = ['-']) ∧ digits ≠ [] ∧
      ∀ c ∈ digits, isDigit c = true := by
  have natural {cs : List Char} {m : Nat} (given : readNatural cs = some m) : cs ≠ [] ∧ ∀ c ∈ cs, isDigit c = true := by
    simp only [readNatural] at given
    split at given
    · simp_all
    · cases given
  obtain ⟨m, given, _⟩ := Option.bind_eq_some_iff.mp read
  unfold readInteger at given
  split at given
  · rename_i digits chars
    obtain ⟨k, given, _⟩ := Option.map_eq_some_iff.mp given
    exact ⟨['+'], digits, chars, .inr (.inl rfl), natural given⟩
  · rename_i digits chars
    obtain ⟨k, given, _⟩ := Option.map_eq_some_iff.mp given
    exact ⟨['-'], digits, chars, .inr (.inr rfl), natural given⟩
  · obtain ⟨k, given, _⟩ := Option.map_eq_some_iff.mp given
    exact ⟨[], raw.toList, rfl, .inl rfl, natural given⟩

theorem length_digits_le {k n : Nat} (bound : n < 10 ^ (k + 1)) : (digits n).length ≤ k + 1 := by
  induction k generalizing n with
  | zero =>
    rw [digits, if_pos (by simpa using bound)]
    exact Nat.le_refl 1
  | succ k ih =>
    rw [digits]
    split
    · exact Nat.succ_le_succ (Nat.zero_le _)
    · have shorter : n / 10 < 10 ^ (k + 1) := Nat.div_lt_of_lt_mul (by rwa [Nat.mul_comm, ← Nat.pow_succ])
      rw [List.length_append, List.length_singleton]
      exact Nat.succ_le_succ (ih shorter)

end Text

namespace Pattern

theorem verbatim_digit {c : Char} (digit : Text.isDigit c = true) : Verbatim c ∧ c.toNat < 0x80 := by
  have facts : ∀ d < 10, Verbatim (Char.ofNat (d + 48)) ∧ (Char.ofNat (d + 48)).toNat < 0x80 := by decide
  obtain ⟨d, bound, rfl⟩ := Text.exists_digit digit
  exact facts d bound

theorem verbatim_hyphen : Verbatim '-' := by decide

end Pattern

open Pattern Token

theorem Operator.compare_trichotomy (left right : Int64) :
    ∃! op, op ∈ [Operator.lt, .eq, .gt] ∧ op.compare left right = true := by
  have single {op : Operator} (listed : op ∈ [Operator.lt, .eq, .gt]) (related : op.Relates left.toInt right.toInt) :
      ∃! op, op ∈ [Operator.lt, .eq, .gt] ∧ op.compare left right = true := by
    refine ⟨op, ⟨listed, compare_iff.mpr related⟩, ?_⟩
    rintro other ⟨listed', related'⟩
    rw [compare_iff] at related'
    simp only [List.mem_cons, List.not_mem_nil, or_false] at listed listed'
    rcases listed with rfl | rfl | rfl <;> rcases listed' with rfl | rfl | rfl <;>
      first | rfl | (simp only [Relates] at related related'; omega)
  rcases Int.lt_trichotomy left.toInt right.toInt with less | same | more
  · exact single (by simp) (show Relates _ _ .lt from less)
  · exact single (by simp) (show Relates _ _ .eq from same)
  · exact single (by simp) (show Relates _ _ .gt from more)

-- What the text of a number needs to be a pattern, too. So 327674 characters are the most.
structure Pattern.Readable (raw : String) : Prop where
  unsigned : raw.toList.head? ≠ some '+'
  short : 32 * (raw.length + 6) ≤ Footprint.limit

theorem Pattern.readable_render (n : Int64) : Readable (Text.renderInt64 n) := by
  have low := n.le_toInt
  have high := n.toInt_lt
  have chars : (Text.renderInt64 n).toList = Text.integerChars n.toInt := String.toList_ofList
  have head : (Text.integerChars n.toInt).head? ≠ some '+' := by
    cases n.toInt with
    | ofNat k =>
      intro plus
      have digit := Text.digits_isDigit k '+' (List.mem_of_mem_head? plus)
      cases digit
    | negSucc k => simp [Text.integerChars]
  have length : (Text.integerChars n.toInt).length ≤ 20 := by
    cases whole : n.toInt with
    | ofNat k =>
      rw [whole, Int.ofNat_eq_natCast] at high
      exact Text.length_digits_le (k := 19) (by omega)
    | negSucc k =>
      rw [whole] at low
      exact Nat.succ_le_succ (Text.length_digits_le (k := 18) (by omega))
  refine ⟨chars ▸ head, ?_⟩
  rw [← String.length_toList, chars, Footprint.limit]
  omega

section Numeral
variable {raw : String} {n : Int64} (read : Text.readInt64 raw = some n)
include read

theorem Text.operand_of_read : IsOperand raw := by
  obtain ⟨sign, digits, chars, signed, nonempty, all⟩ := numeral_of_read read
  have clear {c : Char} (digit : isDigit c = true) : Operator.isOperatorChar c = false := by
    have facts : ∀ d < 10, Operator.isOperatorChar (Char.ofNat (d + 48)) = false := by decide
    obtain ⟨d, bound, rfl⟩ := exists_digit digit
    exact facts d bound
  rcases signed with rfl | rfl | rfl
  · obtain ⟨c, rest, rfl⟩ := List.exists_cons_of_ne_nil nonempty
    exact ⟨c, rest, chars, clear (all c List.mem_cons_self)⟩
  · exact ⟨_, digits, chars, rfl⟩
  · exact ⟨_, digits, chars, rfl⟩

-- All characters stand for themselves, unless the first is `+`.
theorem Text.verbatim_or_repeating :
    (raw ≠ "" ∧ raw.toList.head? ≠ some '+' ∧ ∀ c ∈ raw.toList, Verbatim c ∧ c.toNat < 0x80) ∨
      ∃ rest, raw.toList = '+' :: rest := by
  obtain ⟨sign, digits, chars, signed, nonempty, all⟩ := numeral_of_read read
  obtain ⟨d, rest, rfl⟩ := List.exists_cons_of_ne_nil nonempty
  have filled : raw ≠ "" := by
    rintro rfl
    simp at chars
  have verbatim := fun c member => verbatim_digit (all c member)
  rcases signed with rfl | rfl | rfl
  · have other : d ≠ '+' := by
      rintro rfl
      cases all '+' List.mem_cons_self
    rw [List.nil_append] at chars
    rw [chars]
    exact .inl ⟨filled, fun same => other (Option.some.inj same), verbatim⟩
  · exact .inr ⟨_, chars⟩
  · rw [chars]
    exact .inl ⟨filled, by simp, List.forall_mem_cons.mpr ⟨⟨verbatim_hyphen, by decide⟩, verbatim⟩⟩

theorem Pattern.ClauseLaws.numeral {P : Type} {reads : String → Option P} {matched : P → String → Bool}
    (laws : ClauseLaws reads matched) : ((∃ pattern, reads raw = some pattern) ↔ Readable raw) ∧
      ∀ pattern, reads raw = some pattern → ∀ value, matched pattern value = true ↔ value = raw := by
  rcases Text.verbatim_or_repeating read with ⟨nonempty, unsigned, verbatim⟩ | ⟨rest, repeating⟩
  · obtain ⟨compiles, exact⟩ := laws.verbatim nonempty fun c member => (verbatim c member).1
    rw [room_ascii fun c member => (verbatim c member).2] at compiles
    refine ⟨compiles.trans ⟨fun short => ⟨unsigned, short⟩, fun readable => readable.short⟩, exact⟩
  · have unread := laws.repeating repeating
    refine ⟨iff_of_false ?_ ?_, ?_⟩
    · rintro ⟨pattern, found⟩
      rw [unread] at found
      cases found
    · intro readable
      exact readable.unsigned (by rw [repeating]; rfl)
    · intro pattern found
      rw [unread] at found
      cases found

variable {name : String}

-- Only what a pattern needs can be missing.
theorem PropertyFilter.compile_integer (text : String) (numeric : name ≠ "race" ∧ name ≠ "name") (op : Operator) :
    (∃ f, PropertyFilter.compile text name (some ⟨op, raw⟩) = .ok f) ↔ (op = .eq → Readable raw) := by
  rw [compile_isOk_iff, ← (clauseLaws.numeral read).1]
  constructor
  · rintro sensible rfl
    cases unread : ofClause? raw with
    | some pattern => exact ⟨pattern, rfl⟩
    | none => exact absurd (.pattern unread) (sensible _ rfl _)
  · rintro readable _ ⟨⟩ e senseless
    cases senseless with
    | pattern unread =>
      obtain ⟨pattern, found⟩ := readable rfl
      rw [unread] at found
      cases found
    | textual _ textual => exact not_or.mpr numeric textual
    | notNumeric _ _ unread =>
      rw [read] at unread
      cases unread

-- The pattern finds a number only where the number is written so, and then it is that number.
theorem Meaning.clauseHolds_integer {c : Card} {v : Int64} (found : c.get? (.ofName name) = some (.int v)) (op : Operator) :
    ClauseHolds c name (some ⟨op, raw⟩) ↔ op.Relates v.toInt n.toInt := by
  cases op with
  | lt | gt | le | ge =>
    rw [clauseHolds_ordering rfl]
    simp [found, read]
  | ne => simp [ClauseHolds, found, Value.WrittenAs, read, Operator.Relates, ← Int64.toInt_inj, eq_comm]
  | eq =>
    constructor
    · rintro ⟨other, got, written⟩
      cases found.symm.trans got
      have same : Text.readInt64 raw = some v := by
        rcases written with written | ⟨pattern, clause, matched⟩
        · exact written
        · have text : Text.renderInt64 v = raw := ((clauseLaws.numeral read).2 pattern clause _).mp matched
          rw [← text, Text.readInt64_render]
      cases read.symm.trans same
      exact rfl
    · intro equal
      cases Int64.toInt_inj.mp equal
      exact ⟨_, found, .inl read⟩

theorem PropertyFilter.accepts_integer {text : String} {op : Operator} {f : PropertyFilter}
    (compiled : PropertyFilter.compile text name (some ⟨op, raw⟩) = .ok f) {c : Card} {v : Int64}
    (found : c.get? (.ofName name) = some (.int v)) (selector : String) :
    f.accepts c selector = .ok (op.compare v n) := by
  have held := accepts_eq_true compiled c selector
  rw [Meaning.clauseHolds_integer read found, ← Operator.compare_iff] at held
  cases told : f.accepts c selector with
  | error e =>
    obtain ⟨_, _, other, _, _, got, unordered, _⟩ := (accepts_eq_error compiled c selector e).mp told
    cases found.symm.trans got
    exact absurd rfl (unordered v)
  | ok keep =>
    rw [told, Except.ok.injEq] at held
    rw [Bool.eq_iff_iff.mpr held]

end Numeral

-- Which texts compile, said of their words: every clause by itself, the other words together.
theorem compile_isOk_iff_words {config : Config} {text : String} : (∃ s, compile config text = .ok s) ↔
    (∀ word ∈ Text.words text, Legible word) ∧
    (∀ a b : OwnerWord, a.text ∈ Text.words text → b.text ∈ Text.words text → a = b) ∧
    (∀ word ∈ Text.words text, ∀ name comparison, Spelled word (.property name comparison) →
      ∃ f, PropertyFilter.compile "" name comparison = .ok f) ∧
    (config.noType = .reject → ∃ type : TypeWord, type.text ∈ Text.words text) := by
  rw [compile_isOk_iff, ← tokenize_isOk_iff]
  constructor
  · rintro ⟨tokens, read, legal, typed⟩
    refine ⟨⟨tokens, read⟩, ?_, ?_, ?_⟩
    · intro a b left right
      exact legal.oneOwner a b ((owner_mem_iff read a).mpr left) ((owner_mem_iff read b).mpr right)
    · intro word present name comparison spelled
      have inside := (mem_tokens_iff read).mpr ⟨word, present, spelled⟩
      obtain ⟨f, compiled⟩ := legal.clauses name comparison inside
      exact ⟨f, PropertyFilter.compile_text compiled ""⟩
    · intro strict
      obtain ⟨type, inside⟩ := typed strict
      exact ⟨type, (type_mem_iff read type).mp inside⟩
  · rintro ⟨⟨tokens, read⟩, oneOwner, clauses, typed⟩
    refine ⟨tokens, read, ⟨?_, ?_⟩, ?_⟩
    · intro a b left right
      exact oneOwner a b ((owner_mem_iff read a).mp left) ((owner_mem_iff read b).mp right)
    · intro name comparison inside
      obtain ⟨word, present, spelled⟩ := (mem_tokens_iff read).mp inside
      obtain ⟨f, compiled⟩ := clauses word present name comparison spelled
      exact ⟨f, PropertyFilter.compile_text compiled text⟩
    · intro strict
      obtain ⟨type, present⟩ := typed strict
      exact ⟨type, (type_mem_iff read type).mpr present⟩

section Insert
open Meaning
variable {config : Config} {text text' : String} {before after : List String} (words : Text.words text = before ++ after)
  {word name : String} {comparison : Option Comparison} (spelled : Spelled word (.property name comparison))
  (words' : Text.words text' = before ++ word :: after)
include words spelled words'

theorem compile_insert_property : (∃ s', compile config text' = .ok s') ↔
    (∃ s, compile config text = .ok s) ∧ ∃ f, PropertyFilter.compile "" name comparison = .ok f := by
  have member : ∀ other, other ∈ Text.words text' ↔ other = word ∨ other ∈ Text.words text := by
    intro other
    simp only [words, words', List.mem_append, List.mem_cons, or_left_comm]
  have owner := fun owner => mem_insert_iff words spelled words' (.owner owner) nofun
  have type := fun type => mem_insert_iff words spelled words' (.type type) nofun
  have clause : (∀ other c, Spelled word (.property other c) → ∃ f, PropertyFilter.compile "" other c = .ok f) ↔
      ∃ f, PropertyFilter.compile "" name comparison = .ok f := by
    constructor
    · intro clauses
      exact clauses name comparison spelled
    · rintro compiles other c spelled'
      cases spelled.unique spelled'
      exact compiles
  simp only [compile_isOk_iff_words, owner, type, member, forall_eq_or_imp, clause, spelled.legible, true_and]
  constructor
  · rintro ⟨legible, oneOwner, ⟨compiles, clauses⟩, typed⟩
    exact ⟨⟨legible, oneOwner, clauses, typed⟩, compiles⟩
  · rintro ⟨⟨legible, oneOwner, clauses, typed⟩, compiles⟩
    exact ⟨legible, oneOwner, ⟨compiles, clauses⟩, typed⟩

theorem Selector.accepts_insert_property {s s' : Selector} (compiled : compile config text = .ok s)
    (compiled' : compile config text' = .ok s') (c : Card) (player : PlayerId) :
    s'.accepts c (.of player) = .ok true ↔ s.accepts c (.of player) = .ok true ∧ ClauseHolds c name comparison := by
  rw [(Selector.decides compiled _).1, (Selector.decides compiled' _).1]
  exact kept_insert_property words spelled words' c

end Insert

-- The other operators read the literal as a number only; `=` needs a pattern too, and `+3` is none.
theorem integer_compared {name raw : String} {n : Int64} (named : IsName name) (numeric : name ≠ "race" ∧ name ≠ "name")
    (read : Text.readInt64 raw = some n) :
    (∀ (op : Operator) config text text' before after, Text.words text = before ++ after →
      Text.words text' = before ++ ("." ++ name ++ op.symbol ++ raw) :: after →
      ((∃ s', compile config text' = .ok s') ↔ (∃ s, compile config text = .ok s) ∧ (op = .eq → Readable raw)) ∧
      ∀ s s', compile config text = .ok s → compile config text' = .ok s' →
        ∀ (c : Card) player v, c.get? (.ofName name) = some (.int v) →
          (s'.accepts c (.of player) = .ok true ↔ s.accepts c (.of player) = .ok true ∧ op.Relates v.toInt n.toInt)) ∧
    (Readable raw → ∀ text, ∃ filters : Operator → PropertyFilter,
      (∀ op, PropertyFilter.compile text name (some ⟨op, raw⟩) = .ok (filters op)) ∧
      ∀ (c : Card) v selector, c.get? (.ofName name) = some (.int v) →
        (∀ op, (filters op).accepts c selector = .ok (op.compare v n)) ∧
        (∃! op, op ∈ [Operator.lt, .eq, .gt] ∧ (filters op).accepts c selector = .ok true) ∧
        ((filters .ne).accepts c selector = .ok true ↔ (filters .eq).accepts c selector = .ok false)) ∧
    Readable (Text.renderInt64 n) := by
  refine ⟨?_, ?_, readable_render n⟩
  · intro op config text text' before after words words'
    have spelled : Spelled ("." ++ name ++ op.symbol ++ raw) (.property name (some ⟨op, raw⟩)) :=
      .compared named (Text.operand_of_read read)
    refine ⟨?_, ?_⟩
    · rw [compile_insert_property words spelled words', PropertyFilter.compile_integer read "" numeric]
    · intro s s' compiled compiled' c player v found
      rw [Selector.accepts_insert_property words spelled words' compiled compiled',
        Meaning.clauseHolds_integer read found]
  · intro readable text
    have compiles := fun op => (PropertyFilter.compile_integer read text numeric op).mpr fun _ => readable
    choose filters compiled using compiles
    refine ⟨filters, compiled, ?_⟩
    intro c v selector found
    have answers := fun op => PropertyFilter.accepts_integer read (compiled op) found selector
    refine ⟨answers, ?_, ?_⟩
    · simpa only [answers, Except.ok.injEq] using Operator.compare_trichotomy v n
    · simp only [answers, Except.ok.injEq]
      simp [Operator.compare]

-- A sign and a zero in front change nothing.
theorem padded_compared :
    IsName "cost" ∧ Text.readInt64 "-05" = some (-5) ∧ Readable "-05" ∧
    (∃ s', compile {} "minion .cost=-05" = .ok s') ∧
    ∃ filters : Operator → PropertyFilter, ∀ (c : Card) v selector, c.get? .cost = some (.int v) → ∀ op,
      (filters op).accepts c selector = .ok (op.compare v (-5)) := by
  have named : IsName "cost" := ⟨by decide, List.all_eq_true.mp rfl⟩
  have read : Text.readInt64 "-05" = some (-5) := by decide
  have readable : Readable "-05" := ⟨by decide, by decide⟩
  obtain ⟨inserted, compared, _⟩ := integer_compared named (by decide) read
  obtain ⟨compiles, _⟩ := inserted .eq {} "minion" "minion .cost=-05" ["minion"] [] rfl rfl
  obtain ⟨filters, _, exact⟩ := compared readable ""
  refine ⟨named, read, readable, compiles.mpr ⟨⟨_, rfl⟩, fun _ => readable⟩, filters, ?_⟩
  intro c v selector found
  exact (exact c v selector found).1

-- With `+` in front the number is read, and all clauses compile but the one with `=`.
theorem signed_refused :
    Text.readInt64 "+3" = some 3 ∧
    compile {} "minion .cost=+3" = .error (.malformed "minion .cost=+3" "+3" .badPattern) ∧
    (∀ op : Operator, op ≠ .eq → ∃ s, compile {} ("minion .cost" ++ op.symbol ++ "+3") = .ok s) ∧
    ¬ ∀ raw n, Text.readInt64 raw = some n → ∃ s, compile {} ("minion .cost=" ++ raw) = .ok s := by
  have read : Text.readInt64 "+3" = some 3 := by decide
  have refused : compile {} "minion .cost=+3" = .error (.malformed "minion .cost=+3" "+3" .badPattern) := rfl
  refine ⟨read, refused, ?_, ?_⟩
  · intro op other
    cases op with
    | eq => exact absurd rfl other
    | lt | gt | le | ge | ne => exact ⟨_, rfl⟩
  · intro compiles
    obtain ⟨s, compiled⟩ := compiles "+3" 3 read
    cases refused.symm.trans compiled

end CardQuery
