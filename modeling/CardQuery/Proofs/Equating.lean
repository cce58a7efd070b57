import CardQuery.Proofs.Comparing
import CardQuery.Proofs.Tidiness

namespace CardQuery
open Meaning Token

theorem Token.operand_of_legible {name raw : String} (named : IsName name)
    (legible : Legible ("." ++ name ++ Operator.eq.symbol ++ raw)) : IsOperand raw := by
  obtain ⟨token, spelled⟩ := legible_iff.mp legible
  have read := ofWord_eq_ok.mpr spelled
  have chars : (Operator.eq.symbol ++ raw).toList = '=' :: raw.toList := by simp [Operator.symbol]
  have ends : ∀ c ∈ (Operator.eq.symbol ++ raw).toList.head?, isNameChar c = false := by
    intro c here
    rw [chars] at here
    cases here
    rfl
  rw [String.append_assoc, ofWord_dot_append named ends, chars] at read
  cases value : raw.toList with
  | nil =>
    rw [value] at read
    cases read
  | cons c rest =>
    refine ⟨c, rest, value, ?_⟩
    rw [value] at read
    cases clear : Operator.isOperatorChar c with
    | false => rfl
    | true => simp [comparison, Operator.split?, clear, Except.map] at read

section Clauses
variable {c : Card} {name raw : String} {pattern : Pattern} (read : Pattern.ofClause? raw = some pattern)

-- The pattern takes the value of the property, but the literal is not a way to write it.
def Meaning.Loose (c : Card) (name raw : String) (pattern : Pattern) : Prop :=
  ∃ v, c.get? (.ofName name) = some v ∧ ¬ v.WrittenAs raw ∧ pattern.isMatch v.render = true

theorem Meaning.equal_or_unequal : ClauseHolds c name (some ⟨.eq, raw⟩) ∨ ClauseHolds c name (some ⟨.ne, raw⟩) := by
  by_cases written : ∃ v, c.get? (.ofName name) = some v ∧ v.WrittenAs raw
  · obtain ⟨v, found, written⟩ := written
    exact .inl ⟨v, found, .inl written⟩
  · exact .inr fun v found here => written ⟨v, found, here⟩

include read in
theorem Meaning.equal_and_unequal : ClauseHolds c name (some ⟨.eq, raw⟩) ∧ ClauseHolds c name (some ⟨.ne, raw⟩) ↔
    Loose c name raw pattern := by
  constructor
  · intro both
    obtain ⟨⟨v, found, written | ⟨other, same, matched⟩⟩, unequal⟩ := both
    · exact absurd written (unequal v found)
    · cases read.symm.trans same
      exact ⟨v, found, unequal v found, matched⟩
  · intro loose
    obtain ⟨v, found, unwritten, matched⟩ := loose
    refine ⟨⟨v, found, .inr ⟨pattern, read, matched⟩⟩, ?_⟩
    intro other there
    cases found.symm.trans there
    exact unwritten

theorem Meaning.not_equal_of_missing (missing : c.get? (.ofName name) = none) :
    ¬ ClauseHolds c name (some ⟨.eq, raw⟩) := by
  intro equal
  obtain ⟨v, found, _⟩ := equal
  rw [missing] at found
  cases found

end Clauses

-- A word that can be decided only keeps cards from the words behind it.
theorem Meaning.stuck_of_insert {c : Card} {before after : List String} {word : String} (decidable : ¬ Undecidable c word)
    (stuck : Stuck c (before ++ word :: after)) : Stuck c (before ++ after) := by
  induction before with
  | nil => exact ((stuck_cons.mp stuck).resolve_left decidable).2
  | cons first before ih =>
    rw [List.cons_append, stuck_cons] at stuck ⊢
    exact stuck.imp_right fun later => ⟨later.1, ih later.2⟩

section Insert
variable {config : Config} {board : Board} {player : PlayerId} {text text' word name : String} {before after : List String}
  {comparison : Option Comparison} (words : Text.words text = before ++ after)
  (spelled : Spelled word (.property name comparison)) (words' : Text.words text' = before ++ word :: after)
include words spelled words'

theorem Meaning.Answers.insert_property (answers : Answers config board player text)
    (unordered : ∀ op raw, comparison = some ⟨op, raw⟩ → op.isOrdering = false)
    (compiles : ∃ s, compile config text' = .ok s) : Answers config board player text' := by
  refine ⟨Text.nonblank_of_words (by simp [words']), answers.seated, compiles, ?_⟩
  intro c examined stuck
  have admitted := (admits_insert_property words spelled words' config.noType (.of player) c).mp examined.2
  have decidable : ¬ Undecidable c word := by
    intro undecidable
    obtain ⟨_, op, raw, v, spelled', ordering, _⟩ := undecidable
    cases spelled.unique spelled'
    rw [unordered op raw rfl] at ordering
    cases ordering
  apply answers.free c ⟨examined.1, admitted⟩
  rw [words'] at stuck
  exact words ▸ stuck_of_insert decidable stuck

open Classical in
theorem Engine.resultAfter_insert_property {earlier : List Call} {found : ResultSet}
    (given : resultAfter config earlier board player text = .ok found)
    (unordered : ∀ op raw, comparison = some ⟨op, raw⟩ → op.isOrdering = false)
    (compiles : ∃ s, compile config text' = .ok s) (later : List Call) :
    resultAfter config later board player text' = .ok ⟨((board.allCards.filter fun c =>
      Kept config player text c).filter fun c => ClauseHolds c name comparison).map (·.id)⟩ := by
  have kept := @kept_insert_property config player _ _ _ _ words _ _ _ spelled words'
  rw [resultAfter_eq_ok]
  refine ⟨(resultAfter_eq_ok.mp given).1.insert_property words spelled words' unordered compiles, ?_⟩
  simp only [kept, List.filter_filter, Bool.decide_and, and_comm]

theorem Engine.mem_insert_property {earlier later : List Call} {found narrowed : ResultSet} (tidy : board.Tidy)
    (given : resultAfter config earlier board player text = .ok found)
    (clause : resultAfter config later board player text' = .ok narrowed) {c : Card} (shown : c ∈ board.allCards)
    (listed : c.id ∈ found.ids) : c.id ∈ narrowed.ids ↔ ClauseHolds c name comparison := by
  have kept := (mem_found tidy given shown).mp listed
  exact (mem_found tidy clause shown).trans ((kept_insert_property words spelled words' c).trans (and_iff_right kept))

end Insert

theorem Operator.plain_only {op : Operator} (plain : op.isOrdering = false) (raw : String) :
    ∀ op' raw', some (⟨op, raw⟩ : Comparison) = some ⟨op', raw'⟩ → op'.isOrdering = false := by
  intro op' raw' same
  cases same
  exact plain

theorem Meaning.clause_read {config : Config} {text name raw : String} (named : IsName name)
    (member : "." ++ name ++ "=" ++ raw ∈ Text.words text) (compiles : ∃ s, compile config text = .ok s) :
    IsOperand raw ∧ ∃ pattern, Pattern.ofClause? raw = some pattern := by
  have admissible := compile_isOk_iff_admissible.mp compiles
  have operand := operand_of_legible named (admissible.legible _ member)
  exact ⟨operand, admissible.patterns _ member name raw (@Spelled.compared name raw .eq named operand)⟩

theorem Meaning.compile_unequal {config : Config} {text equal unequal word word' name raw : String}
    {before after : List String} (words : Text.words text = before ++ after)
    (equalSpelled : Spelled word (.property name (some ⟨.eq, raw⟩)))
    (equalWords : Text.words equal = before ++ word :: after)
    (unequalSpelled : Spelled word' (.property name (some ⟨.ne, raw⟩)))
    (unequalWords : Text.words unequal = before ++ word' :: after) (compiles : ∃ s, compile config equal = .ok s) :
    ∃ s, compile config unequal = .ok s := by
  rw [compile_insert_property words unequalSpelled unequalWords]
  exact ⟨((compile_insert_property words equalSpelled equalWords).mp compiles).1, _, rfl⟩

open Classical in
theorem mem_ids_of_or {cards : List Card} {p q : Card → Prop} (either : ∀ c, p c ∨ q c) (id : EntityId) :
    id ∈ cards.map (·.id) ↔
      id ∈ (cards.filter fun c => p c).map (·.id) ∨ id ∈ (cards.filter fun c => q c).map (·.id) := by
  simp only [List.mem_map, List.mem_filter, decide_eq_true_eq]
  constructor
  · intro listed
    obtain ⟨c, kept, rfl⟩ := listed
    exact (either c).imp (fun held => ⟨c, ⟨kept, held⟩, rfl⟩) fun held => ⟨c, ⟨kept, held⟩, rfl⟩
  · intro listed
    obtain ⟨c, ⟨kept, _⟩, rfl⟩ | ⟨c, ⟨kept, _⟩, rfl⟩ := listed
    · exact ⟨c, kept, rfl⟩
    · exact ⟨c, kept, rfl⟩

open Classical in
-- Both clauses keep a card where the pattern takes a value that the literal is not a way to write.
theorem evaluate_equated (config : Config) (board : Board) (player : PlayerId) {text equal unequal : String}
    {before after : List String} (words : Text.words text = before ++ after) {name raw : String} (named : IsName name)
    (equalWords : Text.words equal = before ++ ("." ++ name ++ "=" ++ raw) :: after)
    (unequalWords : Text.words unequal = before ++ ("." ++ name ++ "!=" ++ raw) :: after)
    (compiles : ∃ s, compile config equal = .ok s) {earlier : List Call} {found : ResultSet}
    (given : Engine.resultAfter config earlier board player text = .ok found) (earlier' earlier'' : List Call) :
    let cards := board.allCards.filter fun c => Kept config player text c
    let passes := fun c => ClauseHolds c name (some ⟨.eq, raw⟩)
    let differs := fun c => ClauseHolds c name (some ⟨.ne, raw⟩)
    ∃ pattern same other, Pattern.ofClause? raw = some pattern ∧
      Engine.resultAfter config earlier' board player equal = .ok same ∧
      Engine.resultAfter config earlier'' board player unequal = .ok other ∧
      (found.ids = cards.map (·.id) ∧ same.ids = (cards.filter fun c => passes c).map (·.id) ∧
        other.ids = (cards.filter fun c => differs c).map (·.id)) ∧
      (∀ c, (passes c ∨ differs c) ∧ (passes c ∧ differs c ↔ Loose c name raw pattern) ∧
        (c.get? (.ofName name) = none → ¬ passes c)) ∧
      (∀ id, id ∈ found.ids ↔ id ∈ same.ids ∨ id ∈ other.ids) ∧
      (board.Tidy → ∀ c ∈ board.allCards, c.id ∈ found.ids →
        (c.id ∈ same.ids ∧ c.id ∈ other.ids ↔ Loose c name raw pattern) ∧
        (c.get? (.ofName name) = none → c.id ∉ same.ids ∧ c.id ∈ other.ids)) := by
  intro cards passes differs
  have member : "." ++ name ++ "=" ++ raw ∈ Text.words equal := by simp [equalWords]
  obtain ⟨operand, pattern, read⟩ := clause_read named member compiles
  have equalSpelled : Spelled ("." ++ name ++ "=" ++ raw) (.property name (some ⟨.eq, raw⟩)) :=
    @Spelled.compared name raw .eq named operand
  have unequalSpelled : Spelled ("." ++ name ++ "!=" ++ raw) (.property name (some ⟨.ne, raw⟩)) :=
    @Spelled.compared name raw .ne named operand
  have unequalCompiles := compile_unequal words equalSpelled equalWords unequalSpelled unequalWords compiles
  have same := Engine.resultAfter_insert_property words equalSpelled equalWords given (Operator.plain_only rfl raw) compiles
    earlier'
  have other := Engine.resultAfter_insert_property words unequalSpelled unequalWords given (Operator.plain_only rfl raw)
    unequalCompiles earlier''
  have ids := Engine.found_ids given
  have clauses (c : Card) : (passes c ∨ differs c) ∧ (passes c ∧ differs c ↔ Loose c name raw pattern) ∧
      (c.get? (.ofName name) = none → ¬ passes c) :=
    ⟨equal_or_unequal, equal_and_unequal read, not_equal_of_missing⟩
  refine ⟨pattern, _, _, read, same, other, ⟨ids, rfl, rfl⟩, clauses, ?_, ?_⟩
  · intro id
    rw [ids]
    exact mem_ids_of_or (fun c => (clauses c).1) id
  · intro tidy c shown listed
    obtain ⟨either, both, missing⟩ := clauses c
    rw [Engine.mem_insert_property words equalSpelled equalWords tidy given same shown listed,
      Engine.mem_insert_property words unequalSpelled unequalWords tidy given other shown listed]
    refine ⟨both, ?_⟩
    intro absent
    exact ⟨missing absent, either.resolve_left (missing absent)⟩

-- Written in another case, the race is the pattern's but not the literal's, so both clauses keep the card.
theorem murloc_equated :
    let board := Board.lone { race := some "Murloc" }
    Text.words "minion" = ["minion"] ++ [] ∧ IsName "race" ∧
    Text.words "minion .race=murloc" = ["minion"] ++ ("." ++ "race" ++ "=" ++ "murloc") :: [] ∧
    Text.words "minion .race!=murloc" = ["minion"] ++ ("." ++ "race" ++ "!=" ++ "murloc") :: [] ∧
    (∃ s, compile {} "minion .race=murloc" = .ok s) ∧ Engine.resultAfter {} [] board .first "minion" = .ok ⟨[⟨0⟩]⟩ ∧
    ∃ pattern, Pattern.ofClause? "murloc" = some pattern ∧ ∀ c ∈ board.allCards, Loose c "race" "murloc" pattern := by
  intro board
  have words : Text.words "minion" = ["minion"] ++ [] := rfl
  have equalWords : Text.words "minion .race=murloc" = ["minion"] ++ ("." ++ "race" ++ "=" ++ "murloc") :: [] := rfl
  have unequalWords : Text.words "minion .race!=murloc" = ["minion"] ++ ("." ++ "race" ++ "!=" ++ "murloc") :: [] := rfl
  have named : IsName "race" := ⟨by decide, List.all_eq_true.mp rfl⟩
  have compiles : ∃ s, compile {} "minion .race=murloc" = .ok s := ⟨_, rfl⟩
  have played : board.Played := ⟨[.add .first _], by simp, rfl⟩
  have given : Engine.resultAfter {} [] board .first "minion" = .ok ⟨[⟨0⟩]⟩ := rfl
  have equal : Engine.resultAfter {} [] board .first "minion .race=murloc" = .ok ⟨[⟨0⟩]⟩ := rfl
  have unequal : Engine.resultAfter {} [] board .first "minion .race!=murloc" = .ok ⟨[⟨0⟩]⟩ := rfl
  obtain ⟨pattern, same, other, read, here, there, _, _, _, tidily⟩ :=
    evaluate_equated {} board .first words named equalWords unequalWords compiles given [] []
  cases equal.symm.trans here
  cases unequal.symm.trans there
  refine ⟨words, named, equalWords, unequalWords, compiles, given, pattern, read, ?_⟩
  intro c shown
  have sole : c.id ∈ [(⟨0⟩ : EntityId)] := by
    rw [List.mem_singleton.mp shown]
    exact List.mem_singleton_self _
  exact (tidily played.tidy c shown sole).1.mp ⟨sole, sole⟩

end CardQuery
