import CardQuery.Proofs.Literals
import CardQuery.Proofs.Refusals
import CardQuery.Proofs.Selecting

namespace CardQuery
namespace Pattern

-- What is used of the patterns of clauses, however they are read and matched.
structure ClauseLaws {P : Type} (read : String → Option P) (matched : P → String → Bool) : Prop where
  -- Unless it closes the group that it is put into, the text is a pattern alone, and the whole value has to match.
  whole : ∀ {raw : String} {pattern : P}, read raw = some pattern →
    ((∃ e, Reads clauseFlags raw.toList e) ↔ ¬ (Reader.start clauseFlags).Strays raw.toList) ∧
      ∀ e, Reads clauseFlags raw.toList e → ∀ value, matched pattern value = true ↔ e.TakesAll value
  -- A text without marks and cases matches itself only; the bound is the size limit of a compiled pattern.
  verbatim : ∀ {raw : String}, raw ≠ "" → (∀ c ∈ raw.toList, Verbatim c) →
    ((∃ pattern, read raw = some pattern) ↔ 32 * (room (raw.toList.map Char.toNat) + 6) ≤ Footprint.limit) ∧
      ∀ pattern, read raw = some pattern → ∀ value, matched pattern value = true ↔ value = raw
  -- There is nothing in front of a `+` to repeat.
  repeating : ∀ {raw : String} {rest : List Char}, raw.toList = '+' :: rest → read raw = none

theorem clauseLaws : ClauseLaws ofClause? isMatch where
  whole := ofClause?_exact
  verbatim := ofClause?_verbatim
  repeating := ofClause?_repeating

end Pattern

open Pattern

theorem equals_anchored {config : Config} {text : String} {s : Selector} (compiled : compile config text = .ok s)
    {word name raw : String} (present : word ∈ Text.words text)
    (spelled : Token.Spelled word (.property name (some ⟨.eq, raw⟩))) :
    ∃ pattern, ⟨.ofName name, .equals raw pattern⟩ ∈ s.properties ∧
      ((∃ e, Reads clauseFlags raw.toList e) ↔ ¬ (Reader.start clauseFlags).Strays raw.toList) ∧
      ∀ e, Reads clauseFlags raw.toList e → ∀ value, pattern.isMatch value = true ↔ e.TakesAll value := by
  have admissible := compile_isOk_iff_admissible.mp ⟨s, compiled⟩
  obtain ⟨pattern, read⟩ := admissible.patterns word present name raw spelled
  refine ⟨pattern, ?_, clauseLaws.whole read⟩
  obtain ⟨tokens, d, tokenized, taken, finished⟩ := compile_eq_ok.mp compiled
  obtain ⟨types, _, rfl⟩ := Draft.finish_eq_ok.mp finished
  have kept : .property name (some ⟨.eq, raw⟩) ∈ tokens := (mem_tokens_iff tokenized).mpr ⟨word, present, spelled⟩
  have clause : Token.propertyFilter? (.property name (some ⟨.eq, raw⟩)) = some ⟨.ofName name, .equals raw pattern⟩ := by
    simp [Token.propertyFilter?, PropertyFilter.compile, PropertyTest.compile, read, Except.map, Except.toOption]
  simp only [(Draft.describes_of_addAll taken).properties]
  exact List.mem_filterMap.mpr ⟨_, kept, clause⟩

-- The pattern finds a value in another case and no longer one.
theorem murloc_matched :
    ∃ s pattern e, compile {} "minion .race=murloc" = .ok s ∧ s.properties = [⟨.race, .equals "murloc" pattern⟩] ∧
      Reads clauseFlags "murloc".toList e ∧ e.TakesAll "Murloc" ∧ ¬ e.TakesAll "murlocs" := by
  have compiled : ∃ s pattern, compile {} "minion .race=murloc" = .ok s ∧
      s.properties = [⟨.race, .equals "murloc" pattern⟩] ∧
      pattern.isMatch "Murloc" = true ∧ pattern.isMatch "murlocs" = false := ⟨_, _, rfl, rfl, rfl, rfl⟩
  have reads : ∃ e, Reads clauseFlags "murloc".toList e := ⟨_, _, rfl, rfl, by decide, rfl⟩
  obtain ⟨s, pattern, compiled, only, longer, shorter⟩ := compiled
  obtain ⟨e, reads⟩ := reads
  have spelled : Token.Spelled ".race=murloc" (.property "race" (some ⟨.eq, "murloc"⟩)) := Token.ofWord_eq_ok.mp rfl
  obtain ⟨pattern', present, _, exact'⟩ := equals_anchored compiled (by decide) spelled
  simp only [only, List.mem_singleton, PropertyFilter.mk.injEq, PropertyTest.equals.injEq, true_and] at present
  obtain ⟨_, rfl⟩ := present
  refine ⟨s, pattern', e, compiled, only, reads, ?_, ?_⟩
  · exact (exact' e reads "Murloc").mp longer
  · rw [← exact' e reads "murlocs", shorter]
    decide

-- A text that closes the group is no pattern, and finds a part of a value.
theorem part_matched :
    ∃ s pattern, compile {} "minion .race=a)|(b" = .ok s ∧ s.properties = [⟨.race, .equals "a)|(b" pattern⟩] ∧
      (∀ e, ¬ Reads clauseFlags "a)|(b".toList e) ∧ pattern.isMatch "abc" = true ∧
      collect (s.accepts · (.of .first)) (Board.lone { race := some "abc" }).allCards = .ok [⟨0⟩] := by
  refine ⟨_, _, rfl, rfl, ?_, rfl, rfl⟩
  intro e reads
  obtain ⟨last, run, _⟩ := reads
  cases run

end CardQuery
