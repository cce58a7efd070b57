import CardQuery.Proofs.Spacing
import CardQuery.Proofs.Spelling

namespace CardQuery

namespace Operator

-- `<` and `>` are read only where no `=` follows, which would make them another operator.
theorem split?_eq_some {cs rest : List Char} {op : Operator} :
    split? cs = some (op, rest) ↔ cs = op.symbol.toList ++ rest ∧ (rest.head? = some '=' → op ≠ .lt ∧ op ≠ .gt) := by
  constructor
  · intro found
    refine ⟨split?_eq_append found, ?_⟩
    intro follows
    obtain ⟨tail, rfl⟩ := List.head?_eq_some_iff.mp follows
    rw [split?_eq_append found] at found
    cases op <;> simp [symbol, split?] at found ⊢
  · intro longest
    obtain ⟨rfl, longest⟩ := longest
    cases op with
    | ne | le | ge | eq => rfl
    | lt | gt =>
      cases rest with
      | nil => rfl
      | cons c rest =>
        have notEq : c ≠ '=' := by
          rintro rfl
          simp at longest
        simp [symbol, split?, notEq]

theorem split?_eq_none {cs : List Char} : split? cs = none ↔ ∀ op : Operator, ¬ op.symbol.toList <+: cs := by
  constructor
  · intro missing op front
    obtain ⟨rest, rfl⟩ := front
    by_cases follows : rest.head? = some '='
    · obtain ⟨tail, rfl⟩ := List.head?_eq_some_iff.mp follows
      cases op <;> cases missing
    · have found := (@split?_eq_some (op.symbol.toList ++ rest) rest op).mpr ⟨rfl, fun here => absurd here follows⟩
      rw [found] at missing
      cases missing
  · intro foreign
    cases found : split? cs with
    | none => rfl
    | some read =>
      have front : read.1.symbol.toList <+: cs := ⟨read.2, (split?_eq_append found).symm⟩
      exact absurd front (foreign read.1)

end Operator

namespace Token

inductive Legible : String → Prop where
  | zone (name : String) : Legible ("@" ++ name)
  | tag (nonempty : name ≠ "") : Legible ("#" ++ name)
  | present (named : IsName name) : Legible ("." ++ name)
  | compared (named : IsName name) (op : Operator) (operand : IsOperand value) :
      Legible ("." ++ name ++ op.symbol ++ value)
  | bare (unmarked : ∀ c ∈ word.toList.head?, c ≠ '@' ∧ c ≠ '#' ∧ c ≠ '.') : Legible word

inductive Unfit : String → WordFault → Prop where
  | stray {rest : String} (nonempty : rest ≠ "") (foreign : ∀ op : Operator, ¬ op.symbol.toList <+: rest.toList) :
      Unfit rest (.strayText rest)
  | noValue (op : Operator) : Unfit op.symbol .missingValue
  | operator {rest : String} {op : Operator} {c : Char} {tail : List Char}
      (chars : rest.toList = op.symbol.toList ++ c :: tail) (longest : c = '=' → op ≠ .lt ∧ op ≠ .gt)
      (second : Operator.isOperatorChar c = true) : Unfit rest (.unknownOperator rest)

inductive Flawed : String → WordFault → Prop where
  | noTagName : Flawed "#" .missingTagName
  | noPropertyName (ends : ∀ c ∈ body.toList.head?, isNameChar c = false) : Flawed ("." ++ body) .missingPropertyName
  | comparison (named : IsName name) (ends : ∀ c ∈ rest.toList.head?, isNameChar c = false)
      (unfit : Unfit rest fault) : Flawed ("." ++ name ++ rest) fault

theorem Spelled.legible {word : String} {token : Token} (spelled : Spelled word token) : Legible word := by
  cases spelled with
  | owner word => exact .bare (by cases word <;> simp [OwnerWord.text])
  | type word => exact .bare (by cases word <;> simp [TypeWord.text])
  | zone name => exact .zone name
  | tag nonempty => exact .tag nonempty
  | present named => exact .present named
  | compared named operand => exact .compared named _ operand
  | unknown plain => exact .bare plain.unmarked

theorem legible_iff {word : String} : Legible word ↔ ∃ token, Spelled word token := by
  constructor
  · intro legible
    cases legible with
    | zone name => exact ⟨_, .zone name⟩
    | tag nonempty => exact ⟨_, .tag nonempty⟩
    | present named => exact ⟨_, .present named⟩
    | compared named op operand => exact ⟨_, .compared named operand⟩
    | bare unmarked => exact ⟨_, spelled_bare unmarked⟩
  · intro spelled
    obtain ⟨token, spelled⟩ := spelled
    exact spelled.legible

theorem Spelled.render {word : String} {token : Token} (spelled : Spelled word token) : token.render = word := by
  cases spelled <;> rfl

theorem comparison_eq_error {rest : String} {fault : WordFault} :
    comparison rest.toList = .error fault ↔ Unfit rest fault := by
  constructor
  · intro refused
    unfold comparison at refused
    split at refused
    · cases refused
    · rename_i nonempty
      split at refused
      · rename_i noOperator
        cases refused
        rw [String.ofList_toList]
        exact .stray (by simpa using nonempty) (Operator.split?_eq_none.mp noOperator)
      · rename_i op value found
        obtain ⟨whole, longest⟩ := Operator.split?_eq_some.mp found
        split at refused
        · cases refused
          have symbol : rest = op.symbol := by simpa [String.toList_inj] using whole
          exact symbol ▸ .noValue op
        · split at refused
          · rename_i second
            cases refused
            rw [String.ofList_toList]
            exact .operator whole (by simpa using longest) second
          · cases refused
  · intro unfit
    cases unfit with
    | stray nonempty foreign =>
      have noOperator := Operator.split?_eq_none.mpr foreign
      simp [comparison, nonempty, noOperator]
    | noValue op => cases op <;> rfl
    | @operator _ op c tail chars longest second =>
      have nonempty : rest ≠ "" := by
        rintro rfl
        simp at chars
      have read : Operator.split? rest.toList = some (op, c :: tail) :=
        Operator.split?_eq_some.mpr ⟨chars, by simpa using longest⟩
      simp [comparison, nonempty, read, second]

-- The longest name in front; what is behind it starts with another character.
theorem name_in_front (body : String) : (∀ c ∈ body.toList.head?, isNameChar c = false) ∨
    ∃ name rest, IsName name ∧ (∀ c ∈ rest.toList.head?, isNameChar c = false) ∧ body = name ++ rest := by
  cases chars : body.toList with
  | nil => exact .inl (by simp)
  | cons c tail =>
    by_cases foreign : isNameChar c = false
    · exact .inl (by simpa using foreign)
    · refine .inr ⟨String.ofList (body.toList.takeWhile isNameChar), String.ofList (body.toList.dropWhile isNameChar),
        ⟨?_, ?_⟩, ?_, ?_⟩
      · simp [chars, foreign]
      · intro d present
        exact List.mem_takeWhile_imp (by simpa using present)
      · intro d first
        have stops := List.head?_dropWhile_not isNameChar body.toList
        rw [String.toList_ofList] at first
        rw [Option.mem_def.mp first] at stops
        simpa using stops
      · simp [← String.toList_inj]

theorem ofWord_dot {body : String} : ofWord ("." ++ body) = property? body.toList := by
  simp [ofWord, ofChars]

theorem ofWord_dot_of_ends {body : String} (ends : ∀ c ∈ body.toList.head?, isNameChar c = false) :
    ofWord ("." ++ body) = .error .missingPropertyName := by
  have nothing : body.toList.takeWhile isNameChar = [] := by
    cases chars : body.toList with
    | nil => rfl
    | cons c rest => simp [ends c (by simp [chars])]
  simp [ofWord_dot, property?, nothing]

theorem ofWord_dot_append {name rest : String} (named : IsName name)
    (ends : ∀ c ∈ rest.toList.head?, isNameChar c = false) :
    ofWord ("." ++ name ++ rest) = (comparison rest.toList).map (.property name) := by
  rw [String.append_assoc, ofWord_dot, String.toList_append]
  exact property?_append named rest.toList ends

theorem ofWord_eq_error {word : String} {fault : WordFault} : ofWord word = .error fault ↔ Flawed word fault := by
  constructor
  · intro refused
    by_cases dot : ∃ body, word = "." ++ body
    · obtain ⟨body, rfl⟩ := dot
      rcases name_in_front body with ends | ⟨name, rest, named, ends, rfl⟩
      · rw [ofWord_dot_of_ends ends] at refused
        cases refused
        exact .noPropertyName ends
      · rw [← String.append_assoc] at refused ⊢
        rw [ofWord_dot_append named ends] at refused
        cases compared : comparison rest.toList with
        | ok found => simp [compared, Except.map] at refused
        | error fault' =>
          rw [compared] at refused
          cases refused
          exact .comparison named ends (comparison_eq_error.mp compared)
    · unfold ofWord ofChars at refused
      split at refused
      · cases refused
      · rename_i name chars
        split at refused
        · rename_i nothing
          cases refused
          have same : word = "#" := by
            rw [← String.toList_inj, chars]
            simpa using nothing
          exact same ▸ .noTagName
        · cases refused
      · rename_i body chars
        refine absurd ⟨String.ofList body, ?_⟩ dot
        rw [← String.toList_inj, chars]
        simp
      · cases refused
  · intro flawed
    cases flawed with
    | noTagName => rfl
    | noPropertyName ends => exact ofWord_dot_of_ends ends
    | comparison named ends unfit =>
      rw [ofWord_dot_append named ends, comparison_eq_error.mpr unfit]
      rfl

theorem Flawed.not_legible {word : String} {fault : WordFault} (flawed : Flawed word fault) : ¬ Legible word := by
  intro legible
  obtain ⟨token, spelled⟩ := legible_iff.mp legible
  rw [← ofWord_eq_ok, ofWord_eq_error.mpr flawed] at spelled
  cases spelled

-- A word with a dot is a property word in one way only.
theorem property_reading {body : String} (legible : Legible ("." ++ body)) :
    ∃! reading : String × Option Comparison, Spelled ("." ++ body) (.property reading.1 reading.2) := by
  obtain ⟨token, spelled⟩ := legible_iff.mp legible
  have property : ∃ name found, token = .property name found := by
    have read := ofWord_eq_ok.mpr spelled
    rcases name_in_front body with ends | ⟨name, rest, named, ends, rfl⟩
    · rw [ofWord_dot_of_ends ends] at read
      cases read
    · rw [← String.append_assoc, ofWord_dot_append named ends] at read
      cases compared : comparison rest.toList with
      | error fault => simp [compared, Except.map] at read
      | ok found =>
        rw [compared] at read
        cases read
        exact ⟨name, found, rfl⟩
  obtain ⟨name, found, rfl⟩ := property
  refine ⟨(name, found), spelled, ?_⟩
  intro other again
  cases spelled.unique again
  rfl

inductive WellFormed : Token → Prop where
  | owner (word : OwnerWord) : WellFormed (.owner word)
  | type (word : TypeWord) : WellFormed (.type word)
  | zone (solid : Text.Solid name) : WellFormed (.zone name)
  | tag (nonempty : name ≠ "") (solid : Text.Solid name) : WellFormed (.tag name)
  | present (named : IsName name) : WellFormed (.property name none)
  | compared (named : IsName name) (operand : IsOperand value) (solid : Text.Solid value) :
      WellFormed (.property name (some ⟨op, value⟩))
  | unknown (plain : IsPlain word) (isWord : Text.IsWord word) : WellFormed (.unknown word)

theorem not_blank_of_isNameChar {c : Char} (named : isNameChar c = true) : Text.isBlank c = false := by
  simp only [isNameChar, Unicode.isAsciiLetter, Unicode.isAsciiDigit, Unicode.inRanges, List.any_cons, List.any_nil,
    Bool.or_false, Bool.or_eq_true, Bool.and_eq_true, decide_eq_true_eq, beq_iff_eq] at named
  rcases named with code | rfl
  · simp only [Text.isBlank, Text.blankRanges, List.any_cons, List.any_nil, Bool.or_false, Bool.or_eq_false_iff,
      Bool.and_eq_false_iff, decide_eq_false_iff_not]
    omega
  · rfl

theorem IsName.solid {name : String} (named : IsName name) : Text.Solid name :=
  fun c present => not_blank_of_isNameChar (named.2 c present)

theorem WellFormed.spelled {token : Token} (formed : token.WellFormed) : Spelled token.render token := by
  cases formed with
  | owner word => exact .owner word
  | type word => exact .type word
  | zone solid => exact .zone _
  | tag nonempty solid => exact .tag nonempty
  | present named => exact .present named
  | compared named operand solid => exact .compared named operand
  | unknown plain isWord => exact .unknown plain

theorem WellFormed.isWord {token : Token} (formed : token.WellFormed) : Text.IsWord token.render := by
  have mark : ∀ m ∈ ["@", "#", "."], Text.Solid m := by decide
  have symbol : ∀ op : Operator, Text.Solid op.symbol := by intro op; cases op <;> decide
  cases formed with
  | owner word => cases word <;> exact ⟨by decide, (by decide : Text.Solid _)⟩
  | type word => cases word <;> exact ⟨by decide, (by decide : Text.Solid _)⟩
  | zone solid => exact ⟨by simp [render], Text.solid_append.mpr ⟨mark _ (by simp), solid⟩⟩
  | tag nonempty solid => exact ⟨by simp [render], Text.solid_append.mpr ⟨mark _ (by simp), solid⟩⟩
  | present named => exact ⟨by simp [render], Text.solid_append.mpr ⟨mark _ (by simp), named.solid⟩⟩
  | compared named operand solid =>
    refine ⟨by simp [render], ?_⟩
    show Text.Solid _
    simp [render, mark, symbol, named.solid, solid]
  | unknown plain isWord => exact isWord

theorem Spelled.wellFormed {word : String} {token : Token} (spelled : Spelled word token)
    (isWord : Text.IsWord word) : token.WellFormed := by
  have solid : Text.Solid word := isWord.2
  cases spelled with
  | owner word => exact .owner word
  | type word => exact .type word
  | zone name => exact .zone (Text.solid_append.mp solid).2
  | tag nonempty => exact .tag nonempty (Text.solid_append.mp solid).2
  | present named => exact .present named
  | compared named operand => exact .compared named operand (Text.solid_append.mp solid).2
  | unknown plain => exact .unknown plain isWord

end Token

open Token

theorem render_of_tokenize {text : String} {tokens : List Token} (read : tokenize text = .ok tokens) :
    tokens.map render = Text.words text := by
  have spelled := tokenize_eq_ok.mp read
  clear read
  generalize Text.words text = ws at spelled ⊢
  induction spelled with
  | nil => rfl
  | cons here _ ih => rw [List.map_cons, here.render, ih]

-- The tokens of a text are well formed, and written with blanks between them they are the text.
theorem tokenize_eq_ok_iff_spaced {text : String} {tokens : List Token} :
    tokenize text = .ok tokens ↔ (∀ token ∈ tokens, token.WellFormed) ∧ Text.Spaced (tokens.map render) text := by
  rw [← Text.words_eq_iff]
  constructor
  · intro read
    refine ⟨?_, (render_of_tokenize read).symm⟩
    intro token present
    obtain ⟨word, inside, spelled⟩ := (mem_tokens_iff read).mp present
    exact spelled.wellFormed (Text.isWord_of_mem_words inside)
  · intro given
    obtain ⟨formed, cut⟩ := given
    rw [tokenize_eq_ok, cut, List.forall₂_map_left_iff, List.forall₂_same]
    exact fun token present => (formed token present).spelled

-- The first of a list that fails is the head, or the head passes and it is the first of the rest.
theorem first_cons {passes fails : α → Prop} {a : α} {as : List α} :
    (∃ before b after, a :: as = before ++ b :: after ∧ (∀ c ∈ before, passes c) ∧ fails b) ↔
      fails a ∨ passes a ∧ ∃ before b after, as = before ++ b :: after ∧ (∀ c ∈ before, passes c) ∧ fails b := by
  constructor
  · intro first
    obtain ⟨before, b, after, split, sound, failed⟩ := first
    cases before with
    | nil => cases split; exact .inl failed
    | cons c before =>
      cases split
      exact .inr ⟨sound a (by simp), before, b, after, rfl, fun d old => sound d (List.mem_cons_of_mem _ old), failed⟩
  · intro first
    rcases first with failed | ⟨passed, before, b, after, rfl, sound, failed⟩
    · exact ⟨[], a, as, rfl, by simp, failed⟩
    · exact ⟨a :: before, b, after, rfl, List.forall_mem_cons.mpr ⟨passed, sound⟩, failed⟩

theorem mapM_eq_error {f : α → Except ε β} {as : List α} {e : ε} :
    as.mapM f = .error e ↔
      ∃ before a after, as = before ++ a :: after ∧ (∀ b ∈ before, ∃ value, f b = .ok value) ∧ f a = .error e := by
  induction as with
  | nil => simp [pure, Except.pure]
  | cons a as ih =>
    rw [List.mapM_cons, first_cons, ← ih]
    cases here : f a with
    | error e' => simp [bind, Except.bind]
    | ok value => cases as.mapM f <;> simp [bind, Except.bind, pure, Except.pure]

theorem tokenize_eq_error {text : String} {e : SelectorError} :
    tokenize text = .error e ↔ ∃ before word after fault, Text.words text = before ++ word :: after ∧
      (∀ other ∈ before, Legible other) ∧ Flawed word fault ∧ e = .malformed text word (.word fault) := by
  have passed : ∀ word, (∃ token, (ofWord word).mapError
      (fun fault => SelectorError.malformed text word (.word fault)) = .ok token) ↔ Legible word := by
    intro word
    rw [legible_iff]
    simp only [← ofWord_eq_ok]
    cases ofWord word <;> simp [Except.mapError]
  have failed : ∀ word, (ofWord word).mapError (fun fault => SelectorError.malformed text word (.word fault)) =
      .error e ↔ ∃ fault, Flawed word fault ∧ e = .malformed text word (.word fault) := by
    intro word
    simp only [← ofWord_eq_error]
    cases ofWord word <;> simp [Except.mapError, eq_comm]
  unfold tokenize
  simp only [mapM_eq_error, passed, failed]
  simp only [exists_and_left]

theorem tokenize_isOk_iff {text : String} :
    (∃ tokens, tokenize text = .ok tokens) ↔ ∀ word ∈ Text.words text, Legible word := by
  constructor
  · intro read word present
    obtain ⟨tokens, read⟩ := read
    rw [← render_of_tokenize read] at present
    obtain ⟨token, inside, rfl⟩ := List.mem_map.mp present
    exact ((tokenize_eq_ok_iff_spaced.mp read).1 token inside).spelled.legible
  · intro legible
    cases read : tokenize text with
    | ok tokens => exact ⟨tokens, rfl⟩
    | error e =>
      obtain ⟨before, word, after, fault, cut, _, flawed, _⟩ := tokenize_eq_error.mp read
      exact absurd (legible word (by simp [cut])) flawed.not_legible

theorem tokenize_exact (text : String) :
    ((∃ tokens, tokenize text = .ok tokens) ↔ ∀ word ∈ Text.words text, Legible word) ∧
    (∀ tokens, tokenize text = .ok tokens → tokens.map render = Text.words text) ∧
    (∀ tokens, tokenize text = .ok tokens ↔
      (∀ token ∈ tokens, token.WellFormed) ∧ Text.Spaced (tokens.map render) text) ∧
    (∀ body, Legible ("." ++ body) →
      ∃! reading : String × Option Comparison, Spelled ("." ++ body) (.property reading.1 reading.2)) ∧
    ∀ e, tokenize text = .error e ↔ ∃ before word after fault, Text.words text = before ++ word :: after ∧
      (∀ other ∈ before, Legible other) ∧ ¬ Legible word ∧ Flawed word fault ∧
        e = .malformed text word (.word fault) := by
  refine ⟨tokenize_isOk_iff, fun _ => render_of_tokenize, fun _ => tokenize_eq_ok_iff_spaced,
    fun _ => property_reading, ?_⟩
  intro e
  rw [tokenize_eq_error]
  constructor
  · intro refused
    obtain ⟨before, word, after, fault, cut, legible, flawed, same⟩ := refused
    exact ⟨before, word, after, fault, cut, legible, flawed.not_legible, flawed, same⟩
  · intro refused
    obtain ⟨before, word, after, fault, cut, legible, _, flawed, same⟩ := refused
    exact ⟨before, word, after, fault, cut, legible, flawed, same⟩

end CardQuery
