import CardQuery.Selector.Error
import Mathlib.Data.List.Perm.Basic
import Mathlib.Data.List.TakeWhile

namespace CardQuery
namespace Token

def IsName (name : String) : Prop := name ≠ "" ∧ ∀ c ∈ name.toList, isNameChar c = true

-- What an operator is followed by; its first character can belong to no operator.
def IsOperand (value : String) : Prop :=
  ∃ c rest, value.toList = c :: rest ∧ Operator.isOperatorChar c = false

-- No keyword, and without one of the three marks in front.
structure IsPlain (word : String) : Prop where
  notOwner : ∀ owner : OwnerWord, word ≠ owner.text
  notType : ∀ type : TypeWord, word ≠ type.text
  unmarked : ∀ c ∈ word.toList.head?, c ≠ '@' ∧ c ≠ '#' ∧ c ≠ '.'

inductive Spelled : String → Token → Prop where
  | owner (word : OwnerWord) : Spelled word.text (.owner word)
  | type (word : TypeWord) : Spelled word.text (.type word)
  | zone (name : String) : Spelled ("@" ++ name) (.zone name)
  | tag (nonempty : name ≠ "") : Spelled ("#" ++ name) (.tag name)
  | present (named : IsName name) : Spelled ("." ++ name) (.property name none)
  | compared (named : IsName name) (operand : IsOperand value) :
      Spelled ("." ++ name ++ op.symbol ++ value) (.property name (some ⟨op, value⟩))
  | unknown (plain : IsPlain word) : Spelled word (.unknown word)

theorem ofText?_eq_some_owner {text : String} {word : OwnerWord} :
    OwnerWord.ofText? text = some word ↔ text = word.text := by
  constructor
  · intro found
    have := List.find?_some found
    exact (beq_iff_eq.mp this).symm
  · intro same
    subst same
    cases word <;> rfl

theorem ofText?_eq_some_type {text : String} {word : TypeWord} :
    TypeWord.ofText? text = some word ↔ text = word.text := by
  constructor
  · intro found
    have := List.find?_some found
    exact (beq_iff_eq.mp this).symm
  · intro same
    subst same
    cases word <;> rfl

theorem comparison_symbol {op : Operator} {value : String} (operand : IsOperand value) :
    comparison (op.symbol.toList ++ value.toList) = .ok (some ⟨op, value⟩) := by
  obtain ⟨c, rest, chars, clear⟩ := operand
  have nonempty : (op.symbol.toList ++ value.toList).isEmpty = false := by simp [chars]
  have split : Operator.split? (op.symbol.toList ++ value.toList) = some (op, value.toList) :=
    Operator.split?_symbol op (by simpa [chars] using clear)
  unfold comparison
  simp only [nonempty, split]
  simp [chars, clear, ← String.toList_inj]

theorem symbol_head (op : Operator) : ∃ c rest, op.symbol.toList = c :: rest ∧ isNameChar c = false := by
  cases op <;> exact ⟨_, _, rfl, rfl⟩

-- A property name ends where the first character that is none of its own stands.
theorem property?_append {name : String} (named : IsName name) (rest : List Char)
    (ends : ∀ c ∈ rest.head?, isNameChar c = false) :
    property? (name.toList ++ rest) = (comparison rest).map (.property name) := by
  have stop : rest.takeWhile isNameChar = [] ∧ rest.dropWhile isNameChar = rest := by
    cases rest with
    | nil => simp
    | cons c rest => simp [ends c rfl]
  have front : (name.toList ++ rest).takeWhile isNameChar = name.toList := by
    rw [List.takeWhile_append_of_pos named.2, stop.1, List.append_nil]
  have back : (name.toList ++ rest).dropWhile isNameChar = rest := by
    rw [List.dropWhile_append_of_pos named.2, stop.2]
  have nonempty : name.toList.isEmpty = false := by simpa using named.1
  simp [property?, front, back, nonempty]

theorem ofWord_of_spelled {word : String} {token : Token} (spelled : Spelled word token) :
    ofWord word = .ok token := by
  cases spelled with
  | owner word => cases word <;> rfl
  | type word => cases word <;> rfl
  | zone name => simp [ofWord, ofChars]
  | tag nonempty => simp [ofWord, ofChars, nonempty]
  | present named =>
    have read := property?_append named [] (by simp)
    simpa [ofWord, ofChars, comparison, Except.map] using read
  | @compared name value op named operand =>
    obtain ⟨c, rest, chars, foreign⟩ := symbol_head op
    have read := property?_append named (op.symbol.toList ++ value.toList) (by simpa [chars] using foreign)
    rw [comparison_symbol operand] at read
    simpa [ofWord, ofChars, String.toList_append, Except.map] using read
  | unknown plain =>
    have noOwner : OwnerWord.ofText? word = none := by
      cases found : OwnerWord.ofText? word with
      | none => rfl
      | some owner => exact absurd (ofText?_eq_some_owner.mp found) (plain.notOwner owner)
    have noType : TypeWord.ofText? word = none := by
      cases found : TypeWord.ofText? word with
      | none => rfl
      | some type => exact absurd (ofText?_eq_some_type.mp found) (plain.notType type)
    have read : ofChars word.toList = .ok (bare (String.ofList word.toList)) := by
      have unmarked := plain.unmarked
      unfold ofChars
      split <;> simp_all
    simp [ofWord, read, bare, noOwner, noType]

theorem spelled_bare {word : String} (unmarked : ∀ c ∈ word.toList.head?, c ≠ '@' ∧ c ≠ '#' ∧ c ≠ '.') :
    Spelled word (bare word) := by
  unfold bare
  split
  · rename_i owner found
    rw [ofText?_eq_some_owner.mp found]
    exact .owner owner
  · rename_i noOwner
    split
    · rename_i type found
      rw [ofText?_eq_some_type.mp found]
      exact .type type
    · rename_i noType
      refine .unknown ⟨?_, ?_, unmarked⟩
      · intro owner same; rw [ofText?_eq_some_owner.mpr same] at noOwner; cases noOwner
      · intro type same; rw [ofText?_eq_some_type.mpr same] at noType; cases noType

theorem comparison_eq_ok {rest : List Char} {found : Option Comparison} (read : comparison rest = .ok found) :
    (rest = [] ∧ found = none) ∨
      ∃ op value, IsOperand value ∧ rest = op.symbol.toList ++ value.toList ∧ found = some ⟨op, value⟩ := by
  unfold comparison at read
  split at read
  · rename_i empty
    cases read
    exact .inl ⟨by simpa using empty, rfl⟩
  · split at read
    · cases read
    · rename_i op value split
      split at read
      · cases read
      · rename_i c value
        split at read
        · cases read
        · rename_i clear
          cases read
          refine .inr ⟨op, _, ⟨c, value, by simp, by simpa using clear⟩, ?_, rfl⟩
          simpa using Operator.split?_eq_append split

theorem spelled_of_property? {word : String} {body : List Char} {token : Token} (chars : word.toList = '.' :: body)
    (read : property? body = .ok token) : Spelled word token := by
  unfold property? at read
  dsimp only at read
  split at read
  · cases read
  · rename_i nonempty
    have named : IsName (String.ofList (body.takeWhile isNameChar)) := by
      refine ⟨?_, ?_⟩
      · intro empty
        have : body.takeWhile isNameChar = [] := by simpa using congrArg String.toList empty
        simp [this] at nonempty
      · intro c present
        exact List.mem_takeWhile_imp (by simpa using present)
    have whole : body = body.takeWhile isNameChar ++ body.dropWhile isNameChar :=
      (List.takeWhile_append_dropWhile).symm
    cases compared : comparison (body.dropWhile isNameChar) with
    | error fault => simp [compared, Except.map] at read
    | ok found =>
      rw [compared] at read
      cases read
      rcases comparison_eq_ok compared with ⟨empty, rfl⟩ | ⟨op, value, operand, tail, rfl⟩
      · have same : word = "." ++ String.ofList (body.takeWhile isNameChar) := by
          rw [← String.toList_inj, chars]
          simpa [empty] using whole
        rw [same]
        exact .present named
      · have same : word = "." ++ String.ofList (body.takeWhile isNameChar) ++ op.symbol ++ value := by
          rw [← String.toList_inj, chars]
          simpa [tail, String.toList_append] using whole
        rw [same]
        exact .compared named operand

theorem spelled_of_ofWord {word : String} {token : Token} (read : ofWord word = .ok token) : Spelled word token := by
  unfold ofWord ofChars at read
  split at read
  · rename_i name chars
    cases read
    have same : word = "@" ++ String.ofList name := by rw [← String.toList_inj, chars]; simp
    rw [same]
    exact .zone _
  · rename_i name chars
    split at read
    · cases read
    · rename_i nonempty
      cases read
      have same : word = "#" ++ String.ofList name := by rw [← String.toList_inj, chars]; simp
      rw [same]
      exact .tag (by simpa using nonempty)
  · rename_i body chars
    exact spelled_of_property? chars read
  · rename_i noZone noTag noProperty
    cases read
    rw [String.ofList_toList]
    apply spelled_bare
    intro c first
    obtain ⟨rest, chars⟩ := List.head?_eq_some_iff.mp first
    refine ⟨?_, ?_, ?_⟩
    · intro mark
      subst mark
      exact noZone rest chars
    · intro mark
      subst mark
      exact noTag rest chars
    · intro mark
      subst mark
      exact noProperty rest chars

theorem ofWord_eq_ok {word : String} {token : Token} : ofWord word = .ok token ↔ Spelled word token :=
  ⟨spelled_of_ofWord, ofWord_of_spelled⟩

theorem Spelled.unique {word : String} {token token' : Token} (first : Spelled word token)
    (second : Spelled word token') : token = token' := by
  rw [← ofWord_eq_ok] at first second
  rw [first] at second
  exact Except.ok.inj second

end Token

theorem mapM_eq_ok {f : α → Except ε β} {as : List α} {bs : List β} :
    as.mapM f = .ok bs ↔ List.Forall₂ (fun a b => f a = .ok b) as bs := by
  induction as generalizing bs with
  | nil => cases bs <;> simp [pure, Except.pure]
  | cons a as ih =>
    rw [List.mapM_cons, List.forall₂_cons_left_iff]
    cases here : f a with
    | error e => simp [bind, Except.bind]
    | ok b =>
      cases later : as.mapM f with
      | error e =>
        have none : ∀ rest, ¬ List.Forall₂ (fun a b => f a = .ok b) as rest := by
          intro rest all
          rw [ih.mpr all] at later
          cases later
        simp [bind, Except.bind, none]
      | ok rest =>
        have rest_iff : ∀ rest', List.Forall₂ (fun a b => f a = .ok b) as rest' ↔ rest = rest' := by
          intro rest'; rw [← ih, later]; simp
        simp [bind, Except.bind, pure, Except.pure, rest_iff, eq_comm]

theorem tokenize_eq_ok {selector : String} {tokens : List Token} :
    tokenize selector = .ok tokens ↔ List.Forall₂ Token.Spelled (Text.words selector) tokens := by
  have word_iff : ∀ word token, (Token.ofWord word).mapError
      (fun fault => SelectorError.malformed selector word (.word fault)) = .ok token ↔ Token.Spelled word token := by
    intro word token
    rw [← Token.ofWord_eq_ok]
    cases Token.ofWord word <;> simp [Except.mapError]
  unfold tokenize
  simp only [mapM_eq_ok, word_iff]

theorem mem_tokens_iff {selector : String} {tokens : List Token} (read : tokenize selector = .ok tokens)
    {token : Token} : token ∈ tokens ↔ ∃ word ∈ Text.words selector, Token.Spelled word token := by
  have spelled := tokenize_eq_ok.mp read
  clear read
  generalize Text.words selector = words at spelled ⊢
  induction spelled with
  | nil => simp
  | @cons word first words tokens here later ih =>
    have first_iff : Token.Spelled word token ↔ token = first :=
      ⟨fun spelled => spelled.unique here, fun same => same ▸ here⟩
    simp [ih, first_iff]

section Members
variable {selector : String} {tokens : List Token} (read : tokenize selector = .ok tokens)
include read

theorem owner_mem_iff (word : OwnerWord) : .owner word ∈ tokens ↔ word.text ∈ Text.words selector := by
  rw [mem_tokens_iff read]
  constructor
  · intro spelled
    obtain ⟨_, present, ⟨⟩⟩ := spelled
    exact present
  · intro present
    exact ⟨_, present, .owner word⟩

theorem type_mem_iff (word : TypeWord) : .type word ∈ tokens ↔ word.text ∈ Text.words selector := by
  rw [mem_tokens_iff read]
  constructor
  · intro spelled
    obtain ⟨_, present, ⟨⟩⟩ := spelled
    exact present
  · intro present
    exact ⟨_, present, .type word⟩

theorem zone_mem_iff (name : String) : .zone name ∈ tokens ↔ "@" ++ name ∈ Text.words selector := by
  rw [mem_tokens_iff read]
  constructor
  · intro spelled
    obtain ⟨_, present, ⟨⟩⟩ := spelled
    exact present
  · intro present
    exact ⟨_, present, .zone name⟩

theorem tag_mem_iff (name : String) : .tag name ∈ tokens ↔ name ≠ "" ∧ "#" ++ name ∈ Text.words selector := by
  rw [mem_tokens_iff read]
  constructor
  · intro spelled
    obtain ⟨word, present, spelled⟩ := spelled
    cases spelled with
    | tag nonempty => exact ⟨nonempty, present⟩
  · intro both
    exact ⟨_, both.2, .tag both.1⟩

end Members

theorem tokenize_perm {selector selector' : String} {tokens : List Token}
    (same : (Text.words selector').Perm (Text.words selector)) (read : tokenize selector = .ok tokens) :
    ∃ tokens', tokenize selector' = .ok tokens' ∧ tokens'.Perm tokens := by
  obtain ⟨tokens', spelled, moved⟩ := List.perm_comp_forall₂ same (tokenize_eq_ok.mp read)
  exact ⟨tokens', tokenize_eq_ok.mpr spelled, moved⟩

end CardQuery
