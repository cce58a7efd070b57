import CardQuery.Proofs.Outcomes
import CardQuery.Proofs.Writing

namespace CardQuery
open PropertyKey Meaning

-- The kinds that are looked at when a selector is compiled are those of the values that are read.
theorem Properties.takes_of_get? {p : Properties} {key : PropertyKey} {value : Value} (found : p.get? key = some value) :
    key.Takes value := by
  cases key with
  | attack | health | cost | overload | spellDamage =>
    cases found
    exact .integer rfl
  | maxHealth =>
    obtain ⟨cap, _, rfl⟩ := Option.map_eq_some_iff.mp found
    exact .integer rfl
  | race =>
    obtain ⟨race, _, rfl⟩ := Option.map_eq_some_iff.mp found
    exact .text rfl
  | name =>
    cases found
    exact .text rfl
  | other name => exact .extension rfl

theorem PropertyKey.eq_other_of_kind? {name : String} (free : (ofName name).kind? = none) : ofName name = .other name := by
  have label := label_ofName name
  cases key : ofName name with
  | other text =>
    rw [key] at label
    exact congrArg PropertyKey.other label
  | _ =>
    rw [key] at free
    cases free

theorem Meaning.extension_of_unordered {c : Card} {name : String} {value : Value}
    (numeric : name ≠ "race" ∧ name ≠ "name") (found : c.get? (.ofName name) = some value)
    (unordered : ∀ n, value ≠ .int n) :
    ofName name = .other name ∧ c.properties.extra.get? name = some value := by
  have taken := Properties.takes_of_get? found
  cases taken with
  | integer => exact absurd rfl (unordered _)
  | text textual => exact absurd (kind?_ofName.mp textual) (not_or.mpr numeric)
  | extension free =>
    have key := eq_other_of_kind? free
    rw [key] at found
    exact ⟨key, found⟩

def Meaning.OrdersBy (ws : List String) (name : String) (op : Operator) : Prop :=
  ∃ word ∈ ws, ∃ raw, Token.Spelled word (.property name (some ⟨op, raw⟩)) ∧ op.isOrdering = true

theorem Meaning.Stops.ordersBy {selector : String} {c : Card} {ws : List String} {e : SelectorError}
    (stops : Stops selector c ws e) : ∃ name op value, OrdersBy ws name op ∧ c.get? (.ofName name) = some value ∧
      (∀ n, value ≠ .int n) ∧ e = .meaningless selector (.propertyNotNumeric op (.ofName name) c.id value) := by
  induction stops with
  | here spelled ordering found unordered =>
    exact ⟨_, _, _, ⟨_, List.mem_cons_self, _, spelled, ordering⟩, found, unordered, rfl⟩
  | later _ _ ih =>
    obtain ⟨name, op, value, ⟨word, present, rest⟩, told⟩ := ih
    exact ⟨name, op, value, ⟨word, List.mem_cons_of_mem _ present, rest⟩, told⟩

-- An extension that a search was stopped by, and the error that names it.
structure Meaning.Bars (c : Card) (text : String) (e : SelectorError) (name : String) (op : Operator) (value : Value) :
    Prop where
  ordered : OrdersBy (Text.words text) name op
  unknown : ∀ key ∈ known, key.label ≠ name
  found : c.properties.extra.get? name = some value
  unordered : (∃ b, value = .bool b) ∨ ∃ s, value = .text s
  told : e = .meaningless text (.propertyNotNumeric op (.other name) c.id value)

theorem Meaning.bars_of_fails {policy : NoTypePolicy} {text : String} {view : Perspective} {c : Card} {e : SelectorError}
    (admissible : Admissible policy (Text.words text)) (fails : Fails policy text view c e) :
    ∃ name op value, Bars c text e name op value := by
  obtain ⟨name, op, value, ordered, found, unordered, rfl⟩ := fails.stops.ordersBy
  obtain ⟨word, present, raw, spelled, ordering⟩ := ordered
  obtain ⟨noRace, noName, _⟩ := admissible.orders word present name op raw spelled ordering
  obtain ⟨key, there⟩ := extension_of_unordered ⟨noRace, noName⟩ found unordered
  refine ⟨name, op, value, ⟨word, present, raw, spelled, ordering⟩, ?_, there, ?_, ?_⟩
  · intro typed listed same
    subst same
    rw [ofName_label listed] at key
    rw [key] at listed
    simp [known] at listed
  · cases value with
    | int n => exact absurd rfl (unordered n)
    | bool b => exact .inl ⟨b, rfl⟩
    | text s => exact .inr ⟨s, rfl⟩
  · rw [key]

theorem evaluate_numeric (config : Config) (board : Board) {player : PlayerId} (seated : player.isSeated = true)
    {text : String} (nonempty : Text.words text ≠ []) (compiles : ∃ s, compile config text = .ok s) (earlier : List Call) :
    ((∀ name op, OrdersBy (Text.words text) name op → ∃ key ∈ known, key.label = name) →
      ∃ found, Engine.resultAfter config earlier board player text = .ok found) ∧
    ∀ e, Engine.resultAfter config earlier board player text = .error e →
      ∃ c, Examined config board player (Text.words text) c ∧ ∃ name op value, Bars c text e name op value := by
  have nonblank := Text.nonblank_of_words nonempty
  have admissible := compile_isOk_iff_admissible.mp compiles
  have barred : ∀ e, Engine.resultAfter config earlier board player text = .error e →
      ∃ c, Examined config board player (Text.words text) c ∧ ∃ name op value, Bars c text e name op value := by
    intro e failed
    obtain ⟨s, compiled⟩ := compiles
    rw [Engine.resultAfter, Engine.run_result] at failed
    obtain ⟨c, present, fails⟩ := fails_of_answer nonblank seated compiled failed
    exact ⟨c, ⟨present, fails.admitted⟩, bars_of_fails admissible fails⟩
  refine ⟨?_, barred⟩
  intro numeric
  cases result : Engine.resultAfter config earlier board player text with
  | ok found => exact ⟨found, rfl⟩
  | error e =>
    obtain ⟨c, _, name, op, value, bars⟩ := barred e result
    obtain ⟨key, listed, same⟩ := numeric name op bars.ordered
    exact absurd same (bars.unknown key listed)

-- The attack of the minion can be compared with a number, its mood cannot.
theorem moody_minion_numeric :
    PlayerId.first.isSeated = true ∧ Text.words "minion .attack>5" ≠ [] ∧ Text.words "minion .mood>1" ≠ [] ∧
    (∃ s, compile {} "minion .attack>5" = .ok s) ∧ (∃ s, compile {} "minion .mood>1" = .ok s) ∧
    (∀ name op, OrdersBy (Text.words "minion .attack>5") name op → ∃ key ∈ known, key.label = name) ∧
    (∃ found, Engine.resultAfter {} [] .moody .first "minion .attack>5" = .ok found) ∧
    ∃ e c name op value, Engine.resultAfter {} [] .moody .first "minion .mood>1" = .error e ∧
      Examined {} .moody .first (Text.words "minion .mood>1") c ∧ Bars c "minion .mood>1" e name op value := by
  have seated : PlayerId.first.isSeated = true := rfl
  have attack : Text.words "minion .attack>5" ≠ [] := by decide
  have mood : Text.words "minion .mood>1" ≠ [] := by decide
  have strong : ∃ s, compile {} "minion .attack>5" = .ok s := ⟨_, rfl⟩
  have sullen : ∃ s, compile {} "minion .mood>1" = .ok s := ⟨_, rfl⟩
  have numeric : ∀ name op, OrdersBy (Text.words "minion .attack>5") name op → ∃ key ∈ known, key.label = name := by
    intro name op ordered
    obtain ⟨word, present, raw, spelled, _⟩ := ordered
    have words : Text.words "minion .attack>5" = ["minion", ".attack>5"] := rfl
    rw [words, List.mem_cons, List.mem_singleton] at present
    rcases present with rfl | rfl
    · cases (Token.ofWord_eq_ok.mp rfl : Token.Spelled "minion" (.type .minion)).unique spelled
    · cases (Token.ofWord_eq_ok.mp rfl : Token.Spelled ".attack>5" (.property "attack" (some ⟨.gt, "5"⟩))).unique spelled
      exact ⟨.attack, by decide, rfl⟩
  have answered := (evaluate_numeric {} .moody seated attack strong []).1 numeric
  obtain ⟨c, examined, name, op, value, bars⟩ := (evaluate_numeric {} .moody seated mood sullen []).2 _ rfl
  exact ⟨seated, attack, mood, strong, sullen, numeric, answered, _, c, name, op, value, rfl, examined, bars⟩

end CardQuery
