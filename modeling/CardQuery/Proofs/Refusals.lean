import CardQuery.Proofs.Drafting
import CardQuery.Proofs.Rendering

namespace CardQuery
open Token

theorem PropertyKey.kind?_ofName {name : String} :
    (ofName name).kind? = some .text ↔ name = "race" ∨ name = "name" := by
  constructor
  · intro textual
    have label := label_ofName name
    cases key : ofName name with
    | race => rw [key] at label; exact .inl label.symm
    | name => rw [key] at label; exact .inr label.symm
    | _ => rw [key] at textual; cases textual
  · rintro (rfl | rfl) <;> rfl

-- What can be wrong with a comparison. A text property is refused before the value is looked at.
inductive Senseless (text : String) (name : String) : Comparison → SelectorError → Prop where
  | pattern (unread : Pattern.ofClause? raw = none) : Senseless text name ⟨.eq, raw⟩ (.malformed text raw .badPattern)
  | textual (ordering : op.isOrdering = true) (textual : name = "race" ∨ name = "name") :
      Senseless text name ⟨op, raw⟩ (.meaningless text (.ordersText op (.ofName name)))
  | notNumeric (ordering : op.isOrdering = true) (other : name ≠ "race" ∧ name ≠ "name")
      (unread : Text.readInt64 raw = none) : Senseless text name ⟨op, raw⟩ (.meaningless text (.valueNotNumeric op raw))

theorem Senseless.of_compile {text name : String} {c : Comparison} {e : SelectorError}
    (refused : PropertyFilter.compile text name (some c) = .error e) : Senseless text name c e := by
  obtain ⟨op, raw⟩ := c
  simp only [PropertyFilter.compile, PropertyTest.compile] at refused
  cases op with
  | ne => cases refused
  | eq =>
    cases read : Pattern.ofClause? raw with
    | some pattern => simp [read, Except.map] at refused
    | none =>
      rw [read] at refused
      cases refused
      exact .pattern read
  | lt | gt | le | ge =>
    dsimp only at refused
    split at refused
    · rename_i textual
      cases refused
      exact .textual rfl (PropertyKey.kind?_ofName.mp textual)
    · rename_i other
      rw [PropertyKey.kind?_ofName, not_or] at other
      cases read : Text.readInt64 raw with
      | some bound => simp [read, Except.map] at refused
      | none =>
        rw [read] at refused
        cases refused
        exact .notNumeric rfl other read

theorem Senseless.compile_eq {text name : String} {c : Comparison} {e : SelectorError} (senseless : Senseless text name c e) :
    PropertyFilter.compile text name (some c) = .error e := by
  cases senseless with
  | pattern unread => simp [PropertyFilter.compile, PropertyTest.compile, unread, Except.map]
  | @textual op raw ordering textual =>
    have kind := PropertyKey.kind?_ofName.mpr textual
    cases op with
    | eq | ne => cases ordering
    | lt | gt | le | ge => simp [PropertyFilter.compile, PropertyTest.compile, kind, Except.map]
  | @notNumeric raw op ordering other unread =>
    have kind : (PropertyKey.ofName name).kind? ≠ some .text := by
      rw [ne_eq, PropertyKey.kind?_ofName, not_or]
      exact other
    cases op with
    | eq | ne => cases ordering
    | lt | gt | le | ge => simp [PropertyFilter.compile, PropertyTest.compile, kind, unread, Except.map]

theorem PropertyFilter.compile_eq_error {text name : String} {comparison : Option Comparison} {e : SelectorError} :
    PropertyFilter.compile text name comparison = .error e ↔ ∃ c, comparison = some c ∧ Senseless text name c e := by
  cases comparison with
  | none => simp [PropertyFilter.compile]
  | some c =>
    refine ⟨fun refused => ⟨c, rfl, .of_compile refused⟩, ?_⟩
    rintro ⟨_, ⟨⟩, senseless⟩
    exact senseless.compile_eq

namespace Draft

inductive Refuses (text : String) (d : Draft) : Token → SelectorError → Prop where
  | owner (earlier : d.owner = some first) (other : first ≠ word) :
      Refuses text d (.owner word) (.malformed text word.text (.ownerConflict first))
  | property (senseless : Senseless text name c e) : Refuses text d (.property name (some c)) e

theorem add_eq_error {text : String} {d : Draft} {token : Token} {e : SelectorError} :
    d.add text token = .error e ↔ Refuses text d token e := by
  constructor
  · intro refused
    cases token with
    | owner word =>
      simp only [add, addOwner] at refused
      split at refused
      · cases refused
      · rename_i first earlier
        split at refused
        · cases refused
        · rename_i other
          cases refused
          exact .owner earlier other
    | property name comparison =>
      simp only [add] at refused
      cases compiled : PropertyFilter.compile text name comparison with
      | ok f => simp [compiled, Except.map] at refused
      | error e' =>
        rw [compiled] at refused
        cases refused
        obtain ⟨c, rfl, senseless⟩ := PropertyFilter.compile_eq_error.mp compiled
        exact .property senseless
    | type | zone | tag | unknown => cases refused
  · intro refuses
    cases refuses with
    | owner earlier other => simp [add, addOwner, earlier, other]
    | property senseless =>
      have compiled := PropertyFilter.compile_eq_error.mpr ⟨_, rfl, senseless⟩
      simp [add, compiled, Except.map]

theorem addAll_eq_error {text : String} {d : Draft} {tokens : List Token} {e : SelectorError} :
    (d.addAll text tokens).result = .error e ↔ ∃ front token back mid, tokens = front ++ token :: back ∧
      (d.addAll text front).result = .ok mid ∧ Refuses text mid token e := by
  induction tokens generalizing d with
  | nil => simp [addAll]
  | cons token rest ih =>
    constructor
    · intro stopped
      simp only [addAll] at stopped
      split at stopped
      · rename_i e' added
        cases stopped
        exact ⟨[], token, rest, d, rfl, rfl, add_eq_error.mp added⟩
      · rename_i next added
        obtain ⟨front, later, back, mid, rfl, taken, refuses⟩ := ih.mp stopped
        exact ⟨token :: front, later, back, mid, rfl, addAll_cons_eq_ok.mpr ⟨next, add_eq_ok.mp added, taken⟩, refuses⟩
    · intro first
      obtain ⟨front, later, back, mid, split, taken, refuses⟩ := first
      cases front with
      | nil =>
        cases split
        cases taken
        simp [addAll, add_eq_error.mpr refuses]
      | cons _ front =>
        obtain ⟨rfl, rest⟩ := List.cons.inj split
        obtain ⟨next, takes, taken⟩ := addAll_cons_eq_ok.mp taken
        have stopped := ih.mpr ⟨front, later, back, mid, rest, taken, refuses⟩
        simp [addAll, add_eq_ok.mpr takes, stopped]

end Draft

def FirstOwner (ws : List String) (first : OwnerWord) : Prop :=
  ∃ front back, ws = front ++ first.text :: back ∧ ∀ owner : OwnerWord, owner.text ∉ front

-- What is wrong with a word of the grammar behind the given ones.
inductive Offends (text : String) (before : List String) : String → SelectorError → Prop where
  | owner (earlier : FirstOwner before first) (other : first ≠ word) :
      Offends text before word.text (.malformed text word.text (.ownerConflict first))
  | clause (spelled : Spelled word (.property name (some c))) (senseless : Senseless text name c e) :
      Offends text before word e

def Inoffensive (text : String) (ws : List String) : Prop :=
  ∀ front word back e, ws = front ++ word :: back → ¬ Offends text front word e

structure Admissible (policy : NoTypePolicy) (ws : List String) : Prop where
  legible : ∀ word ∈ ws, Legible word
  oneOwner : ∀ a b : OwnerWord, a.text ∈ ws → b.text ∈ ws → a = b
  orders : ∀ word ∈ ws, ∀ name op raw, Spelled word (.property name (some ⟨op, raw⟩)) → op.isOrdering = true →
    name ≠ "race" ∧ name ≠ "name" ∧ ∃ bound, Text.readInt64 raw = some bound
  patterns : ∀ word ∈ ws, ∀ name raw, Spelled word (.property name (some ⟨.eq, raw⟩)) →
    ∃ pattern, Pattern.ofClause? raw = some pattern
  typed : policy = .reject → ∃ word : TypeWord, word.text ∈ ws

inductive Refused (policy : NoTypePolicy) (text : String) : SelectorError → Prop where
  | flawed (cut : Text.words text = before ++ word :: after) (legible : ∀ other ∈ before, Legible other)
      (flawed : Flawed word fault) : Refused policy text (.malformed text word (.word fault))
  | offending (legible : ∀ word ∈ Text.words text, Legible word) (cut : Text.words text = before ++ word :: after)
      (earlier : Inoffensive text before) (offends : Offends text before word e) : Refused policy text e
  | untyped (legible : ∀ word ∈ Text.words text, Legible word) (earlier : Inoffensive text (Text.words text))
      (strict : policy = .reject) (untyped : ∀ word : TypeWord, word.text ∉ Text.words text) :
      Refused policy text (.meaningless text .noType)

theorem PropertyFilter.compile_isOk_iff {text name : String} {comparison : Option Comparison} :
    (∃ f, PropertyFilter.compile text name comparison = .ok f) ↔
      ∀ c, comparison = some c → ∀ e, ¬ Senseless text name c e := by
  constructor
  · intro compiles c given e senseless
    obtain ⟨f, compiled⟩ := compiles
    rw [PropertyFilter.compile_eq_error.mpr ⟨c, given, senseless⟩] at compiled
    cases compiled
  · intro sensible
    cases compiled : PropertyFilter.compile text name comparison with
    | ok f => exact ⟨f, rfl⟩
    | error e =>
      obtain ⟨c, given, senseless⟩ := PropertyFilter.compile_eq_error.mp compiled
      exact absurd senseless (sensible c given e)

theorem exists_firstOwner {owner : OwnerWord} {ws : List String} (present : owner.text ∈ ws) :
    ∃ first, FirstOwner ws first := by
  induction ws with
  | nil => cases present
  | cons word rest ih =>
    by_cases here : ∃ first : OwnerWord, word = first.text
    · obtain ⟨first, rfl⟩ := here
      exact ⟨first, [], rest, rfl, by simp⟩
    · have later : owner.text ∈ rest := by
        rcases List.mem_cons.mp present with same | old
        · exact absurd ⟨owner, same.symm⟩ here
        · exact old
      obtain ⟨first, front, back, rfl, none⟩ := ih later
      refine ⟨first, word :: front, back, rfl, ?_⟩
      intro other inside
      rcases List.mem_cons.mp inside with same | old
      · exact here ⟨other, same.symm⟩
      · exact none other old

section Words
variable {text : String} {tokens : List Token} {e : SelectorError}

theorem written_of_tokenize (read : tokenize text = .ok tokens) : ∀ t ∈ tokens, Spelled t.render t :=
  fun t inside => ((tokenize_eq_ok_iff_spaced.mp read).1 t inside).spelled

theorem owner_text_mem (written : ∀ t ∈ tokens, Spelled t.render t) (owner : OwnerWord) :
    owner.text ∈ tokens.map render ↔ .owner owner ∈ tokens := by
  constructor
  · intro present
    obtain ⟨token, inside, same⟩ := List.mem_map.mp present
    have spelled := written token inside
    rw [same] at spelled
    exact spelled.unique (.owner owner) ▸ inside
  · intro inside
    exact List.mem_map.mpr ⟨_, inside, rfl⟩

-- A draft remembers the first owner word of its tokens, which is the only one.
theorem firstOwner_iff {d : Draft} (written : ∀ t ∈ tokens, Spelled t.render t) (described : d.Describes tokens)
    (first : OwnerWord) : FirstOwner (tokens.map render) first ↔ d.owner = some first := by
  have present : ∀ {owner}, FirstOwner (tokens.map render) owner → d.owner = some owner := by
    intro owner earliest
    obtain ⟨front, back, cut, _⟩ := earliest
    exact (described.owner owner).mpr ((owner_text_mem written owner).mp (by simp [cut]))
  constructor
  · exact present
  · intro remembered
    have inside := (owner_text_mem written first).mpr ((described.owner first).mp remembered)
    obtain ⟨earliest, found⟩ := exists_firstOwner inside
    have same : earliest = first := Option.some.inj ((present found).symm.trans remembered)
    exact same ▸ found

theorem offends_iff {d : Draft} {word : String} {token : Token} (written : ∀ t ∈ tokens, Spelled t.render t)
    (described : d.Describes tokens) (spelled : Spelled word token) :
    Offends text (tokens.map render) word e ↔ d.Refuses text token e := by
  constructor
  · intro offends
    cases offends with
    | @owner first owner earlier other =>
      obtain rfl := spelled.unique (.owner owner)
      exact .owner ((firstOwner_iff written described first).mp earlier) other
    | clause read senseless =>
      obtain rfl := spelled.unique read
      exact .property senseless
  · intro refuses
    cases refuses with
    | @owner first owner earlier other =>
      cases spelled
      exact .owner ((firstOwner_iff written described first).mpr earlier) other
    | property senseless => exact .clause spelled senseless

-- A split of the words of a text is a split of its tokens.
theorem split_tokens {before after : List String} {word : String} (written : ∀ t ∈ tokens, Spelled t.render t)
    (cut : tokens.map render = before ++ word :: after) : ∃ front token back, tokens = front ++ token :: back ∧
      before = front.map render ∧ Spelled word token ∧ ∀ t ∈ front, Spelled t.render t := by
  obtain ⟨front, rest, rfl, rfl, tail⟩ := List.map_eq_append_iff.mp cut
  obtain ⟨token, back, rfl, rfl, rfl⟩ := List.map_eq_cons_iff.mp tail
  exact ⟨front, token, back, rfl, rfl, written token (by simp), fun t inside => written t (by simp [inside])⟩

theorem inoffensive_iff (written : ∀ t ∈ tokens, Spelled t.render t) :
    Inoffensive text (tokens.map render) ↔ ∃ d, (Draft.addAll text {} tokens).result = .ok d := by
  constructor
  · intro inoffensive
    cases taken : (Draft.addAll text {} tokens).result with
    | ok d => exact ⟨d, rfl⟩
    | error e =>
      obtain ⟨front, token, back, mid, rfl, drafted, refuses⟩ := Draft.addAll_eq_error.mp taken
      have described := Draft.describes_of_addAll drafted
      have offends := (@offends_iff text front e mid _ token (fun t inside => written t (by simp [inside])) described
        (written token (by simp))).mpr refuses
      exact absurd offends (inoffensive _ _ (back.map render) e (by simp))
  · intro drafted before word after e cut offends
    obtain ⟨d, drafted⟩ := drafted
    obtain ⟨front, token, back, rfl, rfl, spelled, inside⟩ := split_tokens written cut
    cases taken : (Draft.addAll text {} front).result with
    | ok mid =>
      have described := Draft.describes_of_addAll taken
      have refuses := (offends_iff inside described spelled).mp offends
      rw [Draft.addAll_eq_error.mpr ⟨front, token, back, mid, rfl, taken, refuses⟩] at drafted
      cases drafted
    | error e' =>
      obtain ⟨first, other, rest, mid, rfl, earlier, refuses⟩ := Draft.addAll_eq_error.mp taken
      have stopped : (Draft.addAll text {} (first ++ other :: rest ++ token :: back)).result = .error e' :=
        Draft.addAll_eq_error.mpr ⟨first, other, rest ++ token :: back, mid, by simp, earlier, refuses⟩
      rw [stopped] at drafted
      cases drafted

theorem addAll_eq_error_iff_offends (written : ∀ t ∈ tokens, Spelled t.render t) :
    (Draft.addAll text {} tokens).result = .error e ↔ ∃ before word after,
      tokens.map render = before ++ word :: after ∧ Inoffensive text before ∧ Offends text before word e := by
  constructor
  · intro stopped
    obtain ⟨front, token, back, mid, rfl, drafted, refuses⟩ := Draft.addAll_eq_error.mp stopped
    have inside : ∀ t ∈ front, Spelled t.render t := fun t present => written t (by simp [present])
    have described := Draft.describes_of_addAll drafted
    exact ⟨front.map render, token.render, back.map render, by simp, (inoffensive_iff inside).mpr ⟨mid, drafted⟩,
      (offends_iff inside described (written token (by simp))).mpr refuses⟩
  · intro first
    obtain ⟨before, word, after, cut, inoffensive, offends⟩ := first
    obtain ⟨front, token, back, rfl, rfl, spelled, inside⟩ := split_tokens written cut
    obtain ⟨mid, drafted⟩ := (inoffensive_iff inside).mp inoffensive
    have described := Draft.describes_of_addAll drafted
    exact Draft.addAll_eq_error.mpr
      ⟨front, token, back, mid, rfl, drafted, (offends_iff inside described spelled).mp offends⟩

end Words

theorem Draft.finish_eq_error {text : String} {policy : NoTypePolicy} {d : Draft} {tokens : List Token}
    {e : SelectorError} (described : d.Describes tokens) : d.finish text policy = .error e ↔
      policy = .reject ∧ (∀ word, .type word ∉ tokens) ∧ e = .meaningless text .noType := by
  rw [← not_exists, described.hasType]
  unfold finish typeFilter
  by_cases whole : d.anyType = true
  · simp [whole, Except.map]
  · by_cases named : d.types ≠ 0
    · simp [whole, named, Except.map]
    · cases policy <;> simp [whole, named, Except.map, eq_comm]

theorem compile_eq_error {config : Config} {text : String} {e : SelectorError} :
    compile config text = .error e ↔ tokenize text = .error e ∨ ∃ tokens, tokenize text = .ok tokens ∧
      ((Draft.addAll text {} tokens).result = .error e ∨
        ∃ d, (Draft.addAll text {} tokens).result = .ok d ∧ d.finish text config.noType = .error e) := by
  unfold compile Config.report
  cases tokenize text with
  | error e' => simp
  | ok tokens =>
    cases drafted : (Draft.addAll text {} tokens).result with
    | error e' => simp [drafted]
    | ok d => cases finished : d.finish text config.noType <;> simp [drafted, finished]

theorem legal_iff {text : String} {tokens : List Token} (read : tokenize text = .ok tokens) :
    Legal text tokens ↔
      (∀ a b : OwnerWord, a.text ∈ Text.words text → b.text ∈ Text.words text → a = b) ∧
      ∀ word ∈ Text.words text, ∀ name c, Spelled word (.property name (some c)) → ∀ e, ¬ Senseless text name c e := by
  constructor
  · intro legal
    refine ⟨?_, ?_⟩
    · intro a b left right
      exact legal.oneOwner a b ((owner_mem_iff read a).mpr left) ((owner_mem_iff read b).mpr right)
    · intro word present name c spelled
      have inside := (mem_tokens_iff read).mpr ⟨word, present, spelled⟩
      exact PropertyFilter.compile_isOk_iff.mp (legal.clauses name (some c) inside) c rfl
  · intro given
    obtain ⟨oneOwner, sensible⟩ := given
    refine ⟨?_, ?_⟩
    · intro a b left right
      exact oneOwner a b ((owner_mem_iff read a).mp left) ((owner_mem_iff read b).mp right)
    · intro name comparison inside
      obtain ⟨word, present, spelled⟩ := (mem_tokens_iff read).mp inside
      refine PropertyFilter.compile_isOk_iff.mpr ?_
      rintro c rfl
      exact sensible word present name c spelled

theorem compile_isOk_iff_admissible {config : Config} {text : String} :
    (∃ s, compile config text = .ok s) ↔ Admissible config.noType (Text.words text) := by
  rw [CardQuery.compile_isOk_iff]
  constructor
  · intro compiles
    obtain ⟨tokens, read, legal, typed⟩ := compiles
    obtain ⟨oneOwner, sensible⟩ := (legal_iff read).mp legal
    refine ⟨tokenize_isOk_iff.mp ⟨tokens, read⟩, oneOwner, ?_, ?_, ?_⟩
    · intro word present name op raw spelled ordering
      have other : name ≠ "race" ∧ name ≠ "name" := by
        rw [← not_or]
        exact fun textual => sensible word present name _ spelled _ (.textual ordering textual)
      refine ⟨other.1, other.2, ?_⟩
      cases bound : Text.readInt64 raw with
      | some n => exact ⟨n, rfl⟩
      | none => exact absurd (.notNumeric ordering other bound) (sensible word present name _ spelled _)
    · intro word present name raw spelled
      cases unread : Pattern.ofClause? raw with
      | some pattern => exact ⟨pattern, rfl⟩
      | none => exact absurd (.pattern unread) (sensible word present name _ spelled _)
    · intro strict
      obtain ⟨word, inside⟩ := typed strict
      exact ⟨word, (type_mem_iff read word).mp inside⟩
  · intro admissible
    obtain ⟨tokens, read⟩ := tokenize_isOk_iff.mpr admissible.legible
    refine ⟨tokens, read, (legal_iff read).mpr ⟨admissible.oneOwner, ?_⟩, ?_⟩
    · intro word present name c spelled e senseless
      cases senseless with
      | pattern unread =>
        obtain ⟨pattern, found⟩ := admissible.patterns word present name _ spelled
        rw [unread] at found
        cases found
      | textual ordering textual =>
        obtain ⟨notRace, notName, _⟩ := admissible.orders word present name _ _ spelled ordering
        exact absurd textual (not_or.mpr ⟨notRace, notName⟩)
      | notNumeric ordering other unread =>
        obtain ⟨_, _, bound, found⟩ := admissible.orders word present name _ _ spelled ordering
        rw [unread] at found
        cases found
    · intro strict
      obtain ⟨word, present⟩ := admissible.typed strict
      exact ⟨word, (type_mem_iff read word).mpr present⟩

theorem compile_eq_error_iff_refused {config : Config} {text : String} {e : SelectorError} :
    compile config text = .error e ↔ Refused config.noType text e := by
  rw [compile_eq_error]
  constructor
  · intro failed
    rcases failed with unread | ⟨tokens, read, failed⟩
    · obtain ⟨before, word, after, fault, cut, legible, flawed, rfl⟩ := tokenize_eq_error.mp unread
      exact .flawed cut legible flawed
    · have legible := tokenize_isOk_iff.mp ⟨tokens, read⟩
      have words := render_of_tokenize read
      have written := written_of_tokenize read
      rcases failed with stopped | ⟨d, drafted, unfinished⟩
      · obtain ⟨before, word, after, cut, earlier, offends⟩ := (addAll_eq_error_iff_offends written).mp stopped
        exact .offending legible (words ▸ cut) earlier offends
      · have described := Draft.describes_of_addAll drafted
        obtain ⟨strict, untyped, rfl⟩ := (Draft.finish_eq_error described).mp unfinished
        have inoffensive : Inoffensive text (Text.words text) := words ▸ (inoffensive_iff written).mpr ⟨d, drafted⟩
        refine .untyped legible inoffensive strict ?_
        intro word present
        exact untyped word ((type_mem_iff read word).mpr present)
  · intro refused
    cases refused with
    | flawed cut legible flawed => exact .inl (tokenize_eq_error.mpr ⟨_, _, _, _, cut, legible, flawed, rfl⟩)
    | offending legible cut earlier offends =>
      obtain ⟨tokens, read⟩ := tokenize_isOk_iff.mpr legible
      have stopped := (addAll_eq_error_iff_offends (written_of_tokenize read)).mpr
        ⟨_, _, _, (render_of_tokenize read).trans cut, earlier, offends⟩
      exact .inr ⟨tokens, read, .inl stopped⟩
    | untyped legible earlier strict untyped =>
      obtain ⟨tokens, read⟩ := tokenize_isOk_iff.mpr legible
      rw [← render_of_tokenize read] at earlier
      obtain ⟨d, drafted⟩ := (inoffensive_iff (written_of_tokenize read)).mp earlier
      have unfinished : d.finish text config.noType = .error (.meaningless text .noType) :=
        (Draft.finish_eq_error (Draft.describes_of_addAll drafted)).mpr
          ⟨strict, fun word inside => untyped word ((type_mem_iff read word).mp inside), rfl⟩
      exact .inr ⟨tokens, read, .inr ⟨d, drafted, unfinished⟩⟩

-- A word outside the grammar comes before the leftmost offence, and that before a missing type word.
theorem compile_exact (config : Config) (text : String) :
    ((∃ s, compile config text = .ok s) ↔ Admissible config.noType (Text.words text)) ∧
    ∀ e, compile config text = .error e ↔ Refused config.noType text e :=
  ⟨compile_isOk_iff_admissible, fun _ => compile_eq_error_iff_refused⟩

end CardQuery
