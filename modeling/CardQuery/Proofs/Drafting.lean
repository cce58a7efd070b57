import CardQuery.Proofs.Spelling
import CardQuery.Selector.Compile

namespace CardQuery

-- The types a word names; `card` names none and is told apart.
inductive TypeWord.Names : TypeWord → CardType → Prop where
  | minion : Names .minion .minion
  | hero : Names .hero .hero
  | minionCharacter : Names .character .minion
  | heroCharacter : Names .character .hero
  | weapon : Names .weapon .weapon
  | spell : Names .spell .spell
  | power : Names .power .power

theorem or_and_ne_zero {a b c : UInt8} : (a ||| b) &&& c ≠ 0 ↔ a &&& c ≠ 0 ∨ b &&& c ≠ 0 := by
  have distrib : (a ||| b) &&& c = a &&& c ||| b &&& c :=
    UInt8.toBitVec_inj.mp BitVec.and_or_distrib_right
  rw [distrib]
  simp only [ne_eq, UInt8.or_eq_zero_iff, not_and_or]

theorem TypeWord.types_ne_zero (word : TypeWord) : word.types ≠ 0 := by cases word <;> decide

theorem TypeWord.types_and_bit {word : TypeWord} (single : word ≠ .card) (type : CardType) :
    word.types &&& type.bit ≠ 0 ↔ word.Names type := by
  cases word <;> cases type
  all_goals first
    | exact absurd rfl single
    | exact iff_of_true (by decide) (by constructor)
    | exact iff_of_false (by decide) (by intro named; cases named)

theorem Zone.bit_and_bit (zone other : Zone) : zone.bit &&& other.bit ≠ 0 ↔ zone = other := by
  cases zone <;> cases other <;> decide

theorem Zone.named_bit (name : String) (zone : Zone) :
    ((Zone.ofName? name).map Zone.bit).getD 0 &&& zone.bit ≠ 0 ↔ name = zone.name := by
  rw [← Zone.ofName?_eq_some]
  cases Zone.ofName? name with
  | none => simp
  | some found => simpa using Zone.bit_and_bit found zone

-- A compiled clause does not show which text it stood in; only a refusal does.
theorem PropertyFilter.compile_text {text name : String} {c : Option Comparison} {f : PropertyFilter}
    (compiled : PropertyFilter.compile text name c = .ok f) (other : String) :
    PropertyFilter.compile other name c = .ok f := by
  cases c with
  | none => exact compiled
  | some c =>
    obtain ⟨op, value⟩ := c
    simp only [PropertyFilter.compile, PropertyTest.compile] at compiled ⊢
    cases op with
    | ne => exact compiled
    | eq =>
      cases read : Pattern.ofClause? value with
      | none => simp [read, Except.map] at compiled
      | some pattern => simpa [read, Except.map] using compiled
    | lt | gt | le | ge =>
      dsimp only at compiled ⊢
      split at compiled
      · cases compiled
      · rename_i ordered
        rw [if_neg ordered]
        split at compiled <;> simp_all [Except.map]

namespace Token

def tagFilter? : Token → Option TagFilter
  | tag name => some (.ofName name)
  | _ => none

def propertyFilter? : Token → Option PropertyFilter
  | property name c => (PropertyFilter.compile "" name c).toOption
  | _ => none

end Token

namespace Draft

-- Everything a token can do to a draft.
inductive Takes (text : String) : Draft → Token → Draft → Prop where
  | firstOwner (open' : d.owner = none) : Takes text d (.owner word) { d with owner := some word }
  | sameOwner (again : d.owner = some word) : Takes text d (.owner word) d
  | wholeType : Takes text d (.type .card) { d with anyType := true }
  | type (single : word ≠ .card) : Takes text d (.type word) { d with types := d.types ||| word.types }
  | zone : Takes text d (.zone name)
      { d with zones := some (d.zones.getD 0 ||| ((Zone.ofName? name).map Zone.bit).getD 0) }
  | tag : Takes text d (.tag name) { d with tags := d.tags ++ [TagFilter.ofName name] }
  | property (compiled : PropertyFilter.compile text name c = .ok f) :
      Takes text d (.property name c) { d with properties := d.properties ++ [f] }
  | unknown : Takes text d (.unknown word) d

theorem add_eq_ok {text : String} {d next : Draft} {token : Token} :
    d.add text token = .ok next ↔ Takes text d token next := by
  constructor
  · intro added
    cases token with
    | owner word =>
      simp only [add, addOwner] at added
      split at added
      · rename_i empty; cases added; exact .firstOwner empty
      · rename_i earlier found
        split at added
        · rename_i same; cases added; exact .sameOwner (same ▸ found)
        · cases added
    | type word =>
      simp only [add, addType] at added
      split at added
      · rename_i whole; cases added; subst whole; exact .wholeType
      · rename_i single; cases added; exact .type single
    | zone name => cases added; exact .zone
    | tag name => cases added; exact .tag
    | property name c =>
      simp only [add] at added
      cases compiled : PropertyFilter.compile text name c with
      | error e => simp [compiled, Except.map] at added
      | ok f => rw [compiled] at added; cases added; exact .property compiled
    | unknown word => cases added; exact .unknown
  · intro takes
    cases takes with
    | firstOwner empty => simp [add, addOwner, empty]
    | sameOwner again => simp [add, addOwner, again]
    | type single => simp [add, addType, single]
    | property compiled => simp [add, compiled, Except.map]
    | wholeType | zone | tag | unknown => rfl

section Step
variable {text : String} {d next : Draft} {token : Token}

theorem takes_owner (takes : Takes text d token next) (word : OwnerWord) :
    next.owner = some word ↔ d.owner = some word ∨ token = .owner word := by
  cases takes with
  | firstOwner empty => simp [empty]
  | sameOwner again => simp [again]
  | _ => simp

theorem takes_anyType (takes : Takes text d token next) :
    next.anyType = true ↔ d.anyType = true ∨ token = .type .card := by
  cases takes with
  | type single => simp [single]
  | _ => simp

theorem takes_typed (takes : Takes text d token next) :
    next.types ≠ 0 ↔ d.types ≠ 0 ∨ ∃ word, word ≠ .card ∧ token = .type word := by
  cases takes with
  | type single => simp [single, TypeWord.types_ne_zero]
  | _ => simp

theorem takes_types (takes : Takes text d token next) (type : CardType) :
    next.types &&& type.bit ≠ 0 ↔ d.types &&& type.bit ≠ 0 ∨ ∃ word, token = .type word ∧ word.Names type := by
  cases takes with
  | wholeType =>
    have unnamed : ¬ TypeWord.card.Names type := by intro named; cases named
    simp [unnamed]
  | type single =>
    rw [or_and_ne_zero, TypeWord.types_and_bit single]
    simp
  | _ => simp

theorem takes_zoned (takes : Takes text d token next) :
    next.zones = none ↔ d.zones = none ∧ ∀ name, token ≠ .zone name := by
  cases takes <;> simp

theorem takes_zones (takes : Takes text d token next) (zone : Zone) :
    next.zones.getD 0 &&& zone.bit ≠ 0 ↔ d.zones.getD 0 &&& zone.bit ≠ 0 ∨ token = .zone zone.name := by
  cases takes with
  | zone =>
    rw [Option.getD_some, or_and_ne_zero, Zone.named_bit]
    simp
  | _ => simp

theorem takes_tags (takes : Takes text d token next) : next.tags = d.tags ++ token.tagFilter?.toList := by
  cases takes <;> simp [Token.tagFilter?]

theorem takes_properties (takes : Takes text d token next) :
    next.properties = d.properties ++ token.propertyFilter?.toList := by
  cases takes with
  | property compiled => simp [Token.propertyFilter?, PropertyFilter.compile_text compiled "", Except.toOption]
  | _ => simp [Token.propertyFilter?]

end Step

structure Describes (d : Draft) (tokens : List Token) : Prop where
  owner : ∀ word, d.owner = some word ↔ .owner word ∈ tokens
  anyType : d.anyType = true ↔ .type .card ∈ tokens
  typed : d.types ≠ 0 ↔ ∃ word, word ≠ .card ∧ .type word ∈ tokens
  types : ∀ type : CardType, d.types &&& type.bit ≠ 0 ↔ ∃ word, .type word ∈ tokens ∧ word.Names type
  zoned : d.zones = none ↔ ∀ name, .zone name ∉ tokens
  zones : ∀ zone : Zone, d.zones.getD 0 &&& zone.bit ≠ 0 ↔ .zone zone.name ∈ tokens
  tags : d.tags = tokens.filterMap Token.tagFilter?
  properties : d.properties = tokens.filterMap Token.propertyFilter?

theorem empty_describes : Describes {} [] := by
  constructor <;> simp

theorem takes_describes {text : String} {d next : Draft} {tokens : List Token} {token : Token}
    (described : Describes d tokens) (takes : Takes text d token next) : Describes next (tokens ++ [token]) := by
  refine ⟨?_, ?_, ?_, ?_, ?_, ?_, ?_, ?_⟩
  · intro word
    rw [takes_owner takes, described.owner]
    simp [eq_comm]
  · rw [takes_anyType takes, described.anyType]
    simp [eq_comm]
  · rw [takes_typed takes, described.typed, ← exists_or]
    simp [eq_comm, and_or_left]
  · intro type
    rw [takes_types takes, described.types, ← exists_or]
    simp [eq_comm, or_and_right]
  · rw [takes_zoned takes, described.zoned, ← forall_and]
    simp [eq_comm]
  · intro zone
    rw [takes_zones takes, described.zones]
    simp [eq_comm]
  · rw [takes_tags takes, described.tags, List.filterMap_append]
    rfl
  · rw [takes_properties takes, described.properties, List.filterMap_append]
    rfl

theorem addAll_cons_eq_ok {text : String} {d final : Draft} {token : Token} {rest : List Token} :
    (d.addAll text (token :: rest)).result = .ok final ↔
      ∃ next, Takes text d token next ∧ (next.addAll text rest).result = .ok final := by
  simp only [← add_eq_ok, addAll]
  cases d.add text token with
  | error e => simp
  | ok next => simp

theorem addAll_describes {text : String} {d final : Draft} {earlier tokens : List Token}
    (described : Describes d earlier) (taken : (d.addAll text tokens).result = .ok final) :
    Describes final (earlier ++ tokens) := by
  induction tokens generalizing d earlier with
  | nil =>
    cases taken
    simpa using described
  | cons token rest ih =>
    obtain ⟨next, takes, later⟩ := addAll_cons_eq_ok.mp taken
    have whole := ih (takes_describes described takes) later
    simpa using whole

theorem describes_of_addAll {text : String} {final : Draft} {tokens : List Token}
    (taken : (addAll text {} tokens).result = .ok final) : Describes final tokens := by
  simpa using addAll_describes empty_describes taken

theorem Describes.hasType {d : Draft} {tokens : List Token} (described : Describes d tokens) :
    (∃ word, .type word ∈ tokens) ↔ d.anyType = true ∨ d.types ≠ 0 := by
  constructor
  · intro typed
    obtain ⟨word, present⟩ := typed
    by_cases whole : word = .card
    · subst whole; exact .inl (described.anyType.mpr present)
    · exact .inr (described.typed.mpr ⟨word, whole, present⟩)
  · intro recorded
    rcases recorded with whole | named
    · exact ⟨.card, described.anyType.mp whole⟩
    · obtain ⟨word, _, present⟩ := described.typed.mp named
      exact ⟨word, present⟩

end Draft

-- What the tokens of a selector must satisfy together: one owner at most, and every clause compiles.
structure Legal (text : String) (tokens : List Token) : Prop where
  oneOwner : ∀ a b, .owner a ∈ tokens → .owner b ∈ tokens → a = b
  clauses : ∀ name c, .property name c ∈ tokens → ∃ f, PropertyFilter.compile text name c = .ok f

theorem Legal.perm {text other : String} {tokens moved : List Token} (legal : Legal text tokens)
    (same : moved.Perm tokens) : Legal other moved := by
  refine ⟨?_, ?_⟩
  · intro a b left right
    exact legal.oneOwner a b (same.mem_iff.mp left) (same.mem_iff.mp right)
  · intro name c present
    obtain ⟨f, compiled⟩ := legal.clauses name c (same.mem_iff.mp present)
    exact ⟨f, PropertyFilter.compile_text compiled other⟩

namespace Draft

theorem addAll_legal {text : String} {final : Draft} {tokens : List Token}
    (taken : (addAll text {} tokens).result = .ok final) : Legal text tokens := by
  have described := describes_of_addAll taken
  refine ⟨?_, ?_⟩
  · intro a b left right
    have first := (described.owner a).mpr left
    have second := (described.owner b).mpr right
    exact Option.some.inj (first.symm.trans second)
  · clear described
    generalize ({} : Draft) = d at taken
    induction tokens generalizing d with
    | nil => simp
    | cons token rest ih =>
      obtain ⟨next, takes, later⟩ := addAll_cons_eq_ok.mp taken
      intro name c present
      rcases List.mem_cons.mp present with rfl | old
      · cases takes with
        | property compiled => exact ⟨_, compiled⟩
      · exact ih next later name c old

theorem addAll_of_legal {text : String} {d : Draft} {earlier tokens : List Token} (described : Describes d earlier)
    (legal : Legal text (earlier ++ tokens)) : ∃ final, (d.addAll text tokens).result = .ok final := by
  induction tokens generalizing d earlier with
  | nil => exact ⟨d, rfl⟩
  | cons token rest ih =>
    have takes : ∃ next, Takes text d token next := by
      cases token with
      | owner word =>
        cases found : d.owner with
        | none => exact ⟨_, .firstOwner found⟩
        | some first =>
          have before := (described.owner first).mp found
          have same := legal.oneOwner first word (by simp [before]) (by simp)
          exact ⟨_, .sameOwner (same ▸ found)⟩
      | type word =>
        by_cases whole : word = .card
        · subst whole; exact ⟨_, .wholeType⟩
        · exact ⟨_, .type whole⟩
      | zone name => exact ⟨_, .zone⟩
      | tag name => exact ⟨_, .tag⟩
      | property name c =>
        obtain ⟨f, compiled⟩ := legal.clauses name c (by simp)
        exact ⟨_, .property compiled⟩
      | unknown word => exact ⟨_, .unknown⟩
    obtain ⟨next, takes⟩ := takes
    obtain ⟨final, later⟩ := ih (takes_describes described takes) (by simpa using legal)
    exact ⟨final, addAll_cons_eq_ok.mpr ⟨next, takes, later⟩⟩

theorem finish_eq_ok {text : String} {policy : NoTypePolicy} {d : Draft} {s : Selector} :
    d.finish text policy = .ok s ↔ ∃ types, d.typeFilter text policy = .ok types ∧
      s = ⟨text, d.ownerFilter, types, d.zoneFilter, d.tags, d.properties⟩ := by
  unfold finish
  cases d.typeFilter text policy <;> simp [Except.map, eq_comm]

theorem typeFilter_isOk_iff {text : String} {policy : NoTypePolicy} {d : Draft} :
    (∃ types, d.typeFilter text policy = .ok types) ↔ (policy = .reject → d.anyType = true ∨ d.types ≠ 0) := by
  unfold typeFilter
  by_cases whole : d.anyType = true
  · simp [whole]
  · by_cases named : d.types ≠ 0
    · simp [whole, named]
    · cases policy <;> simp_all

end Draft

theorem compile_eq_ok {config : Config} {text : String} {s : Selector} :
    compile config text = .ok s ↔ ∃ tokens d, tokenize text = .ok tokens ∧
      (Draft.addAll text {} tokens).result = .ok d ∧ d.finish text config.noType = .ok s := by
  unfold compile Config.report
  cases tokenize text with
  | error e => simp
  | ok tokens =>
    cases drafted : (Draft.addAll text {} tokens).result with
    | error e => simp [drafted]
    | ok d =>
      cases finished : d.finish text config.noType <;> simp [drafted, finished]

theorem compile_isOk_iff {config : Config} {text : String} :
    (∃ s, compile config text = .ok s) ↔ ∃ tokens, tokenize text = .ok tokens ∧ Legal text tokens ∧
      (config.noType = .reject → ∃ word, .type word ∈ tokens) := by
  constructor
  · intro compiles
    obtain ⟨s, compiled⟩ := compiles
    obtain ⟨tokens, d, read, taken, finished⟩ := compile_eq_ok.mp compiled
    obtain ⟨types, typed, _⟩ := Draft.finish_eq_ok.mp finished
    refine ⟨tokens, read, Draft.addAll_legal taken, ?_⟩
    intro strict
    exact (Draft.describes_of_addAll taken).hasType.mpr (Draft.typeFilter_isOk_iff.mp ⟨types, typed⟩ strict)
  · intro allowed
    obtain ⟨tokens, read, legal, typed⟩ := allowed
    obtain ⟨d, taken⟩ := Draft.addAll_of_legal Draft.empty_describes (by simpa using legal)
    have named : config.noType = .reject → d.anyType = true ∨ d.types ≠ 0 :=
      fun strict => (Draft.describes_of_addAll taken).hasType.mp (typed strict)
    obtain ⟨types, found⟩ := Draft.typeFilter_isOk_iff.mpr named
    exact ⟨_, compile_eq_ok.mpr ⟨tokens, d, read, taken, Draft.finish_eq_ok.mpr ⟨types, found, rfl⟩⟩⟩

end CardQuery
