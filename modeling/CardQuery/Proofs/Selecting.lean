import CardQuery.Proofs.Meaning

namespace CardQuery
open Meaning

namespace Draft
variable {d : Draft} {tokens : List Token} (described : Describes d tokens)
include described

theorem ownerFilter_holds (c : Card) (view : Perspective) :
    d.ownerFilter.holds c view = true ↔ (∀ word, .owner word ∉ tokens) ∨ .owner .any ∈ tokens ∨
      (.owner .own ∈ tokens ∧ c.owner = view.own) ∨ (.owner .enemy ∈ tokens ∧ c.owner = view.enemy) := by
  simp only [← described.owner, ownerFilter]
  cases d.owner with
  | none => simp [OwnerFilter.holds]
  | some word => cases word <;> simp [OwnerFilter.holds]

theorem typeFilter_holds {text : String} {policy : NoTypePolicy} {types : TypeFilter}
    (typed : d.typeFilter text policy = .ok types) (c : Card) :
    types.holds c = true ↔ .type .card ∈ tokens ∨ (∃ word, .type word ∈ tokens ∧ word.Names c.type) ∨
      ((∀ word, .type word ∉ tokens) ∧ policy = .matchAny) := by
  unfold typeFilter at typed
  split at typed
  · rename_i whole
    cases typed
    simp [TypeFilter.holds, described.anyType.mp whole]
  · rename_i narrow
    have single : .type .card ∉ tokens := fun present => narrow (described.anyType.mpr present)
    split at typed
    · rename_i named
      cases typed
      have typed : ¬ ∀ word, .type word ∉ tokens := by
        obtain ⟨word, _, present⟩ := described.typed.mp named
        exact fun untyped => untyped word present
      rw [← described.types]
      simp [TypeFilter.holds, single, typed]
    · rename_i unnamed
      have untyped : ∀ word, .type word ∉ tokens := by
        intro word present
        by_cases whole : word = .card
        · subst whole; exact single present
        · exact unnamed (described.typed.mpr ⟨word, whole, present⟩)
      cases policy with
      | matchAny => cases typed; simp [TypeFilter.holds, untyped]
      | matchNone => cases typed; simp [TypeFilter.holds, untyped]
      | reject => cases typed

theorem zoneFilter_bit (zone : Zone) : d.zoneFilter.zones &&& zone.bit ≠ 0 ↔
    .zone zone.name ∈ tokens ∨ ((∀ name, .zone name ∉ tokens) ∧ zone = .play) := by
  rw [← described.zoned, ← described.zones]
  unfold zoneFilter
  cases d.zones with
  | none =>
    have inPlay := Zone.bit_and_bit .play zone
    simp only [ZoneFilter.play, inPlay]
    simp [eq_comm]
  | some zones => simp

theorem zoneFilter_holds (c : Card) :
    d.zoneFilter.holds c = true ↔
      .zone c.zone.name ∈ tokens ∨ ((∀ name, .zone name ∉ tokens) ∧ c.zone = .play) := by
  rw [ZoneFilter.holds, bne_iff_ne]
  exact zoneFilter_bit described c.zone

theorem tags_hold (c : Card) :
    d.tags.all (·.holds c) = true ↔ ∀ name, .tag name ∈ tokens → TagHolds c name := by
  rw [described.tags, List.all_eq_true]
  constructor
  · intro all name present
    have kept : TagFilter.ofName name ∈ tokens.filterMap Token.tagFilter? :=
      List.mem_filterMap.mpr ⟨_, present, rfl⟩
    exact TagFilter.ofName_holds.mp (all _ kept)
  · intro all f member
    obtain ⟨token, present, found⟩ := List.mem_filterMap.mp member
    cases token with
    | tag name => cases found; exact TagFilter.ofName_holds.mpr (all name present)
    | _ => cases found

end Draft

section Clauses
variable {selector : String} {c : Card}

theorem properties_cons {word : String} {rest : List String} :
    PropertiesSay (word :: rest) c ↔ PropertiesSay [word] c ∧ PropertiesSay rest c := by
  simp [PropertiesSay]

theorem properties_of_spelled {word : String} {token : Token} (spelled : Token.Spelled word token) :
    PropertiesSay [word] c ↔ ∀ name comparison, token = .property name comparison → ClauseHolds c name comparison := by
  constructor
  · intro held name comparison equal
    subst equal
    exact held word (by simp) name comparison spelled
  · intro held other present name comparison read
    obtain rfl : other = word := by simpa using present
    exact held name comparison (spelled.unique read)

-- A clause that holds has a number to order, so it does not stop.
theorem stops_cons_of_held {word : String} {rest : List String} {e : SelectorError}
    (held : PropertiesSay [word] c) : Stops selector c (word :: rest) e ↔ Stops selector c rest e := by
  constructor
  · intro stops
    cases stops with
    | here spelled ordering found unordered =>
      have holds := held word (by simp) _ _ spelled
      rw [clauseHolds_ordering ordering] at holds
      obtain ⟨n, _, number, _⟩ := holds
      rw [found] at number
      exact absurd (Option.some.inj number) (unordered n)
    | later _ stops => exact stops
  · exact .later held

theorem stops_cons_of_failed {word name : String} {comparison : Option Comparison} {rest : List String}
    {e : SelectorError} {f : PropertyFilter} (spelled : Token.Spelled word (.property name comparison))
    (compiled : PropertyFilter.compile "" name comparison = .ok f) (failed : ¬ PropertiesSay [word] c) :
    Stops selector c (word :: rest) e ↔ f.accepts c selector = .error e := by
  rw [PropertyFilter.accepts_eq_error compiled]
  constructor
  · intro stops
    cases stops with
    | here read ordering found unordered =>
      cases spelled.unique read
      exact ⟨_, _, _, rfl, ordering, found, unordered, rfl⟩
    | later held _ => exact absurd held failed
  · intro refused
    obtain ⟨op, raw, v, rfl, ordering, found, unordered, rfl⟩ := refused
    exact .here spelled ordering found unordered

theorem allAccept_held {word text : String} {token : Token} {tokens : List Token} (here : Token.Spelled word token)
    (clause : ∀ name comparison, token = .property name comparison →
      ∃ f, PropertyFilter.compile text name comparison = .ok f) (held : PropertiesSay [word] c) :
    PropertyFilter.allAccept c selector ((token :: tokens).filterMap Token.propertyFilter?) =
      PropertyFilter.allAccept c selector (tokens.filterMap Token.propertyFilter?) := by
  cases token with
  | property name comparison =>
    obtain ⟨f, compiled⟩ := clause name comparison rfl
    have compiled := PropertyFilter.compile_text compiled ""
    have holds := (properties_of_spelled here).mp held name comparison rfl
    have accepted := (PropertyFilter.accepts_eq_true compiled c selector).mpr holds
    simp [Token.propertyFilter?, compiled, Except.toOption, PropertyFilter.allAccept, accepted]
  | _ => rfl

-- The clauses in their order give what the property words give in theirs.
theorem allAccept_decides {text : String} {words : List String} {tokens : List Token}
    (spelled : List.Forall₂ Token.Spelled words tokens)
    (clauses : ∀ name comparison, .property name comparison ∈ tokens →
      ∃ f, PropertyFilter.compile text name comparison = .ok f) :
    (PropertyFilter.allAccept c selector (tokens.filterMap Token.propertyFilter?) = .ok true ↔
      PropertiesSay words c) ∧
    ∀ e, PropertyFilter.allAccept c selector (tokens.filterMap Token.propertyFilter?) = .error e ↔
      Stops selector c words e := by
  induction spelled with
  | nil =>
    refine ⟨by simp [PropertyFilter.allAccept, PropertiesSay], ?_⟩
    intro e
    apply iff_of_false (by simp [PropertyFilter.allAccept])
    intro stops
    cases stops
  | @cons word token words tokens here later ih =>
    have ih := ih fun name comparison present => clauses name comparison (List.mem_cons_of_mem _ present)
    have clause : ∀ name comparison, token = .property name comparison →
        ∃ f, PropertyFilter.compile text name comparison = .ok f :=
      fun name comparison equal => clauses name comparison (equal ▸ List.mem_cons_self ..)
    by_cases held : PropertiesSay [word] c
    · rw [allAccept_held here clause held, properties_cons]
      refine ⟨by simp [ih.1, held], ?_⟩
      intro e
      rw [ih.2, stops_cons_of_held held]
    · have failed : ∃ name comparison, token = .property name comparison ∧ ¬ ClauseHolds c name comparison := by
        by_contra none
        push Not at none
        exact held ((properties_of_spelled here).mpr none)
      obtain ⟨name, comparison, rfl, fails⟩ := failed
      obtain ⟨f, compiled⟩ := clause name comparison rfl
      have compiled := PropertyFilter.compile_text compiled ""
      have refused : f.accepts c selector ≠ .ok true :=
        fun accepted => fails ((PropertyFilter.accepts_eq_true compiled c selector).mp accepted)
      rw [properties_cons]
      simp only [stops_cons_of_failed here compiled held, List.filterMap_cons, Token.propertyFilter?, compiled,
        Except.toOption, PropertyFilter.allAccept]
      cases answer : f.accepts c selector with
      | error e => simp [held]
      | ok keep =>
        cases keep with
        | false => simp [held]
        | true => exact absurd answer refused

end Clauses

section Compiled
variable {config : Config} {text : String} {s : Selector} (compiled : compile config text = .ok s)
include compiled

theorem Selector.admits_iff (c : Card) (view : Perspective) :
    s.admits c view = true ↔ Admits config.noType (Text.words text) view c := by
  obtain ⟨tokens, d, read, taken, finished⟩ := compile_eq_ok.mp compiled
  obtain ⟨types, typed, rfl⟩ := Draft.finish_eq_ok.mp finished
  have described := Draft.describes_of_addAll taken
  have owner := Draft.ownerFilter_holds described c view
  have type := Draft.typeFilter_holds described typed c
  have zone := Draft.zoneFilter_holds described c
  have tags := Draft.tags_hold described c
  simp only [owner_mem_iff read, type_mem_iff read, zone_mem_iff read, tag_mem_iff read] at owner type zone tags
  simp only [admits, Bool.and_eq_true, owner, type, zone, tags]
  constructor
  · intro held
    obtain ⟨⟨⟨owner, type⟩, zone⟩, tags⟩ := held
    exact ⟨owner, type, zone, fun name nonempty present => tags name ⟨nonempty, present⟩⟩
  · intro said
    obtain ⟨owner, type, zone, tags⟩ := said
    exact ⟨⟨⟨owner, type⟩, zone⟩, fun name present => tags name present.1 present.2⟩

theorem Selector.allAccept_iff (c : Card) :
    (PropertyFilter.allAccept c s.text s.properties = .ok true ↔ PropertiesSay (Text.words text) c) ∧
    ∀ e, PropertyFilter.allAccept c s.text s.properties = .error e ↔ Stops text c (Text.words text) e := by
  obtain ⟨tokens, d, read, taken, finished⟩ := compile_eq_ok.mp compiled
  obtain ⟨types, typed, rfl⟩ := Draft.finish_eq_ok.mp finished
  have described := Draft.describes_of_addAll taken
  have legal := Draft.addAll_legal taken
  dsimp only
  rw [described.properties]
  exact allAccept_decides (tokenize_eq_ok.mp read) legal.clauses

theorem Selector.decides (view : Perspective) :
    Decides (s.accepts · view) (Satisfies config.noType (Text.words text) view)
      (Fails config.noType text view) := by
  refine ⟨?_, ?_⟩
  · intro c
    unfold accepts
    split
    · rename_i admitted
      rw [(Selector.allAccept_iff compiled c).1]
      have admits := (Selector.admits_iff compiled c view).mp admitted
      exact ⟨fun properties => ⟨admits, properties⟩, fun satisfied => satisfied.properties⟩
    · rename_i refused
      apply iff_of_false (by simp)
      intro satisfied
      exact refused ((Selector.admits_iff compiled c view).mpr satisfied.admitted)
  · intro c e
    unfold accepts
    split
    · rename_i admitted
      rw [(Selector.allAccept_iff compiled c).2]
      have admits := (Selector.admits_iff compiled c view).mp admitted
      exact ⟨fun stops => ⟨admits, stops⟩, fun failed => failed.stops⟩
    · rename_i refused
      apply iff_of_false (by simp)
      intro failed
      exact refused ((Selector.admits_iff compiled c view).mpr failed.admitted)

end Compiled

open Classical in
-- The first card that makes a property word fail gives the error.
theorem collect_compiled {config : Config} {text : String} {s : Selector} (compiled : compile config text = .ok s)
    (board : Board) (view : Perspective) :
    (∀ found, collect (s.accepts · view) board.allCards = .ok found ↔
      (∀ c ∈ board.allCards, ∀ e, ¬ Fails config.noType text view c e) ∧
      found = (board.allCards.filter fun c => Satisfies config.noType (Text.words text) view c).map (·.id)) ∧
    ∀ e, collect (s.accepts · view) board.allCards = .error e ↔
      ∃ before c after, board.allCards = before ++ c :: after ∧ Fails config.noType text view c e ∧
        ∀ d ∈ before, ∀ e', ¬ Fails config.noType text view d e' := by
  have decides := Selector.decides compiled view
  refine ⟨?_, ?_⟩
  · intro found
    exact collect_eq_ok decides
  · intro e
    exact collect_eq_error decides

def Board.lone (properties : Properties) : Board :=
  (Board.add {} .first
    { id := ⟨0⟩, definition := ⟨0⟩, owner := .first, zone := .play, type := .minion, properties := properties }).2

open Classical in
theorem own_strong_minion_found :
    ∃ s, compile {} "own minion .attack>2" = .ok s ∧
      (∀ c ∈ (Board.lone { attack := 3 }).allCards, ∀ e,
        ¬ Fails .matchAny "own minion .attack>2" (.of .first) c e) ∧
      [⟨0⟩] = ((Board.lone { attack := 3 }).allCards.filter fun c =>
        Satisfies .matchAny ["own", "minion", ".attack>2"] (.of .first) c).map (·.id) := by
  refine ⟨⟨"own minion .attack>2", .own, .only CardType.minion.bit, .play, [], [⟨.attack, .order .gt 2⟩]⟩, rfl, ?_⟩
  have compiled := @collect_compiled {} "own minion .attack>2" _ rfl (Board.lone { attack := 3 }) (.of .first)
  exact (compiled.1 [⟨0⟩]).mp rfl

end CardQuery
