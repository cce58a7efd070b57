import CardQuery.Proofs.Accounts
import CardQuery.Proofs.WordSets

namespace CardQuery
open Token

def TagName (name : String) : Prop :=
  name ∈ ["battlecry", "deathrattle", "aura", "trigger", "overload"] ∨ ∃ tag : Tag, name = tag.name

-- A word of the grammar that names nothing, and the warning of it.
inductive Odd (text : String) : String → Event → Prop where
  | zone (unnamed : ∀ zone : Zone, name ≠ zone.name) : Odd text ("@" ++ name) (.unknownZone text name)
  | tag (nonempty : name ≠ "") (unnamed : ¬ TagName name) : Odd text ("#" ++ name) (.unknownTag text name)
  | word (plain : IsPlain word) : Odd text word (.unknownWord text word)

-- One warning for each odd word, in the order of the words.
inductive Warned (text : String) : List String → List Event → Prop where
  | nil : Warned text [] []
  | odd (odd : Odd text word e) (later : Warned text words warnings) : Warned text (word :: words) (e :: warnings)
  | clear (clear : ∀ e, ¬ Odd text word e) (later : Warned text words warnings) : Warned text (word :: words) warnings

def marked (mark : Char) (word : String) : Bool := word.toList.head? == some mark

-- Tag and property words by their number, zones by their bits.
structure Summary (words : List String) (e : Event) : Prop where
  severity : e.severity = .debug
  message : e.message = "compiled selector"
  tags : ("tags", .number (words.countP (marked '#'))) ∈ e.details
  properties : ("properties", .number (words.countP (marked '.'))) ∈ e.details
  zones : ∃ mask : UInt8, ("zones", .number mask.toNat) ∈ e.details ∧ mask.toNat < 2 ^ 6 ∧
    ∀ zone : Zone, mask &&& zone.bit ≠ 0 ↔ "@" ++ zone.name ∈ words ∨ (∀ name, "@" ++ name ∉ words) ∧ zone = .play

-- All that can come of compiling a text, with what is reported on the way.
inductive Tells (policy : NoTypePolicy) (text : String) : Except SelectorError Selector → List Event → Prop where
  | unread (cut : Text.words text = before ++ word :: after) (legible : ∀ other ∈ before, Legible other)
      (flawed : Flawed word fault) : Tells policy text (.error (.malformed text word (.word fault))) []
  | stopped (legible : ∀ word ∈ Text.words text, Legible word) (cut : Text.words text = before ++ word :: after)
      (earlier : Inoffensive text before) (offends : Offends text before word e) (warned : Warned text before warnings) :
      Tells policy text (.error e) warnings
  | untyped (legible : ∀ word ∈ Text.words text, Legible word) (inoffensive : Inoffensive text (Text.words text))
      (strict : policy = .reject) (untyped : ∀ word : TypeWord, word.text ∉ Text.words text)
      (warned : Warned text (Text.words text) warnings) : Tells policy text (.error (.meaningless text .noType)) warnings
  | compiled (legible : ∀ word ∈ Text.words text, Legible word) (inoffensive : Inoffensive text (Text.words text))
      (warned : Warned text (Text.words text) warnings) (summary : Summary (Text.words text) (.compiled s)) :
      Tells policy text (.ok s) (warnings ++ [.compiled s])

section Odd
variable {text word : String} {token : Token} {e : Event}

theorem TagFilter.ofName_eq_unknown {name other : String} :
    ofName name = .unknown other ↔ ¬ TagName name ∧ other = name := by
  constructor
  · intro unknown
    unfold ofName at unknown
    repeat' split at unknown
    all_goals cases unknown
    rename_i none
    refine ⟨?_, rfl⟩
    intro named
    rcases named with behaviour | ⟨tag, rfl⟩
    · simp_all
    · rw [Tag.ofName?_name] at none
      cases none
  · intro given
    obtain ⟨unnamed, rfl⟩ := given
    obtain ⟨behaviour, tag⟩ := not_or.mp unnamed
    simp only [List.mem_cons, List.not_mem_nil, or_false, not_or] at behaviour
    obtain ⟨battlecry, deathrattle, aura, trigger, overload⟩ := behaviour
    have none : Tag.ofName? other = none := by
      rw [Tag.ofName?, List.find?_eq_none]
      intro found _ named
      exact tag ⟨found, (beq_iff_eq.mp named).symm⟩
    simp [ofName, battlecry, deathrattle, aura, trigger, overload, none]

theorem odd_iff (spelled : Spelled word token) : Odd text word e ↔ token.warning? text = some e := by
  constructor
  · intro odd
    cases odd with
    | @zone name unnamed =>
      obtain rfl := spelled.unique (.zone name)
      have none : Zone.ofName? name = none := by
        cases found : Zone.ofName? name with
        | none => rfl
        | some zone => exact absurd (Zone.ofName?_eq_some.mp found) (unnamed zone)
      simp [warning?, none]
    | tag nonempty unnamed =>
      obtain rfl := spelled.unique (.tag nonempty)
      rw [warning?, TagFilter.ofName_eq_unknown.mpr ⟨unnamed, rfl⟩]
    | word plain =>
      obtain rfl := spelled.unique (.unknown plain)
      rfl
  · intro warns
    cases spelled with
    | owner | type | present | compared => cases warns
    | zone name =>
      rw [warning?] at warns
      split at warns
      · rename_i none
        cases warns
        refine .zone ?_
        intro zone named
        simp [named, Zone.ofName?_name] at none
      · cases warns
    | tag nonempty =>
      rw [warning?] at warns
      split at warns
      · rename_i unknown
        cases warns
        exact .tag nonempty (TagFilter.ofName_eq_unknown.mp unknown).1
      · cases warns
    | unknown plain =>
      cases warns
      exact .word plain

end Odd

section Warned
variable {text : String} {tokens : List Token} {warnings : List Event}

theorem warned_iff (written : ∀ t ∈ tokens, Spelled t.render t) :
    Warned text (tokens.map render) warnings ↔ warnings = tokens.filterMap (warning? text) := by
  induction tokens generalizing warnings with
  | nil =>
    constructor
    · intro warned
      cases warned
      rfl
    · intro none
      exact none ▸ .nil
  | cons token rest ih =>
    have here (e : Event) := @odd_iff text token.render token e (written token List.mem_cons_self)
    have later {warnings : List Event} := @ih warnings fun t inside => written t (List.mem_cons_of_mem _ inside)
    rw [List.map_cons]
    cases warns : token.warning? text with
    | none =>
      rw [List.filterMap_cons_none warns, ← later]
      constructor
      · intro warned
        cases warned with
        | odd odd _ => cases warns.symm.trans ((here _).mp odd)
        | clear _ onward => exact onward
      · intro onward
        refine .clear ?_ onward
        intro e odd
        cases warns.symm.trans ((here e).mp odd)
    | some e =>
      rw [List.filterMap_cons_some warns]
      constructor
      · intro warned
        cases warned with
        | odd odd onward =>
          cases warns.symm.trans ((here _).mp odd)
          rw [later.mp onward]
        | clear clear _ => exact absurd ((here e).mpr warns) (clear e)
      · intro same
        exact same ▸ .odd ((here e).mpr warns) (later.mpr rfl)

theorem Warned.severity {words : List String} (warned : Warned text words warnings) :
    ∀ e ∈ warnings, e.severity = .warning := by
  induction warned with
  | nil => exact fun _ inside => by cases inside
  | odd odd _ ih =>
    intro other inside
    rcases List.mem_cons.mp inside with rfl | old
    · cases odd <;> rfl
    · exact ih other old
  | clear _ _ ih => exact ih

end Warned

namespace Draft
variable {text : String}

-- The warnings of what was taken in stand, whatever comes after.
theorem addAll_append {d mid : Draft} {front : List Token} (taken : (d.addAll text front).result = .ok mid)
    (back : List Token) : d.addAll text (front ++ back) =
      ⟨front.filterMap (warning? text) ++ (mid.addAll text back).events, (mid.addAll text back).result⟩ := by
  induction front generalizing d with
  | nil =>
    cases taken
    rfl
  | cons token rest ih =>
    obtain ⟨next, takes, later⟩ := addAll_cons_eq_ok.mp taken
    rw [List.cons_append, addAll, add_eq_ok.mpr takes]
    dsimp only
    rw [ih later]
    cases warns : token.warning? text with
    | none => rw [List.filterMap_cons_none warns, Option.toList_none, List.nil_append]
    | some e => rw [List.filterMap_cons_some warns, Option.toList_some, List.singleton_append, List.cons_append]

theorem addAll_events {tokens : List Token} {d : Draft} (taken : (addAll text {} tokens).result = .ok d) :
    (addAll text {} tokens).events = tokens.filterMap (warning? text) := by
  have whole := congrArg Reported.events (addAll_append taken [])
  rw [List.append_nil] at whole
  exact whole.trans (List.append_nil _)

theorem addAll_stopped {front : List Token} {token : Token} {mid : Draft} {e : SelectorError}
    (taken : (addAll text {} front).result = .ok mid) (refuses : Refuses text mid token e) (back : List Token) :
    (addAll text {} (front ++ token :: back)).events = front.filterMap (warning? text) := by
  rw [addAll_append taken, addAll, add_eq_error.mpr refuses]
  exact List.append_nil _

end Draft

section Marks
variable {word : String} {token : Token} {tokens : List Token} {mark : Char}

def Token.mark? : Token → Option Char
  | .zone _ => some '@'
  | .tag _ => some '#'
  | .property _ _ => some '.'
  | .owner _ | .type _ | .unknown _ => none

theorem marked_append {front : String} {c : Char} {cs : List Char} (chars : front.toList = c :: cs) (mark : Char)
    (rest : String) : marked mark (front ++ rest) = (c == mark) := by
  simp [marked, String.toList_append, chars]

theorem marked_eq (spelled : Spelled word token) (special : mark = '@' ∨ mark = '#' ∨ mark = '.') :
    marked mark word = (token.mark? == some mark) := by
  cases spelled with
  | owner word => rcases special with rfl | rfl | rfl <;> cases word <;> rfl
  | type word => rcases special with rfl | rfl | rfl <;> cases word <;> rfl
  | zone name => exact marked_append (show "@".toList = ['@'] from rfl) mark name
  | @tag name => exact marked_append (show "#".toList = ['#'] from rfl) mark name
  | @present name => exact marked_append (show ".".toList = ['.'] from rfl) mark name
  | @compared name value op =>
    rw [String.append_assoc, String.append_assoc]
    exact marked_append (show ".".toList = ['.'] from rfl) mark _
  | unknown plain =>
    have other : word.toList.head? ≠ some mark := by
      intro marks
      obtain ⟨zone, tag, property⟩ := plain.unmarked mark marks
      rcases special with same | same | same
      · exact zone same
      · exact tag same
      · exact property same
    rw [marked, beq_false_of_ne other]
    rfl

theorem countP_marked (written : ∀ t ∈ tokens, Spelled t.render t) (special : mark = '@' ∨ mark = '#' ∨ mark = '.') :
    (tokens.map render).countP (marked mark) = tokens.countP (·.mark? == some mark) := by
  rw [List.countP_map]
  apply List.countP_congr
  intro t inside
  rw [Function.comp_apply, marked_eq (written t inside) special]

end Marks

section Summary
variable {text : String} {tokens : List Token} {d : Draft} (taken : (Draft.addAll text {} tokens).result = .ok d)
include taken

theorem length_tags : d.tags.length = tokens.countP (·.mark? == some '#') := by
  rw [(Draft.describes_of_addAll taken).tags, List.length_filterMap_eq_countP]
  apply List.countP_congr
  intro t _
  cases t <;> simp [tagFilter?, mark?]

-- A property word that does not compile would have stopped the draft.
theorem length_properties : d.properties.length = tokens.countP (·.mark? == some '.') := by
  rw [(Draft.describes_of_addAll taken).properties, List.length_filterMap_eq_countP]
  apply List.countP_congr
  intro t inside
  cases t with
  | property name c =>
    obtain ⟨f, compiled⟩ := (Draft.addAll_legal taken).clauses name c inside
    simp [propertyFilter?, mark?, PropertyFilter.compile_text compiled "", Except.toOption]
  | owner | type | zone | tag | unknown => simp [propertyFilter?, mark?]

theorem zoneFilter_small : d.zoneFilter.zones.toNat < 2 ^ 6 := by
  have small := (Draft.trim_of_addAll taken).zones
  rw [Draft.zoneFilter]
  cases zones : d.zones with
  | none => decide
  | some mask => simpa [zones] using small

theorem summary_of (read : tokenize text = .ok tokens) (owner : OwnerFilter) (types : TypeFilter) :
    Summary (Text.words text) (.compiled ⟨text, owner, types, d.zoneFilter, d.tags, d.properties⟩) := by
  have written := written_of_tokenize read
  refine ⟨rfl, rfl, ?_, ?_, d.zoneFilter.zones, ?_, zoneFilter_small taken, ?_⟩
  · rw [← render_of_tokenize read, countP_marked written (.inr (.inl rfl)), ← length_tags taken]
    simp [Event.details]
  · rw [← render_of_tokenize read, countP_marked written (.inr (.inr rfl)), ← length_properties taken]
    simp [Event.details]
  · simp [Event.details]
  · intro zone
    simp only [← zone_mem_iff read]
    exact Draft.zoneFilter_bit (Draft.describes_of_addAll taken) zone

end Summary

section Report
variable (config : Config) (text : String)

theorem report_tells : Tells config.noType text (config.report text).result (config.report text).events := by
  cases read : tokenize text with
  | error e =>
    obtain ⟨before, word, after, fault, cut, legible, flawed, rfl⟩ := tokenize_eq_error.mp read
    rw [Config.report, read]
    exact .unread cut legible flawed
  | ok tokens =>
    have legible := tokenize_isOk_iff.mp ⟨tokens, read⟩
    have words := render_of_tokenize read
    have written := written_of_tokenize read
    rw [Config.report, read]
    dsimp only
    cases taken : (Draft.addAll text {} tokens).result with
    | error e =>
      obtain ⟨front, token, back, mid, rfl, drafted, refuses⟩ := Draft.addAll_eq_error.mp taken
      have inside : ∀ t ∈ front, Spelled t.render t := fun t present => written t (List.mem_append_left _ present)
      have spelled : Spelled token.render token := written token (by simp)
      have offends := (offends_iff inside (Draft.describes_of_addAll drafted) spelled).mpr refuses
      have warned := (warned_iff inside).mpr (Draft.addAll_stopped drafted refuses back)
      rw [List.map_append, List.map_cons] at words
      exact .stopped legible words.symm ((inoffensive_iff inside).mpr ⟨mid, drafted⟩) offends warned
    | ok d =>
      have described := Draft.describes_of_addAll taken
      have inoffensive : Inoffensive text (Text.words text) := words ▸ (inoffensive_iff written).mpr ⟨d, taken⟩
      have warned : Warned text (Text.words text) (Draft.addAll text {} tokens).events :=
        words ▸ (warned_iff written).mpr (Draft.addAll_events taken)
      dsimp only
      cases finished : d.finish text config.noType with
      | error e =>
        obtain ⟨strict, untyped, rfl⟩ := (Draft.finish_eq_error described).mp finished
        have unnamed : ∀ word : TypeWord, word.text ∉ Text.words text :=
          fun word present => untyped word ((type_mem_iff read word).mpr present)
        exact .untyped legible inoffensive strict unnamed warned
      | ok s =>
        obtain ⟨types, _, rfl⟩ := Draft.finish_eq_ok.mp finished
        exact .compiled legible inoffensive warned (summary_of taken read d.ownerFilter types)

theorem report_compiled : (config.report text).events.filter (·.severity == .debug) =
    ((compile config text).toOption.map Event.compiled).toList := by
  have told := report_tells config text
  rw [compile]
  generalize config.report text = reported at told ⊢
  obtain ⟨events, result⟩ := reported
  have quiet {words : List String} {warnings : List Event} (warned : Warned text words warnings) :
      warnings.filter (·.severity == .debug) = [] := by
    rw [List.filter_eq_nil_iff]
    intro e inside
    rw [warned.severity e inside]
    decide
  cases told with
  | unread => rfl
  | stopped _ _ _ _ warned => exact quiet warned
  | untyped _ _ _ _ warned => exact quiet warned
  | @compiled warnings s _ _ warned _ =>
    show (warnings ++ [Event.compiled s]).filter (·.severity == .debug) = [.compiled s]
    rw [List.filter_append, quiet warned]
    rfl

end Report

namespace Engine

def events (e : Engine) : Call → List Event
  | .evaluate board player text => (e.evaluate board player text).events
  | .prepare text => (e.prepare text).events
  | .clearCache | .resetCounters => []

section Step
variable {e : Engine} {call : Call} {text : String}

theorem prepare_kept (caching : e.config.caching = true) (kept : e.cache.contains text = true) :
    (e.prepare text).events = [.cacheHit text] := by
  obtain ⟨s, found⟩ := Option.isSome_iff_exists.mp kept
  simp only [prepare, caching, found, ↓reduceIte]

theorem prepare_anew (absent : e.cache.contains text = false) : (e.prepare text).events = (e.config.report text).events := by
  have none : e.cache.get? text = none := Option.isSome_eq_false_iff.mp absent |> Option.isNone_iff_eq_none.mp
  simp only [prepare, none]
  split
  · split <;> rfl
  · rfl

-- An evaluation on the general path reports what preparing its text does.
theorem events_prepared (prepares : call.prepares? = some text) :
    ∃ counted : Engine, counted.config = e.config ∧ counted.cache = e.cache ∧
      e.events call = (counted.prepare text).events := by
  cases call with
  | prepare other =>
    cases prepares
    exact ⟨e, rfl, rfl, rfl⟩
  | evaluate board player other =>
    have route := congrArg Prod.snd (evaluate_route e board player other)
    cases admitted : (Call.evaluate board player other).admitted? with
    | none => cases prepares.symm.trans (Call.slow?_refused admitted)
    | some given =>
      cases short : Shortcut.texts.contains given with
      | true => cases prepares.symm.trans (Call.slow?_short admitted short)
      | false =>
        cases prepares.symm.trans (Call.slow?_long admitted short)
        simp only [admitted, short] at route
        exact ⟨_, by simp, by simp, route⟩
  | clearCache | resetCounters => cases prepares

theorem events_unprepared (direct : call.prepares? = none) :
    e.events call = (call.admitted?.map Event.shortcut).toList := by
  cases call with
  | prepare other => cases direct
  | evaluate board player other =>
    have route := congrArg Prod.snd (evaluate_route e board player other)
    cases admitted : (Call.evaluate board player other).admitted? with
    | none =>
      rw [admitted] at route
      exact route
    | some given =>
      cases short : Shortcut.texts.contains given with
      | true =>
        simp only [admitted, short, ↓reduceIte] at route
        exact route
      | false => cases direct.symm.trans (Call.slow?_long admitted short)
  | clearCache | resetCounters => rfl

end Step

-- The engine caches, and the text was prepared and compiled since the cache was last cleared.
def Cached (config : Config) (calls : List Call) (text : String) : Prop :=
  config.caching = true ∧ (∃ s, compile config text = .ok s) ∧ ∃ call ∈ sinceClear calls, call.prepares? = some text

theorem run_events (config : Config) (calls : List Call) {call : Call} {text : String}
    (prepares : call.prepares? = some text) :
    (Cached config calls text → ((ofConfig config).run calls).events call = [.cacheHit text]) ∧
      (¬ Cached config calls text → ((ofConfig config).run calls).events call = (config.report text).events) := by
  obtain ⟨counted, same, cache, events⟩ := @events_prepared ((ofConfig config).run calls) call text prepares
  have contained := contains_run config calls text
  rw [← cache] at contained
  rw [(reached_sound config calls).kept] at same
  rw [events]
  constructor
  · intro cached
    exact prepare_kept (same ▸ cached.1) (contained.mpr cached)
  · intro anew
    rw [← same]
    exact prepare_anew (Bool.eq_false_iff.mpr (mt contained.mp anew))

theorem compilation_reported (config : Config) :
    (∀ text, Tells config.noType text (compile config text) (config.report text).events ∧
      (config.report text).events.filter (·.severity == .debug) =
        ((compile config text).toOption.map Event.compiled).toList) ∧
    ∀ calls call,
      (∀ text, call.prepares? = some text →
        (Cached config calls text → ((ofConfig config).run calls).events call = [.cacheHit text]) ∧
        (¬ Cached config calls text → ((ofConfig config).run calls).events call = (config.report text).events)) ∧
      (call.prepares? = none →
        ((ofConfig config).run calls).events call = (call.admitted?.map Event.shortcut).toList) := by
  refine ⟨?_, ?_⟩
  · intro text
    exact ⟨report_tells config text, report_compiled config text⟩
  · intro calls call
    exact ⟨fun text => run_events config calls, events_unprepared⟩

def typo : String := "own @hnd minion #tuant .cost>1 foo"

-- A second preparation does not warn again, one behind a clearing does.
theorem typo_reported : ∃ s, compile {} typo = .ok s ∧
    ((ofConfig {}).run []).events (.prepare typo) =
      [.unknownZone typo "hnd", .unknownTag typo "tuant", .unknownWord typo "foo", .compiled s] ∧
    ((ofConfig {}).run [.prepare typo]).events (.evaluate .empty .first typo) = [.cacheHit typo] ∧
    ((ofConfig {}).run [.prepare typo, .clearCache]).events (.prepare typo) =
      ((ofConfig {}).run []).events (.prepare typo) := by
  obtain ⟨_, reports⟩ := compilation_reported {}
  have compiles : ∃ s, compile {} typo = .ok s := ⟨_, rfl⟩
  have first := ((reports [] (.prepare typo)).1 typo rfl).2 fun cached => by
    obtain ⟨_, _, call, inside, _⟩ := cached
    cases inside
  have again := ((reports [.prepare typo, .clearCache] (.prepare typo)).1 typo rfl).2 fun cached => by
    obtain ⟨_, _, call, inside, _⟩ := cached
    cases inside
  have found := ((reports [.prepare typo] (.evaluate .empty .first typo)).1 typo rfl).1
    ⟨rfl, compiles, .prepare typo, .head _, rfl⟩
  exact ⟨_, rfl, first, found, again.trans first.symm⟩

end Engine

end CardQuery
