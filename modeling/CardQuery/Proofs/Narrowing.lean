import CardQuery.Proofs.Refusals
import CardQuery.Proofs.Reordering

namespace CardQuery
open Meaning Token

theorem Token.Spelled.ne {word word' : String} {token token' : Token} (spelled : Spelled word token)
    (spelled' : Spelled word' token') (differ : token ≠ token') : word ≠ word' := by
  intro same
  subst same
  exact differ (spelled.unique spelled')

def Token.Silent (word : String) : Prop := ∀ name comparison, ¬ Spelled word (.property name comparison)

theorem Token.Spelled.silent {word : String} {token : Token} (spelled : Spelled word token)
    (other : ∀ name comparison, token ≠ .property name comparison) : Silent word := by
  intro name comparison read
  exact other name comparison (spelled.unique read)

-- A word of the grammar that is neither an owner word nor a property word.
structure Token.Mild (word : String) : Prop where
  legible : Legible word
  notOwner : ∀ owner : OwnerWord, owner.text ≠ word
  silent : ∀ name comparison, ¬ Spelled word (.property name comparison)

theorem Token.Spelled.mild {word : String} {token : Token} (spelled : Spelled word token)
    (notOwner : ∀ owner, .owner owner ≠ token) (silent : ∀ name comparison, token ≠ .property name comparison) :
    Mild word := by
  refine ⟨spelled.legible, ?_, spelled.silent silent⟩
  intro owner
  exact (Spelled.owner owner).ne spelled (notOwner owner)

-- Silent words that agree on one owner leave a text admissible; whether a type is named is another matter.
theorem Admissible.of_silent {policy policy' : NoTypePolicy} {ws ws' : List String} (admissible : Admissible policy ws)
    (words : ∀ word ∈ ws', word ∈ ws ∨ (Legible word ∧ Silent word))
    (oneOwner : ∀ a b : OwnerWord, a.text ∈ ws' → b.text ∈ ws' → a = b)
    (typed : policy' = .reject → ∃ word : TypeWord, word.text ∈ ws') : Admissible policy' ws' := by
  have property : ∀ word ∈ ws', ∀ name comparison, Spelled word (.property name comparison) → word ∈ ws := by
    intro word present name comparison spelled
    rcases words _ present with old | ⟨_, silent⟩
    · exact old
    · exact absurd spelled (silent name comparison)
  refine ⟨?_, oneOwner, ?_, ?_, typed⟩
  · intro word present
    rcases words word present with old | ⟨legible, _⟩
    · exact admissible.legible word old
    · exact legible
  · intro word present name op raw spelled
    exact admissible.orders word (property word present name _ spelled) name op raw spelled
  · intro word present name raw spelled
    exact admissible.patterns word (property word present name _ spelled) name raw spelled

theorem Admissible.of_mild {policy policy' : NoTypePolicy} {ws ws' : List String} (admissible : Admissible policy ws)
    (words : ∀ word ∈ ws', word ∈ ws ∨ Mild word)
    (typed : policy' = .reject → ∃ word : TypeWord, word.text ∈ ws') : Admissible policy' ws' := by
  have owner : ∀ owner : OwnerWord, owner.text ∈ ws' → owner.text ∈ ws := by
    intro owner present
    rcases words _ present with old | mild
    · exact old
    · exact absurd rfl (mild.notOwner owner)
  apply admissible.of_silent
  · intro word present
    exact (words word present).imp_right fun mild => ⟨mild.legible, mild.silent⟩
  · intro a b left right
    exact admissible.oneOwner a b (owner a left) (owner b right)
  · exact typed

namespace Meaning

section Axes
variable {policy : NoTypePolicy} {ws ws' : List String} {view : Perspective} {c : Card}

theorem ownerSays_congr (same : ∀ word : OwnerWord, word.text ∈ ws' ↔ word.text ∈ ws) :
    OwnerSays ws' view c ↔ OwnerSays ws view c := by
  have any : "any" ∈ ws' ↔ "any" ∈ ws := same .any
  have own : "own" ∈ ws' ↔ "own" ∈ ws := same .own
  have enemy : "enemy" ∈ ws' ↔ "enemy" ∈ ws := same .enemy
  simp only [OwnerSays, same, any, own, enemy]

theorem typeSays_congr (same : ∀ word : TypeWord, word.text ∈ ws' ↔ word.text ∈ ws) :
    TypeSays policy ws' c ↔ TypeSays policy ws c := by
  have card : "card" ∈ ws' ↔ "card" ∈ ws := same .card
  simp only [TypeSays, same, card]

theorem zoneSays_congr (same : ∀ name, "@" ++ name ∈ ws' ↔ "@" ++ name ∈ ws) : ZoneSays ws' c ↔ ZoneSays ws c := by
  simp only [ZoneSays, same]

theorem tagsSay_congr (same : ∀ name, name ≠ "" → ("#" ++ name ∈ ws' ↔ "#" ++ name ∈ ws)) :
    TagsSay ws' c ↔ TagsSay ws c := by
  constructor
  · intro said name nonempty present
    exact said name nonempty ((same name nonempty).mpr present)
  · intro said name nonempty present
    exact said name nonempty ((same name nonempty).mp present)

end Axes

section Properties
variable {c : Card} {before extra after : List String}

theorem propertiesSay_append : PropertiesSay (before ++ after) c ↔ PropertiesSay before c ∧ PropertiesSay after c := by
  simp only [PropertiesSay, List.mem_append, or_imp, forall_and]

theorem propertiesSay_silent (silent : ∀ word ∈ extra, Silent word) : PropertiesSay extra c := by
  intro word present name comparison spelled
  exact absurd spelled (silent word present name comparison)

theorem not_undecidable_of_silent {word : String} (silent : Silent word) : ¬ Undecidable c word := by
  intro undecidable
  obtain ⟨name, op, raw, v, spelled, _⟩ := undecidable
  exact silent name _ spelled

theorem not_rejects_of_silent {word : String} (silent : Silent word) : ¬ Rejects c word := by
  intro rejects
  exact rejects.1 (propertiesSay_silent fun other present => (List.mem_singleton.mp present) ▸ silent)

-- Property words meet each other in the same order with or without the silent ones.
theorem stuck_silent (silent : ∀ word ∈ extra, Silent word) :
    Stuck c (before ++ (extra ++ after)) ↔ Stuck c (before ++ after) := by
  induction before with
  | cons word before ih => rw [List.cons_append, List.cons_append, stuck_cons, stuck_cons, ih]
  | nil =>
    rw [List.nil_append, List.nil_append]
    induction extra with
    | nil => rfl
    | cons word extra ih =>
      have here := silent word (by simp)
      have later := ih fun other present => silent other (List.mem_cons_of_mem _ present)
      rw [List.cons_append, stuck_cons]
      simp only [not_undecidable_of_silent here, not_rejects_of_silent here, later, false_or, not_false_eq_true, true_and]

theorem stuck_insert_silent {word : String} (silent : Silent word) :
    Stuck c (before ++ word :: after) ↔ Stuck c (before ++ after) :=
  @stuck_silent c before [word] after (List.forall_mem_singleton.mpr silent)

theorem propertiesSay_insert_silent {word : String} (silent : Silent word) :
    PropertiesSay (before ++ word :: after) c ↔ PropertiesSay (before ++ after) c := by
  have alone : PropertiesSay [word] c := propertiesSay_silent (List.forall_mem_singleton.mpr silent)
  rw [propertiesSay_append, properties_cons, propertiesSay_append, and_iff_right alone]

theorem propertiesSay_mild (mild : ∀ word ∈ extra, Mild word) : PropertiesSay extra c :=
  propertiesSay_silent fun word present => (mild word present).silent

theorem stuck_mild (mild : ∀ word ∈ extra, Mild word) :
    Stuck c (before ++ (extra ++ after)) ↔ Stuck c (before ++ after) :=
  stuck_silent fun word present => (mild word present).silent

end Properties

-- The cards an evaluation finds if nothing fails.
def Kept (config : Config) (player : PlayerId) (text : String) (c : Card) : Prop :=
  Satisfies config.noType (Text.words text) (.of player) c

end Meaning

def Engine.resultAfter (config : Config) (earlier : List Call) (board : Board) (player : PlayerId) (text : String) :
    Except SelectorError ResultSet := (((ofConfig config).run earlier).evaluate board player text).result

section Insert
variable {config : Config} {board : Board} {player : PlayerId} {text text' : String} {before after : List String}
  (words : Text.words text = before ++ after)
include words

-- The word spells something else, so it stands in no way of other words.
theorem mem_insert_iff {word other : String} {token token' : Token} (spelled : Spelled word token)
    (words' : Text.words text' = before ++ word :: after) (spelled' : Spelled other token')
    (differ : token' ≠ token) : other ∈ Text.words text' ↔ other ∈ Text.words text := by
  have ne := spelled'.ne spelled differ
  simp [words, words', ne]

-- Tag and property words leave the other axes as they are.
theorem Meaning.axes_insert {word : String} {token : Token} (spelled : Spelled word token)
    (words' : Text.words text' = before ++ word :: after) (notOwner : ∀ owner, .owner owner ≠ token)
    (notType : ∀ type, .type type ≠ token) (notZone : ∀ name, .zone name ≠ token) (policy : NoTypePolicy)
    (view : Perspective) (c : Card) :
    (OwnerSays (Text.words text') view c ↔ OwnerSays (Text.words text) view c) ∧
    (TypeSays policy (Text.words text') c ↔ TypeSays policy (Text.words text) c) ∧
    (ZoneSays (Text.words text') c ↔ ZoneSays (Text.words text) c) := by
  refine ⟨ownerSays_congr ?_, typeSays_congr ?_, zoneSays_congr ?_⟩
  · intro owner
    exact mem_insert_iff words spelled words' (.owner owner) (notOwner owner)
  · intro type
    exact mem_insert_iff words spelled words' (.type type) (notType type)
  · intro name
    exact mem_insert_iff words spelled words' (.zone name) (notZone name)

section Tag
variable {name : String} (nonempty : name ≠ "") (words' : Text.words text' = before ++ ("#" ++ name) :: after)
include nonempty words'

theorem Meaning.admits_insert_tag (policy : NoTypePolicy) (view : Perspective) (c : Card) :
    Admits policy (Text.words text') view c ↔ Admits policy (Text.words text) view c ∧ TagHolds c name := by
  obtain ⟨owner, type, zone⟩ := axes_insert words (.tag nonempty) words' nofun nofun nofun policy view c
  have tags : TagsSay (Text.words text') c ↔ TagsSay (Text.words text) c ∧ TagHolds c name := by
    have present : ∀ other, "#" ++ other ∈ Text.words text' ↔ "#" ++ other ∈ Text.words text ∨ other = name := by
      intro other
      simp only [words, words', List.mem_append, List.mem_cons, String.append_right_inj, or_comm, or_left_comm]
    constructor
    · intro said
      refine ⟨?_, said name nonempty ((present name).mpr (.inr rfl))⟩
      intro other nonblank old
      exact said other nonblank ((present other).mpr (.inl old))
    · intro both other nonblank member
      rcases (present other).mp member with old | rfl
      · exact both.1 other nonblank old
      · exact both.2
  constructor
  · intro admits
    obtain ⟨said, held⟩ := tags.mp admits.tags
    exact ⟨⟨owner.mp admits.owner, type.mp admits.type, zone.mp admits.zone, said⟩, held⟩
  · intro both
    obtain ⟨admits, held⟩ := both
    exact ⟨owner.mpr admits.owner, type.mpr admits.type, zone.mpr admits.zone, tags.mpr ⟨admits.tags, held⟩⟩

omit words words' in
theorem Token.mild_tag : Mild ("#" ++ name) := (Spelled.tag nonempty).mild nofun nofun

theorem Meaning.stuck_insert_tag (c : Card) : Stuck c (Text.words text') ↔ Stuck c (Text.words text) := by
  rw [words, words']
  exact stuck_insert_silent (mild_tag nonempty).silent

theorem Meaning.kept_insert_tag (c : Card) :
    Kept config player text' c ↔ Kept config player text c ∧ TagHolds c name := by
  have admits := admits_insert_tag words nonempty words' config.noType (.of player) c
  have properties : PropertiesSay (Text.words text') c ↔ PropertiesSay (Text.words text) c := by
    rw [words, words']
    exact propertiesSay_insert_silent (mild_tag nonempty).silent
  constructor
  · intro kept
    obtain ⟨admitted, held⟩ := admits.mp kept.admitted
    exact ⟨⟨admitted, properties.mp kept.properties⟩, held⟩
  · intro both
    obtain ⟨kept, held⟩ := both
    exact ⟨admits.mpr ⟨kept.admitted, held⟩, properties.mpr kept.properties⟩

-- Fewer cards are examined, and by the same property words in the same order.
theorem Meaning.Answers.insert_tag (answers : Answers config board player text) :
    Answers config board player text' := by
  have member : ∀ word, word ∈ Text.words text' → word ∈ Text.words text ∨ Mild word := by
    intro word present
    simp only [words', List.mem_append, List.mem_cons] at present
    rcases present with front | rfl | back
    · exact .inl (by simp [words, front])
    · exact .inr (mild_tag nonempty)
    · exact .inl (by simp [words, back])
  refine ⟨?_, answers.seated, ?_, ?_⟩
  · exact Text.nonblank_of_words (by simp [words'])
  · have admissible := compile_isOk_iff_admissible.mp answers.compiles
    apply compile_isOk_iff_admissible.mpr
    apply admissible.of_mild member
    intro strict
    obtain ⟨word, present⟩ := admissible.typed strict
    exact ⟨word, (mem_insert_iff words (.tag nonempty) words' (.type word) nofun).mpr present⟩
  · intro c examined stuck
    obtain ⟨onBoard, admits⟩ := examined
    have admitted := ((admits_insert_tag words nonempty words' config.noType (.of player) c).mp admits).1
    apply answers.free c ⟨onBoard, admitted⟩
    exact (stuck_insert_tag words nonempty words' c).mp stuck

end Tag

section Property
variable {word name : String} {comparison : Option Comparison} (spelled : Spelled word (.property name comparison))
  (words' : Text.words text' = before ++ word :: after)
include spelled words'

theorem Meaning.admits_insert_property (policy : NoTypePolicy) (view : Perspective) (c : Card) :
    Admits policy (Text.words text') view c ↔ Admits policy (Text.words text) view c := by
  obtain ⟨owner, type, zone⟩ := axes_insert words spelled words' nofun nofun nofun policy view c
  have tags : TagsSay (Text.words text') c ↔ TagsSay (Text.words text) c := by
    apply tagsSay_congr
    intro tag nonempty
    exact mem_insert_iff words spelled words' (.tag nonempty) nofun
  constructor
  · intro admits
    exact ⟨owner.mp admits.owner, type.mp admits.type, zone.mp admits.zone, tags.mp admits.tags⟩
  · intro admits
    exact ⟨owner.mpr admits.owner, type.mpr admits.type, zone.mpr admits.zone, tags.mpr admits.tags⟩

theorem Meaning.kept_insert_property (c : Card) :
    Kept config player text' c ↔ Kept config player text c ∧ ClauseHolds c name comparison := by
  have admits := admits_insert_property words spelled words' config.noType (.of player) c
  have properties : PropertiesSay (Text.words text') c ↔
      PropertiesSay (Text.words text) c ∧ ClauseHolds c name comparison := by
    have clause : PropertiesSay [word] c ↔ ClauseHolds c name comparison := by
      simp [properties_of_spelled spelled]
    rw [words, words', propertiesSay_append, properties_cons, propertiesSay_append, clause]
    simp only [and_comm, and_left_comm]
  constructor
  · intro kept
    obtain ⟨said, held⟩ := properties.mp kept.properties
    exact ⟨⟨admits.mp kept.admitted, said⟩, held⟩
  · intro both
    obtain ⟨kept, held⟩ := both
    exact ⟨admits.mpr kept.admitted, properties.mpr ⟨kept.properties, held⟩⟩

end Property

end Insert

section Found
variable {config : Config} {earlier earlier' : List Call} {board : Board} {player : PlayerId} {text text' : String}

open Classical in
theorem Engine.resultAfter_eq_ok {found : ResultSet} : resultAfter config earlier board player text = .ok found ↔
    Answers config board player text ∧ found = ⟨(board.allCards.filter fun c => Kept config player text c).map (·.id)⟩ := by
  rw [resultAfter, run_result, answer_eq_ok]
  rfl

theorem Engine.sublist_of_kept {found found' : ResultSet} (given : resultAfter config earlier board player text = .ok found)
    (given' : resultAfter config earlier' board player text' = .ok found')
    (fewer : ∀ c, Kept config player text' c → Kept config player text c) : found'.ids.Sublist found.ids := by
  classical
  obtain ⟨_, rfl⟩ := resultAfter_eq_ok.mp given
  obtain ⟨_, rfl⟩ := resultAfter_eq_ok.mp given'
  apply List.Sublist.map
  apply List.monotone_filter_right
  intro c kept
  simpa using fewer c (by simpa using kept)

end Found

theorem evaluate_narrowed (config : Config) (board : Board) (player : PlayerId) {text text' : String}
    {before after : List String} (words : Text.words text = before ++ after) {earlier earlier' : List Call}
    {found : ResultSet} (given : Engine.resultAfter config earlier board player text = .ok found) :
    (∀ name, name ≠ "" → Text.words text' = before ++ ("#" ++ name) :: after →
      ∃ found', Engine.resultAfter config earlier' board player text' = .ok found' ∧ found'.ids.Sublist found.ids ∧
        ∀ c, Kept config player text' c ↔ Kept config player text c ∧ TagHolds c name) ∧
    ∀ word name comparison, Spelled word (.property name comparison) → Text.words text' = before ++ word :: after →
      ∀ found', Engine.resultAfter config earlier' board player text' = .ok found' → found'.ids.Sublist found.ids ∧
        ∀ c, Kept config player text' c ↔ Kept config player text c ∧ ClauseHolds c name comparison := by
  refine ⟨?_, ?_⟩
  · intro name nonempty words'
    have kept := @kept_insert_tag config player _ _ _ _ words _ nonempty words'
    obtain ⟨answers, _⟩ := Engine.resultAfter_eq_ok.mp given
    have given' := (@Engine.resultAfter_eq_ok config earlier' board player text' _).mpr
      ⟨answers.insert_tag words nonempty words', rfl⟩
    exact ⟨_, given', Engine.sublist_of_kept given given' fun c held => ((kept c).mp held).1, kept⟩
  · intro word name comparison spelled words' found' given'
    have kept := @kept_insert_property config player _ _ _ _ words _ _ _ spelled words'
    exact ⟨Engine.sublist_of_kept given given' fun c held => ((kept c).mp held).1, kept⟩

-- Both texts of the second part are shortcuts.
theorem enemies_narrowed :
    Engine.resultAfter {} [] (.lone { health := 2 }) .second "enemy character" = .ok ⟨[⟨0⟩]⟩ ∧
    (∃ found, Engine.resultAfter {} [] (.lone { health := 2 }) .second "enemy #taunt character" = .ok found ∧
      found.ids.Sublist [⟨0⟩]) ∧
    Engine.resultAfter {} [] (.lone { health := 2 }) .second "enemy character .health>0" = .ok ⟨[⟨0⟩]⟩ ∧
    ([⟨0⟩] : List EntityId).Sublist [⟨0⟩] := by
  have given : Engine.resultAfter {} [] (.lone { health := 2 }) .second "enemy character" = .ok ⟨[⟨0⟩]⟩ := rfl
  have given' : Engine.resultAfter {} [] (.lone { health := 2 }) .second "enemy character .health>0" = .ok ⟨[⟨0⟩]⟩ := rfl
  have tagged := (@evaluate_narrowed {} (.lone { health := 2 }) .second "enemy character" "enemy #taunt character"
    ["enemy"] ["character"] rfl [] [] _ given).1 "taunt" (by decide) rfl
  have living := (@evaluate_narrowed {} (.lone { health := 2 }) .second "enemy character" "enemy character .health>0"
    ["enemy", "character"] [] rfl [] [] _ given).2 ".health>0" "health" (some ⟨.gt, "0"⟩)
    (Token.ofWord_eq_ok.mp rfl) rfl _ given'
  obtain ⟨found, answered, fewer, _⟩ := tagged
  exact ⟨given, ⟨found, answered, fewer⟩, given', living.1⟩

end CardQuery
