import CardQuery.Proofs.Broadening
import CardQuery.Proofs.OwnerWords

namespace CardQuery
open Meaning Token

def Meaning.Untyped (ws : List String) : Prop := ∀ word : TypeWord, word.text ∉ ws

theorem Draft.finish_typed {text : String} {d : Draft} (typed : d.anyType = true ∨ d.types ≠ 0)
    (policy policy' : NoTypePolicy) : d.finish text policy' = d.finish text policy := by
  have same : d.typeFilter text policy' = d.typeFilter text policy := by
    unfold typeFilter
    split
    · rfl
    · rename_i narrow
      rw [if_pos (typed.resolve_left narrow), if_pos (typed.resolve_left narrow)]
  rw [finish, finish, same]

theorem compile_typed {text : String} {word : TypeWord} (present : word.text ∈ Text.words text) (config config' : Config) :
    compile config' text = compile config text := by
  unfold compile Config.report
  cases read : tokenize text with
  | error e => rfl
  | ok tokens =>
    cases drafted : (Draft.addAll text {} tokens).result with
    | error e => simp only [drafted]
    | ok d =>
      have described := Draft.describes_of_addAll drafted
      have typed := described.hasType.mp ⟨word, (type_mem_iff read word).mpr present⟩
      simp only [drafted, Draft.finish_typed typed config.noType config'.noType]

-- Only the strict setting can be what a text is refused for.
theorem Refused.of_lenient {text : String} {e : SelectorError} (refused : Refused .matchAny text e)
    (policy : NoTypePolicy) : Refused policy text e := by
  cases refused with
  | flawed cut legible flawed => exact .flawed cut legible flawed
  | offending legible cut earlier offends => exact .offending legible cut earlier offends
  | untyped _ _ strict _ => cases strict

-- The fault that is reported stands in front of whatever is added.
theorem Refused.extend {text text' : String} {extra : List String} {e : SelectorError}
    (words : Text.words text' = Text.words text ++ extra) (legible : ∀ word ∈ extra, Legible word)
    (refused : Refused .matchAny text e) (policy : NoTypePolicy) : ∃ e', Refused policy text' e' ∧ e'.kind = e.kind := by
  cases refused with
  | flawed cut earlier flawed =>
    rw [cut, List.append_assoc, List.cons_append] at words
    exact ⟨_, .flawed words earlier flawed, rfl⟩
  | offending all cut earlier offends =>
    have legible' : ∀ word ∈ Text.words text', Legible word := by
      intro word present
      rw [words] at present
      rcases List.mem_append.mp present with old | new
      · exact all word old
      · exact legible word new
    obtain ⟨e', offends', kind⟩ := offends.retext text'
    rw [cut, List.append_assoc, List.cons_append] at words
    exact ⟨e', .offending legible' words (earlier.retext text') offends', kind⟩
  | untyped _ _ strict _ => cases strict

section Untyped
variable {config lenient : Config} (matchesAny : lenient.noType = .matchAny) {text : String}
  (untyped : Untyped (Text.words text))
include matchesAny untyped

-- The strict setting finds no other fault than the lenient one, which finds none.
theorem compile_reject {s : Selector} (compiled : compile lenient text = .ok s) (strict : config.noType = .reject) :
    compile config text = .error (.meaningless text .noType) := by
  cases result : compile config text with
  | ok s' =>
    obtain ⟨word, present⟩ := (compile_isOk_iff_admissible.mp ⟨s', result⟩).typed strict
    exact absurd present (untyped word)
  | error e =>
    have sound : ∀ e, ¬ Refused .matchAny text e := by
      intro e refused
      rw [← matchesAny, ← compile_eq_error_iff_refused, compiled] at refused
      cases refused
    cases compile_eq_error_iff_refused.mp result with
    | flawed cut legible flawed => exact absurd (.flawed cut legible flawed) (sound _)
    | offending legible cut earlier offends => exact absurd (.offending legible cut earlier offends) (sound _)
    | untyped _ _ _ _ => rfl

omit matchesAny in
theorem Meaning.not_admits_matchNone {view : Perspective} {c : Card} : ¬ Admits .matchNone (Text.words text) view c := by
  intro admits
  rcases admits.type with whole | ⟨word, present, _⟩ | ⟨_, lenient⟩
  · exact untyped .card whole
  · exact untyped word present
  · cases lenient

omit matchesAny untyped in
theorem compiles_matchNone {s : Selector} (compiled : compile lenient text = .ok s) (none : config.noType = .matchNone) :
    ∃ s', compile config text = .ok s' := by
  have admissible := compile_isOk_iff_admissible.mp ⟨s, compiled⟩
  apply compile_isOk_iff_admissible.mpr
  apply admissible.of_mild
  · intro word present
    exact .inl present
  · intro strict
    rw [none] at strict
    cases strict

section Whole
variable {board : Board} {player : PlayerId} {whole : String} (words : Text.words whole = Text.words text ++ ["card"])
include words

omit matchesAny untyped words in
theorem card_widens : ∀ word ∈ ["card"], Axis.type.Has word := by
  intro word present
  exact ⟨.card, List.mem_singleton.mp present⟩

-- Without a type word every type passes, and with `card` too.
theorem Meaning.admits_whole {view : Perspective} {c : Card} :
    Admits config.noType (Text.words whole) view c ↔ Admits lenient.noType (Text.words text) view c := by
  have type : TypeSays config.noType (Text.words whole) c := .inl (by simp [words])
  have typeSays : TypeSays lenient.noType (Text.words text) c := .inr (.inr ⟨untyped, matchesAny⟩)
  have owner : OwnerSays (Text.words whole) view c ↔ OwnerSays (Text.words text) view c := by
    rw [words]
    exact ownerSays_congr fun owner => Axis.mem_append_iff card_widens (.owner owner) nofun nofun
  have zone : ZoneSays (Text.words whole) c ↔ ZoneSays (Text.words text) c := by
    rw [words]
    exact zoneSays_congr fun name => Axis.mem_append_iff card_widens (.zone name) nofun nofun
  have tags : TagsSay (Text.words whole) c ↔ TagsSay (Text.words text) c := by
    rw [words]
    exact tagsSay_congr fun name nonempty => Axis.mem_append_iff card_widens (.tag nonempty) nofun nofun
  constructor
  · intro admits
    exact ⟨owner.mp admits.owner, typeSays, zone.mp admits.zone, tags.mp admits.tags⟩
  · intro admits
    exact ⟨owner.mpr admits.owner, type, zone.mpr admits.zone, tags.mpr admits.tags⟩

omit matchesAny untyped in
theorem Meaning.stuck_whole {c : Card} : Stuck c (Text.words whole) ↔ Stuck c (Text.words text) := by
  rw [words]
  exact Axis.stuck_append card_widens

theorem Meaning.kept_whole {c : Card} : Kept config player whole c ↔ Kept lenient player text c := by
  have properties : PropertiesSay (Text.words whole) c ↔ PropertiesSay (Text.words text) c := by
    rw [words]
    exact Axis.propertiesSay_append_iff card_widens
  have admits := @admits_whole config lenient matchesAny text untyped whole words (.of player) c
  constructor
  · intro kept
    exact ⟨admits.mp kept.admitted, properties.mp kept.properties⟩
  · intro kept
    exact ⟨admits.mpr kept.admitted, properties.mpr kept.properties⟩

omit matchesAny untyped in
theorem compiles_whole (compiles : ∃ s, compile lenient text = .ok s) : ∃ s, compile config whole = .ok s := by
  rw [compile_isOk_iff_admissible] at compiles ⊢
  apply compiles.of_mild
  · intro word present
    rw [words] at present
    rcases List.mem_append.mp present with old | new
    · exact .inl old
    · exact .inr (card_widens word new).mild
  · intro _
    exact ⟨.card, by simp [words, TypeWord.text]⟩

omit matchesAny untyped in
theorem nonblank_whole : Text.isBlankText whole = false := Text.nonblank_of_words (by simp [words])

theorem Meaning.answers_whole (answers : Answers lenient board player text) : Answers config board player whole := by
  refine ⟨nonblank_whole words, answers.seated, compiles_whole words answers.compiles, ?_⟩
  intro c examined stuck
  exact answers.free c ⟨examined.1, (admits_whole matchesAny untyped words).mp examined.2⟩ ((stuck_whole words).mp stuck)

theorem Meaning.failsAs_whole (nonblank : Text.isBlankText text = false) {kind : ErrorKind}
    (fails : FailsAs lenient board player text kind) : FailsAs config board player whole kind := by
  cases fails with
  | blank blank =>
    rw [nonblank] at blank
    cases blank
  | notSeated stranger => exact .notSeated stranger
  | refused _ seated refused =>
    rw [matchesAny] at refused
    obtain ⟨e', refused', kind⟩ := refused.extend words (fun word present => (card_widens word present).mild.legible)
      config.noType
    exact kind ▸ .refused (nonblank_whole words) seated refused'
  | stuck _ seated compiles examined stuck =>
    exact .stuck (nonblank_whole words) seated (compiles_whole words compiles)
      ⟨examined.1, (admits_whole matchesAny untyped words).mpr examined.2⟩ ((stuck_whole words).mpr stuck)

theorem Engine.outcomeAfter_whole (nonblank : Text.isBlankText text = false) (earlier earlier' : List Call) :
    outcomeAfter config earlier board player whole = outcomeAfter lenient earlier' board player text := by
  apply outcomeAfter_congr
  · intro found given
    exact resultAfter_congr (answers_whole matchesAny untyped words)
      (fun c => kept_whole matchesAny untyped words) given
  · intro kind fails
    exact failsAs_whole matchesAny untyped words nonblank fails

end Whole

section Strictness
variable {board : Board} {player : PlayerId} (nonblank : Text.isBlankText text = false)
  (seated : player.isSeated = true) (earlier : List Call)
include nonblank seated

omit matchesAny in
theorem Engine.resultAfter_matchNone {s : Selector} (compiled : compile lenient text = .ok s)
    (none : config.noType = .matchNone) : resultAfter config earlier board player text = .ok ⟨[]⟩ := by
  have never : ∀ c, ¬ Admits config.noType (Text.words text) (.of player) c := by
    intro c
    rw [none]
    exact not_admits_matchNone untyped
  rw [resultAfter_eq_ok]
  refine ⟨⟨nonblank, seated, compiles_matchNone compiled none, ?_⟩, ?_⟩
  · intro c examined
    exact absurd examined.2 (never c)
  · rw [List.filter_eq_nil_iff.mpr]
    · rfl
    · intro c _
      simpa using fun kept : Kept config player text c => never c kept.admitted

theorem Engine.resultAfter_reject {s : Selector} (compiled : compile lenient text = .ok s)
    (strict : config.noType = .reject) :
    resultAfter config earlier board player text = .error (.meaningless text .noType) := by
  have refused := compile_reject matchesAny untyped compiled strict
  rw [resultAfter, run_result]
  exact answer_of_refused nonblank seated (compile_eq_error_iff_refused.mp refused)

omit untyped in
theorem Engine.resultAfter_refused {e : SelectorError} (failed : compile lenient text = .error e) :
    resultAfter config earlier board player text = .error e := by
  have refused := compile_eq_error_iff_refused.mp failed
  rw [matchesAny] at refused
  rw [resultAfter, run_result]
  exact answer_of_refused nonblank seated (refused.of_lenient config.noType)

end Strictness
end Untyped

theorem evaluate_under_policies (board : Board) {player : PlayerId} (seated : player.isSeated = true) {text : String}
    (nonempty : Text.words text ≠ []) :
    (∀ word : TypeWord, word.text ∈ Text.words text → ∀ config config' earlier earlier',
      Engine.resultAfter config' earlier' board player text = Engine.resultAfter config earlier board player text) ∧
    (Untyped (Text.words text) → ∀ lenient config : Config, lenient.noType = .matchAny → ∀ earlier earlier',
      (∀ whole, Text.words whole = Text.words text ++ ["card"] →
        Engine.outcomeAfter config earlier' board player whole = Engine.outcomeAfter lenient earlier board player text) ∧
      ((∃ s, compile lenient text = .ok s) →
        (config.noType = .matchNone → Engine.resultAfter config earlier' board player text = .ok ⟨[]⟩) ∧
        (config.noType = .reject →
          Engine.resultAfter config earlier' board player text = .error (.meaningless text .noType))) ∧
      ∀ e, compile lenient text = .error e → Engine.resultAfter config earlier' board player text = .error e) := by
  have nonblank := Text.nonblank_of_words nonempty
  refine ⟨?_, ?_⟩
  · intro word present config config' earlier earlier'
    rw [Engine.resultAfter, Engine.resultAfter, Engine.run_result, Engine.run_result, answer, answer,
      compile_typed present config config']
  · intro untyped lenient config matchesAny earlier earlier'
    refine ⟨?_, ?_, ?_⟩
    · intro whole words
      exact Engine.outcomeAfter_whole matchesAny untyped words nonblank earlier' earlier
    · intro compiles
      obtain ⟨s, compiled⟩ := compiles
      exact ⟨Engine.resultAfter_matchNone untyped nonblank seated earlier' compiled,
        Engine.resultAfter_reject matchesAny untyped nonblank seated earlier' compiled⟩
    · intro e failed
      exact Engine.resultAfter_refused matchesAny nonblank seated earlier' failed

-- The mood is no number: only the lenient search looks at it.
theorem moody_without_type :
    PlayerId.first.isSeated = true ∧ Text.words ".mood>1" ≠ [] ∧ Untyped (Text.words ".mood>1") ∧
    (∃ e, Engine.resultAfter {} [] .moody .first ".mood>1" = .error e) ∧
    Engine.outcomeAfter {} [] .moody .first ".mood>1 card" = Engine.outcomeAfter {} [] .moody .first ".mood>1" ∧
    Engine.resultAfter .legacy [] .moody .first ".mood>1" = .ok ⟨[]⟩ ∧
    Engine.resultAfter { noType := .reject } [] .moody .first ".mood>1" = .error (.meaningless ".mood>1" .noType) ∧
    Engine.resultAfter .legacy [] .moody .first "hero .mood>1" = Engine.resultAfter {} [] .moody .first "hero .mood>1" := by
  have untyped : Untyped (Text.words ".mood>1") := by
    intro word
    cases word <;> decide
  have compiled : compile {} ".mood>1" = .ok ⟨".mood>1", .any, .any, .play, [], [⟨.other "mood", .order .gt 1⟩]⟩ := rfl
  have seated : PlayerId.first.isSeated = true := rfl
  have nonempty : Text.words ".mood>1" ≠ [] := by decide
  have nonempty' : Text.words "hero .mood>1" ≠ [] := by decide
  have bare := (evaluate_under_policies .moody seated nonempty).2 untyped {}
  have typed := (evaluate_under_policies .moody seated nonempty').1 .hero (by decide) {} .legacy [] []
  exact ⟨seated, nonempty, untyped, ⟨_, rfl⟩, (bare {} rfl [] []).1 _ rfl, ((bare .legacy rfl [] []).2.1 ⟨_, compiled⟩).1 rfl,
    ((bare { noType := .reject } rfl [] []).2.1 ⟨_, compiled⟩).2 rfl, typed⟩

end CardQuery
