import CardQuery.Proofs.Outcomes

namespace CardQuery
open Meaning Token

namespace OwnerWord

theorem text_inj {a b : OwnerWord} : a.text = b.text ↔ a = b := by
  cases a <;> cases b <;> decide

def Claims (view : Perspective) (c : Card) : OwnerWord → Prop
  | any => True
  | own => c.owner = view.own
  | enemy => c.owner = view.enemy

theorem silent (owner : OwnerWord) : Silent owner.text := (Spelled.owner owner).silent nofun

-- Two seated players are the same or opponents.
theorem claimed_once {player : PlayerId} (seated : player.isSeated = true) {c : Card} (owned : c.owner.isSeated = true) :
    enemy.Claims (.of player) c ↔ ¬ own.Claims (.of player) c := by
  show c.owner = player.opponent ↔ ¬ c.owner = player
  rcases PlayerId.isSeated_iff.mp seated with rfl | rfl <;>
    rcases PlayerId.isSeated_iff.mp owned with same | same <;> rw [same] <;> decide

end OwnerWord

def Meaning.Unowned (ws : List String) : Prop := ∀ owner : OwnerWord, owner.text ∉ ws

section Front
variable {owner : OwnerWord} {ws : List String} (unowned : Unowned ws)
include unowned

theorem text_mem_cons {other : OwnerWord} : other.text ∈ owner.text :: ws ↔ other = owner := by
  rw [List.mem_cons, OwnerWord.text_inj]
  exact or_iff_left (unowned other)

theorem ownerSays_cons {view : Perspective} {c : Card} :
    OwnerSays (owner.text :: ws) view c ↔ owner.Claims view c := by
  have named : ¬ ∀ word : OwnerWord, word.text ∉ owner.text :: ws := fun none => none owner (by simp)
  have any : "any" ∈ owner.text :: ws ↔ OwnerWord.any = owner := @text_mem_cons owner ws unowned .any
  have own : "own" ∈ owner.text :: ws ↔ OwnerWord.own = owner := @text_mem_cons owner ws unowned .own
  have enemy : "enemy" ∈ owner.text :: ws ↔ OwnerWord.enemy = owner := @text_mem_cons owner ws unowned .enemy
  rw [OwnerSays, or_iff_right named, any, own, enemy]
  cases owner <;> simp [OwnerWord.Claims]

theorem admissible_cons {policy : NoTypePolicy} : Admissible policy (owner.text :: ws) ↔ Admissible policy ws := by
  have type : ∀ word : TypeWord, word.text ∈ owner.text :: ws ↔ word.text ∈ ws := by
    intro word
    rw [List.mem_cons]
    exact or_iff_right ((Spelled.type word).ne (.owner owner) nofun)
  constructor
  · intro admissible
    apply admissible.of_silent
    · intro word present
      exact .inl (List.mem_cons_of_mem _ present)
    · intro a b left _
      exact absurd left (unowned a)
    · intro strict
      obtain ⟨word, present⟩ := admissible.typed strict
      exact ⟨word, (type word).mp present⟩
  · intro admissible
    apply admissible.of_silent
    · intro word present
      rcases List.mem_cons.mp present with rfl | old
      · exact .inr ⟨(Spelled.owner owner).legible, owner.silent⟩
      · exact .inl old
    · intro a b left right
      exact ((text_mem_cons unowned).mp left).trans ((text_mem_cons unowned).mp right).symm
    · intro strict
      obtain ⟨word, present⟩ := admissible.typed strict
      exact ⟨word, (type word).mpr present⟩

end Front

section Owned
variable {owner : OwnerWord} {text text' : String} (words : Text.words text' = owner.text :: Text.words text)
include words

theorem Meaning.stuck_owned {c : Card} : Stuck c (Text.words text') ↔ Stuck c (Text.words text) := by
  rw [words]
  exact @stuck_insert_silent c [] (Text.words text) _ owner.silent

theorem Meaning.propertiesSay_owned {c : Card} :
    PropertiesSay (Text.words text') c ↔ PropertiesSay (Text.words text) c := by
  rw [words]
  exact @propertiesSay_insert_silent c [] (Text.words text) _ owner.silent

variable (unowned : Unowned (Text.words text))
include unowned

theorem Meaning.admits_owned {policy : NoTypePolicy} {view : Perspective} {c : Card} :
    Admits policy (Text.words text') view c ↔ Admits policy (Text.words text) view c ∧ owner.Claims view c := by
  have cut : Text.words text = [] ++ Text.words text := rfl
  have type : TypeSays policy (Text.words text') c ↔ TypeSays policy (Text.words text) c :=
    typeSays_congr fun type => mem_insert_iff cut (.owner owner) words (.type type) nofun
  have zone : ZoneSays (Text.words text') c ↔ ZoneSays (Text.words text) c :=
    zoneSays_congr fun name => mem_insert_iff cut (.owner owner) words (.zone name) nofun
  have tags : TagsSay (Text.words text') c ↔ TagsSay (Text.words text) c :=
    tagsSay_congr fun name nonempty => mem_insert_iff cut (.owner owner) words (.tag nonempty) nofun
  have claims : OwnerSays (Text.words text') view c ↔ owner.Claims view c := by
    rw [words]
    exact ownerSays_cons unowned
  constructor
  · intro admits
    exact ⟨⟨.inl unowned, type.mp admits.type, zone.mp admits.zone, tags.mp admits.tags⟩, claims.mp admits.owner⟩
  · intro both
    obtain ⟨admits, claimed⟩ := both
    exact ⟨claims.mpr claimed, type.mpr admits.type, zone.mpr admits.zone, tags.mpr admits.tags⟩

theorem Meaning.kept_owned {config : Config} {player : PlayerId} {c : Card} :
    Kept config player text' c ↔ Kept config player text c ∧ owner.Claims (.of player) c := by
  constructor
  · intro kept
    obtain ⟨admits, claimed⟩ := (admits_owned words unowned).mp kept.admitted
    exact ⟨⟨admits, (propertiesSay_owned words).mp kept.properties⟩, claimed⟩
  · intro both
    obtain ⟨kept, claimed⟩ := both
    exact ⟨(admits_owned words unowned).mpr ⟨kept.admitted, claimed⟩, (propertiesSay_owned words).mpr kept.properties⟩

theorem compiles_owned {config : Config} :
    (∃ s, compile config text' = .ok s) ↔ ∃ s, compile config text = .ok s := by
  rw [compile_isOk_iff_admissible, compile_isOk_iff_admissible, words, admissible_cons unowned]

-- Of the cards the text looks at, those that the word is said of are looked at in the same way.
theorem Meaning.answers_owned {config : Config} {board : Board} {player : PlayerId} : Answers config board player text' ↔
      player.isSeated = true ∧ (∃ s, compile config text = .ok s) ∧
      ∀ c, Examined config board player (Text.words text) c → owner.Claims (.of player) c → ¬ Stuck c (Text.words text) := by
  constructor
  · intro answers
    refine ⟨answers.seated, (compiles_owned words unowned).mp answers.compiles, ?_⟩
    intro c examined claimed stuck
    exact answers.free c ⟨examined.1, (admits_owned words unowned).mpr ⟨examined.2, claimed⟩⟩
      ((stuck_owned words).mpr stuck)
  · intro given
    obtain ⟨seated, compiles, free⟩ := given
    refine ⟨Text.nonblank_of_words (by simp [words]), seated, (compiles_owned words unowned).mpr compiles, ?_⟩
    intro c examined stuck
    obtain ⟨admits, claimed⟩ := (admits_owned words unowned).mp examined.2
    exact free c ⟨examined.1, admits⟩ claimed ((stuck_owned words).mp stuck)

end Owned

-- The message shows the text, so only the kind of error stays.
theorem Senseless.retext {text name : String} {comparison : Comparison} {e : SelectorError}
    (senseless : Senseless text name comparison e) (text' : String) :
    ∃ e', Senseless text' name comparison e' ∧ e'.kind = e.kind := by
  cases senseless with
  | pattern unread => exact ⟨_, .pattern unread, rfl⟩
  | textual ordering textual => exact ⟨_, .textual ordering textual, rfl⟩
  | notNumeric ordering other unread => exact ⟨_, .notNumeric ordering other unread, rfl⟩

-- A word with another owner word in its place; words of other kinds stay.
def renameOwner (τ : OwnerWord → OwnerWord) (word : String) : String :=
  match OwnerWord.ofText? word with
  | some old => (τ old).text
  | none => word

section Rename
variable {τ : OwnerWord → OwnerWord}

theorem renameOwner_cases (word : String) :
    (∃ owner : OwnerWord, word = owner.text ∧ renameOwner τ word = (τ owner).text) ∨
      ((∀ owner : OwnerWord, word ≠ owner.text) ∧ renameOwner τ word = word) := by
  unfold renameOwner
  split
  · rename_i owner found
    exact .inl ⟨owner, ofText?_eq_some_owner.mp found, rfl⟩
  · rename_i unnamed
    refine .inr ⟨?_, rfl⟩
    intro owner same
    rw [ofText?_eq_some_owner.mpr same] at unnamed
    cases unnamed

@[simp] theorem renameOwner_text (owner : OwnerWord) : renameOwner τ owner.text = (τ owner).text := by
  rcases renameOwner_cases owner.text with ⟨same, text, renamed⟩ | ⟨other, _⟩
  · rw [renamed, OwnerWord.text_inj.mp text]
  · exact absurd rfl (other owner)

theorem renameOwner_of_spelled {word : String} {token : Token} (spelled : Spelled word token)
    (other : ∀ owner, token ≠ .owner owner) : renameOwner τ word = word := by
  rcases renameOwner_cases word with ⟨owner, rfl, _⟩ | ⟨_, kept⟩
  · exact absurd (spelled.unique (.owner owner)) (other owner)
  · exact kept

theorem renameOwner_id (word : String) : renameOwner id word = word := by
  rcases renameOwner_cases word with ⟨owner, rfl, renamed⟩ | ⟨_, kept⟩
  · exact renamed
  · exact kept

theorem Token.Legible.rename {word : String} (legible : Legible word) : Legible (renameOwner τ word) := by
  rcases renameOwner_cases word with ⟨owner, rfl, renamed⟩ | ⟨_, kept⟩
  · exact renamed ▸ (Spelled.owner (τ owner)).legible
  · rwa [kept]

section Properties
variable {c : Card} {ws : List String}

-- Owner words are silent before and after, so the property words meet each other as they did.
theorem Meaning.stuck_rename : Stuck c (ws.map (renameOwner τ)) ↔ Stuck c ws := by
  induction ws with
  | nil => rfl
  | cons word rest ih =>
    rw [List.map_cons, stuck_cons, stuck_cons, ih]
    rcases renameOwner_cases word with ⟨owner, rfl, renamed⟩ | ⟨_, kept⟩
    · rw [renamed]
      simp only [not_undecidable_of_silent (τ owner).silent, not_rejects_of_silent (τ owner).silent,
        not_undecidable_of_silent owner.silent, not_rejects_of_silent owner.silent]
    · rw [kept]

theorem Meaning.propertiesSay_rename : PropertiesSay (ws.map (renameOwner τ)) c ↔ PropertiesSay ws c := by
  induction ws with
  | nil => rfl
  | cons word rest ih =>
    rw [List.map_cons, properties_cons, @properties_cons c word, ih]
    rcases renameOwner_cases word with ⟨owner, rfl, renamed⟩ | ⟨_, kept⟩
    · rw [renamed, properties_of_spelled (.owner (τ owner)), properties_of_spelled (.owner owner)]
      simp
    · rw [kept]

end Properties

variable (involutive : ∀ owner, τ (τ owner) = owner)
include involutive

theorem renameOwner_renameOwner (word : String) : renameOwner τ (renameOwner τ word) = word := by
  rcases renameOwner_cases word with ⟨owner, rfl, renamed⟩ | ⟨_, kept⟩
  · rw [renamed, renameOwner_text, involutive]
  · rw [kept, kept]

theorem map_renameOwner_map (ws : List String) : (ws.map (renameOwner τ)).map (renameOwner τ) = ws := by
  rw [List.map_map]
  conv_rhs => rw [← List.map_id ws]
  exact List.map_congr_left fun word _ => renameOwner_renameOwner involutive word

theorem mem_map_renameOwner {word : String} {ws : List String} :
    word ∈ ws.map (renameOwner τ) ↔ renameOwner τ word ∈ ws := by
  constructor
  · intro present
    obtain ⟨other, old, rfl⟩ := List.mem_map.mp present
    rwa [renameOwner_renameOwner involutive]
  · intro old
    exact List.mem_map.mpr ⟨_, old, renameOwner_renameOwner involutive word⟩

theorem text_mem_map {owner : OwnerWord} {ws : List String} :
    (τ owner).text ∈ ws.map (renameOwner τ) ↔ owner.text ∈ ws := by
  rw [mem_map_renameOwner involutive, renameOwner_text, involutive]

theorem spelled_mem_map {word : String} {token : Token} {ws : List String} (spelled : Spelled word token)
    (other : ∀ owner, token ≠ .owner owner) : word ∈ ws.map (renameOwner τ) ↔ word ∈ ws := by
  rw [mem_map_renameOwner involutive, renameOwner_of_spelled spelled other]

theorem FirstOwner.rename {ws : List String} {first : OwnerWord} (earliest : FirstOwner ws first) :
    FirstOwner (ws.map (renameOwner τ)) (τ first) := by
  obtain ⟨front, back, rfl, clear⟩ := earliest
  refine ⟨front.map (renameOwner τ), back.map (renameOwner τ), by simp, ?_⟩
  intro owner present
  rw [mem_map_renameOwner involutive, renameOwner_text] at present
  exact clear (τ owner) present

theorem Offends.rename {text : String} {before : List String} {word : String} {e : SelectorError}
    (offends : Offends text before word e) (text' : String) :
    ∃ e', Offends text' (before.map (renameOwner τ)) (renameOwner τ word) e' ∧ e'.kind = e.kind := by
  cases offends with
  | @owner first owner earlier other =>
    have differ : τ first ≠ τ owner := by
      intro same
      have back := congrArg τ same
      rw [involutive, involutive] at back
      exact other back
    rw [renameOwner_text]
    exact ⟨_, .owner (earlier.rename involutive) differ, rfl⟩
  | clause spelled senseless =>
    obtain ⟨e', senseless', kind⟩ := senseless.retext text'
    rw [renameOwner_of_spelled spelled nofun]
    exact ⟨e', .clause spelled senseless', kind⟩

theorem Inoffensive.rename {text : String} {ws : List String} (inoffensive : Inoffensive text ws) (text' : String) :
    Inoffensive text' (ws.map (renameOwner τ)) := by
  intro front word back e cut offends
  obtain ⟨e', earlier, _⟩ := offends.rename involutive text
  refine inoffensive (front.map (renameOwner τ)) (renameOwner τ word) (back.map (renameOwner τ)) e' ?_ earlier
  rw [← map_renameOwner_map involutive ws, cut, List.map_append, List.map_cons]

theorem admissible_rename {policy : NoTypePolicy} {ws : List String} (admissible : Admissible policy ws) :
    Admissible policy (ws.map (renameOwner τ)) := by
  apply admissible.of_silent
  · intro word present
    obtain ⟨old, inside, rfl⟩ := List.mem_map.mp present
    rcases renameOwner_cases old with ⟨owner, _, renamed⟩ | ⟨_, kept⟩
    · exact .inr (renamed ▸ ⟨(Spelled.owner (τ owner)).legible, (τ owner).silent⟩)
    · exact .inl (kept.symm ▸ inside)
  · intro a b left right
    rw [mem_map_renameOwner involutive, renameOwner_text] at left right
    have same := congrArg τ (admissible.oneOwner _ _ left right)
    rwa [involutive, involutive] at same
  · intro strict
    obtain ⟨word, present⟩ := admissible.typed strict
    exact ⟨word, (spelled_mem_map involutive (.type word) nofun).mpr present⟩

section Texts
variable {text text' : String} (words : Text.words text' = (Text.words text).map (renameOwner τ))
include words

-- A text is refused at the word that takes the place of the one it was refused at.
theorem Refused.rename {policy : NoTypePolicy} {e : SelectorError} (refused : Refused policy text e) :
    ∃ e', Refused policy text' e' ∧ e'.kind = e.kind := by
  have legible : ∀ {ws : List String}, (∀ word ∈ ws, Legible word) → ∀ word ∈ ws.map (renameOwner τ), Legible word := by
    intro ws legible word present
    obtain ⟨old, inside, rfl⟩ := List.mem_map.mp present
    exact (legible old inside).rename
  cases refused with
  | @flawed before word after fault cut earlier flawed =>
    have kept : renameOwner τ word = word := by
      rcases @renameOwner_cases τ word with ⟨owner, rfl, _⟩ | ⟨_, kept⟩
      · exact absurd (Spelled.owner owner).legible flawed.not_legible
      · exact kept
    rw [cut, List.map_append, List.map_cons, kept] at words
    exact ⟨_, .flawed words (legible earlier) flawed, rfl⟩
  | offending all cut earlier offends =>
    obtain ⟨e', offends', kind⟩ := offends.rename involutive text'
    have cut' := words
    rw [cut, List.map_append, List.map_cons] at cut'
    exact ⟨e', .offending (words ▸ legible all) cut' (earlier.rename involutive text') offends', kind⟩
  | untyped all earlier strict untyped =>
    refine ⟨_, .untyped (words ▸ legible all) (words ▸ earlier.rename involutive text') strict ?_, rfl⟩
    intro word present
    rw [words, spelled_mem_map involutive (.type word) nofun] at present
    exact untyped word present

theorem Meaning.axes_rename (policy : NoTypePolicy) (c : Card) :
    (TypeSays policy (Text.words text') c ↔ TypeSays policy (Text.words text) c) ∧
    (ZoneSays (Text.words text') c ↔ ZoneSays (Text.words text) c) ∧
    (TagsSay (Text.words text') c ↔ TagsSay (Text.words text) c) := by
  rw [words]
  refine ⟨typeSays_congr ?_, zoneSays_congr ?_, tagsSay_congr ?_⟩
  · intro type
    exact spelled_mem_map involutive (.type type) nofun
  · intro name
    exact spelled_mem_map involutive (.zone name) nofun
  · intro name nonempty
    exact spelled_mem_map involutive (.tag nonempty) nofun

end Texts

end Rename

section Retext
variable {text : String} {before : List String}

theorem map_renameOwner_id (ws : List String) : ws.map (renameOwner id) = ws := by
  conv_rhs => rw [← List.map_id ws]
  exact List.map_congr_left fun word _ => renameOwner_id word

theorem Offends.retext {word : String} {e : SelectorError} (offends : Offends text before word e) (text' : String) :
    ∃ e', Offends text' before word e' ∧ e'.kind = e.kind := by
  have renamed := offends.rename (fun _ => rfl : ∀ owner : OwnerWord, id (id owner) = owner) text'
  rwa [map_renameOwner_id, renameOwner_id] at renamed

theorem Inoffensive.retext (inoffensive : Inoffensive text before) (text' : String) : Inoffensive text' before := by
  have renamed := inoffensive.rename (fun _ => rfl : ∀ owner : OwnerWord, id (id owner) = owner) text'
  rwa [map_renameOwner_id] at renamed

end Retext
end CardQuery
