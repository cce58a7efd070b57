import CardQuery.Json.Forms
import CardQuery.Proofs.Applying
import CardQuery.Proofs.Reselecting

namespace CardQuery
namespace TagSet

def count (s : TagSet) (t : Tag) : Nat := s.toList.count t

inductive Built : TagSet → Prop where
  | ofList (tags : List Tag) : Built (ofList tags)
  | insert (built : Built s) (t : Tag) : Built (s.insert t)
  | erase (built : Built s) (t : Tag) : Built (s.erase t)

theorem nodup_insert {s : TagSet} (nodup : s.toList.Nodup) (t : Tag) : (s.insert t).toList.Nodup := by
  rw [toList_insert]
  split
  · exact nodup
  · rename_i absent
    rw [(List.perm_append_singleton t s.toList).nodup_iff]
    exact List.nodup_cons.mpr ⟨absent, nodup⟩

theorem nodup_insertAll {s : TagSet} (nodup : s.toList.Nodup) (tags : List Tag) :
    (tags.foldl insert s).toList.Nodup := by
  induction tags generalizing s with
  | nil => exact nodup
  | cons t rest ih => exact ih (nodup_insert nodup t)

theorem Built.nodup {s : TagSet} (built : s.Built) : s.toList.Nodup := by
  induction built with
  | ofList tags => exact nodup_insertAll List.nodup_nil tags
  | insert _ t ih => exact nodup_insert ih t
  | erase _ t ih => exact ih.erase t

theorem Built.count_le {s : TagSet} (built : s.Built) (t : Tag) : s.count t ≤ 1 :=
  List.nodup_iff_count_le_one.mp built.nodup t

theorem contains_eq_false {s : TagSet} {t : Tag} : s.contains t = false ↔ s.count t = 0 := by
  rw [count, List.count_eq_zero, ← contains_eq, Bool.not_eq_true]

theorem contains_congr {s s' : TagSet} {t : Tag} (same : s'.count t = s.count t) : s'.contains t = s.contains t := by
  rw [Bool.eq_iff_iff, ← not_iff_not, Bool.not_eq_true, Bool.not_eq_true, contains_eq_false, contains_eq_false, same]

theorem count_erase (s : TagSet) (t other : Tag) :
    (s.erase t).count other = if other = t then s.count t - 1 else s.count other := by
  split
  · rename_i same
    rw [same]
    exact List.count_erase_self
  · rename_i different
    exact List.count_erase_of_ne different

def eraseTimes (s : TagSet) (t : Tag) : Nat → TagSet
  | 0 => s
  | n + 1 => (s.erase t).eraseTimes t n

theorem count_eraseTimes (s : TagSet) (t other : Tag) (n : Nat) :
    (s.eraseTimes t n).count other = if other = t then s.count t - n else s.count other := by
  induction n generalizing s with
  | zero =>
    split
    · rename_i same
      rw [same]
      rfl
    · rfl
  | succ n ih =>
    rw [eraseTimes, ih, count_erase, count_erase, if_pos rfl, Nat.sub_sub, Nat.add_comm 1 n]
    split <;> rfl

theorem gone_eraseTimes {s : TagSet} {t : Tag} {n : Nat} : (s.eraseTimes t n).contains t = false ↔ s.count t ≤ n := by
  rw [contains_eq_false, count_eraseTimes, if_pos rfl, Nat.sub_eq_zero_iff_le]

theorem kept_eraseTimes {s : TagSet} {t other : Tag} (different : other ≠ t) (n : Nat) :
    (s.eraseTimes t n).contains other = s.contains other := by
  apply contains_congr
  rw [count_eraseTimes, if_neg different]

end TagSet

open Meaning

namespace Tag

theorem name_ne_empty (t : Tag) : t.name ≠ "" := by cases t <;> decide

-- What asks for the tag and for nothing else.
def tokensAnywhere (t : Tag) : List Token := .type .card :: Zone.all.map (fun zone => .zone zone.name) ++ [.tag t.name]

def anywhere (t : Tag) : String := Text.unwords (t.tokensAnywhere.map Token.render)

theorem wellFormed_anywhere (t : Tag) : ∀ token ∈ t.tokensAnywhere, token.WellFormed := by
  have solid : Text.Solid t.name := by cases t <;> decide
  have zones : ∀ zone : Zone, Text.Solid zone.name := by
    intro zone
    cases zone <;> decide
  simp only [tokensAnywhere, List.mem_append, List.mem_cons, List.mem_map, List.not_mem_nil, or_false]
  rintro _ ((rfl | ⟨zone, _, rfl⟩) | rfl)
  · exact .type .card
  · exact .zone (zones zone)
  · exact .tag t.name_ne_empty solid

theorem words_anywhere (t : Tag) : Text.words t.anywhere = t.tokensAnywhere.map Token.render := by
  apply Text.words_unwords
  intro word present
  obtain ⟨token, member, rfl⟩ := List.mem_map.mp present
  exact (t.wellFormed_anywhere token member).isWord

theorem asked_anywhere (t : Tag) : "#" ++ t.name ∈ Text.words t.anywhere := by
  rw [words_anywhere]
  exact List.mem_map_of_mem (List.mem_append_right _ List.mem_cons_self)

theorem tokenize_anywhere (t : Tag) : tokenize t.anywhere = .ok t.tokensAnywhere := by
  rw [tokenize_eq_ok, words_anywhere, List.forall₂_map_left_iff, List.forall₂_same]
  intro token member
  exact (t.wellFormed_anywhere token member).spelled

-- Several things can go by one name in a selector, but a tag's name is the tag's own.
theorem filter_name (t : Tag) : TagFilter.ofName t.name = .has t := by cases t <;> rfl

theorem compile_anywhere (t : Tag) : compile {} t.anywhere = .ok ⟨t.anywhere, .any, .any, ⟨63⟩, [.has t], []⟩ := by
  rw [compile, Config.report, tokenize_anywhere, ← filter_name]
  rfl

theorem properties_anywhere (t : Tag) (c : Card) : PropertiesSay (Text.words t.anywhere) c :=
  (Selector.allAccept_iff (compile_anywhere t) c).1.mp rfl

theorem kept_anywhere {t : Tag} {c : Card} (present : c.tags.contains t = true) : Kept {} .first t.anywhere c := by
  refine ⟨(Selector.admits_iff (compile_anywhere t) c (.of .first)).mp ?_, properties_anywhere t c⟩
  have zone : (⟨63⟩ : ZoneFilter).holds c = true := by
    rw [ZoneFilter.holds]
    cases c.zone <;> rfl
  have tag : (TagFilter.has t).holds c = true := present
  simp only [Selector.admits, OwnerFilter.holds, TypeFilter.holds, zone, tag, List.all_cons, List.all_nil, Bool.and_self]

theorem answers_anywhere (t : Tag) (board : Board) : Answers {} board .first t.anywhere := by
  refine ⟨?_, rfl, ⟨_, compile_anywhere t⟩, ?_⟩
  · exact Text.nonblank_of_words (List.ne_nil_of_mem t.asked_anywhere)
  · intro c _
    exact not_stuck_of_properties (properties_anywhere t c)

end Tag

theorem Meaning.tagHolds_name {c : Card} {t : Tag} : TagHolds c t.name ↔ c.tags.contains t = true := by
  rw [← TagFilter.ofName_holds, Tag.filter_name]
  rfl

theorem Meaning.Satisfies.tagged {policy : NoTypePolicy} {ws : List String} {view : Perspective} {c : Card} {t : Tag}
    (satisfied : Satisfies policy ws view c) (asked : "#" ++ t.name ∈ ws) : c.tags.contains t = true :=
  tagHolds_name.mp (satisfied.admitted.tags t.name t.name_ne_empty asked)

def Card.Unselected (c : Card) (t : Tag) : Prop :=
  ∀ config text s view, "#" ++ t.name ∈ Text.words text → compile config text = .ok s → s.accepts c view ≠ .ok true

theorem Card.unselected_iff {c : Card} {t : Tag} : c.Unselected t ↔ c.tags.contains t = false := by
  constructor
  · intro unselected
    rw [← Bool.not_eq_true]
    intro present
    have accepted := ((Selector.decides t.compile_anywhere (.of .first)).1 c).mpr (Tag.kept_anywhere present)
    exact unselected _ _ _ _ t.asked_anywhere t.compile_anywhere accepted
  · intro absent config text s view asked compiled accepted
    have present := (((Selector.decides compiled view).1 c).mp accepted).tagged asked
    rw [absent] at present
    cases present

namespace Board
variable {b : Board} {t : Tag} {card : Card}

theorem repeated_removeTag (t : Tag) (n : Nat) (card : Card) :
    repeated (Action.removeTag t).applyTo n card = some { card with tags := card.tags.eraseTimes t n } := by
  induction n generalizing card with
  | zero => rfl
  | succ n ih => exact ih _

theorem removeTag_worked (b : Board) (targets : ResultSet) (t : Tag) :
    Worked (Action.removeTag t).applyTo b targets.ids (b.apply targets (.removeTag t)).board := by
  have settled : b.resolve (.removeTag t) = .ok (.removeTag t) := rfl
  apply apply_worked settled
  rw [apply_completes settled]
  intro id card _
  rw [repeated_removeTag]
  rfl

theorem get?_removeTag {id : EntityId} (found : b.get? id = some card) (targets : ResultSet) (t : Tag) :
    (b.apply targets (.removeTag t)).board.get? id =
      some { card with tags := card.tags.eraseTimes t (targets.ids.count id) } := by
  rw [(removeTag_worked b targets t).cards id, found]
  exact repeated_removeTag t _ card

theorem shown_removeTag (tidy : b.Tidy) (shown : card ∈ b.allCards) (targets : ResultSet) (t : Tag) :
    { card with tags := card.tags.eraseTimes t (targets.ids.count card.id) } ∈
      (b.apply targets (.removeTag t)).board.allCards := by
  have listed : card.id ∈ b.pools.toList.flatten := by
    rw [← tidy.allCards_ids]
    exact List.mem_map_of_mem shown
  rw [← (removeTag_worked b targets t).pools] at listed
  exact List.mem_filterMap.mpr ⟨card.id, listed, get?_removeTag (tidy.found_of_mem shown) targets t⟩

def Untagged (b : Board) (t : Tag) (id : EntityId) : Prop :=
  ∀ config earlier player text found, "#" ++ t.name ∈ Text.words text →
    Engine.resultAfter config earlier b player text = .ok found → id ∉ found.ids

theorem untagged_iff (tidy : b.Tidy) (shown : card ∈ b.allCards) :
    b.Untagged t card.id ↔ card.tags.contains t = false := by
  constructor
  · intro untagged
    rw [← Bool.not_eq_true]
    intro present
    have given := (@Engine.resultAfter_eq_ok {} [] b .first t.anywhere _).mpr ⟨t.answers_anywhere b, rfl⟩
    exact untagged _ _ _ _ _ t.asked_anywhere given ((Engine.mem_found tidy given shown).mpr (Tag.kept_anywhere present))
  · intro absent config earlier player text found asked given listed
    have present := ((Engine.mem_found tidy given shown).mp listed).tagged asked
    rw [absent] at present
    cases present

-- A set that was read from outside can hold a tag twice, and then a removal leaves one.
theorem tag_removed (s : TagSet) (t : Tag) :
    (s.take t).1 = s.contains t ∧
    (∀ other, other ≠ t → (s.take t).2.contains other = s.contains other) ∧
    ((s.take t).2.contains t = false ↔ s.count t ≤ 1) ∧
    (s.Built → s.count t ≤ 1) ∧
    ∀ (b : Board) (targets : ResultSet) (card : Card), b.get? card.id = some card → card.tags = s →
      ∃ changed, (b.apply targets (.removeTag t)).board.get? card.id = some changed ∧
        changed = { card with tags := changed.tags } ∧
        (∀ other, other ≠ t → changed.tags.contains other = s.contains other) ∧
        (changed.tags.contains t = false ↔ s.count t ≤ targets.ids.count card.id) ∧
        (changed.Unselected t ↔ s.count t ≤ targets.ids.count card.id) ∧
        (b.Tidy → card ∈ b.allCards →
          ((b.apply targets (.removeTag t)).board.Untagged t card.id ↔ s.count t ≤ targets.ids.count card.id)) := by
  refine ⟨rfl, fun other different => TagSet.kept_eraseTimes different 1, @TagSet.gone_eraseTimes s t 1,
    fun built => built.count_le t, ?_⟩
  rintro b targets card found rfl
  refine ⟨_, get?_removeTag found targets t, rfl, fun other different => TagSet.kept_eraseTimes different _,
    TagSet.gone_eraseTimes, ?_, ?_⟩
  · rw [Card.unselected_iff, TagSet.gone_eraseTimes]
  · intro tidy shown
    have there := shown_removeTag tidy shown targets t
    have searched := @untagged_iff _ t _ (apply_tidy tidy targets (.removeTag t)) there
    rw [searched, TagSet.gone_eraseTimes]

-- Read from outside, a minion in play that has a tag twice.
def doubled : Board :=
  (empty.add .first {
    id := ⟨0⟩, definition := ⟨0⟩, owner := .first, zone := .play, type := .minion, tags := ⟨[.taunt, .taunt]⟩ }).2

theorem doubled_taunt :
    (decode (.arr [.str "Taunt", .str "Taunt"]) : Option TagSet) = some ⟨[.taunt, .taunt]⟩ ∧
    ((⟨[.taunt, .taunt]⟩ : TagSet).take .taunt).2.contains .taunt = true ∧
    Engine.resultAfter {} [] (doubled.apply ⟨[⟨0⟩]⟩ (.removeTag .taunt)).board .first "minion #taunt" = .ok ⟨[⟨0⟩]⟩ ∧
    ¬ ∀ (s : TagSet) (t : Tag), (s.take t).2.contains t = false := by
  refine ⟨rfl, rfl, rfl, ?_⟩
  intro removes
  cases removes ⟨[.taunt, .taunt]⟩ .taunt

end Board
end CardQuery
