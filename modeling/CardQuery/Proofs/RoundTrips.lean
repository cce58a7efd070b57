import CardQuery.Json.Forms
import Mathlib.Data.List.Nodup

namespace CardQuery

open Json (required defaulted)

class RoundTrips (α : Type) [JsonForm α] : Prop where
  decode_encode (a : α) : decode (encode a) = some a

attribute [simp] RoundTrips.decode_encode

theorem read_held [JsonForm β] [RoundTrips β] (make : β → α) (b : β) : (decode (encode b)).map make = some (make b) := by
  rw [RoundTrips.decode_encode, Option.map_some]

namespace Json

-- What is used of the readers of counts, records and alternatives, whatever else they take.
structure Laws (natural : Nat → Json → Option Nat) (record : List String → Json → Option (List (String × Json)))
    (choice : Json → Option (String × Option Json)) : Prop where
  count : ∀ {n bound : Nat}, n < bound → natural bound (.int n) = some n
  -- An object stands for its members, whichever fields are asked for.
  fields : ∀ (names : List String) (members : List (String × Json)), record names (.obj members) = some members
  bare : ∀ name : String, choice (.str name) = some (name, none)
  held : ∀ (name : String) (content : Json), choice (.obj [(name, content)]) = some (name, some content)

theorem laws : Laws natBelow members? choice? where
  count below := if_pos below
  fields _ _ := rfl
  bare _ := rfl
  held _ _ := rfl

theorem decodeAll_map [JsonForm α] {items : List α} (kept : ∀ a ∈ items, decode (encode a) = some a) :
    decodeAll (items.map encode) = some items := by
  induction items with
  | nil => rfl
  | cons a rest ih =>
    have tail := ih fun b later => kept b (List.mem_cons_of_mem a later)
    simp [decodeAll, kept a List.mem_cons_self, tail]

theorem decodeMembers_map [JsonForm ν] {es : List (κ × ν)} (key : κ → String)
    (kept : ∀ e ∈ es, decode (encode e.2) = some e.2) :
    decodeMembers (es.map fun e => (key e.1, encode e.2)) = some (es.map fun e => (key e.1, e.2)) := by
  induction es with
  | nil => rfl
  | cons e rest ih =>
    have tail := ih fun f later => kept f (List.mem_cons_of_mem e later)
    simp [decodeMembers, kept e List.mem_cons_self, tail]

section Fields
variable [JsonForm α] {name other : String} (j : Json) (rest : List (String × Json))

@[simp] theorem required_here : (required ((name, j) :: rest) name : Option α) = decode j := by
  simp [required, Entries.get?]

@[simp] theorem required_later (ne : other ≠ name) :
    (required ((other, j) :: rest) name : Option α) = required rest name := by
  simp [required, Entries.get?, ne]

@[simp] theorem defaulted_here (default : α) : defaulted ((name, j) :: rest) name default = decode j := by
  simp [defaulted, Entries.get?]

@[simp] theorem defaulted_later (default : α) (ne : other ≠ name) :
    defaulted ((other, j) :: rest) name default = defaulted rest name default := by
  simp [defaulted, Entries.get?, ne]

end Fields

theorem read_record {names : List String} {fields : List (String × Json)} {build : List (String × Json) → Option α} {a : α}
    (built : build fields = some a) : ((obj fields).members? names).bind build = some a := by
  rw [laws.fields, Option.bind_some, built]

end Json

instance : RoundTrips Bool := ⟨fun _ => rfl⟩
instance : RoundTrips String := ⟨fun _ => rfl⟩
instance : RoundTrips Int64 := ⟨fun _ => Number.ofInt?_eq_some.mpr rfl⟩

instance : RoundTrips UInt32 where
  decode_encode n := by
    show (Json.natBelow 0x100000000 (.int n.toNat)).map UInt32.ofNat = some n
    rw [Json.laws.count n.toNat_lt, Option.map_some, UInt32.ofNat_toNat]

instance : RoundTrips UInt8 where
  decode_encode n := by
    show (Json.natBelow 0x100 (.int n.toNat)).map UInt8.ofNat = some n
    rw [Json.laws.count n.toNat_lt, Option.map_some, UInt8.ofNat_toNat]

theorem decode_count {n : Nat} (fits : n < 0x10000000000000000) : decode (encode n) = some n := Json.laws.count fits

-- Data whose form is never `null` may also be missing.
theorem decode_option [JsonForm α] {a : α} (kept : decode (encode a) = some a) (present : encode a ≠ .null) :
    decode (encode (some a)) = some (some a) := by
  show (decode (encode a) : Option (Option α)) = some (some a)
  cases form : encode a with
  | null => cases present form
  | _ =>
    rw [form] at kept
    exact congrArg (Option.map some) kept

theorem roundTrips_option [JsonForm α] [RoundTrips α] (present : ∀ a : α, encode a ≠ .null) : RoundTrips (Option α) where
  decode_encode
    | none => rfl
    | some a => decode_option (RoundTrips.decode_encode a) (present a)

instance : RoundTrips (Option Int64) := roundTrips_option nofun
instance : RoundTrips (Option String) := roundTrips_option nofun

instance [JsonForm α] [RoundTrips α] : RoundTrips (List α) where
  decode_encode _ := Json.decodeAll_map fun a _ => RoundTrips.decode_encode a

theorem decode_table [JsonForm α] {t : Table String α} (kept : ∀ e ∈ t.entries, decode (encode e.2) = some e.2) :
    decode (encode t) = some t := by
  show (Json.decodeMembers (t.entries.map fun e => (e.1, encode e.2))).map Table.ofList = some t
  have read : Json.decodeMembers (t.entries.map fun e => (e.1, encode e.2)) = some (t.entries.map id) :=
    Json.decodeMembers_map id kept
  rw [read, List.map_id, Option.map_some, Table.ofList_entries]

instance [JsonForm α] [RoundTrips α] : RoundTrips (Table String α) where
  decode_encode _ := decode_table fun e _ => RoundTrips.decode_encode e.2

theorem decodeNamed_title {all : List α} {title : α → String} (distinct : (all.map title).Nodup) {a : α}
    (listed : a ∈ all) : decodeNamed all title (encodeNamed title a) = some a := by
  have bare : (encodeNamed title a).bare? = some (title a) := by rw [encodeNamed, Json.bare?, Json.laws.bare]
  rw [decodeNamed, bare, Option.bind_some]
  obtain ⟨b, found⟩ : ∃ b, all.find? (fun b => title b == title a) = some b := by
    rw [← Option.isSome_iff_exists, List.find?_isSome]
    exact ⟨a, listed, beq_self_eq_true _⟩
  have met := List.find?_some found
  rw [List.inj_on_of_nodup_map distinct (List.mem_of_find?_eq_some found) listed (beq_iff_eq.mp met)] at found
  exact found

instance : RoundTrips Zone := ⟨fun zone => decodeNamed_title (by decide) zone.mem_all⟩
instance : RoundTrips Tag := ⟨fun tag => decodeNamed_title (by decide) (by cases tag <;> decide)⟩
instance : RoundTrips CardType := ⟨fun type => decodeNamed_title (by decide) (by cases type <;> decide)⟩
instance : RoundTrips NoTypePolicy := ⟨fun policy => decodeNamed_title (by decide) (by cases policy <;> decide)⟩

instance : RoundTrips EntityId := ⟨fun id => read_held EntityId.mk id.raw⟩
instance : RoundTrips CardId := ⟨fun id => read_held CardId.mk id.raw⟩
instance : RoundTrips PlayerId := ⟨fun p => read_held PlayerId.mk p.raw⟩
instance : RoundTrips TagSet := ⟨fun s => read_held TagSet.mk s.toList⟩

instance : RoundTrips PropertyKey where
  decode_encode key := by
    cases key with
    | other name => simp only [encode, decode, Json.laws.held, Option.map_some]
    | _ => exact decodeNamed_title (show (PropertyKey.known.map PropertyKey.title).Nodup by decide) (by decide)

instance : RoundTrips Value where
  decode_encode v := by
    cases v with
    | int n => simp only [encode, decode, Json.laws.held]; exact read_held Value.int n
    | bool b => simp only [encode, decode, Json.laws.held]; exact read_held Value.bool b
    | text s => simp only [encode, decode, Json.laws.held]; exact read_held Value.text s

instance : RoundTrips Properties := ⟨fun _ => Json.read_record (by simp)⟩
instance : RoundTrips Capabilities := ⟨fun _ => Json.read_record (by simp)⟩
instance : RoundTrips Enchantment := ⟨fun _ => Json.read_record (by simp)⟩
instance : RoundTrips Card := ⟨fun _ => Json.read_record (by simp)⟩
instance : RoundTrips CardDefinition := ⟨fun _ => Json.read_record (by simp)⟩
instance : RoundTrips ResultSet := ⟨fun _ => Json.read_record (by simp)⟩
instance : RoundTrips Config := ⟨fun _ => Json.read_record (by simp)⟩

theorem decode_seats [JsonForm α] {s : Seats α} (first : decode (encode s.first) = some s.first)
    (second : decode (encode s.second) = some s.second) : decode (encode s) = some s :=
  Json.read_record (by simp [Entries.get?, first, second])

instance [JsonForm α] [RoundTrips α] : RoundTrips (Seats α) where
  decode_encode s := decode_seats (RoundTrips.decode_encode s.first) (RoundTrips.decode_encode s.second)

theorem decodeEntityKey_digits (id : EntityId) : decodeEntityKey (Text.renderNatural id.raw.toNat) = some id := by
  have digits : Text.readNatural (Text.renderNatural id.raw.toNat).toList = some id.raw.toNat := by
    rw [Text.renderNatural, String.toList_ofList, Text.readNatural_digits]
  have fits : id.raw.toNat < 0x100000000 := id.raw.toNat_lt
  simp [decodeEntityKey, digits, fits]

theorem decodeCards_digits (es : List (EntityId × Card)) :
    decodeCards (es.map fun e => (Text.renderNatural e.1.raw.toNat, e.2)) = some es := by
  induction es with
  | nil => rfl
  | cons e rest ih => simp [decodeCards, decodeEntityKey_digits, ih]

instance : RoundTrips (Table EntityId Card) where
  decode_encode t := by
    show (Json.decodeMembers (t.entries.map fun e => (Text.renderNatural e.1.raw.toNat, encode e.2))).bind
      (fun members => (decodeCards members).bind fun es => some (Table.ofList es)) = some t
    rw [Json.decodeMembers_map (fun id : EntityId => Text.renderNatural id.raw.toNat)
      fun e _ => RoundTrips.decode_encode e.2, Option.bind_some, decodeCards_digits, Option.bind_some, Table.ofList_entries]

instance : RoundTrips Board where
  decode_encode b := Json.read_record (by simp [decode_count b.next_lt, b.next_lt])

structure Counters.InRange (c : Counters) : Prop where
  calls : c.calls < 0x10000000000000000
  shortcuts : c.shortcuts < 0x10000000000000000
  slow : c.slow < 0x10000000000000000
  cacheHits : c.cacheHits < 0x10000000000000000
  slowTexts : ∀ e ∈ c.slowTexts.entries, e.2 < 0x10000000000000000

theorem decode_counters {c : Counters} (range : c.InRange) : decode (encode c) = some c := by
  have texts : decode (encode c.slowTexts) = some c.slowTexts :=
    decode_table fun e listed => decode_count (range.slowTexts e listed)
  exact Json.read_record (by simp [decode_count range.calls, decode_count range.shortcuts, decode_count range.slow,
    decode_count range.cacheHits, texts])

instance : RoundTrips Action where
  decode_encode action := by
    cases action with
    | destroy => rfl
    | dealSpellDamage amount caster =>
      show decode (Json.obj [("DealSpellDamage", .obj [("amount", encode amount), ("caster", encode caster)])]) = _
      simp only [decode, Json.laws.held]
      simp [fieldsOnly]
    | buff attack health =>
      show decode (Json.obj [("Buff", .obj [("attack", encode attack), ("health", encode health)])]) = _
      simp only [decode, Json.laws.held]
      simp [fieldsOnly]
    | dealDamage amount => simp only [encode, decode, Json.laws.held]; exact read_held Action.dealDamage amount
    | restoreHealth amount => simp only [encode, decode, Json.laws.held]; exact read_held Action.restoreHealth amount
    | addTag tag => simp only [encode, decode, Json.laws.held]; exact read_held Action.addTag tag
    | removeTag tag => simp only [encode, decode, Json.laws.held]; exact read_held Action.removeTag tag
    | moveTo zone => simp only [encode, decode, Json.laws.held]; exact read_held Action.moveTo zone
    | setOwner owner => simp only [encode, decode, Json.laws.held]; exact read_held Action.setOwner owner

theorem state_roundTrips :
    (∀ c : Counters, c.InRange → decode (encode c) = some c) ∧
    (∀ (α : Type) [JsonForm α] (s : Seats α), decode (encode s.first) = some s.first →
      decode (encode s.second) = some s.second → decode (encode s) = some s) ∧
    RoundTrips Board ∧ RoundTrips Card ∧ RoundTrips CardDefinition ∧ RoundTrips Properties ∧ RoundTrips TagSet ∧
    RoundTrips PropertyKey ∧ RoundTrips Value ∧ RoundTrips ResultSet ∧ RoundTrips Config ∧ RoundTrips Action ∧
    RoundTrips Enchantment ∧ RoundTrips Capabilities ∧ RoundTrips EntityId ∧ RoundTrips CardId ∧ RoundTrips PlayerId ∧
    RoundTrips Zone ∧ RoundTrips Tag ∧ RoundTrips CardType ∧ RoundTrips NoTypePolicy := by
  refine ⟨fun _ range => decode_counters range, fun _ _ _ first second => decode_seats first second, ?_⟩
  refine ⟨?_, ?_, ?_, ?_, ?_, ?_, ?_, ?_, ?_, ?_, ?_, ?_, ?_, ?_, ?_, ?_, ?_, ?_, ?_⟩ <;> infer_instance

-- As many calls as can be counted, and the two ends of what a seat can hold.
theorem full_counters_roundTrip :
    let counters : Counters := { calls := 0xFFFFFFFFFFFFFFFF, slowTexts := Table.ofList [("", 0xFFFFFFFFFFFFFFFF)] }
    let seats : Seats Int64 := ⟨-0x8000000000000000, 0x7FFFFFFFFFFFFFFF⟩
    counters.InRange ∧ decode (encode counters) = some counters ∧ decode (encode seats) = some seats := by
  intro counters seats
  have range : counters.InRange := by
    refine ⟨by decide, by decide, by decide, by decide, ?_⟩
    intro e listed
    cases List.mem_singleton.mp listed
    decide
  obtain ⟨counted, seated, _⟩ := state_roundTrips
  exact ⟨range, counted counters range, seated Int64 seats (RoundTrips.decode_encode _) (RoundTrips.decode_encode _)⟩

end CardQuery
