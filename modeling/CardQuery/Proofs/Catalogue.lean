import CardQuery.Proofs.Insertions
import Mathlib.Data.List.Nodup

namespace CardQuery
namespace Registry

-- Every call is made, whatever the calls before it were told. These are the accepted definitions and what is left.
def registerAll (r : Registry) : List CardDefinition → List CardDefinition × Registry
  | [] => ([], r)
  | d :: ds =>
    match r.register d with
    | .ok next => (d :: (next.registerAll ds).1, (next.registerAll ds).2)
    | .error _ => r.registerAll ds

section Register
variable {r next : Registry} {d : CardDefinition}

theorem register_eq_ok : r.register d = .ok next ↔
    r.get? d.id = none ∧ next = ⟨r.cards.insert d.id d, r.names.insert d.name d.id⟩ := by
  have taken : r.cards.contains d.id = (r.get? d.id).isSome := rfl
  rw [register, taken]
  cases r.get? d.id with
  | none => simp [eq_comm]
  | some other => simp

theorem register_eq_error {fault : Fault} : r.register d = .error fault ↔
    (r.get? d.id).isSome ∧ fault = .duplicateCard d.id := by
  have taken : r.cards.contains d.id = (r.get? d.id).isSome := rfl
  rw [register, taken]
  cases r.get? d.id with
  | none => simp
  | some other => simp [eq_comm]

theorem registerAll_accepted (accepts : r.register d = .ok next) (ds : List CardDefinition) :
    r.registerAll (d :: ds) = (d :: (next.registerAll ds).1, (next.registerAll ds).2) := by
  rw [registerAll, accepts]

theorem registerAll_refused {fault : Fault} (refuses : r.register d = .error fault) (ds : List CardDefinition) :
    r.registerAll (d :: ds) = r.registerAll ds := by
  rw [registerAll, refuses]

theorem registerAll_append (r : Registry) (ds es : List CardDefinition) : r.registerAll (ds ++ es) =
    ((r.registerAll ds).1 ++ ((r.registerAll ds).2.registerAll es).1, ((r.registerAll ds).2.registerAll es).2) := by
  induction ds generalizing r with
  | nil => rfl
  | cons d ds ih =>
    rw [List.cons_append]
    cases called : r.register d with
    | ok next => rw [registerAll_accepted called, registerAll_accepted called, ih, List.cons_append]
    | error fault => rw [registerAll_refused called, registerAll_refused called, ih]

theorem get?_register (accepts : r.register d = .ok next) (id : CardId) :
    next.get? id = if d.id = id then some d else r.get? id := by
  obtain ⟨_, rfl⟩ := register_eq_ok.mp accepts
  exact Table.get?_insert r.cards d.id id d

-- What a number stands for is never replaced.
theorem get?_registerAll (r : Registry) (ds : List CardDefinition) (id : CardId) :
    (r.registerAll ds).2.get? id = (r.get? id).or (ds.find? (·.id == id)) := by
  induction ds generalizing r with
  | nil => exact Option.or_none.symm
  | cons d ds ih =>
    cases called : r.register d with
    | ok next =>
      have free := (register_eq_ok.mp called).1
      rw [registerAll_accepted called, ih, get?_register called]
      by_cases here : d.id = id
      · subst here
        simp [free]
      · simp [here]
    | error fault =>
      obtain ⟨taken, _⟩ := register_eq_error.mp called
      rw [registerAll_refused called, ih]
      by_cases here : d.id = id
      · subst here
        obtain ⟨other, found⟩ := Option.isSome_iff_exists.mp taken
        simp [found]
      · simp [here]

end Register

structure Lists (r : Registry) (accepted : List CardDefinition) : Prop where
  cards : r.cards.entries = accepted.map fun d => (d.id, d)
  names : ∀ name, r.names.get? name = (accepted.reverse.find? (·.name == name)).map (·.id)

section Lists
variable {r next : Registry} {d : CardDefinition} {accepted : List CardDefinition}

theorem empty_lists : Lists {} [] := ⟨rfl, fun _ => rfl⟩

theorem Lists.register (lists : r.Lists accepted) (accepts : r.register d = .ok next) : next.Lists (accepted ++ [d]) := by
  obtain ⟨free, rfl⟩ := register_eq_ok.mp accepts
  refine ⟨?_, ?_⟩
  · have entries : (r.cards.insert d.id d).entries = r.cards.entries ++ [(d.id, d)] :=
      Entries.insert_of_fresh (Entries.get?_eq_none.mp free)
    rw [entries, lists.cards, List.map_append]
    rfl
  · intro name
    rw [Table.get?_insert, lists.names, List.reverse_append, List.reverse_singleton, List.singleton_append, List.find?_cons]
    by_cases here : d.name = name
    · simp [here]
    · rw [if_neg here, beq_false_of_ne here]

theorem registerAll_lists (lists : r.Lists accepted) (ds : List CardDefinition) :
    (r.registerAll ds).2.Lists (accepted ++ (r.registerAll ds).1) := by
  induction ds generalizing r accepted with
  | nil =>
    rw [registerAll, List.append_nil]
    exact lists
  | cons d ds ih =>
    cases called : r.register d with
    | ok next =>
      rw [registerAll_accepted called, ← List.singleton_append, ← List.append_assoc]
      exact ih (lists.register called)
    | error fault =>
      rw [registerAll_refused called]
      exact ih lists

variable (lists : r.Lists accepted)
include lists

theorem Lists.size : r.size = accepted.length := by
  rw [Registry.size, Table.size, lists.cards, List.length_map]

theorem Lists.values : r.cards.values = accepted := by
  rw [Table.values, lists.cards, List.map_map]
  exact List.map_id accepted

theorem Lists.nodup : accepted.Nodup := by
  have keys := r.cards.nodup
  rw [Entries.keys, lists.cards, List.map_map] at keys
  exact List.Nodup.of_map _ keys

theorem Lists.get?_mem (listed : d ∈ accepted) : r.get? d.id = some d := by
  apply Entries.get?_of_mem r.cards.nodup
  rw [lists.cards]
  exact List.mem_map.mpr ⟨d, listed, rfl⟩

-- A name never stands for a number without a definition, or for one with another name.
theorem Lists.named? (name : String) : r.named? name = accepted.reverse.find? (·.name == name) := by
  rw [Registry.named?, lists.names]
  cases last : accepted.reverse.find? (·.name == name) with
  | none => rfl
  | some d => exact lists.get?_mem (List.mem_reverse.mp (List.mem_of_find?_eq_some last))

theorem Lists.named?_eq_none (name : String) : r.named? name = none ↔ ∀ d ∈ accepted, d.name ≠ name := by
  rw [lists.named?, List.find?_eq_none]
  simp

theorem Lists.ofType (type : CardType) : r.ofType type = accepted.filter (·.type == type) := by
  rw [Registry.ofType, lists.values]

theorem Lists.count_ofType (listed : d ∈ accepted) (type : CardType) :
    (r.ofType type).count d = if type = d.type then 1 else 0 := by
  rw [lists.ofType]
  by_cases own : type = d.type
  · have kept : (d.type == type) = true := beq_iff_eq.mpr own.symm
    rw [if_pos own, ← List.count_eq_one_of_mem lists.nodup listed]
    exact List.count_filter kept
  · rw [if_neg own, List.count_eq_zero]
    intro found
    exact own (beq_iff_eq.mp (List.mem_filter.mp found).2).symm

end Lists

section Next
variable {ds : List CardDefinition} {d : CardDefinition}

theorem registerAll_taken (taken : d.id ∈ ds.map (·.id)) :
    (registerAll {} ds).2.register d = .error (.duplicateCard d.id) ∧ registerAll {} (ds ++ [d]) = registerAll {} ds := by
  obtain ⟨other, listed, same⟩ := List.mem_map.mp taken
  have found : ((registerAll {} ds).2.get? d.id).isSome := by
    have earlier : (ds.find? (·.id == d.id)).isSome := List.find?_isSome.mpr ⟨other, listed, beq_iff_eq.mpr same⟩
    rw [get?_registerAll]
    exact earlier
  have refuses : (registerAll {} ds).2.register d = .error (.duplicateCard d.id) := register_eq_error.mpr ⟨found, rfl⟩
  refine ⟨refuses, ?_⟩
  rw [registerAll_append, registerAll_refused refuses, registerAll, List.append_nil]

theorem registerAll_free (free : d.id ∉ ds.map (·.id)) : ∃ next, (registerAll {} ds).2.register d = .ok next ∧
    registerAll {} (ds ++ [d]) = ((registerAll {} ds).1 ++ [d], next) := by
  have absent : (registerAll {} ds).2.get? d.id = none := by
    have unlisted : ds.find? (·.id == d.id) = none := by
      rw [List.find?_eq_none]
      intro other listed same
      exact free (List.mem_map.mpr ⟨other, listed, beq_iff_eq.mp same⟩)
    rw [get?_registerAll]
    exact unlisted
  have accepts := register_eq_ok.mpr ⟨absent, rfl⟩
  refine ⟨_, accepts, ?_⟩
  rw [registerAll_append, registerAll_accepted accepts, registerAll]

end Next
end Registry

namespace Board
variable {b : Board} {pool owner : PlayerId} {zone : Zone}

theorem spawn_of_seated (reached : b.Reached) (seated : pool.isSeated = true) (room : b.next < 0x100000000)
    (d : CardDefinition) : (b.spawn pool d owner zone).1 = .ok b.fresh := by
  cases spawned : b.spawn pool d owner zone with
  | mk result after =>
    cases (spawn_exact (reached_bounded reached)).mp spawned with
    | exhausted spent => omega
    | unseated _ stranger => simp [seated] at stranger
    | spawned _ _ => rfl

theorem spawnNamed_known (reached : b.Reached) (seated : pool.isSeated = true) (room : b.next < 0x100000000)
    {r : Registry} {name : String} {d : CardDefinition} (known : r.named? name = some d) :
    b.spawnNamed r name pool owner zone = (.ok b.fresh, (b.spawn pool d owner zone).2) := by
  have made : (b.spawn pool d owner zone).1 = .ok b.fresh := spawn_of_seated reached seated room d
  rw [spawnNamed, known]
  dsimp only
  cases spawned : b.spawn pool d owner zone with
  | mk result after =>
    rw [spawned] at made
    cases made
    rfl

theorem spawnNamed_unknown {r : Registry} {name : String} (absent : r.named? name = none) :
    b.spawnNamed r name pool owner zone = (.error (.refused (.input name .unknownCardName)), b) := by
  rw [spawnNamed, absent]

theorem spawnNamed_isOk (reached : b.Reached) (seated : pool.isSeated = true) (room : b.next < 0x100000000) {r : Registry}
    {name : String} : (∃ id, (b.spawnNamed r name pool owner zone).1 = .ok id) ↔ (r.named? name).isSome := by
  cases known : r.named? name with
  | none => simp [spawnNamed_unknown known]
  | some d => simp [spawnNamed_known reached seated room known]

end Board

namespace Registry

-- A refused call changes neither index.
theorem registered (ds : List CardDefinition) :
    let accepted := (registerAll {} ds).1
    let r := (registerAll {} ds).2
    (∀ id, r.get? id = ds.find? (·.id == id)) ∧
    r.size = accepted.length ∧
    (∀ name, r.named? name = accepted.reverse.find? (·.name == name) ∧
      (r.named? name = none ↔ ∀ d ∈ accepted, d.name ≠ name)) ∧
    (∀ d, (d.id ∈ ds.map (·.id) →
        r.register d = .error (.duplicateCard d.id) ∧ registerAll {} (ds ++ [d]) = (accepted, r)) ∧
      (d.id ∉ ds.map (·.id) → ∃ next, r.register d = .ok next ∧ registerAll {} (ds ++ [d]) = (accepted ++ [d], next))) ∧
    (∀ type, (∀ d ∈ accepted, (r.ofType type).count d = if type = d.type then 1 else 0) ∧
      ∀ d ∈ r.ofType type, d ∈ accepted) ∧
    (∀ (b : Board) (pool : PlayerId), b.Reached → pool.isSeated = true → b.next < 0x100000000 →
      ∀ (name : String) (owner : PlayerId) (zone : Zone),
        ((∃ id, (b.spawnNamed r name pool owner zone).1 = .ok id) ↔ (r.named? name).isSome) ∧
        (∀ d, r.named? name = some d → ∃ id, (b.spawn pool d owner zone).1 = .ok id ∧
          b.spawnNamed r name pool owner zone = (.ok id, (b.spawn pool d owner zone).2)) ∧
        (r.named? name = none →
          b.spawnNamed r name pool owner zone = (.error (.refused (.input name .unknownCardName)), b))) := by
  intro accepted r
  have lists : r.Lists accepted := registerAll_lists empty_lists ds
  refine ⟨get?_registerAll {} ds, lists.size, ?_, ?_, ?_, ?_⟩
  · intro name
    exact ⟨lists.named? name, lists.named?_eq_none name⟩
  · intro d
    exact ⟨registerAll_taken, registerAll_free⟩
  · intro type
    refine ⟨fun d listed => lists.count_ofType listed type, ?_⟩
    intro d found
    rw [lists.ofType] at found
    exact (List.mem_filter.mp found).1
  · intro b pool reached seated room name owner zone
    refine ⟨Board.spawnNamed_isOk reached seated room, ?_, Board.spawnNamed_unknown⟩
    intro d known
    exact ⟨b.fresh, Board.spawn_of_seated reached seated room d, Board.spawnNamed_known reached seated room known⟩

def wisp : CardDefinition := .named ⟨1⟩ "Wisp" .minion
def fireball : CardDefinition := .named ⟨2⟩ "Fireball" .spell

-- The third call brings a new name for a number that is taken, the last a new number for a name.
def wispCalls : List CardDefinition := [wisp, fireball, .named ⟨1⟩ "Frostbolt" .spell, .named ⟨3⟩ "Wisp" .hero]

theorem wisp_registered :
    let r := (registerAll {} wispCalls).2
    (registerAll {} wispCalls).1 = [wisp, fireball, .named ⟨3⟩ "Wisp" .hero] ∧
    r.named? "Wisp" = some (.named ⟨3⟩ "Wisp" .hero) ∧ r.named? "Frostbolt" = none ∧
    r.register (.named ⟨2⟩ "Pyroblast" .spell) = .error (.duplicateCard ⟨2⟩) ∧
    Board.empty.spawnNamed r "Wisp" .first .second .play =
      (.ok ⟨0⟩, (Board.empty.spawn .first (.named ⟨3⟩ "Wisp" .hero) .second .play).2) ∧
    Board.empty.spawnNamed r "Frostbolt" .first .second .play =
      (.error (.refused (.input "Frostbolt" .unknownCardName)), Board.empty) := by
  intro r
  obtain ⟨_, _, _, calls, _, boards⟩ := registered wispCalls
  have known : r.named? "Wisp" = some (.named ⟨3⟩ "Wisp" .hero) := rfl
  have absent : r.named? "Frostbolt" = none := rfl
  have refused := ((calls (.named ⟨2⟩ "Pyroblast" .spell)).1 (by decide)).1
  have spawns := boards Board.empty .first ⟨[], rfl⟩ rfl (by decide)
  obtain ⟨id, made, same⟩ := (spawns "Wisp" .second .play).2.1 _ known
  cases made
  exact ⟨rfl, known, absent, refused, same, (spawns "Frostbolt" .second .play).2.2 absent⟩

end Registry
end CardQuery
