import CardQuery.Proofs.Shortcuts

namespace CardQuery

-- Without a shortcut, a cache or counters.
def answer (config : Config) (board : Board) (player : PlayerId) (text : String) : Except SelectorError ResultSet :=
  match checkCall player text with
  | .error e => .error e
  | .ok view =>
    match compile config text with
    | .error e => .error e
    | .ok s => (collect (s.accepts · view) board.allCards).map .mk

theorem checkCall_eq_ok {player : PlayerId} {text : String} {view : Perspective} :
    checkCall player text = .ok view ↔
      Text.isBlankText text = false ∧ player.isSeated = true ∧ view = .of player := by
  unfold checkCall
  cases Text.isBlankText text with
  | true => simp
  | false => cases player.isSeated <;> simp [eq_comm]

theorem answer_eq_collect {config : Config} {board : Board} {player : PlayerId} {text : String} {ids : List EntityId} :
    answer config board player text = .ok ⟨ids⟩ ↔ Text.isBlankText text = false ∧ player.isSeated = true ∧
      ∃ s, compile config text = .ok s ∧ collect (s.accepts · (.of player)) board.allCards = .ok ids := by
  constructor
  · intro answered
    unfold answer at answered
    split at answered
    · cases answered
    · rename_i view checked
      obtain ⟨nonblank, seated, rfl⟩ := checkCall_eq_ok.mp checked
      split at answered
      · cases answered
      · rename_i s compiled
        refine ⟨nonblank, seated, s, compiled, ?_⟩
        cases collected : collect (s.accepts · (.of player)) board.allCards with
        | error e => simp [collected, Except.map] at answered
        | ok found =>
          rw [collected] at answered
          cases answered
          rfl
  · intro given
    obtain ⟨nonblank, seated, s, compiled, collected⟩ := given
    have checked := checkCall_eq_ok.mpr ⟨nonblank, seated, rfl⟩
    simp [answer, checked, compiled, collected, Except.map]

inductive Call where
  | evaluate (board : Board) (player : PlayerId) (text : String)
  | prepare (text : String)
  | clearCache
  | resetCounters

namespace Engine

def after (e : Engine) : Call → Engine
  | .evaluate board player text => (e.evaluate board player text).engine
  | .prepare text => (e.prepare text).engine
  | .clearCache => e.clearCache
  | .resetCounters => e.resetCounters

def run (e : Engine) (calls : List Call) : Engine := calls.foldl after e

@[simp] theorem count_config (e : Engine) (f : Counters → Counters) : (e.count f).config = e.config := by
  unfold count
  split <;> rfl

@[simp] theorem count_cache (e : Engine) (f : Counters → Counters) : (e.count f).cache = e.cache := by
  unfold count
  split <;> rfl

inductive Remembers (config : Config) (cache : Table String Selector) : Engine → Prop where
  | same (kept : next.config = config) (same : next.cache = cache) : Remembers config cache next
  | learned (kept : next.config = config) (compiled : compile config text = .ok s)
      (grown : next.cache = cache.insert text s) : Remembers config cache next
  | forgot (kept : next.config = config) (empty : next.cache = {}) : Remembers config cache next

-- What is kept is what compiling would give now.
structure Sound (config : Config) (e : Engine) : Prop where
  kept : e.config = config
  cache : ∀ text s, e.cache.get? text = some s → compile config text = .ok s

theorem ofConfig_sound (config : Config) : (ofConfig config).Sound config := by
  refine ⟨rfl, ?_⟩
  intro text s found
  cases found

theorem remembers_sound {config : Config} {e next : Engine} (sound : e.Sound config)
    (step : Remembers config e.cache next) : next.Sound config := by
  cases step with
  | same kept same => exact ⟨kept, same ▸ sound.cache⟩
  | @learned _ text s kept compiled grown =>
    refine ⟨kept, ?_⟩
    intro other found present
    rw [grown, Table.get?_insert] at present
    split at present
    · rename_i equal
      cases present
      exact equal ▸ compiled
    · exact sound.cache other found present
  | forgot kept empty =>
    refine ⟨kept, ?_⟩
    intro text s found
    rw [empty] at found
    cases found

theorem count_sound {config : Config} {e : Engine} (sound : e.Sound config) (f : Counters → Counters) :
    (e.count f).Sound config := remembers_sound sound (.same (by simp [sound.kept]) (by simp))

section Step
variable {config : Config} {e : Engine} (sound : e.Sound config)
include sound

-- The cache changes only when it lacks the text and the text compiles.
theorem prepare_exact (text : String) :
    (e.prepare text).result = compile config text ∧ Remembers config e.cache (e.prepare text).engine ∧
      ((∀ s, compile config text ≠ .ok s) → (e.prepare text).engine.cache = e.cache) := by
  have report : (e.config.report text).result = compile config text := by rw [sound.kept]; rfl
  unfold prepare
  split
  · split
    · rename_i s found
      refine ⟨(sound.cache text s found).symm, .same (by simp [sound.kept]) (by simp), ?_⟩
      intro _
      simp
    · rename_i absent
      dsimp only
      split
      · rename_i error failed
        exact ⟨by rw [← report, failed], .same sound.kept rfl, fun _ => rfl⟩
      · rename_i s compiled
        rw [report] at compiled
        refine ⟨compiled.symm, .learned sound.kept compiled rfl, ?_⟩
        intro fails
        exact absurd compiled (fails s)
  · exact ⟨report, .same sound.kept rfl, fun _ => rfl⟩

theorem evaluate_exact (board : Board) (player : PlayerId) (text : String) :
    (e.evaluate board player text).result = answer config board player text ∧
      Remembers config e.cache (e.evaluate board player text).engine ∧
      ((∀ s, compile config text ≠ .ok s) → (e.evaluate board player text).engine.cache = e.cache) := by
  have called := count_sound sound .call
  unfold evaluate answer
  dsimp only
  cases checkCall player text with
  | error error => exact ⟨rfl, .same called.kept (by simp), fun _ => by simp⟩
  | ok view =>
    dsimp only
    cases found : Shortcut.find? text with
    | some holds =>
      obtain ⟨s, compiled, accepts⟩ := Shortcut.compiles _ (Shortcut.find?_eq_some found)
      refine ⟨?_, .same (by simp [sound.kept]) (by simp), fun _ => by simp⟩
      simp [compiled config, accepts]
    | none =>
      dsimp only
      obtain ⟨result, remembers, unchanged⟩ := prepare_exact (count_sound called (·.slowCall text)) text
      simp only [count_cache] at remembers unchanged
      rw [result]
      cases compiled : compile config text with
      | error error =>
        rw [compiled] at unchanged
        exact ⟨rfl, remembers, unchanged⟩
      | ok s =>
        rw [compiled] at unchanged
        exact ⟨rfl, remembers, unchanged⟩

theorem after_sound (call : Call) : (e.after call).Sound config := by
  apply remembers_sound sound
  cases call with
  | evaluate board player text => exact (evaluate_exact sound board player text).2.1
  | prepare text => exact (prepare_exact sound text).2.1
  | clearCache => exact .forgot sound.kept rfl
  | resetCounters => exact .same sound.kept rfl

theorem run_sound (calls : List Call) : (e.run calls).Sound config := by
  induction calls generalizing e with
  | nil => exact sound
  | cons call rest ih => exact ih (after_sound sound call)

end Step

theorem reached_sound (config : Config) (calls : List Call) : ((ofConfig config).run calls).Sound config :=
  run_sound (ofConfig_sound config) calls

theorem run_result (config : Config) (earlier : List Call) (board : Board) (player : PlayerId) (text : String) :
    (((ofConfig config).run earlier).evaluate board player text).result = answer config board player text :=
  (evaluate_exact (reached_sound config earlier) board player text).1

theorem evaluate_after_calls (config : Config) (earlier : List Call) :
    (∀ board player text,
      (∀ caching counting, (((ofConfig config).run earlier).evaluate board player text).result =
        ((ofConfig { config with caching, counting }).evaluate board player text).result) ∧
      (config.noType = .matchAny →
        (((ofConfig config).run earlier).evaluate board player text).result = (select board player text).result)) ∧
    (∀ text s, ((ofConfig config).run earlier).cache.get? text = some s → compile config text = .ok s) ∧
    ∀ text, (∀ s, compile config text ≠ .ok s) →
      (((ofConfig config).run earlier).prepare text).engine.cache = ((ofConfig config).run earlier).cache ∧
      ∀ board player, (((ofConfig config).run earlier).evaluate board player text).engine.cache =
        ((ofConfig config).run earlier).cache := by
  have sound := reached_sound config earlier
  refine ⟨?_, sound.cache, ?_⟩
  · intro board player text
    rw [run_result]
    refine ⟨?_, ?_⟩
    · intro caching counting
      have fresh := (evaluate_exact (ofConfig_sound { config with caching, counting }) board player text).1
      rw [fresh]
      rfl
    · intro lenient
      have fresh := (evaluate_exact (ofConfig_sound { caching := false, counting := false }) board player text).1
      obtain ⟨policy, caching, counting⟩ := config
      cases lenient
      exact fresh.symm
  · intro text fails
    refine ⟨(prepare_exact sound text).2.2 fails, ?_⟩
    intro board player
    exact (evaluate_exact sound board player text).2.2 fails

end Engine
end CardQuery
