import CardQuery.Proofs.Insertions
import CardQuery.Proofs.Session
import Mathlib.Algebra.GroupWithZero.Nat
import Mathlib.Data.List.DropRight
import Mathlib.Data.List.Induction

namespace CardQuery

namespace Shortcut

theorem find?_isSome (text : String) : (find? text).isSome = texts.contains text := by
  rw [find?, Option.isSome_map, Bool.eq_iff_iff, List.find?_isSome, texts, List.contains_iff_mem, List.mem_map]
  simp

end Shortcut

namespace Call

-- The text of an evaluation that is not turned away at once.
def admitted? : Call → Option String
  | .evaluate _ player text => if !Text.isBlankText text && player.isSeated then some text else none
  | .prepare _ | .clearCache | .resetCounters => none

def takesShortcut (call : Call) : Bool := call.admitted?.any Shortcut.texts.contains

-- The text of an evaluation that takes the long way, whether it comes to an answer or not.
def slow? (call : Call) : Option String := call.admitted?.filter (!Shortcut.texts.contains ·)

-- The text that is compiled or taken from the cache, for the caller or on the way of an evaluation.
def prepares? : Call → Option String
  | .prepare text => some text
  | call => call.slow?

theorem admitted_text {board : Board} {player : PlayerId} {text given : String}
    (admitted : (evaluate board player text).admitted? = some given) : given = text := by
  rw [admitted?] at admitted
  split at admitted
  · cases admitted
    rfl
  · cases admitted

section Routes
variable {call : Call} {text : String}

theorem takesShortcut_refused (refused : call.admitted? = none) : call.takesShortcut = false := by
  rw [takesShortcut, refused]
  rfl

theorem takesShortcut_admitted (admitted : call.admitted? = some text) :
    call.takesShortcut = Shortcut.texts.contains text := by
  rw [takesShortcut, admitted]
  rfl

theorem slow?_refused (refused : call.admitted? = none) : call.slow? = none := by
  rw [slow?, refused]
  rfl

theorem slow?_short (admitted : call.admitted? = some text) (short : Shortcut.texts.contains text = true) :
    call.slow? = none := by
  rw [slow?, admitted, Option.filter, short]
  rfl

theorem slow?_long (admitted : call.admitted? = some text) (long : Shortcut.texts.contains text = false) :
    call.slow? = some text := by
  rw [slow?, admitted, Option.filter, long]
  rfl

end Routes

def isEvaluate : Call → Bool
  | .evaluate .. => true
  | .prepare _ | .clearCache | .resetCounters => false

def isReset : Call → Bool
  | .resetCounters => true
  | .evaluate .. | .prepare _ | .clearCache => false

def isClear : Call → Bool
  | .clearCache => true
  | .evaluate .. | .prepare _ | .resetCounters => false

end Call

-- A call of a run, and the engine it was made on.
structure Moment where
  engine : Engine
  call : Call

def Moment.hits (m : Moment) : Bool := m.call.prepares?.any m.engine.cache.contains

def sinceReset (moments : List Moment) : List Moment := moments.rtakeWhile (!·.call.isReset)

def sinceClear (calls : List Call) : List Call := calls.rtakeWhile (!·.isClear)

-- The counters are the numbers of moments of each kind since the last reset.
structure Accounts (c : Counters) (moments : List Moment) : Prop where
  calls : c.calls = moments.countP (·.call.isEvaluate)
  shortcuts : c.shortcuts = moments.countP (·.call.takesShortcut)
  slow : c.slow = moments.countP (·.call.slow?.isSome)
  cacheHits : c.cacheHits = moments.countP Moment.hits
  slowTexts : ∀ text n, c.slowTexts.get? text = some n ↔ 0 < n ∧ n = moments.countP (·.call.slow? == some text)
  total : c.slowTexts.values.sum = c.slow

namespace Counters

def tally (c : Counters) (m : Moment) : Counters where
  calls := c.calls + m.call.isEvaluate.toNat
  shortcuts := c.shortcuts + m.call.takesShortcut.toNat
  slow := c.slow + m.call.slow?.isSome.toNat
  cacheHits := c.cacheHits + m.hits.toNat
  slowTexts := match m.call.slow? with
    | none => c.slowTexts
    | some text => c.slowTexts.insert text ((c.slowTexts.get? text).getD 0 + 1)

section Tally
variable {board : Board} {player : PlayerId} {text : String} (c : Counters) (e : Engine)

theorem tally_refused (refused : (Call.evaluate board player text).admitted? = none) :
    c.tally ⟨e, .evaluate board player text⟩ = c.call := by
  simp only [tally, Moment.hits, Call.prepares?, Call.slow?_refused refused, Call.takesShortcut_refused refused]
  rfl

theorem tally_shortcut (admitted : (Call.evaluate board player text).admitted? = some text)
    (short : Shortcut.texts.contains text = true) : c.tally ⟨e, .evaluate board player text⟩ = c.call.shortcut := by
  simp only [tally, Moment.hits, Call.prepares?, Call.slow?_short admitted short, Call.takesShortcut_admitted admitted,
    short]
  rfl

theorem tally_slow (admitted : (Call.evaluate board player text).admitted? = some text)
    (long : Shortcut.texts.contains text = false) : c.tally ⟨e, .evaluate board player text⟩ =
      { c.call.slowCall text with cacheHits := c.cacheHits + (e.cache.contains text).toNat } := by
  simp only [tally, Moment.hits, Call.prepares?, Call.slow?_long admitted long, Call.takesShortcut_admitted admitted, long]
  rfl

end Tally
end Counters

namespace Entries
variable {κ : Type} [DecidableEq κ]

theorem sum_insert (k : κ) (n : Nat) (es : List (κ × Nat)) :
    ((insert k n es).map (·.2)).sum + (get? k es).getD 0 = (es.map (·.2)).sum + n := by
  induction es with
  | nil => simp [insert, get?]
  | cons e es ih =>
    simp only [insert, get?]
    split
    · simp
      omega
    · simp only [List.map_cons, List.sum_cons]
      omega

end Entries

theorem countP_concat (p : α → Bool) (items : List α) (a : α) : (items ++ [a]).countP p = items.countP p + (p a).toNat := by
  rw [List.countP_append, List.countP_singleton]
  cases p a <;> rfl

theorem accounts_empty : Accounts {} [] := by
  refine ⟨rfl, rfl, rfl, rfl, ?_, rfl⟩
  intro text n
  rw [List.countP_nil]
  constructor
  · intro found
    cases found
  · rintro ⟨positive, rfl⟩
    cases positive

namespace Accounts
variable {c : Counters} {moments : List Moment} (accounts : Accounts c moments)
include accounts

theorem slowTexts_getD (text : String) :
    (c.slowTexts.get? text).getD 0 = moments.countP (·.call.slow? == some text) := by
  have exact := accounts.slowTexts text
  cases found : c.slowTexts.get? text with
  | some n => exact ((exact n).mp found).2
  | none =>
    rcases Nat.eq_zero_or_pos (moments.countP (·.call.slow? == some text)) with none | positive
    · exact none.symm
    · cases found.symm.trans ((exact _).mpr ⟨positive, rfl⟩)

theorem tally (m : Moment) : Accounts (c.tally m) (moments ++ [m]) := by
  refine ⟨?_, ?_, ?_, ?_, ?_, ?_⟩
  · rw [countP_concat, ← accounts.calls, Counters.tally]
  · rw [countP_concat, ← accounts.shortcuts, Counters.tally]
  · rw [countP_concat, ← accounts.slow, Counters.tally]
  · rw [countP_concat, ← accounts.cacheHits, Counters.tally]
  · intro text n
    rw [countP_concat, Counters.tally]
    cases slow : m.call.slow? with
    | none => simpa using accounts.slowTexts text n
    | some other =>
      dsimp only
      rw [Table.get?_insert]
      by_cases same : other = text
      · subst same
        rw [if_pos rfl, accounts.slowTexts_getD, beq_self_eq_true, Bool.toNat_true, Option.some.injEq]
        omega
      · have differs : (some other == some text) = false := by simpa using same
        rw [if_neg same, differs, Bool.toNat_false, Nat.add_zero]
        exact accounts.slowTexts text n
  · rw [Counters.tally]
    cases slow : m.call.slow? with
    | none => exact accounts.total
    | some text =>
      have grown := Entries.sum_insert text ((c.slowTexts.get? text).getD 0 + 1) c.slowTexts.entries
      have total := accounts.total
      simp only [Table.values] at total ⊢
      simp only [Table.insert, Table.get?, Option.isSome_some, Bool.toNat_true] at grown ⊢
      omega

end Accounts

namespace Engine

theorem run_concat (e : Engine) (calls : List Call) (call : Call) : e.run (calls ++ [call]) = (e.run calls).after call := by
  rw [run, List.foldl_concat, run]

def moments (e : Engine) : List Call → List Moment
  | [] => []
  | call :: rest => ⟨e, call⟩ :: (e.after call).moments rest

theorem moments_concat (e : Engine) (calls : List Call) (call : Call) :
    e.moments (calls ++ [call]) = e.moments calls ++ [⟨e.run calls, call⟩] := by
  induction calls generalizing e with
  | nil => rfl
  | cons first rest ih => simp [moments, ih, run]

theorem evaluate_route (e : Engine) (board : Board) (player : PlayerId) (text : String) :
    ((e.evaluate board player text).engine, (e.evaluate board player text).events) =
      match (Call.evaluate board player text).admitted? with
      | none => (e.count .call, [])
      | some text =>
        if Shortcut.texts.contains text then ((e.count .call).count .shortcut, [.shortcut text])
        else
          ((((e.count .call).count (·.slowCall text)).prepare text).engine,
            (((e.count .call).count (·.slowCall text)).prepare text).events) := by
  have admitted : (Call.evaluate board player text).admitted? =
      if !Text.isBlankText text && player.isSeated then some text else none := rfl
  rw [admitted]
  unfold evaluate checkCall
  cases Text.isBlankText text with
  | true => rfl
  | false =>
    cases player.isSeated with
    | false => rfl
    | true =>
      simp only [Bool.not_false, Bool.and_self, ↓reduceIte, ← Shortcut.find?_isSome]
      cases Shortcut.find? text with
      | some holds => rfl
      | none =>
        simp only [Bool.false_eq_true, ↓reduceIte, Option.isSome_none]
        split <;> rfl

theorem evaluate_engine (e : Engine) (board : Board) (player : PlayerId) (text : String) :
    (e.evaluate board player text).engine =
      match (Call.evaluate board player text).admitted? with
      | none => e.count .call
      | some text =>
        if Shortcut.texts.contains text then (e.count .call).count .shortcut
        else (((e.count .call).count (·.slowCall text)).prepare text).engine := by
  refine (congrArg Prod.fst (evaluate_route e board player text)).trans ?_
  split
  · rfl
  · split <;> rfl

theorem count_counters {e : Engine} (counting : e.config.counting = true) (f : Counters → Counters) :
    (e.count f).counters = f e.counters := by
  rw [count, if_pos counting]

theorem count_of_silent {e : Engine} (silent : e.config.counting = false) (f : Counters → Counters) : e.count f = e := by
  rw [count, silent]
  rfl

theorem prepare_counters {e : Engine} (counting : e.config.counting = true) {text : String}
    (caches : e.cache.contains text = true → e.config.caching = true) : (e.prepare text).engine.counters =
      { e.counters with cacheHits := e.counters.cacheHits + (e.cache.contains text).toNat } := by
  cases found : e.cache.get? text with
  | some s =>
    have kept : e.cache.contains text = true := by rw [Table.contains, found]; rfl
    simp only [prepare, caches kept, found, kept, ↓reduceIte, count_counters counting]
    rfl
  | none =>
    have absent : e.cache.contains text = false := by rw [Table.contains, found]; rfl
    simp only [prepare, found, absent, Bool.toNat_false, Nat.add_zero]
    split
    · split <;> rfl
    · rfl

theorem after_counters {e : Engine} (counting : e.config.counting = true)
    (caches : ∀ text, e.cache.contains text = true → e.config.caching = true) {call : Call}
    (counted : call.isReset = false) : (e.after call).counters = e.counters.tally ⟨e, call⟩ := by
  cases call with
  | evaluate board player text =>
    rw [after, evaluate_engine]
    cases admitted : (Call.evaluate board player text).admitted? with
    | none => rw [Counters.tally_refused _ _ admitted, count_counters counting]
    | some given =>
      obtain rfl := Call.admitted_text admitted
      by_cases short : Shortcut.texts.contains given = true
      · rw [Counters.tally_shortcut _ _ admitted short]
        simp only [short, ↓reduceIte]
        rw [count_counters (by rw [count_config]; exact counting), count_counters counting]
      · rw [Counters.tally_slow _ _ admitted (by simpa using short)]
        have called : (e.count .call).config.counting = true := by rw [count_config]; exact counting
        have slowed : ((e.count .call).count (·.slowCall given)).config.counting = true := by rw [count_config]; exact called
        dsimp only
        rw [if_neg short, prepare_counters slowed (by simpa using caches given), count_counters called,
          count_counters counting, count_cache, count_cache]
        rfl
  | prepare text =>
    rw [after, prepare_counters counting (caches text)]
    simp [Counters.tally, Moment.hits, Call.isEvaluate, Call.takesShortcut, Call.prepares?, Call.slow?, Call.admitted?]
  | clearCache => simp [after, clearCache, Counters.tally, Moment.hits, Call.isEvaluate, Call.takesShortcut,
        Call.prepares?, Call.slow?, Call.admitted?]
  | resetCounters => cases counted

theorem prepare_silent {e : Engine} (silent : e.config.counting = false) (text : String) :
    (e.prepare text).engine.counters = e.counters := by
  simp only [prepare, count_of_silent silent]
  split
  · split
    · rfl
    · split <;> rfl
  · rfl

theorem after_silent {e : Engine} (silent : e.config.counting = false) (zero : e.counters = {}) (call : Call) :
    (e.after call).counters = {} := by
  cases call with
  | evaluate board player text =>
    simp only [after, evaluate_engine, count_of_silent silent]
    split
    · exact zero
    · split
      · exact zero
      · exact (prepare_silent silent _).trans zero
  | prepare text => exact (prepare_silent silent text).trans zero
  | clearCache => exact zero
  | resetCounters => rfl

section Cache
variable {config : Config} {e : Engine} (sound : e.Sound config)
include sound

theorem contains_prepare (text other : String) :
    (e.prepare text).engine.cache.contains other = true ↔ e.cache.contains other = true ∨
      config.caching = true ∧ (∃ s, compile config other = .ok s) ∧ other = text := by
  have report : (config.report text).result = compile config text := rfl
  simp only [prepare, report, sound.kept]
  cases config.caching with
  | false => simp
  | true =>
    cases found : e.cache.get? text with
    | some s =>
      have cached : other = text → e.cache.contains other = true := by
        rintro rfl
        rw [Table.contains, found]
        rfl
      simp only [↓reduceIte, count_cache]
      tauto
    | none =>
      cases compiled : compile config text with
      | error error =>
        simp only [↓reduceIte]
        constructor
        · exact .inl
        · rintro (before | ⟨-, ⟨s, works⟩, rfl⟩)
          · exact before
          · cases compiled.symm.trans works
      | ok s =>
        simp only [↓reduceIte, Table.contains, Table.get?_insert]
        by_cases same : text = other
        · subst same
          simp [compiled]
        · simp [same, Ne.symm same]

theorem contains_after {call : Call} (kept : call.isClear = false) (text : String) :
    (e.after call).cache.contains text = true ↔ e.cache.contains text = true ∨
      config.caching = true ∧ (∃ s, compile config text = .ok s) ∧ call.prepares? = some text := by
  cases call with
  | evaluate board player given =>
    have prepares : (Call.evaluate board player given).prepares? = (Call.evaluate board player given).slow? := rfl
    rw [after, evaluate_engine, prepares]
    cases admitted : (Call.evaluate board player given).admitted? with
    | none => simp [Call.slow?_refused admitted]
    | some given =>
      dsimp only
      by_cases short : Shortcut.texts.contains given = true
      · rw [if_pos short, Call.slow?_short admitted short, count_cache, count_cache]
        simp
      · have slowed := count_sound (count_sound sound .call) (·.slowCall given)
        rw [if_neg short, contains_prepare slowed, Call.slow?_long admitted (by simpa using short), count_cache, count_cache,
          Option.some.injEq, @eq_comm _ text]
  | prepare given => rw [after, contains_prepare sound, Call.prepares?, Option.some.injEq, @eq_comm _ text]
  | clearCache => cases kept
  | resetCounters =>
    have nothing : Call.resetCounters.prepares? = none := rfl
    simp [after, resetCounters, nothing]

end Cache

section Run
variable (config : Config) (calls : List Call)

-- The texts that have been prepared and compiled since the cache was last cleared.
theorem contains_run (text : String) : ((ofConfig config).run calls).cache.contains text = true ↔
    config.caching = true ∧ (∃ s, compile config text = .ok s) ∧ ∃ call ∈ sinceClear calls, call.prepares? = some text := by
  induction calls using List.reverseRecOn with
  | nil => simp [run, ofConfig, sinceClear, Table.contains]
  | append_singleton calls call ih =>
    rw [run_concat, sinceClear, List.rtakeWhile_concat]
    cases clear : call.isClear with
    | true =>
      cases call with
      | clearCache => simp [after, clearCache, Table.contains]
      | evaluate | prepare | resetCounters => cases clear
    | false =>
      rw [contains_after (reached_sound config calls) clear, ih, sinceClear]
      simp only [Bool.not_false, ↓reduceIte, List.mem_append, List.mem_singleton, or_and_right, exists_or, exists_eq_left,
        ← and_or_left]

theorem run_accounts (counting : config.counting = true) :
    Accounts ((ofConfig config).run calls).counters (sinceReset ((ofConfig config).moments calls)) := by
  induction calls using List.reverseRecOn with
  | nil => exact accounts_empty
  | append_singleton calls call ih =>
    have sound := reached_sound config calls
    rw [run_concat, moments_concat, sinceReset, List.rtakeWhile_concat]
    cases reset : call.isReset with
    | true =>
      cases call with
      | resetCounters => exact accounts_empty
      | evaluate | prepare | clearCache => cases reset
    | false =>
      rw [after_counters (by rw [sound.kept]; exact counting) _ reset]
      · exact ih.tally _
      · intro text present
        rw [sound.kept]
        exact ((contains_run config calls text).mp present).1

theorem run_silent (silent : config.counting = false) : ((ofConfig config).run calls).counters = {} := by
  induction calls using List.reverseRecOn with
  | nil => rfl
  | append_singleton calls call ih =>
    rw [run_concat]
    exact after_silent (by rw [(reached_sound config calls).kept]; exact silent) ih call

end Run

theorem counters_exact (config : Config) (calls : List Call) :
    (config.counting = true →
      Accounts ((ofConfig config).run calls).counters (sinceReset ((ofConfig config).moments calls))) ∧
    (config.counting = false → ((ofConfig config).run calls).counters = {}) ∧
    ∀ text, ((ofConfig config).run calls).cache.contains text = true ↔ config.caching = true ∧
      (∃ s, compile config text = .ok s) ∧ ∃ call ∈ sinceClear calls, call.prepares? = some text :=
  ⟨run_accounts config calls, run_silent config calls, contains_run config calls⟩

-- The counters are reset, the cache is not; the last two evaluations are a shortcut and one of nobody's.
def mixedCalls : List Call :=
  [.prepare "own card @hand", .evaluate .empty .first "minion", .resetCounters, .evaluate .empty .second "own card @hand",
    .prepare "own card @hand", .evaluate .empty .first "minion", .evaluate .empty ⟨2⟩ "minion"]

theorem mixedCalls_counted : ({ } : Config).counting = true ∧ ((ofConfig {}).run mixedCalls).counters.calls = 3 ∧
    ((ofConfig {}).run mixedCalls).counters.shortcuts = 1 ∧ ((ofConfig {}).run mixedCalls).counters.cacheHits = 2 ∧
    ((ofConfig {}).run mixedCalls).counters.slowTexts.get? "own card @hand" = some 1 ∧
    ((ofConfig {}).run mixedCalls).cache.contains "own card @hand" = true := by
  obtain ⟨counted, _, cached⟩ := counters_exact {} mixedCalls
  have accounts := counted rfl
  refine ⟨rfl, accounts.calls, accounts.shortcuts, accounts.cacheHits, ?_, ?_⟩
  · exact (accounts.slowTexts _ _).mpr ⟨Nat.one_pos, rfl⟩
  · exact (cached _).mpr ⟨rfl, ⟨_, rfl⟩, .prepare "own card @hand", .head _, rfl⟩

end Engine
end CardQuery
