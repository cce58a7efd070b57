import CardQuery.Counters
import CardQuery.ResultSet
import CardQuery.Selector.Compile
import CardQuery.Selector.Shortcut

namespace CardQuery

-- The cache only saves work and the counters only count: neither changes an answer.
structure Engine where
  config : Config := {}
  cache : Table String Selector := {}
  counters : Counters := {}

structure Reply (α : Type) where
  engine : Engine
  events : List Event
  result : Except SelectorError α

def collect (test : Card → Except SelectorError Bool) : List Card → Except SelectorError (List EntityId)
  | [] => .ok []
  | card :: rest =>
    match test card with
    | .error e => .error e
    | .ok keep => (collect test rest).map fun ids => if keep then card.id :: ids else ids

def checkCall (player : PlayerId) (text : String) : Except SelectorError Perspective :=
  if Text.isBlankText text then .error (.input text .blankSelector)
  else if player.isSeated then .ok (.of player)
  else .error (.input player.shown (.notSeated text))

namespace Engine

def ofConfig (config : Config) : Engine := { config := config }

def count (e : Engine) (f : Counters → Counters) : Engine :=
  if e.config.counting then { e with counters := f e.counters } else e

-- A selector that does not compile is not kept.
def prepare (e : Engine) (text : String) : Reply Selector :=
  if e.config.caching then
    match e.cache.get? text with
    | some selector => ⟨e.count .cacheHit, [.cacheHit text], .ok selector⟩
    | none =>
      let report := e.config.report text
      match report.result with
      | .error error => ⟨e, report.events, .error error⟩
      | .ok selector => ⟨{ e with cache := e.cache.insert text selector }, report.events, .ok selector⟩
  else
    let report := e.config.report text
    ⟨e, report.events, report.result⟩

def evaluate (e : Engine) (board : Board) (player : PlayerId) (text : String) : Reply ResultSet :=
  let e := e.count .call
  match checkCall player text with
  | .error error => ⟨e, [], .error error⟩
  | .ok view =>
    match Shortcut.find? text with
    | some holds =>
      ⟨e.count .shortcut, [.shortcut text],
        (collect (fun card => .ok (holds card view)) board.allCards).map .mk⟩
    | none =>
      let prepared := (e.count (·.slowCall text)).prepare text
      match prepared.result with
      | .error error => ⟨prepared.engine, prepared.events, .error error⟩
      | .ok selector =>
        ⟨prepared.engine, prepared.events, (collect (selector.accepts · view) board.allCards).map .mk⟩

def resetCounters (e : Engine) : Engine := { e with counters := {} }
def clearCache (e : Engine) : Engine := { e with cache := {} }

end Engine

def select (board : Board) (player : PlayerId) (text : String) : Reply ResultSet :=
  (Engine.ofConfig { caching := false, counting := false }).evaluate board player text

end CardQuery
