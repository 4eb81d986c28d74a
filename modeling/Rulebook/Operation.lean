import Rulebook.Catalog
import Rulebook.Log.Record
import Rulebook.Metrics
import Rulebook.Rule.Fault

/-!
# Operations on the store

An operation works on the store of rules. Besides its result it leaves the store it found or a
changed one, the observations it made, and what it reported, all of which stay when it fails. The
operations on the catalogue itself are the first ones: one of them that is met by an outage does
nothing. An outage may last, or befall any single one of the operations on the catalogue.
-/

namespace Rulebook

/-- The store of rules: what it holds, and when it does not answer. -/
structure Store where
  catalog : Catalog
  /-- Why the store does not answer, if it does not. -/
  outage : Option Outage
  /-- What befalls the next operations on the catalogue, one entry for each of them: an outage, or
  none if it is answered. After these, `outage` counts. -/
  upcoming : List (Option Outage)
deriving DecidableEq

namespace Store

/-- A store without rules that answers. -/
def empty : Store :=
  ⟨.empty, none, []⟩

/-- The outage that befalls the next operation on the catalogue, if it is not answered. -/
def nextOutage (store : Store) : Option Outage :=
  store.upcoming.headD store.outage

/-- The store once it is settled what befalls the next operation on the catalogue. -/
def advance (store : Store) : Store :=
  { store with upcoming := store.upcoming.tail }

end Store

/-- What an operation leaves. -/
structure Outcome (α : Type) where
  result : Except RuleError α
  store : Store
  /-- The observations, in their order. -/
  recorded : List Series
  /-- The records, in their order. -/
  log : List Log.Record

/-- An operation on the store. -/
def Operation (α : Type) : Type :=
  Store → Outcome α

namespace Operation

def run {α : Type} (operation : Operation α) (store : Store) : Outcome α :=
  operation store

/-- Give a value and leave everything as it is. -/
def give {α : Type} (value : α) : Operation α :=
  fun store => ⟨.ok value, store, [], []⟩

/-- Fail and leave everything as it is. -/
def fail {α : Type} (error : RuleError) : Operation α :=
  fun store => ⟨.error error, store, [], []⟩

/-- Do an operation and, unless it fails, the next one. -/
def andThen {α β : Type} (operation : Operation α) (next : α → Operation β) : Operation β :=
  fun store =>
    let first := operation store
    match first.result with
    | .error error => ⟨.error error, first.store, first.recorded, first.log⟩
    | .ok value =>
        let second := next value first.store
        ⟨second.result, second.store, first.recorded ++ second.recorded, first.log ++ second.log⟩

instance : Monad Operation where
  pure := give
  bind := andThen

def ofExcept {α : Type} (result : Except RuleError α) : Operation α :=
  fun store => ⟨result, store, [], []⟩

/-- Do an operation and give its result, also if it fails. -/
def attempt {α : Type} (operation : Operation α) : Operation (Except RuleError α) :=
  fun store =>
    let outcome := operation store
    ⟨.ok outcome.result, outcome.store, outcome.recorded, outcome.log⟩

def record (series : Series) : Operation Unit :=
  fun store => ⟨.ok (), store, [series], []⟩

def report (event : Log.Event) : Operation Unit :=
  fun store => ⟨.ok (), store, [], [.event event]⟩

/-- Do an operation within a span that shows some fields of its result at its end. -/
def withinNoting {α : Type} (span : Log.Span) (late : α → List Log.Field)
    (operation : Operation α) : Operation α :=
  fun store =>
    let outcome := operation store
    let fields := match outcome.result with
      | .ok value => late value
      | .error _ => []
    { outcome with log := [.span span fields outcome.log] }

def within {α : Type} (span : Log.Span) (operation : Operation α) : Operation α :=
  withinNoting span (fun _ => []) operation

/-- Do an operation on the catalogue, unless an outage befalls it. -/
def onCatalog {α : Type} (operation : Operation α) : Operation α :=
  fun store =>
    match store.nextOutage with
    | some cause => fail (.outage cause) store.advance
    | none => operation store.advance

/-- The target of what the store reports. -/
def storeTarget : Text :=
  "rule_engine::store::memory".toList

def insert (ruleText encodedTree : Text) : Operation Document :=
  onCatalog (within ⟨"insert".toList, storeTarget, []⟩ (fun store =>
    let (document, catalog) := store.catalog.insert ruleText encodedTree
    ⟨.ok document, { store with catalog }, [],
      [.event ⟨.debug, storeTarget, "Rule stored in memory".toList,
        [⟨"rule_id".toList, .plain document.id⟩]⟩]⟩))

def find? (id : Text) : Operation (Option Document) :=
  onCatalog fun store => give (store.catalog.find? id) store

/-- The documents with some ids, each once, in the order of first mention. -/
def findMany (ids : List Text) : Operation (List Document) :=
  onCatalog fun store => give (store.catalog.findMany ids) store

/-- Replace the text and the tree of the document with an id. Gives the number of documents hit. -/
def update (id ruleText encodedTree : Text) : Operation Nat :=
  onCatalog (within ⟨"update".toList, storeTarget, [⟨"id".toList, .quoted id⟩]⟩ (fun store =>
    let (count, catalog) := store.catalog.update id ruleText encodedTree
    ⟨.ok count, { store with catalog }, [], []⟩))

end Operation

end Rulebook
