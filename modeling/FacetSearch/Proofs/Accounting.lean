import FacetSearch.Proofs.Hits
import FacetSearch.Proofs.Integers
import FacetSearch.Proofs.Tally
/-!
The accounts of searches.

Every search enters its outcome into the accounts once, and every compilation that succeeds is
timed, also that of a search which fails later. The accounts are kept in binary64 numbers, which are
exact as long as no total reaches `2 ^ 53` (`Countable`).

What is proved:
  1. `Series.update_ofCounts`, `Series.total_ofCounts`: a series counts as a tally of labels does,
     and its values add up to how many there are.
  2. `SearchResult.length_entities`, `FacetResults.length_counters`: a search enters as many entities
     and counters as its result lists.
  3. `Accounts.recordCompile`, `Accounts.account`: accounts that agree with what was answered so far
     still do so after a compilation and after a search.
  4. `Engine.run_metered`: so they do after any calls, and each search has been answered as if it
     were the only one.
  5. `Engine.accounts_of_run`: what the accounts of a run are in numbers of calls.
-/

namespace FacetSearch

/-! ## Series of counts -/

namespace Series

/-- The value of a label; zero for one that was not seen. -/
def value (series : Series Binary64) (label : String) : Binary64 :=
  ((series.find? fun entry => entry.1 = label).map Prod.snd).getD .zero

def total (series : Series Binary64) : Binary64 :=
  series.foldl (fun sum entry => sum.add entry.2) .zero

def ofCounts (counts : List (String × Nat)) : Series Binary64 :=
  counts.map fun entry => (entry.1, .ofInt entry.2)

theorem value_ofCounts (counts : List (String × Nat)) (label : String) :
    (ofCounts counts).value label = .ofInt (Aggregation.countOf label counts) := by
  induction counts with
  | nil => exact Binary64.ofInt_zero.symm
  | cons entry rest ih =>
    obtain ⟨k, n⟩ := entry
    by_cases same : k = label
    · simp [value, ofCounts, Aggregation.countOf, same]
    · simpa [value, ofCounts, Aggregation.countOf, same] using ih

theorem update_ofCounts {counts : List (String × Nat)} (small : ∀ entry ∈ counts, entry.2 < 2 ^ 53)
    (label : String) :
    (ofCounts counts).update label .zero (·.add Metrics.one) =
      ofCounts (Aggregation.countKey counts label) := by
  have step : ∀ n : Nat, n < 2 ^ 53 →
      (Binary64.ofInt n).add Metrics.one = .ofInt (n + 1 : Nat) :=
    fun n hn => Binary64.add_ofInt hn (show 1 < 2 ^ 53 by omega)
  induction counts with
  | nil =>
    have first := step 0 (by omega)
    rw [Binary64.ofInt_zero] at first
    exact congrArg (fun x => [(label, x)]) first
  | cons entry rest ih =>
    obtain ⟨k, n⟩ := entry
    by_cases same : k = label
    · have next := step n (small (k, n) List.mem_cons_self)
      simp [update, ofCounts, upsert, Aggregation.countKey, same, next]
    · have later := ih fun entry hentry => small entry (List.mem_cons_of_mem _ hentry)
      simpa [update, ofCounts, upsert, Aggregation.countKey, same] using later

theorem total_ofCounts {counts : List (String × Nat)}
    (small : (counts.map Prod.snd).sum < 2 ^ 53) :
    (ofCounts counts).total = .ofInt (counts.map Prod.snd).sum := by
  -- Over any sum so far, so that the induction goes through the fold.
  have run : ∀ (counts : List (String × Nat)) (sum : Nat),
      sum + (counts.map Prod.snd).sum < 2 ^ 53 →
        (ofCounts counts).foldl (fun sum entry => sum.add entry.2) (Binary64.ofInt sum) =
          Binary64.ofInt (sum + (counts.map Prod.snd).sum : Nat) := by
    intro counts
    induction counts with
    | nil => exact fun _ _ => rfl
    | cons entry rest ih =>
      intro sum small
      rw [List.map_cons, List.sum_cons] at small ⊢
      have next : (Binary64.ofInt sum).add (.ofInt entry.2) = .ofInt (sum + entry.2 : Nat) :=
        Binary64.add_ofInt (by omega) (by omega)
      have later := ih (sum + entry.2) (by omega)
      rw [← Nat.add_assoc, ← later, ← next]
      rfl
  have whole := run counts 0 (by omega)
  rw [Nat.zero_add, Binary64.ofInt_zero] at whole
  exact whole

end Series

/-! ## What results list -/

theorem SearchResult.length_entities (result : SearchResult) :
    result.entities.length = result.entityCount := by
  simp only [entities, entityCount, List.length_append, List.length_map]

def FacetResults.counters (results : FacetResults) : List Counter :=
  results.entries.items.flatMap fun entry => entry.2.counters

theorem FacetResults.length_counters (results : FacetResults) :
    results.counters.length = results.counterCount := by
  unfold counters counterCount toList
  induction results.entries.items with
  | nil => rfl
  | cons entry rest ih =>
    rw [List.flatMap_cons, List.length_append, ih]
    rfl

/-! ## What was answered -/

/-- Both are errors of the same kind, whatever their details. -/
def SearchError.isAlike : SearchError → SearchError → Bool
  | malformedRange _ _, malformedRange _ _ => true
  | malformedResponse _, malformedResponse _ => true
  | execution _, execution _ => true
  | invalidToken _, invalidToken _ => true
  | reservedName _, reservedName _ => true
  | undecodable, undecodable => true
  | fileNotFound, fileNotFound => true
  | _, _ => false

theorem SearchError.cause_beq_cause (e error : SearchError) :
    (e.cause == error.cause) = e.isAlike error := by
  cases e <;> cases error <;> rfl

/-- A query that was searched for, with what came of it. -/
structure Answered where
  query : Query
  outcome : Except SearchError SearchResult

namespace Answered

def result? (answered : Answered) : Option SearchResult := answered.outcome.toOption

def error? (answered : Answered) : Option SearchError :=
  match answered.outcome with
  | .ok _ => none
  | .error e => some e

def kind? (answered : Answered) : Option String :=
  answered.result?.map fun _ => Engine.kindOf answered.query

end Answered

section Log

variable (log more : List Answered)

def kindsOf : List String := log.filterMap Answered.kind?

def causesOf : List String := (log.filterMap Answered.error?).map SearchError.cause

/-- The entities of all results. -/
def entitiesOf : List Entity := (log.filterMap Answered.result?).flatMap SearchResult.entities

/-- The counters of all facets of all results. -/
def countersOf : List Counter :=
  (log.filterMap Answered.result?).flatMap fun result => result.facets.counters

theorem kindsOf_append : kindsOf (log ++ more) = kindsOf log ++ kindsOf more :=
  List.filterMap_append

theorem causesOf_append : causesOf (log ++ more) = causesOf log ++ causesOf more := by
  rw [causesOf, List.filterMap_append, List.map_append]
  rfl

theorem entitiesOf_append : entitiesOf (log ++ more) = entitiesOf log ++ entitiesOf more := by
  rw [entitiesOf, List.filterMap_append, List.flatMap_append]
  rfl

theorem countersOf_append : countersOf (log ++ more) = countersOf log ++ countersOf more := by
  rw [countersOf, List.filterMap_append, List.flatMap_append]
  rfl

/-- Every search succeeds or fails. -/
theorem length_kindsOf_causesOf : (kindsOf log).length + (causesOf log).length = log.length := by
  induction log with
  | nil => rfl
  | cons a rest ih =>
    have alone : (kindsOf [a]).length + (causesOf [a]).length = 1 := by
      obtain ⟨query, outcome⟩ := a
      cases outcome <;> rfl
    rw [← List.singleton_append, kindsOf_append, causesOf_append, List.length_append,
      List.length_append, List.length_append, List.length_singleton]
    omega

theorem count_kindsOf (kind : String) :
    (kindsOf log).count kind =
      log.countP fun a => a.result?.isSome && Engine.kindOf a.query == kind := by
  rw [kindsOf, List.count_filterMap]
  apply List.countP_congr
  intro a _
  unfold Answered.kind?
  cases a.result? <;> simp

theorem count_causesOf (error : SearchError) :
    (causesOf log).count error.cause =
      log.countP fun a => a.error?.any fun e => e.isAlike error := by
  rw [causesOf, List.count_eq_countP, List.countP_map, List.countP_filterMap]
  apply List.countP_congr
  intro a _
  cases a.error? with
  | none => simp
  | some e => simp [← SearchError.cause_beq_cause]

end Log

/-! ## Accounts -/

/-- All totals are below `2 ^ 53`, where binary64 numbers count without gaps. -/
structure Countable (log : List Answered) : Prop where
  searches : log.length < 2 ^ 53
  entities : (entitiesOf log).length < 2 ^ 53
  counters : (countersOf log).length < 2 ^ 53

theorem Countable.of_append {log more : List Answered} (h : Countable (log ++ more)) :
    Countable log := by
  obtain ⟨searches, entities, counters⟩ := h
  rw [List.length_append] at searches
  rw [entitiesOf_append, List.length_append] at entities
  rw [countersOf_append, List.length_append] at counters
  exact ⟨by omega, by omega, by omega⟩

/-- The accounts agree with what was answered and with a number of compilations. -/
structure Accounts (m : Metrics) (log : List Answered) (compilations : Nat) : Prop where
  searches : m.searches = .ofCounts (Aggregation.tally (kindsOf log))
  errors : m.errors = .ofCounts (Aggregation.tally (causesOf log))
  entities : m.entities = .ofInt (entitiesOf log).length
  counters : m.counters = .ofInt (countersOf log).length
  compilations : m.compileLatency.count = compilations

/-- A label that is counted once more. -/
theorem Series.update_tally {labels : List String} (small : labels.length < 2 ^ 53)
    (label : String) :
    (ofCounts (Aggregation.tally labels)).update label .zero (·.add Metrics.one) =
      ofCounts (Aggregation.tally (labels ++ [label])) := by
  rw [Aggregation.tally_concat]
  apply update_ofCounts
  rintro ⟨key, count⟩ counted
  calc count
    _ = labels.count key := (Aggregation.mem_tally_iff.mp counted).2
    _ ≤ labels.length := List.count_le_length
    _ < 2 ^ 53 := small

/-- Labels that are counted add up to as many as there are. -/
theorem Series.total_tally {labels : List String} (small : labels.length < 2 ^ 53) :
    (ofCounts (Aggregation.tally labels)).total = .ofInt labels.length := by
  rw [← Aggregation.sum_tally] at small
  rw [total_ofCounts small, Aggregation.sum_tally]

namespace Accounts

variable {m : Metrics} {log : List Answered} {compilations : Nat}

theorem empty : Accounts .empty [] 0 where
  searches := rfl
  errors := rfl
  entities := Binary64.ofInt_zero.symm
  counters := Binary64.ofInt_zero.symm
  compilations := rfl

theorem recordCompile (h : Accounts m log compilations) (seconds : Binary64) :
    Accounts (m.recordCompile seconds) log (compilations + 1) :=
  { h with compilations := congrArg (· + 1) h.compilations }

theorem account (h : Accounts m log compilations) (query : Query) (seconds : Binary64)
    (outcome : Except SearchError SearchResult)
    (countable : Countable (log ++ [⟨query, outcome⟩])) :
    Accounts (Engine.account m query seconds outcome) (log ++ [⟨query, outcome⟩])
      compilations := by
  have parts := length_kindsOf_causesOf log
  obtain ⟨searches, entities, counters⟩ := countable
  rw [List.length_append] at searches
  rw [entitiesOf_append, List.length_append] at entities
  rw [countersOf_append, List.length_append] at counters
  have succeeding : (kindsOf log).length < 2 ^ 53 := by omega
  have failing : (causesOf log).length < 2 ^ 53 := by omega
  cases outcome with
  | ok result =>
    have shown : (entitiesOf [⟨query, .ok result⟩]).length = result.entityCount := by
      rw [← result.length_entities, ← List.append_nil result.entities]
      rfl
    have counted : (countersOf [⟨query, .ok result⟩]).length = result.facets.counterCount := by
      rw [← result.facets.length_counters, ← List.append_nil result.facets.counters]
      rfl
    have none : causesOf [⟨query, .ok result⟩] = [] := rfl
    rw [shown] at entities
    rw [counted] at counters
    refine ⟨?_, ?_, ?_, ?_, h.compilations⟩
    · show m.searches.update (Engine.kindOf query) .zero (·.add Metrics.one) = _
      rw [h.searches, Series.update_tally succeeding, kindsOf_append]
      rfl
    · show m.errors = _
      rw [h.errors, causesOf_append, none, List.append_nil]
    · show m.entities.add (.ofInt result.entityCount) = _
      rw [h.entities, entitiesOf_append, List.length_append, shown,
        Binary64.add_ofInt (by omega) (by omega)]
    · show m.counters.add (.ofInt result.facets.counterCount) = _
      rw [h.counters, countersOf_append, List.length_append, counted,
        Binary64.add_ofInt (by omega) (by omega)]
  | error e =>
    have kind : kindsOf [⟨query, .error e⟩] = [] := rfl
    have entity : entitiesOf [⟨query, .error e⟩] = [] := rfl
    have counter : countersOf [⟨query, .error e⟩] = [] := rfl
    refine ⟨?_, ?_, ?_, ?_, h.compilations⟩
    · show m.searches = _
      rw [h.searches, kindsOf_append, kind, List.append_nil]
    · show m.errors.update e.cause .zero (·.add Metrics.one) = _
      rw [h.errors, Series.update_tally failing, causesOf_append]
      rfl
    · show m.entities = _
      rw [h.entities, entitiesOf_append, entity, List.append_nil]
    · show m.counters = _
      rw [h.counters, countersOf_append, counter, List.append_nil]

end Accounts

/-! ## Runs of calls -/

/-- A call of the engine: a search with some backend, or a compilation alone. -/
inductive Call where
  | search (backend : Backend) (timing : Timing) (query : Query)
  | compile (timing : Timing) (query : Query)

namespace Call

def query : Call → Query
  | search _ _ query => query
  | compile _ query => query

def isSearch : Call → Bool
  | search _ _ _ => true
  | compile _ _ => false

def compiles (settings : Settings) (call : Call) : Bool :=
  (Request.ofQuery settings call.query).isOk

end Call

/-- What a search comes to by itself: the first error of compiling, of the backend and of reading the
response, as it is, or else the result that was read. -/
def outcomeOf (settings : Settings) (backend : Backend) (query : Query) :
    Checked (Except SearchError SearchResult) :=
  match Request.ofQuery settings query with
  | .error e => pure (.error e)
  | .ok request =>
    match backend request query.offset query.size with
    | .error e => pure (.error e)
    | .ok response => SearchResult.ofResponse query response

/-- What a call comes to by itself, if it is a search. -/
def Call.answered? (settings : Settings) : Call → Checked (Option Answered)
  | search backend _ query =>
    (fun outcome => some ⟨query, outcome⟩) <$> outcomeOf settings backend query
  | compile _ _ => pure none

namespace Engine

/-- One call: what the engine answers if it is a search, and the engine after it. -/
def step (engine : Engine) : Call → Checked (Option Answered × Engine)
  | .search backend timing query =>
    (fun searched => (some ⟨query, searched.1⟩, searched.2)) <$> engine.search backend timing query
  | .compile timing query => pure (none, (engine.compile timing query).2)

/-- Calls one after the other: what the engine answers to the searches, and the engine after them. -/
def run (engine : Engine) : List Call → Checked (List Answered × Engine)
  | [] => pure ([], engine)
  | call :: rest => do
    let (answered, next) ← engine.step call
    let (later, last) ← next.run rest
    return (answered.toList ++ later, last)

theorem compile_metered (settings : Settings) (m : Metrics) (timing : Timing) (query : Query) :
    ∃ m', compile ⟨settings, some m⟩ timing query =
        (Request.ofQuery settings query, ⟨settings, some m'⟩) ∧
      ∀ log compilations, Accounts m log compilations →
        Accounts m' log (compilations + if (Request.ofQuery settings query).isOk then 1 else 0) := by
  cases compiled : Request.ofQuery settings query with
  | ok request =>
    refine ⟨m.recordCompile timing.compile, ?_, fun log compilations h => ?_⟩
    · simp only [compile, compiled, Option.map_some]
    · exact h.recordCompile timing.compile
  | error e =>
    refine ⟨m, ?_, fun log compilations h => h⟩
    simp only [compile, compiled]

theorem search_metered (settings : Settings) (m : Metrics) (backend : Backend) (timing : Timing)
    (query : Query) :
    ∃ m', search ⟨settings, some m⟩ backend timing query =
        (fun outcome => (outcome, ⟨settings, some (account m' query timing.total outcome)⟩)) <$>
          outcomeOf settings backend query ∧
      ∀ log compilations, Accounts m log compilations →
        Accounts m' log (compilations + if (Request.ofQuery settings query).isOk then 1 else 0) := by
  obtain ⟨m', compiled, accounts⟩ := compile_metered settings m timing query
  refine ⟨m', ?_, accounts⟩
  unfold search outcomeOf
  rw [compiled]
  cases Request.ofQuery settings query with
  | error e => rfl
  | ok request =>
    simp only [answer]
    cases backend request query.offset query.size <;> rfl

theorem step_metered (settings : Settings) (m : Metrics) (call : Call) :
    ∃ m', (step ⟨settings, some m⟩ call).value =
        ((call.answered? settings).value, ⟨settings, some m'⟩) ∧
      (step ⟨settings, some m⟩ call).overflows = (call.answered? settings).overflows ∧
      ∀ log compilations, Accounts m log compilations →
        Countable (log ++ (call.answered? settings).value.toList) →
          Accounts m' (log ++ (call.answered? settings).value.toList)
            (compilations + if call.compiles settings then 1 else 0) := by
  cases call with
  | compile timing query =>
    obtain ⟨m', compiled, accounts⟩ := compile_metered settings m timing query
    refine ⟨m', ?_, rfl, fun log compilations h _ => ?_⟩
    · rw [step, compiled]
      rfl
    · rw [Call.answered?, Checked.value_pure, Option.toList_none, List.append_nil]
      exact accounts log compilations h
  | search backend timing query =>
    obtain ⟨m', searched, accounts⟩ := search_metered settings m backend timing query
    let outcome := (outcomeOf settings backend query).value
    refine ⟨account m' query timing.total outcome, ?_, ?_, fun log compilations h countable => ?_⟩
    · rw [step, searched]
      rfl
    · simp only [step, searched, Call.answered?, Checked.overflows_map]
    · exact (accounts log compilations h).account query timing.total outcome countable

/-- What the searches among the calls come to by themselves. -/
def answersOf (settings : Settings) (calls : List Call) : List Answered :=
  calls.filterMap fun call => (call.answered? settings).value

theorem run_metered (settings : Settings) (m : Metrics) (calls : List Call) :
    ∃ m', (run ⟨settings, some m⟩ calls).value =
        (answersOf settings calls, ⟨settings, some m'⟩) ∧
      (run ⟨settings, some m⟩ calls).overflows =
        calls.any (fun call => (call.answered? settings).overflows) ∧
      ∀ log compilations, Accounts m log compilations →
        Countable (log ++ answersOf settings calls) →
          Accounts m' (log ++ answersOf settings calls)
            (compilations + calls.countP (Call.compiles settings)) := by
  -- The log so far is any log that the accounts agree with; a call puts its answer to the end of it.
  induction calls generalizing m with
  | nil =>
    refine ⟨m, rfl, rfl, fun log compilations h _ => ?_⟩
    rwa [answersOf, List.filterMap_nil, List.append_nil]
  | cons call rest ih =>
    obtain ⟨next, stepped, stops, account⟩ := step_metered settings m call
    obtain ⟨last, ran, stopsLater, accounts⟩ := ih next
    have answers : answersOf settings (call :: rest) =
        (call.answered? settings).value.toList ++ answersOf settings rest := by
      rw [answersOf, List.filterMap_cons]
      cases (call.answered? settings).value <;> rfl
    refine ⟨last, ?_, ?_, fun log compilations h countable => ?_⟩
    · rw [run, Checked.value_bind, stepped, answers]
      simp only [Checked.value_bind, ran, Checked.value_pure]
    · rw [run, Checked.overflows_bind, stepped, stops, List.any_cons]
      simp only [Checked.overflows_bind, stopsLater, Checked.overflows_pure, Bool.or_false]
    · rw [answers, ← List.append_assoc] at countable ⊢
      have first := account log compilations h countable.of_append
      have all := accounts _ _ first countable
      rw [List.countP_cons, Nat.add_comm (rest.countP _), ← Nat.add_assoc]
      exact all

theorem kindOf_beq_faceted (query : Query) :
    (kindOf query == "faceted") = !query.facets.items.isEmpty := by
  unfold kindOf
  cases query.facets.items.isEmpty <;> rfl

theorem kindOf_beq_plain (query : Query) :
    (kindOf query == "plain") = query.facets.items.isEmpty := by
  unfold kindOf
  cases query.facets.items.isEmpty <;> rfl

/-- Calls of an engine without measurements, as long as no total reaches `2 ^ 53`:
  * every search is answered as it is by itself: with the first error of compiling, of the backend
    and of reading the response, or else with the result; the calls stop exactly if the reading of
    some response does;
  * those that succeed and those that fail are together as many as there are;
  * those that succeed are counted with facets and without, those that fail by the kind of error;
  * entities and counters are as many as all results together list;
  * compilations are as many as there are calls, searches among them, whose query compiles. -/
theorem accounts_of_run (settings : Settings) (calls : List Call) :
    let ran := run ⟨settings, some .empty⟩ calls
    let log := ran.value.1
    log = answersOf settings calls ∧
      ran.overflows = calls.any (fun call => (call.answered? settings).overflows) ∧
      (Countable log → ∃ m, ran.value.2.metrics = some m ∧
        m.searches.total.add m.errors.total = .ofInt (calls.countP Call.isSearch) ∧
        m.searches.value "faceted" =
          .ofInt (log.countP fun a => a.result?.isSome && !a.query.facets.items.isEmpty) ∧
        m.searches.value "plain" =
          .ofInt (log.countP fun a => a.result?.isSome && a.query.facets.items.isEmpty) ∧
        (∀ error : SearchError, m.errors.value error.cause =
          .ofInt (log.countP fun a => a.error?.any fun e => e.isAlike error)) ∧
        m.entities = .ofInt (entitiesOf log).length ∧
        m.counters = .ofInt (countersOf log).length ∧
        m.compileLatency.count = calls.countP (Call.compiles settings)) := by
  obtain ⟨m, ran, stops, accounts⟩ := run_metered settings .empty calls
  intro checked log
  have answers : log = answersOf settings calls := congrArg Prod.fst ran
  have metrics : checked.value.2.metrics = some m := congrArg (fun pair => pair.2.metrics) ran
  refine ⟨answers, stops, fun countable => ⟨m, metrics, ?_⟩⟩
  have agrees : Accounts m log (calls.countP (Call.compiles settings)) := by
    rw [answers] at countable ⊢
    have := accounts [] 0 .empty countable
    rwa [List.nil_append, Nat.zero_add] at this
  have parts := length_kindsOf_causesOf log
  have few := countable.searches
  have searches : log.length = calls.countP Call.isSearch := by
    rw [answers, answersOf, List.length_filterMap_eq_countP]
    apply List.countP_congr
    intro call _
    cases call <;> rfl
  refine ⟨?_, ?_, ?_, fun error => ?_, agrees.entities, agrees.counters, agrees.compilations⟩
  · rw [agrees.searches, agrees.errors, Series.total_tally (by omega), Series.total_tally (by omega),
      Binary64.add_ofInt (by omega) (by omega), parts, searches]
  · rw [agrees.searches, Series.value_ofCounts, Aggregation.countOf_tally, count_kindsOf]
    simp only [kindOf_beq_faceted]
  · rw [agrees.searches, Series.value_ofCounts, Aggregation.countOf_tally, count_kindsOf]
    simp only [kindOf_beq_plain]
  · rw [agrees.errors, Series.value_ofCounts, Aggregation.countOf_tally, count_causesOf]

def colorsQuery : Query :=
  Query.matchAll.facetBy { name := "color", field := "color", application := .onlyMustAll }

/-- Two red products and a blue one. -/
def coloredStore : Store where
  documents := [("p1", "red"), ("p2", "red"), ("p3", "blue")].map fun (id, color) =>
    { id, type := "product", source := [("color", .text color)] }

/-- Searches that succeed with facets and without, that the backend fails and that no response comes
of, and a compilation. -/
def mixedCalls : List Call :=
  [.search (.ofStore coloredStore) {} colorsQuery, .search (.ofStore coloredStore) {} .matchAll,
   .search (.failing "unavailable") {} .matchAll, .search (.canned .empty) {} .matchAll,
   .compile {} colorsQuery]

theorem accounts_of_run_mixed :
    let ran := run ⟨{}, some .empty⟩ mixedCalls
    ran.overflows = false ∧ Countable ran.value.1 ∧
      ran.value.1.filterMap Answered.error? =
        [.execution "unavailable", .malformedResponse .allScope] ∧
      ∃ m, ran.value.2.metrics = some m ∧
        m.searches.total.add m.errors.total = .ofInt (4 : Nat) ∧
        m.searches.value "faceted" = .ofInt (1 : Nat) ∧
        m.searches.value "plain" = .ofInt (1 : Nat) ∧
        m.errors.value "execution" = .ofInt (1 : Nat) ∧
        m.entities = .ofInt (6 : Nat) ∧
        m.counters = .ofInt (2 : Nat) ∧
        m.compileLatency.count = 5 := by
  obtain ⟨answers, stops, accounts⟩ := accounts_of_run {} mixedCalls
  have countable : Countable (run ⟨{}, some .empty⟩ mixedCalls).value.1 := by
    rw [answers]
    exact ⟨by decide +kernel, by decide +kernel, by decide +kernel⟩
  obtain ⟨m, metrics, total, faceted, plain, errors, entities, counters, compilations⟩ :=
    accounts countable
  have execution := errors (.execution "")
  refine ⟨stops.trans (by decide +kernel), countable, ?_, m, metrics, ?_, ?_, ?_, ?_, ?_, ?_, ?_⟩
  · rw [answers]
    decide +kernel
  · rw [total]
    decide +kernel
  · rw [faceted, answers]
    decide +kernel
  · rw [plain, answers]
    decide +kernel
  · refine execution.trans ?_
    rw [answers]
    decide +kernel
  · rw [entities, answers]
    decide +kernel
  · rw [counters, answers]
    decide +kernel
  · rw [compilations]
    decide +kernel

end Engine

end FacetSearch
