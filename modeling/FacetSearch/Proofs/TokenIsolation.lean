import FacetSearch.Proofs.Upserts
import FacetSearch.Token
/-!
Tokens in a chain of locators.

A store is changed by adding and removing tokens, and for each application and reference together
(`Token.binding`) it holds what the last change under them left. A chain asks its locators in their
order, and those out of service not at all, so that the first one that holds a token under the
binding of a request decides.

What is proved:
  1. `TokenChange.itemsOf_apply`, `TokenStore.itemsOf_run`: under each binding a store holds at most
     one token, the one that the last change under it left.
  2. `getElem?_afterChanges`: changes of a chain reach each locator in their order.
  3. `locate?_eq_head?`: what a chain finds is the first of the tokens that its locators in service
     have under the binding.
  4. `locate?_eq_some_iff`: it is the token of the first locator in service whose changes left one.
  5. `validate_isolated`: so no token of another binding has a part in the answer to a request, and
     no later locator.
-/

namespace FacetSearch

/-- What a token is stored under. -/
def Token.binding (token : Token) : String × String := (token.appId, token.reference)

/-- What the token of a request is stored under. -/
def Access.binding (access : Access) : String × String := (access.appId, access.reference)

/-! ## Tokens of a store by their binding -/

namespace TokenStore

theorem isOf_eq (appId reference : String) :
    (fun token : Token => decide (token.appId = appId) && decide (token.reference = reference)) =
      fun token => decide (token.binding = (appId, reference)) := by
  funext token
  simp [Token.binding]

theorem tokens_add (store : TokenStore) (token : Token) :
    (store.add token).tokens = upsert (fun t => t.binding = token.binding) token store.tokens := by
  rw [add, isOf_eq]
  rfl

theorem tokens_remove (store : TokenStore) (appId reference : String) :
    (store.remove appId reference).tokens =
      store.tokens.filter fun t => !decide (t.binding = (appId, reference)) := by
  have same := isOf_eq appId reference
  simp only [remove, congrFun same]

theorem find?_eq_head? (store : TokenStore) (appId reference : String) :
    store.find? appId reference = (itemsOf Token.binding (appId, reference) store.tokens).head? := by
  rw [find?, isOf_eq, itemsOf, List.head?_filter]

end TokenStore

/-! ## Changes of a store -/

inductive TokenChange where
  | add (token : Token)
  | remove (appId reference : String)

namespace TokenChange

def binding : TokenChange → String × String
  | add token => token.binding
  | remove appId reference => (appId, reference)

/-- The token that the change leaves under its binding. -/
def left : TokenChange → Option Token
  | add token => some token
  | remove _ _ => none

def apply (store : TokenStore) : TokenChange → TokenStore
  | add token => store.add token
  | remove appId reference => store.remove appId reference

/-- What changes leave under a binding where nothing was: the token that was added last, unless it
was removed after that. -/
def latest? (changes : List TokenChange) (binding : String × String) : Option Token :=
  (lastOf? TokenChange.binding binding changes).elim none left

theorem binding_of_latest? {changes : List TokenChange} {binding : String × String} {token : Token}
    (h : latest? changes binding = some token) : token.binding = binding := by
  unfold latest? at h
  cases last : lastOf? TokenChange.binding binding changes with
  | none => simp [last] at h
  | some change =>
    have own := (mem_of_lastOf? last).2
    cases change with
    | add added =>
      obtain rfl : added = token := by simpa [last, left] using h
      exact own
    | remove appId reference => simp [last, left] at h

/-- Changes under other bindings leave what was there. -/
theorem latest?_append_of_forall_ne {changes further : List TokenChange}
    {binding : String × String} (others : ∀ change ∈ further, change.binding ≠ binding) :
    latest? (changes ++ further) binding = latest? changes binding := by
  have none : itemsOf TokenChange.binding binding further = [] := by
    apply List.filter_eq_nil_iff.mpr
    intro change hchange
    simpa using others change hchange
  have same : itemsOf TokenChange.binding binding (changes ++ further) =
      itemsOf TokenChange.binding binding changes := by
    unfold itemsOf at none ⊢
    rw [List.filter_append, none, List.append_nil]
  rw [latest?, lastOf?, same]
  rfl

/-- Where a store has at most one token of a binding, so it has after a change. -/
theorem itemsOf_apply {store : TokenStore} {binding : String × String} {held : Option Token}
    (h : itemsOf Token.binding binding store.tokens = held.toList) (change : TokenChange) :
    itemsOf Token.binding binding (change.apply store).tokens =
      (if change.binding = binding then change.left else held).toList := by
  cases change with
  | add token =>
    rw [apply, TokenStore.tokens_add, itemsOf_upsert, h]
    by_cases own : token.binding = binding
    · cases held <;> simp [TokenChange.binding, left, own]
    · simp [TokenChange.binding, own]
  | remove appId reference =>
    -- Two filters in a row: of one binding nothing is left, of another one the first takes nothing.
    rw [apply, TokenStore.tokens_remove, TokenChange.binding, itemsOf, List.filter_filter]
    by_cases own : (appId, reference) = binding
    · simp [left, own]
    · rw [if_neg own, ← h]
      apply List.filter_congr
      intro token _
      by_cases wanted : token.binding = binding
      · simp [wanted, Ne.symm own]
      · simp [wanted]

end TokenChange

namespace TokenStore

def run (store : TokenStore) (changes : List TokenChange) : TokenStore :=
  changes.foldl (fun store change => change.apply store) store

theorem itemsOf_run {store : TokenStore} {binding : String × String} {held : Option Token}
    (h : itemsOf Token.binding binding store.tokens = held.toList) (changes : List TokenChange) :
    itemsOf Token.binding binding (store.run changes).tokens =
      ((lastOf? TokenChange.binding binding changes).elim held TokenChange.left).toList := by
  -- What is held so far is any token or none: each change leaves a store of the same form.
  induction changes generalizing store held with
  | nil => exact h
  | cons change rest ih =>
    have step := ih (change.itemsOf_apply h)
    rw [lastOf?_cons]
    refine Eq.trans step ?_
    cases lastOf? TokenChange.binding binding rest with
    | none => by_cases own : change.binding = binding <;> simp [own]
    | some last => rfl

theorem find?_run (changes : List TokenChange) (binding : String × String) :
    (run {} changes).find? binding.1 binding.2 = TokenChange.latest? changes binding := by
  have empty : itemsOf Token.binding binding ({} : TokenStore).tokens = Option.toList none := rfl
  rw [find?_eq_head?, itemsOf_run empty, Option.head?_toList]
  rfl

theorem ofList_eq_run (tokens : List Token) : ofList tokens = run {} (tokens.map .add) := by
  rw [run, List.foldl_map]
  rfl

end TokenStore

/-! ## Chains of locators -/

/-- The place is the first one with a value, and the value is this one. -/
structure FirstAt {α : Type} (values : Nat → Option α) (place : Nat) (a : α) : Prop where
  here : values place = some a
  before : ∀ earlier < place, values earlier = none

theorem findSome?_eq_some_iff {α β : Type} {f : α → Option β} {items : List α} {b : β} :
    items.findSome? f = some b ↔ ∃ place, FirstAt (fun i => items[i]?.bind f) place b := by
  induction items with
  | nil =>
    simp only [List.findSome?_nil, reduceCtorEq, false_iff, not_exists]
    rintro place ⟨here, -⟩
    simp at here
  | cons x rest ih =>
    rw [List.findSome?_cons]
    cases value : f x with
    | some c =>
      constructor
      · intro found
        exact ⟨0, by simpa [value] using found, fun earlier before => absurd before (by omega)⟩
      · rintro ⟨place, here, before⟩
        cases place with
        | zero => simpa [value] using here
        | succ place => simpa [value] using before 0 (by omega)
    | none =>
      refine ih.trans ⟨?_, ?_⟩
      · rintro ⟨place, here, before⟩
        refine ⟨place + 1, by simpa using here, ?_⟩
        intro earlier inside
        cases earlier with
        | zero => simpa using value
        | succ earlier => simpa using before earlier (by omega)
      · rintro ⟨place, here, before⟩
        cases place with
        | zero => simp [value] at here
        | succ place =>
          exact ⟨place, by simpa using here,
            fun earlier inside => by simpa using before (earlier + 1) (by omega)⟩

/-- What a locator finds under a binding; out of service it finds nothing. -/
def Locator.found? (binding : String × String) (locator : Locator) : Option Token :=
  if locator.isValid then locator.find? binding.1 binding.2 else none

theorem locate?_eq_findSome? (locators : List Locator) (binding : String × String) :
    locate? locators binding.1 binding.2 = locators.findSome? (Locator.found? binding) := by
  unfold locate?
  induction locators with
  | nil => rfl
  | cons locator rest ih =>
    by_cases valid : locator.isValid
    · rw [List.filter_cons_of_pos valid, List.findSome?_cons, List.findSome?_cons, ih,
        Locator.found?, if_pos valid]
    · rw [List.filter_cons_of_neg valid, List.findSome?_cons, ih, Locator.found?, if_neg valid]

/-- The tokens that a locator in service has under a binding. -/
def Locator.tokensUnder (binding : String × String) : Locator → List Token
  | stored store true => itemsOf Token.binding binding store.tokens
  | stored _ false => []
  | fixed token => [token]

theorem Locator.found?_eq_head? (binding : String × String) (locator : Locator) :
    locator.found? binding = (locator.tokensUnder binding).head? := by
  cases locator with
  | stored store enabled =>
    cases enabled with
    | true => exact store.find?_eq_head? binding.1 binding.2
    | false => rfl
  | fixed token => rfl

/-- The tokens of all locators in service under a binding, in the order of the chain. -/
def tokensUnder (locators : List Locator) (binding : String × String) : List Token :=
  locators.flatMap (Locator.tokensUnder binding)

theorem locate?_eq_head? (locators : List Locator) (binding : String × String) :
    locate? locators binding.1 binding.2 = (tokensUnder locators binding).head? := by
  rw [locate?_eq_findSome?, tokensUnder, List.head?_flatMap]
  congr 1
  funext locator
  exact locator.found?_eq_head? binding

/-! ## Changes of a chain -/

/-- A change of the store at a place of a chain. -/
structure ChainChange where
  place : Nat
  change : TokenChange

/-- The locator after changes of its store; a locator of one token has no store. -/
def Locator.run (locator : Locator) (changes : List TokenChange) : Locator :=
  match locator with
  | stored store enabled => stored (store.run changes) enabled
  | fixed token => fixed token

def afterChanges (locators : List Locator) (changes : List ChainChange) : List Locator :=
  changes.foldl (fun locators c => locators.modify c.place fun l => l.run [c.change]) locators

def changesAt (place : Nat) (changes : List ChainChange) : List TokenChange :=
  (changes.filter fun c => c.place = place).map ChainChange.change

theorem getElem?_afterChanges (locators : List Locator) (changes : List ChainChange) (place : Nat) :
    (afterChanges locators changes)[place]? =
      locators[place]?.map fun locator => locator.run (changesAt place changes) := by
  induction changes generalizing locators with
  | nil =>
    cases found : locators[place]? with
    | none => simp [afterChanges, found]
    | some locator =>
      cases locator <;> simp [afterChanges, changesAt, Locator.run, TokenStore.run, found]
  | cons c rest ih =>
    refine (ih _).trans ?_
    rw [List.getElem?_modify]
    cases found : locators[place]? with
    | none => simp
    | some locator =>
      by_cases here : c.place = place
      · cases locator <;> simp [changesAt, Locator.run, TokenStore.run, here]
      · simp [changesAt, here]

/-- A locator as it comes into a chain: the tokens that it is given, and whether it is in service. -/
structure LocatorSetup where
  tokens : List Token
  enabled : Bool

def LocatorSetup.locator (setup : LocatorSetup) : Locator :=
  .stored (.ofList setup.tokens) setup.enabled

def chainOf (setups : List LocatorSetup) (changes : List ChainChange) : List Locator :=
  afterChanges (setups.map LocatorSetup.locator) changes

/-- What the tokens that a locator was given and the changes at its place leave under a binding; none
if it is out of service. -/
def heldAt? (setups : List LocatorSetup) (changes : List ChainChange)
    (binding : String × String) (place : Nat) : Option Token :=
  setups[place]?.bind fun setup =>
    if setup.enabled then
      TokenChange.latest? (setup.tokens.map .add ++ changesAt place changes) binding
    else none

section Chain

variable {setups : List LocatorSetup} {changes : List ChainChange} {binding : String × String}
  {place : Nat} {token : Token}

theorem found?_chainOf :
    (chainOf setups changes)[place]?.bind (Locator.found? binding) =
      heldAt? setups changes binding place := by
  rw [chainOf, getElem?_afterChanges, List.getElem?_map, heldAt?]
  cases setups[place]? with
  | none => rfl
  | some setup =>
    have history := TokenStore.find?_run (setup.tokens.map .add ++ changesAt place changes) binding
    rw [TokenStore.run, List.foldl_append] at history
    simp only [Option.map_some, Option.bind_some, LocatorSetup.locator, Locator.run,
      Locator.found?, Locator.isValid, TokenStore.ofList_eq_run]
    rw [← history]
    rfl

theorem binding_of_heldAt? (h : heldAt? setups changes binding place = some token) :
    token.binding = binding := by
  obtain ⟨setup, -, h⟩ := Option.bind_eq_some_iff.mp h
  split at h
  · exact TokenChange.binding_of_latest? h
  · cases h

theorem locate?_eq_some_iff :
    locate? (chainOf setups changes) binding.1 binding.2 = some token ↔
      ∃ place, FirstAt (heldAt? setups changes binding) place token := by
  rw [locate?_eq_findSome?, findSome?_eq_some_iff]
  simp only [found?_chainOf]

/-- What is found does not depend on what comes after the first place where a token is held. -/
theorem locate?_take_append (h : FirstAt (heldAt? setups changes binding) place token)
    (later : List Locator) :
    locate? ((chainOf setups changes).take (place + 1) ++ later) binding.1 binding.2 =
      some token := by
  have found : ((chainOf setups changes).take (place + 1)).findSome? (Locator.found? binding) =
      some token := by
    apply findSome?_eq_some_iff.mpr
    refine ⟨place, ?_, fun earlier inside => ?_⟩
    · rw [List.getElem?_take_of_lt (by omega), found?_chainOf, h.here]
    · rw [List.getElem?_take_of_lt (by omega), found?_chainOf, h.before earlier inside]
  rw [locate?_eq_findSome?, List.findSome?_append, found, Option.some_or]

/-- Changes under other bindings change nothing under this one. -/
theorem heldAt?_append {further : List ChainChange}
    (others : ∀ c ∈ further, c.change.binding ≠ binding) :
    heldAt? setups (changes ++ further) binding = heldAt? setups changes binding := by
  funext place
  have apart : ∀ change ∈ changesAt place further, change.binding ≠ binding := by
    intro change hchange
    obtain ⟨c, hc, rfl⟩ := List.mem_map.mp hchange
    exact others c (List.mem_filter.mp hc).1
  have split : changesAt place (changes ++ further) =
      changesAt place changes ++ changesAt place further := by
    rw [changesAt, List.filter_append, List.map_append]
    rfl
  unfold heldAt?
  rw [split]
  simp only [← List.append_assoc, TokenChange.latest?_append_of_forall_ne apart]

theorem locate?_append {further : List ChainChange}
    (others : ∀ c ∈ further, c.change.binding ≠ binding) :
    locate? (chainOf setups (changes ++ further)) binding.1 binding.2 =
      locate? (chainOf setups changes) binding.1 binding.2 := by
  apply Option.ext
  intro token
  rw [locate?_eq_some_iff, locate?_eq_some_iff, heldAt?_append others]

end Chain

/-! ## The answer to a request -/

section Answer

variable {locators : List Locator} {access : Access} {now : Int} {token : Token}

theorem validate_of_locate?
    (h : locate? locators access.binding.1 access.binding.2 = some token) :
    validate locators access now = do
      if ← token.permits access now then return .ok token
      return .error (.invalidToken access.reference) := by
  have found : locate? locators access.appId access.reference = some token := h
  rw [validate, found]

theorem locate?_of_validate (h : (validate locators access now).value = .ok token) :
    locate? locators access.binding.1 access.binding.2 = some token := by
  cases found : locate? locators access.binding.1 access.binding.2 with
  | none =>
    have missing : locate? locators access.appId access.reference = none := found
    simp [validate, missing] at h
  | some other =>
    rw [validate_of_locate? found, Checked.value_bind] at h
    split at h
    · rw [Except.ok.inj h]
    · cases h

theorem validate_congr {other : List Locator}
    (h : locate? other access.binding.1 access.binding.2 =
      locate? locators access.binding.1 access.binding.2) :
    validate other access now = validate locators access now := by
  have same : locate? other access.appId access.reference =
      locate? locators access.appId access.reference := h
  rw [validate, validate, same]

end Answer

/-- In every chain of stores, after any changes,
  * a request has the answer that it has in every chain whose locators in service have the same
    tokens of the request's application and reference;
  * further changes of tokens of another application or reference do not change the answer;
  * a token that is granted has the request's application and reference, and is held at the first
    place where one is: in service, and left there by the changes;
  * the token of that place decides, whatever locators come after it. -/
theorem validate_isolated (setups : List LocatorSetup) (changes : List ChainChange)
    (access : Access) (now : Int) :
    let chain := chainOf setups changes
    let held := heldAt? setups changes access.binding
    (∀ other : List Locator,
      tokensUnder other access.binding = tokensUnder chain access.binding →
        validate other access now = validate chain access now) ∧
    (∀ further : List ChainChange, (∀ c ∈ further, c.change.binding ≠ access.binding) →
      validate (afterChanges chain further) access now = validate chain access now) ∧
    (∀ token, (validate chain access now).value = .ok token →
      token.appId = access.appId ∧ token.reference = access.reference ∧
        ∃ place, FirstAt held place token) ∧
    ∀ place token, FirstAt held place token →
      (validate chain access now = do
        if ← token.permits access now then return .ok token
        return .error (.invalidToken access.reference)) ∧
      ∀ later, validate (chain.take (place + 1) ++ later) access now =
        validate chain access now := by
  intro chain held
  refine ⟨?_, ?_, ?_, ?_⟩
  · intro other same
    apply validate_congr
    rw [locate?_eq_head?, locate?_eq_head?, same]
  · intro further others
    have longer : afterChanges chain further = chainOf setups (changes ++ further) :=
      List.foldl_append.symm
    rw [longer]
    exact validate_congr (locate?_append others)
  · intro token granted
    obtain ⟨place, first⟩ := locate?_eq_some_iff.mp (locate?_of_validate granted)
    obtain ⟨app, reference⟩ := Prod.mk.inj (binding_of_heldAt? first.here)
    exact ⟨app, reference, place, first⟩
  · intro place token first
    have located := locate?_eq_some_iff.mpr ⟨place, first⟩
    refine ⟨validate_of_locate? located, fun later => ?_⟩
    exact validate_congr ((locate?_take_append first later).trans located.symm)

def shopToken (indices : List String) : Token := { reference := "t1", appId := "shop", indices }

def shopAccess (indexId : String) : Access where
  appId := "shop"
  indexId := indexId
  reference := "t1"
  referrer := ""
  path := "/v1/search/"
  verb := "GET"

/-- Three stores with a token for every index, the first of them out of service. -/
def shopSetups : List LocatorSetup :=
  [⟨[shopToken []], false⟩, ⟨[shopToken []], true⟩, ⟨[shopToken []], true⟩]

/-- The token of the second store is exchanged for one of a single index. -/
def shopChanges : List ChainChange :=
  [⟨1, .remove "shop" "t1"⟩, ⟨1, .add (shopToken ["archive"])⟩]

theorem validate_isolated_shop :
    let chain := chainOf shopSetups shopChanges
    FirstAt (heldAt? shopSetups shopChanges (shopAccess "main").binding) 1 (shopToken ["archive"]) ∧
      validate chain (shopAccess "archive") 0 = pure (.ok (shopToken ["archive"])) ∧
      validate chain (shopAccess "main") 0 = pure (.error (.invalidToken "t1")) ∧
      validate (chain.take 2 ++ [.fixed (shopToken [])]) (shopAccess "main") 0 =
        pure (.error (.invalidToken "t1")) ∧
      validate (afterChanges chain [⟨1, .add { shopToken [] with appId := "other" }⟩])
        (shopAccess "main") 0 = pure (.error (.invalidToken "t1")) := by
  intro chain
  have first : FirstAt (heldAt? shopSetups shopChanges (shopAccess "main").binding) 1
      (shopToken ["archive"]) := by
    refine ⟨by decide, fun earlier before => ?_⟩
    obtain rfl : earlier = 0 := by omega
    decide
  have refused : (shopToken ["archive"]).permits (shopAccess "main") 0 = pure false := by decide
  have permitted : (shopToken ["archive"]).permits (shopAccess "archive") 0 = pure true := by decide
  obtain ⟨-, further, -, decides⟩ := validate_isolated shopSetups shopChanges (shopAccess "main") 0
  obtain ⟨denied, later⟩ := decides 1 (shopToken ["archive"]) first
  obtain ⟨-, -, -, grants⟩ := validate_isolated shopSetups shopChanges (shopAccess "archive") 0
  obtain ⟨granted, -⟩ := grants 1 (shopToken ["archive"]) first
  rw [refused] at denied
  rw [permitted] at granted
  have others := further [⟨1, .add { shopToken [] with appId := "other" }⟩] (by decide)
  exact ⟨first, granted, denied, (later _).trans denied, others.trans denied⟩

end FacetSearch
