import ApiGateway.Provider.Adapter

/-!
`cmd/gateway`'s description synchronizer, `descriptionStoreSync`.

`syncFunc` is one pass. It ranges over the client registry, asks each client
for its description, and `Set`s each answer into the description store; a
failed call is joined into the returned error and skipped. A `store.Store` is
its map here: `Get` is `get?`, `Set` is `insert` and `Data` is the map itself.
The pass is a fold of `syncStep` over the registry's entries.

* After a pass, a backend that answered maps to its new description; every
  other key keeps its entry, a failed backend's included. The error is nil
  exactly when every call succeeded (`syncFunc_isolates_failures`).
* Started empty and refreshed from provider clients, the store holds only
  decoded descriptions (`Reachable.decoded`). That is the premise under which
  the SDK's requests reach its handlers (`Sdk.handlerRequest_of_dispatch`).
* Over a whole run of passes (`descriptionStoreSync`), the store maps each
  service to the description it answered last (`descriptionStoreSync_get?`).
  A request that reads the store while a pass is under way sees, for its
  service, the latest answer as of the last pass or as of the current one
  (`descriptionStoreSync_read_during_pass`).
-/

namespace ApiGateway

namespace Sync

/-- `errors.Join(syncErr, err)` for a non-nil `err`, by the text its `Error`
gives: the messages one a line. `none` is nil. -/
def errorsJoin (syncErr : Option String) (err : String) : Option String :=
  match syncErr with
  | none => some err
  | some joined => some (joined ++ "\n" ++ err)

/-- One iteration of `syncFunc`'s loop: the description store and the error so
far, after the registry entry `(name, client)`. -/
def syncStep (acc : GoMap String ProviderDescription × Option String) (entry : String × Client) :
    GoMap String ProviderDescription × Option String :=
  match entry.2.description with
  | .error err =>
    (acc.1, errorsJoin acc.2 ("could not get description for " ++ entry.1 ++ ": " ++ err))
  | .ok description => (acc.1.insert entry.1 description, acc.2)

/-- `syncFunc`, ranging over `clientStore.Data()` in its iteration order: the
description store after the pass, and the error it returns. -/
def syncFunc (clientStore : GoMap String Client) (descriptionStore : GoMap String ProviderDescription) :
    GoMap String ProviderDescription × Option String :=
  clientStore.entries.foldl syncStep (descriptionStore, none)

/-! ### One pass -/

section Pass

variable (acc : GoMap String ProviderDescription × Option String)

theorem syncStep_get? (entry : String × Client) (name : String) :
    (syncStep acc entry).1.get? name =
      if name = entry.1 then
        match entry.2.description with
        | .ok description => some description
        | .error _ => acc.1.get? name
      else acc.1.get? name := by
  unfold syncStep
  split <;> rename_i h <;> split_ifs <;> simp_all

theorem syncStep_error_eq_none (entry : String × Client) :
    (syncStep acc entry).2 = none ↔ acc.2 = none ∧ ∃ description, entry.2.description = .ok description := by
  unfold syncStep
  split <;> rename_i h
  · cases acc.2 <;> simp [errorsJoin, h]
  · simp [h]

/-- The loop over a list of distinct names: a name of the list gets its
client's answer, or keeps its entry when the call failed; any other name keeps
its entry. -/
theorem foldl_syncStep_get? {l : List (String × Client)} (hl : (l.map Prod.fst).Nodup)
    (name : String) :
    (l.foldl syncStep acc).1.get? name =
      match l.lookup name with
      | some client =>
        match client.description with
        | .ok description => some description
        | .error _ => acc.1.get? name
      | none => acc.1.get? name := by
  induction l generalizing acc with
  | nil => rfl
  | cons e l ih =>
    obtain ⟨n, client⟩ := e
    obtain ⟨hfresh, hl⟩ := List.nodup_cons.mp hl
    rw [List.foldl_cons, ih _ hl]
    by_cases h : name = n
    · subst h
      have hnone : l.lookup name = none := List.lookup_eq_none_iff.mpr fun p hp =>
        bne_iff_ne.mpr fun he => hfresh (he ▸ List.mem_map.mpr ⟨p, hp, rfl⟩)
      simp only [hnone, syncStep_get?, if_true, List.lookup_cons_self]
    · simp only [syncStep_get?, if_neg h, GoMap.lookup_cons_of_ne h]

theorem foldl_syncStep_error_eq_none (l : List (String × Client)) :
    (l.foldl syncStep acc).2 = none ↔
      acc.2 = none ∧ ∀ e ∈ l, ∃ description, e.2.description = .ok description := by
  induction l generalizing acc with
  | nil => simp
  | cons e l ih => simp only [List.foldl_cons, ih, syncStep_error_eq_none, List.forall_mem_cons, and_assoc]

end Pass

theorem syncFunc_get? (clientStore : GoMap String Client)
    (descriptionStore : GoMap String ProviderDescription) (name : String) :
    (syncFunc clientStore descriptionStore).1.get? name =
      match clientStore.get? name with
      | some client =>
        match client.description with
        | .ok description => some description
        | .error _ => descriptionStore.get? name
      | none => descriptionStore.get? name :=
  foldl_syncStep_get? _ clientStore.nodup name

theorem syncFunc_error_eq_none (clientStore : GoMap String Client)
    (descriptionStore : GoMap String ProviderDescription) :
    (syncFunc clientStore descriptionStore).2 = none ↔
      ∀ name client, clientStore.get? name = some client →
        ∃ description, client.description = .ok description := by
  rw [syncFunc, foldl_syncStep_error_eq_none]
  simp only [true_and, GoMap.get?_eq_some_iff, Prod.forall]

/-- **A failed backend neither blocks the others nor loses its entry**: after
one pass, each backend that answered maps to its new description, each one
whose call failed keeps its previous entry (or stays absent), and every other
key is unchanged; the pass returns no error exactly when every call
succeeded. -/
theorem syncFunc_isolates_failures (clientStore : GoMap String Client)
    (descriptionStore : GoMap String ProviderDescription) :
    (∀ name, (syncFunc clientStore descriptionStore).1.get? name =
      match clientStore.get? name with
      | some client =>
        match client.description with
        | .ok description => some description
        | .error _ => descriptionStore.get? name
      | none => descriptionStore.get? name) ∧
    ((syncFunc clientStore descriptionStore).2 = none ↔
      ∀ name client, clientStore.get? name = some client →
        ∃ description, client.description = .ok description) :=
  ⟨syncFunc_get? clientStore descriptionStore, syncFunc_error_eq_none clientStore descriptionStore⟩

/-! ### The store over the gateway's life -/

/-- A registry client as `provider.New` builds it: its `Description` is
`impl.Description` over the backend's answer. -/
def IsProviderClient (client : Client) : Prop :=
  ∃ rpc, client.description = Provider.description rpc

/-- The description stores the synchronizer leaves. `main` creates the store
empty, and each tick makes one pass over the registry. The registry's clients
are provider clients, answering anew at each tick. -/
inductive Reachable : GoMap String ProviderDescription → Prop
  | init : Reachable ∅
  | tick {descriptionStore : GoMap String ProviderDescription} {clientStore : GoMap String Client} :
      Reachable descriptionStore →
      (∀ name client, clientStore.get? name = some client → IsProviderClient client) →
      Reachable (syncFunc clientStore descriptionStore).1

/-- **The store holds only decoded descriptions**: every description the
synchronizer has stored is `descriptionFromProto` of a backend's answer. -/
theorem Reachable.decoded {descriptionStore : GoMap String ProviderDescription}
    (h : Reachable descriptionStore) :
    ∀ service d, descriptionStore.get? service = some d →
      ∃ resp, d = Provider.descriptionFromProto resp := by
  induction h with
  | init => intro service d hd; simp at hd
  | @tick descriptionStore clientStore _ hclients ih =>
    intro service d hd
    rw [syncFunc_get?] at hd
    split at hd
    next client hc =>
      split at hd
      next description hdesc =>
        obtain ⟨rpc, hrpc⟩ := hclients service client hc
        rw [hrpc] at hdesc
        cases rpc with
        | error => cases hdesc
        | ok resp => cases hdesc; cases hd; exact ⟨resp, rfl⟩
      next => exact ih service d hd
    next => exact ih service d hd

/-- A registry whose `greet` client is a provider client: its backend answers
`Provider.wrappingResponse`. -/
def wrappingRegistry : GoMap String Client :=
  (∅ : GoMap String Client).insert "greet"
    ⟨Provider.description (.ok Provider.wrappingResponse), fun _ => .error "unavailable"⟩

theorem wrapping_store_decoded :
    Reachable (syncFunc wrappingRegistry ∅).1 ∧
      ∀ service d, (syncFunc wrappingRegistry ∅).1.get? service = some d →
        ∃ resp, d = Provider.descriptionFromProto resp :=
  have hr : Reachable (syncFunc wrappingRegistry ∅).1 := .tick .init fun name client h => by
    simp only [wrappingRegistry, GoMap.get?_insert, GoMap.get?_empty] at h
    split_ifs at h
    cases h
    exact ⟨.ok Provider.wrappingResponse, rfl⟩
  ⟨hr, hr.decoded⟩

/-! ### The store over ticks

`descriptionStoreSync` runs a first pass, then one per `ticker.C` until the
context ends. A run is the list of the registry's answers at each pass: the
same clients, asked anew, so each tick is a registry in its own right. -/

/-- What `name`'s client answers at one tick, when its call succeeds. -/
def answer (clientStore : GoMap String Client) (name : String) : Option ProviderDescription :=
  (clientStore.get? name).bind fun client => client.description.toOption

/-- `descriptionStoreSync` over a run: the store `main` creates empty, after
one pass per tick of `ticks`, in order. -/
def descriptionStoreSync (ticks : List (GoMap String Client)) : GoMap String ProviderDescription :=
  ticks.foldl (fun descriptionStore clientStore => (syncFunc clientStore descriptionStore).1) ∅

/-- What the store is for: each service's last successful answer over the
ticks, if it ever answered. -/
def latestAnswer (ticks : List (GoMap String Client)) (name : String) : Option ProviderDescription :=
  (ticks.filterMap (answer · name)).getLast?

/-- One pass, per key: the tick's answer if there is one, else the old
entry. -/
theorem syncFunc_get?_eq_or (clientStore : GoMap String Client)
    (descriptionStore : GoMap String ProviderDescription) (name : String) :
    (syncFunc clientStore descriptionStore).1.get? name =
      (answer clientStore name).or (descriptionStore.get? name) := by
  rw [syncFunc_get?, answer]
  rcases clientStore.get? name with _ | ⟨_ | _, _⟩ <;> rfl

theorem foldl_syncFunc_get? (ticks : List (GoMap String Client))
    (descriptionStore : GoMap String ProviderDescription) (name : String) :
    (ticks.foldl (fun descriptionStore clientStore => (syncFunc clientStore descriptionStore).1)
        descriptionStore).get? name =
      (latestAnswer ticks name).or (descriptionStore.get? name) := by
  induction ticks generalizing descriptionStore with
  | nil => rfl
  | cons clientStore ticks ih =>
    rw [List.foldl_cons, ih, syncFunc_get?_eq_or, latestAnswer, latestAnswer]
    cases h : answer clientStore name with
    | none => simp only [List.filterMap_cons, h, Option.none_or]
    | some d =>
      simp only [List.filterMap_cons, h, List.getLast?_cons, Option.or_some]
      cases (ticks.filterMap (answer · name)).getLast? <;> rfl

/-- **The synchronizer keeps each service's latest answer**: after any run of
passes, the store maps each service to the description it answered last,
whatever failed in between, and holds no service that never answered. -/
theorem descriptionStoreSync_get? (ticks : List (GoMap String Client)) (name : String) :
    (descriptionStoreSync ticks).get? name = latestAnswer ticks name := by
  rw [descriptionStoreSync, foldl_syncFunc_get?, GoMap.get?_empty, Option.or_none]

theorem descriptionStoreSync_append_singleton (ticks : List (GoMap String Client))
    (clientStore : GoMap String Client) :
    descriptionStoreSync (ticks ++ [clientStore]) =
      (syncFunc clientStore (descriptionStoreSync ticks)).1 :=
  List.foldl_append _ _ _ _

/-! ### Reads during a pass

`Process` reads the store from the request's goroutine while the synchronizer
writes it. The store's lock makes each `Get` and `Set` atomic, so a read falls
between two `Set`s of a pass: after a prefix of the registry's entries. -/

/-- After any prefix of a pass, each key holds its entry from before the pass
or the one the pass leaves: the registry names each service once, so no key is
written twice. -/
theorem syncStep_prefix_get? (clientStore : GoMap String Client)
    (descriptionStore : GoMap String ProviderDescription) (n : Nat) (name : String) :
    let during := ((clientStore.entries.take n).foldl syncStep (descriptionStore, none)).1
    during.get? name = descriptionStore.get? name ∨
      during.get? name = (syncFunc clientStore descriptionStore).1.get? name := by
  intro during
  have hnodup : ((clientStore.entries.take n).map Prod.fst).Nodup := by
    rw [List.map_take]; exact clientStore.nodup.sublist (List.take_sublist _ _)
  have hfull : clientStore.get? name =
      ((clientStore.entries.take n).lookup name).or ((clientStore.entries.drop n).lookup name) := by
    rw [GoMap.get?, ← List.lookup_append, List.take_append_drop]
  simp only [during, foldl_syncStep_get? _ hnodup, syncFunc_get?, hfull]
  cases (clientStore.entries.take n).lookup name with
  | none => exact .inl rfl
  | some client => exact .inr rfl

/-- **A concurrent reader sees a latest answer**: at any point of the
gateway's life, between any two writes of any pass, each service's entry is
its latest answer as of the last completed pass or as of the pass under way. -/
theorem descriptionStoreSync_read_during_pass (ticks : List (GoMap String Client))
    (clientStore : GoMap String Client) (n : Nat) (name : String) :
    let during := ((clientStore.entries.take n).foldl syncStep (descriptionStoreSync ticks, none)).1
    during.get? name = latestAnswer ticks name ∨
      during.get? name = latestAnswer (ticks ++ [clientStore]) name := by
  have latest : ∀ ticks, latestAnswer ticks name = (descriptionStoreSync ticks).get? name := fun _ => by
    rw [descriptionStoreSync, foldl_syncFunc_get?, GoMap.get?_empty, Option.or_none]
  rw [latest, latest, descriptionStoreSync_append_singleton]
  exact syncStep_prefix_get? clientStore _ n name

end Sync

end ApiGateway
