import ApiGateway.M2m
import ApiGateway.Processor.Process

/-!
The gateway's configuration (`internal/domain/config.go`, `internal/config`)
and the client registry `main` builds from it (`initClientStore`).

`FromFile` decodes the file, fills the defaults and validates; a `null` entry
of `services` is a nil pointer, on which `SetDefaults` panics
(`setDefaults_eq_error_iff`).

* Each default passes the check of its own field: after `SetDefaults`,
  `Validate` can only fail on a field that has no default
  (`validate_setDefaults`).
* What `FromFile` accepts is exactly a configuration whose required fields are
  set once the defaults are filled in (`fromFile_eq_ok_iff`). So `main` gets a
  positive sync period, which `time.NewTicker` needs, and every service has a
  name, an address and a positive timeout. Of the file itself, only the four
  Auth0 settings and each service's name and address are required: the
  defaults settle the rest (`fromFile_eq_ok_iff_required`).
* `initClientStore` keys the registry by service name. When two services share
  a name, the later one's client replaces the earlier, and `Validate` does not
  reject the pair; the earlier service's M2M source has been created all the
  same (`initClientStore_get?`).
-/

namespace ApiGateway

/-- `defaultPublicListenAddress`. -/
def defaultPublicListenAddress : String := ":7070"

/-- `defaultAdminListenAddress`. -/
def defaultAdminListenAddress : String := ":7071"

/-- `defaultDescriptionSyncPeriod`. -/
def defaultDescriptionSyncPeriod : Duration := Duration.minute

/-- `defaultServiceOperationTimeout`. -/
def defaultServiceOperationTimeout : Duration := Duration.minute

/-- `domain.ConfigService`. -/
structure ConfigService where
  name : String
  address : String
  m2mAudience : String
  operationTimeout : Duration
deriving DecidableEq

/-- `domain.Config`, without `RedisPassword`, which neither `SetDefaults` nor
`Validate` reads. A nil entry of `Services` is `none`. -/
structure Config where
  publicListenAddress : String
  adminListenAddress : String
  auth0Domain : String
  auth0Audience : String
  auth0ClientID : String
  auth0ClientSecret : String
  redisAddress : String
  descriptionSyncPeriod : Duration
  services : List (Option ConfigService)
deriving DecidableEq

namespace ConfigService

/-- `ConfigService.SetDefaults`. -/
def setDefaults (cs : ConfigService) : ConfigService :=
  if cs.operationTimeout.nanoseconds ≤ 0 then { cs with operationTimeout := defaultServiceOperationTimeout }
  else cs

/-- `ConfigService.Validate`; `len(s) == 0` is `s = ""`. -/
def validate (cs : ConfigService) : Except String Unit :=
  if cs.name = "" then .error "field Name is required"
  else if cs.address = "" then .error "field Address is required"
  else if cs.operationTimeout.nanoseconds ≤ 0 then .error "field OperationTimeout must be greater than zero"
  else .ok ()

theorem validate_eq_ok {cs : ConfigService} :
    cs.validate = .ok () ↔ cs.name ≠ "" ∧ cs.address ≠ "" ∧ 0 < cs.operationTimeout.nanoseconds := by
  unfold validate
  split_ifs <;> simp_all

@[simp] theorem setDefaults_name (cs : ConfigService) : cs.setDefaults.name = cs.name := by
  unfold setDefaults; split_ifs <;> rfl

@[simp] theorem setDefaults_address (cs : ConfigService) : cs.setDefaults.address = cs.address := by
  unfold setDefaults; split_ifs <;> rfl

theorem setDefaults_operationTimeout_pos (cs : ConfigService) :
    0 < cs.setDefaults.operationTimeout.nanoseconds := by
  unfold setDefaults; split_ifs <;> simp_all [defaultServiceOperationTimeout, Duration.minute]

/-- A defaulted service fails its check only for a missing name or
address. -/
theorem validate_setDefaults_eq_error {cs : ConfigService} {e : String}
    (h : cs.setDefaults.validate = .error e) :
    e = "field Name is required" ∨ e = "field Address is required" := by
  have := cs.setDefaults_operationTimeout_pos
  unfold validate at h
  split_ifs at h <;> first | omega | (cases h; simp)

end ConfigService

namespace Config

/-- The loop of `SetDefaults` over the services: a nil entry panics. -/
def setDefaultsServices : List (Option ConfigService) → Except Panic (List (Option ConfigService))
  | [] => .ok []
  | none :: _ => .error .nilPointerDereference
  | some s :: rest =>
    match setDefaultsServices rest with
    | .error p => .error p
    | .ok rest => .ok (some s.setDefaults :: rest)

/-- `Config.SetDefaults`. -/
def setDefaults (c : Config) : Except Panic Config :=
  match setDefaultsServices c.services with
  | .error p => .error p
  | .ok services =>
    .ok { c with
      publicListenAddress :=
        if c.publicListenAddress = "" then defaultPublicListenAddress else c.publicListenAddress
      adminListenAddress :=
        if c.adminListenAddress = "" then defaultAdminListenAddress else c.adminListenAddress
      descriptionSyncPeriod :=
        if c.descriptionSyncPeriod.nanoseconds ≤ 0 then defaultDescriptionSyncPeriod
        else c.descriptionSyncPeriod
      redisAddress := if c.redisAddress = "" then "localhost:6379" else c.redisAddress
      services := services }

/-- The loop of `Validate` over the services from `index` on: the first
invalid service's error, the service named by its name or, without one, its
index. A nil entry panics. -/
def validateServices (index : Nat) : List (Option ConfigService) → Except Panic (Except String Unit)
  | [] => .ok (.ok ())
  | none :: _ => .error .nilPointerDereference
  | some s :: rest =>
    match s.validate with
    | .error err =>
      let name := if s.name = "" then "with index " ++ toString index else s.name
      .ok (.error ("service " ++ name ++ " is invalid: " ++ err))
    | .ok () => validateServices (index + 1) rest

/-- `Config.Validate`. -/
def validate (c : Config) : Except Panic (Except String Unit) :=
  if c.publicListenAddress = "" then .ok (.error "field PublicListenAddress is required")
  else if c.adminListenAddress = "" then .ok (.error "field AdminListenAddress is required")
  else if c.auth0Domain = "" then .ok (.error "field Auth0Domain is required")
  else if c.auth0Audience = "" then .ok (.error "field Auth0Audience is required")
  else if c.auth0ClientID = "" then .ok (.error "field Auth0ClientID is required")
  else if c.auth0ClientSecret = "" then .ok (.error "field Auth0ClientSecret is required")
  else if c.descriptionSyncPeriod.nanoseconds ≤ 0 then
    .ok (.error "field DescriptionSyncPeriod must be greater than zero")
  else if c.redisAddress = "" then .ok (.error "field RedisAddress is required")
  else validateServices 0 c.services

/-- `config.FromFile`, given what reading the file returns and what
`json.Unmarshal` makes of its content. -/
def fromFile (fileContent : Except String Bytes) (unmarshal : Bytes → Except String Config) :
    Except Panic (Except String Config) :=
  match fileContent with
  | .error err => .ok (.error ("failed to read config file: " ++ err))
  | .ok content =>
    match unmarshal content with
    | .error err => .ok (.error ("failed to unmarshal config file: " ++ err))
    | .ok cfg =>
      match cfg.setDefaults with
      | .error p => .error p
      | .ok cfg =>
        match cfg.validate with
        | .error p => .error p
        | .ok (.error err) => .ok (.error ("failed to validate config file: " ++ err))
        | .ok (.ok ()) => .ok (.ok cfg)

/-- What `main` relies on in a loaded configuration. -/
@[mk_iff] structure WellFormed (c : Config) : Prop where
  publicListenAddress : c.publicListenAddress ≠ ""
  adminListenAddress : c.adminListenAddress ≠ ""
  auth0Domain : c.auth0Domain ≠ ""
  auth0Audience : c.auth0Audience ≠ ""
  auth0ClientID : c.auth0ClientID ≠ ""
  auth0ClientSecret : c.auth0ClientSecret ≠ ""
  descriptionSyncPeriod : 0 < c.descriptionSyncPeriod.nanoseconds
  redisAddress : c.redisAddress ≠ ""
  services : ∀ s ∈ c.services, ∃ cs, s = some cs ∧ cs.validate = .ok ()

/-! ### Defaults and validation -/

theorem setDefaultsServices_eq (l : List (Option ConfigService)) :
    setDefaultsServices l =
      if none ∈ l then .error .nilPointerDereference
      else .ok (l.map (Option.map ConfigService.setDefaults)) := by
  induction l with
  | nil => rfl
  | cons s l ih =>
    cases s with
    | none => rfl
    | some s => by_cases h : none ∈ l <;> simp [setDefaultsServices, ih, h]

/-- `SetDefaults` fills each default and panics exactly on a `null`
service. -/
theorem setDefaults_eq (c : Config) :
    c.setDefaults =
      if none ∈ c.services then .error .nilPointerDereference
      else .ok { c with
        publicListenAddress :=
          if c.publicListenAddress = "" then defaultPublicListenAddress else c.publicListenAddress
        adminListenAddress :=
          if c.adminListenAddress = "" then defaultAdminListenAddress else c.adminListenAddress
        descriptionSyncPeriod :=
          if c.descriptionSyncPeriod.nanoseconds ≤ 0 then defaultDescriptionSyncPeriod
          else c.descriptionSyncPeriod
        redisAddress := if c.redisAddress = "" then "localhost:6379" else c.redisAddress
        services := c.services.map (Option.map ConfigService.setDefaults) } := by
  unfold setDefaults
  rw [setDefaultsServices_eq]
  by_cases h : none ∈ c.services
  · rw [if_pos h, if_pos h]
  · rw [if_neg h, if_neg h]

theorem setDefaults_eq_error_iff {c : Config} {p : Panic} :
    c.setDefaults = .error p ↔ none ∈ c.services ∧ p = .nilPointerDereference := by
  rw [setDefaults_eq]
  split_ifs with h <;> simp [h, eq_comm]

theorem validateServices_eq_ok_ok {index : Nat} {l : List (Option ConfigService)} :
    validateServices index l = .ok (.ok ()) ↔ ∀ s ∈ l, ∃ cs, s = some cs ∧ cs.validate = .ok () := by
  induction l generalizing index with
  | nil => simp [validateServices]
  | cons s l ih =>
    cases s with
    | none => simp [validateServices]
    | some s =>
      unfold validateServices
      cases hs : s.validate <;> simp [hs, ih]

/-- A service check fails with an error that names the service and what its
own check reported. -/
theorem validateServices_eq_error {index : Nat} {l : List (Option ConfigService)} {err : String}
    (h : validateServices index l = .ok (.error err)) :
    ∃ cs e name, some cs ∈ l ∧ cs.validate = .error e ∧ err = "service " ++ name ++ " is invalid: " ++ e := by
  induction l generalizing index with
  | nil => cases h
  | cons s l ih =>
    cases s with
    | none => cases h
    | some s =>
      unfold validateServices at h
      split at h
      next e hs => cases h; exact ⟨s, e, _, List.mem_cons_self _ _, hs, rfl⟩
      next =>
        obtain ⟨cs, e, name, hmem, hcs, rfl⟩ := ih h
        exact ⟨cs, e, name, List.mem_cons_of_mem _ hmem, hcs, rfl⟩

/-- One required check of `Validate` passes, and so do the checks after it. -/
theorem ite_error_eq_ok_ok {p : Prop} [Decidable p] {e : String}
    {x : Except Panic (Except String Unit)} :
    (if p then .ok (.error e) else x) = .ok (.ok ()) ↔ ¬p ∧ x = .ok (.ok ()) := by
  by_cases hp : p <;> simp [hp]

/-- A required check of `Validate` fails, or it passes and a later one
fails. -/
theorem ite_error_eq_ok_error {p : Prop} [Decidable p] {e err : String}
    {x : Except Panic (Except String Unit)} :
    (if p then .ok (.error e) else x) = .ok (.error err) ↔ (p ∧ e = err) ∨ (¬p ∧ x = .ok (.error err)) := by
  by_cases hp : p <;> simp [hp]

theorem validate_eq_ok_ok {c : Config} : c.validate = .ok (.ok ()) ↔ c.WellFormed := by
  rw [wellFormed_iff]
  simp only [validate, ite_error_eq_ok_ok, validateServices_eq_ok_ok, not_le]

theorem ite_empty_ne_empty {x d : String} (hd : d ≠ "") : (if x = "" then d else x) ≠ "" := by
  split_ifs with h
  · exact hd
  · exact h

/-- Each default passes the check of its own field: once `SetDefaults` has
run, `Validate` fails only on an Auth0 setting, or on a service without a
name or an address. -/
theorem validate_setDefaults {c c' : Config} (h : c.setDefaults = .ok c') {err : String}
    (hv : c'.validate = .ok (.error err)) :
    err ∈ ["field Auth0Domain is required", "field Auth0Audience is required",
        "field Auth0ClientID is required", "field Auth0ClientSecret is required"] ∨
      ∃ name, err = "service " ++ name ++ " is invalid: " ++ "field Name is required" ∨
        err = "service " ++ name ++ " is invalid: " ++ "field Address is required" := by
  rw [setDefaults_eq] at h
  split at h
  · cases h
  cases h
  have hperiod : ¬(if c.descriptionSyncPeriod.nanoseconds ≤ 0 then defaultDescriptionSyncPeriod
      else c.descriptionSyncPeriod).nanoseconds ≤ 0 := by
    split_ifs <;> simp_all [defaultDescriptionSyncPeriod, Duration.minute]
  unfold validate at hv
  simp only [if_neg (ite_empty_ne_empty (by decide : defaultPublicListenAddress ≠ "")),
    if_neg (ite_empty_ne_empty (by decide : defaultAdminListenAddress ≠ "")),
    if_neg (ite_empty_ne_empty (by decide : "localhost:6379" ≠ "")), if_neg hperiod] at hv
  simp only [ite_error_eq_ok_error] at hv
  rcases hv with ⟨-, rfl⟩ | ⟨-, ⟨-, rfl⟩ | ⟨-, ⟨-, rfl⟩ | ⟨-, ⟨-, rfl⟩ | ⟨-, hv⟩⟩⟩⟩
  iterate 4 · exact .inl (by simp)
  obtain ⟨cs, e, name, hmem, hcs, rfl⟩ := validateServices_eq_error hv
  obtain ⟨_, -, hcs₀⟩ := List.mem_map.mp hmem
  obtain ⟨cs₀, -, rfl⟩ := Option.map_eq_some'.mp hcs₀
  rcases ConfigService.validate_setDefaults_eq_error hcs with rfl | rfl
  · exact .inr ⟨name, .inl rfl⟩
  · exact .inr ⟨name, .inr rfl⟩

/-- **`FromFile` accepts exactly the well-formed configurations**: it returns
a configuration exactly when the file reads and decodes to one without a
`null` service, and that configuration, its defaults filled in, is well
formed. -/
theorem fromFile_eq_ok_iff {fileContent : Except String Bytes}
    {unmarshal : Bytes → Except String Config} {cfg : Config} :
    fromFile fileContent unmarshal = .ok (.ok cfg) ↔
      ∃ content raw, fileContent = .ok content ∧ unmarshal content = .ok raw ∧
        raw.setDefaults = .ok cfg ∧ cfg.WellFormed := by
  constructor
  · intro h
    unfold fromFile at h
    split at h <;> [cases h; skip]
    next content =>
    split at h <;> [cases h; skip]
    next raw hraw =>
    split at h <;> [cases h; skip]
    next hdef =>
    split at h <;> [cases h; cases h; skip]
    next hv => cases h; exact ⟨content, raw, rfl, hraw, hdef, validate_eq_ok_ok.mp hv⟩
  · rintro ⟨content, raw, rfl, hraw, hdef, hwf⟩
    simp [fromFile, hraw, hdef, validate_eq_ok_ok.mpr hwf]

/-- The defaults settle every field but the Auth0 settings and each service's
name and address. -/
theorem wellFormed_iff_of_setDefaults {raw cfg : Config} (h : raw.setDefaults = .ok cfg) :
    cfg.WellFormed ↔ raw.auth0Domain ≠ "" ∧ raw.auth0Audience ≠ "" ∧ raw.auth0ClientID ≠ "" ∧
      raw.auth0ClientSecret ≠ "" ∧
      ∀ s ∈ raw.services, ∃ cs, s = some cs ∧ cs.name ≠ "" ∧ cs.address ≠ "" := by
  rw [setDefaults_eq] at h
  split at h
  · cases h
  next hnone =>
  cases h
  have hperiod : 0 < (if raw.descriptionSyncPeriod.nanoseconds ≤ 0 then defaultDescriptionSyncPeriod
      else raw.descriptionSyncPeriod).nanoseconds := by
    split_ifs <;> simp_all [defaultDescriptionSyncPeriod, Duration.minute]
  have hservices : (∀ s ∈ raw.services.map (Option.map ConfigService.setDefaults),
      ∃ cs, s = some cs ∧ cs.validate = .ok ()) ↔
      ∀ s ∈ raw.services, ∃ cs, s = some cs ∧ cs.name ≠ "" ∧ cs.address ≠ "" := by
    simp only [List.forall_mem_map, ConfigService.validate_eq_ok,
      ConfigService.setDefaults_name, ConfigService.setDefaults_address]
    refine forall₂_congr fun s hs => ?_
    cases s with
    | none => exact absurd hs hnone
    | some cs => simp [cs.setDefaults_operationTimeout_pos]
  rw [wellFormed_iff, ← hservices]
  simp only [ite_empty_ne_empty (by decide : defaultPublicListenAddress ≠ ""),
    ite_empty_ne_empty (by decide : defaultAdminListenAddress ≠ ""),
    ite_empty_ne_empty (by decide : "localhost:6379" ≠ ""), hperiod, ne_eq, not_false_eq_true,
    true_and, and_true]

/-- **A configuration file needs only its Auth0 settings and its services'
names and addresses**: `FromFile` returns a configuration exactly when the
file reads and decodes to one whose four Auth0 settings are set and whose
services are all present with a name and an address; the listen addresses,
the Redis address, the sync period and the timeouts may be left out, and what
`FromFile` returns is the decoded configuration with its defaults filled in. -/
theorem fromFile_eq_ok_iff_required {fileContent : Except String Bytes}
    {unmarshal : Bytes → Except String Config} {cfg : Config} :
    fromFile fileContent unmarshal = .ok (.ok cfg) ↔
      ∃ content raw, fileContent = .ok content ∧ unmarshal content = .ok raw ∧
        raw.setDefaults = .ok cfg ∧ raw.auth0Domain ≠ "" ∧ raw.auth0Audience ≠ "" ∧
        raw.auth0ClientID ≠ "" ∧ raw.auth0ClientSecret ≠ "" ∧
        ∀ s ∈ raw.services, ∃ cs, s = some cs ∧ cs.name ≠ "" ∧ cs.address ≠ "" := by
  rw [fromFile_eq_ok_iff]
  exact exists₂_congr fun _ _ => and_congr_right fun _ => and_congr_right fun _ =>
    and_congr_right wellFormed_iff_of_setDefaults

end Config

/-! ### The client registry -/

/-- The body of `initClientStore`'s loop for one service: its M2M source when
it names an audience, created with the issuer's answer, then its provider
client. `providerNew` is `provider.New` with the options `main` fills from the
service and the source. -/
def newProviderClient (issuer : String → Except String M2m.Token)
    (providerNew : ConfigService → Option M2m.Impl → Except String Client) (service : ConfigService) :
    Except String Client :=
  let m2mTokenSource : Except String (Option M2m.Impl) :=
    if service.m2mAudience ≠ "" then
      match M2m.create (issuer service.m2mAudience) service.m2mAudience with
      | .error err =>
        .error ("failed to create m2m token source for provider " ++ service.name ++ ": " ++ err)
      | .ok src => .ok (some src)
    else .ok none
  match m2mTokenSource with
  | .error err => .error err
  | .ok m2mTokenSource =>
    match providerNew service m2mTokenSource with
    | .error err => .error ("could not create client to provider " ++ service.name ++ ": " ++ err)
    | .ok providerClient => .ok providerClient

/-- One iteration of `initClientStore`'s loop: `clients[service.Name] =
providerClient`. -/
def initClientStoreStep (issuer : String → Except String M2m.Token)
    (providerNew : ConfigService → Option M2m.Impl → Except String Client)
    (clients : GoMap String Client) (service : ConfigService) : Except String (GoMap String Client) :=
  match newProviderClient issuer providerNew service with
  | .error err => .error err
  | .ok providerClient => .ok (clients.insert service.name providerClient)

/-- `initClientStore`, over the services of a loaded configuration, none of
them nil (`Config.fromFile_eq_ok_iff`). -/
def initClientStore (issuer : String → Except String M2m.Token)
    (providerNew : ConfigService → Option M2m.Impl → Except String Client)
    (services : List ConfigService) : Except String (GoMap String Client) :=
  services.foldlM (initClientStoreStep issuer providerNew) ∅

section Registry

variable {issuer : String → Except String M2m.Token}
  {providerNew : ConfigService → Option M2m.Impl → Except String Client}

theorem initClientStoreStep_eq_ok {clients clients' : GoMap String Client} {service : ConfigService}
    (h : initClientStoreStep issuer providerNew clients service = .ok clients') :
    ∃ c, newProviderClient issuer providerNew service = .ok c ∧
      clients' = clients.insert service.name c := by
  unfold initClientStoreStep at h
  split at h
  · cases h
  · next c hc => cases h; exact ⟨c, hc, rfl⟩

theorem foldlM_initClientStoreStep {l : List ConfigService} {clients store : GoMap String Client}
    (h : l.foldlM (initClientStoreStep issuer providerNew) clients = .ok store) (name : String) :
    (∀ s ∈ l, ∃ c, newProviderClient issuer providerNew s = .ok c) ∧
      store.get? name = ((l.reverse.find? (·.name = name)).bind fun s =>
        (newProviderClient issuer providerNew s).toOption).or (clients.get? name) := by
  induction l generalizing clients with
  | nil => cases h; exact ⟨(fun _ h => nomatch h), rfl⟩
  | cons s l ih =>
    rw [List.foldlM_cons] at h
    cases hstep : initClientStoreStep issuer providerNew clients s with
    | error err => rw [hstep] at h; cases h
    | ok clients' =>
      rw [hstep] at h
      obtain ⟨c, hc, rfl⟩ := initClientStoreStep_eq_ok hstep
      obtain ⟨hall, hget⟩ := ih h
      refine ⟨List.forall_mem_cons.mpr ⟨⟨c, hc⟩, hall⟩, ?_⟩
      rw [hget, List.reverse_cons, List.find?_append]
      cases hfind : l.reverse.find? (·.name = name) with
      | some s' =>
        obtain ⟨c', hc'⟩ := hall s' (List.mem_reverse.mp (List.mem_of_find?_eq_some hfind))
        simp [hc', Except.toOption]
      | none =>
        by_cases hn : s.name = name
        · simp [hn, hc, Except.toOption]
        · simp [hn, Ne.symm hn]

/-- **A later service of the same name replaces an earlier one**: when
`initClientStore` succeeds, every service's client has been built, M2M source
included, and the registry maps each name to the client of the last service
configured under it. -/
theorem initClientStore_get? {services : List ConfigService} {clientStore : GoMap String Client}
    (h : initClientStore issuer providerNew services = .ok clientStore) (name : String) :
    (∀ s ∈ services, ∃ c, newProviderClient issuer providerNew s = .ok c) ∧
      clientStore.get? name = (services.reverse.find? (·.name = name)).bind fun s =>
        (newProviderClient issuer providerNew s).toOption := by
  obtain ⟨hall, hget⟩ := foldlM_initClientStoreStep h name
  exact ⟨hall, by rw [hget, GoMap.get?_empty, Option.or_none]⟩

/-- Two services under the name `greet`, at two addresses. -/
def twoGreets : List ConfigService :=
  [⟨"greet", "greet-v1:50051", "", Duration.minute⟩, ⟨"greet", "greet-v2:50051", "", Duration.minute⟩]

/-- An issuer no service asks: none names an audience. -/
def noIssuer (_ : String) : Except String M2m.Token := .error "no audience configured"

/-- A `provider.New` whose client's `Description` reports the address it
dials. -/
def dialAddress (service : ConfigService) (_ : Option M2m.Impl) : Except String Client :=
  .ok ⟨.error service.address, fun _ => .error "unreachable"⟩

theorem second_greet_replaces_first :
    ∃ clientStore, initClientStore noIssuer dialAddress twoGreets = .ok clientStore ∧
      (∀ s ∈ twoGreets, ∃ c, newProviderClient noIssuer dialAddress s = .ok c) ∧
      clientStore.get? "greet" = (twoGreets.reverse.find? (·.name = "greet")).bind fun s =>
        (newProviderClient noIssuer dialAddress s).toOption :=
  have ⟨store, h⟩ : ∃ store, initClientStore noIssuer dialAddress twoGreets = .ok store := ⟨_, rfl⟩
  ⟨store, h, initClientStore_get? h "greet"⟩

end Registry

end ApiGateway
