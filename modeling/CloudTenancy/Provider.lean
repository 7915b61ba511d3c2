import CloudTenancy.Client.Login
import CloudTenancy.Config.Schema
import CloudTenancy.LocalUser.Resource
import CloudTenancy.LocalUser.Schema
import CloudTenancy.Org.Schema
import CloudTenancy.Region.Lookup
import CloudTenancy.Role.Lookup
import CloudTenancy.Version.Lookup

/-!
CloudTenancy.Provider — the provider with all that it manages and looks up.

* `ResourceCall`, `ResourceAnswer` — what can be asked about a managed entity, and the results.
* `Handlers` — the handlers of a kind of managed entities, `Handlers.manage` their answers.
* `Handlers.Each` — a property of each handler, which is then one of the whole table.
* `Org.manage`, `LocalUser.manage` — the managed entities.
* `LookupCall` — what can be asked about an entity that is looked up.
* `Org.inspect` and its like — the entities that are looked up.
* `Provider` — the session in place.
* `Provider.configure` — puts a new session in place.
* `Provider.run` — a call with the session in place.
* `Provider.resourceSchemas`, `Provider.lookupSchemas` — the blocks by name.

Main statement: a session stays in place until another one has been opened.
-/

namespace CloudTenancy

/-! ## Managed entities -/

/-- What can be asked about a managed entity with attributes `σ`. -/
inductive ResourceCall (σ : Type)
  | validate (config : σ)
  | read (state : σ) (privateData : PrivateData)
  | planCreate (proposed config : σ)
  | planUpdate (prior proposed config : σ)
  | planDestroy (prior : σ) (privateData : PrivateData)
  | create (planned : σ)
  | update (prior planned : σ)
  | destroy (prior : σ)
  | importState (id : String)
  deriving DecidableEq, Repr

inductive ResourceAnswer (σ : Type)
  | done
  | kept (result : Kept σ)
  | plan (result : Plan σ)
  | privateData (result : PrivateData)
  deriving DecidableEq, Repr

/-- The calls that need a session: all but validations and plans. -/
def ResourceCall.needsSession {σ : Type} : ResourceCall σ → Bool
  | .read .. => true
  | .create .. => true
  | .update .. => true
  | .destroy .. => true
  | .importState .. => true
  | _ => false

structure Handlers (σ : Type) where
  validate : σ → Action Unit
  read : Option Client → σ → PrivateData → Action (Kept σ)
  planCreate (proposed config : σ) : σ
  planUpdate (prior proposed config : σ) : Plan σ
  create : Option Client → σ → Action (Kept σ)
  update : Option Client → σ → σ → Action (Kept σ)
  destroy : Option Client → σ → Action Unit
  importState : Option Client → String → Action (Kept σ)

/-- The answer of handlers to a call. The plan of a removal is empty. -/
def Handlers.manage {σ : Type} (handlers : Handlers σ) (client? : Option Client) :
    ResourceCall σ → Action (ResourceAnswer σ)
  | .validate config => do
    handlers.validate config
    return .done
  | .read state privateData => return .kept (← handlers.read client? state privateData)
  | .planCreate proposed config => return .kept { state := handlers.planCreate proposed config }
  | .planUpdate prior proposed config => return .plan (handlers.planUpdate prior proposed config)
  | .planDestroy _ privateData => return .privateData privateData
  | .create planned => return .kept (← handlers.create client? planned)
  | .update prior planned => return .kept (← handlers.update client? prior planned)
  | .destroy prior => do
    handlers.destroy client? prior
    return .done
  | .importState id => return .kept (← handlers.importState client? id)

/-- Every configuration of an organization is valid. -/
def Org.handlers : Handlers OrgState where
  validate _ := pure ()
  read := Org.read
  planCreate := Org.planCreate
  planUpdate := Org.planUpdate
  create := Org.create
  update := Org.update
  destroy := Org.destroy
  importState := Org.importState

/-- Plans for users look at what is proposed only. -/
def LocalUser.handlers : Handlers LocalUserState where
  validate := LocalUser.validate
  read := LocalUser.read
  planCreate proposed _ := LocalUser.planCreate proposed
  planUpdate prior proposed _ := LocalUser.planUpdate prior proposed
  create := LocalUser.create
  update := LocalUser.update
  destroy := LocalUser.destroy
  importState := LocalUser.importState

def Org.manage (client? : Option Client) :
    ResourceCall OrgState → Action (ResourceAnswer OrgState) :=
  Org.handlers.manage client?

def LocalUser.manage (client? : Option Client) :
    ResourceCall LocalUserState → Action (ResourceAnswer LocalUserState) :=
  LocalUser.handlers.manage client?

/-- A property of what is done on each call is one of each handler. -/
structure Handlers.Each {σ : Type} (handlers : Handlers σ) (client? : Option Client)
    (P : ResourceCall σ → (α : Type) → Action α → Prop) : Prop where
  validate : ∀ config, P (.validate config) Unit (handlers.validate config)
  read : ∀ state privateData,
    P (.read state privateData) (Kept σ) (handlers.read client? state privateData)
  create : ∀ planned, P (.create planned) (Kept σ) (handlers.create client? planned)
  update : ∀ prior planned,
    P (.update prior planned) (Kept σ) (handlers.update client? prior planned)
  destroy : ∀ prior, P (.destroy prior) Unit (handlers.destroy client? prior)
  importState : ∀ id, P (.importState id) (Kept σ) (handlers.importState client? id)

/-- What holds of each handler holds of the whole table, if plans have it and the form of a result
does not matter to it. -/
theorem Handlers.Each.manage {σ : Type} {handlers : Handlers σ} {client? : Option Client}
    {P : ResourceCall σ → (α : Type) → Action α → Prop} (h : handlers.Each client? P)
    (hplan : ∀ (call : ResourceCall σ) {α : Type} (a : α), call.needsSession = false →
      P call α (pure a))
    (hform : ∀ (call : ResourceCall σ) {α β : Type} {action : Action α} (form : α → β),
      P call α action → P call β (action >>= fun a => pure (form a)))
    (call : ResourceCall σ) : P call (ResourceAnswer σ) (handlers.manage client? call) := by
  cases call with
  | validate config => exact hform _ _ (h.validate config)
  | read state privateData => exact hform _ _ (h.read state privateData)
  | planCreate => exact hplan _ _ rfl
  | planUpdate => exact hplan _ _ rfl
  | planDestroy => exact hplan _ _ rfl
  | create planned => exact hform _ _ (h.create planned)
  | update prior planned => exact hform _ _ (h.update prior planned)
  | destroy prior => exact hform _ _ (h.destroy prior)
  | importState id => exact hform _ _ (h.importState id)

/-! ## Entities that are looked up -/

/-- What can be asked about an entity that is looked up, with attributes `σ`. -/
inductive LookupCall (σ : Type)
  | validate (config : σ)
  | read (config : σ)
  deriving DecidableEq, Repr

def LookupCall.needsSession {σ : Type} : LookupCall σ → Bool
  | .validate _ => false
  | .read _ => true

/-- Every configuration is valid. -/
def LookupCall.accept {σ : Type} : σ → Action Unit := fun _ => pure ()

/-- The result of a call about an entity that is looked up: its attributes, or nothing for a
validation. -/
def LookupCall.answer {σ : Type} (validate : σ → Action Unit) (lookup : σ → Action σ) :
    LookupCall σ → Action (Option σ)
  | .validate config => do
    validate config
    return none
  | .read config => return some (← lookup config)

def Org.inspect (client? : Option Client) : LookupCall OrgState → Action (Option OrgState) :=
  LookupCall.answer LookupCall.accept (Org.lookup client?)

def LocalUser.inspect (client? : Option Client) :
    LookupCall LocalUserView → Action (Option LocalUserView) :=
  LookupCall.answer LookupCall.accept (LocalUser.lookup client?)

def Role.inspect (client? : Option Client) : LookupCall RoleState → Action (Option RoleState) :=
  LookupCall.answer LookupCall.accept (Role.lookup client?)

def Region.inspect (client? : Option Client) :
    LookupCall RegionState → Action (Option RegionState) :=
  LookupCall.answer LookupCall.accept (Region.lookup client?)

def Version.inspect (client? : Option Client) :
    LookupCall VersionState → Action (Option VersionState) :=
  LookupCall.answer Version.validate (Version.lookup client?)

/-! ## The provider -/

/-- The provider: the session in place, none before it has been configured. -/
structure Provider where
  client? : Option Client := none
  deriving DecidableEq, Repr

namespace Provider

def openSession (block : ProviderBlock) (env : Environment) : Action Client :=
  match Settings.resolve block env with
  | .error error =>
    Action.fail { summary := "Invalid provider configuration", detail := error.message }
  | .ok settings =>
    Action.attempt (.ofError "Failed to connect to VCFA") (Client.connect settings)

/-- Puts a new session in place, if one can be opened. -/
def configure (provider : Provider) (block : ProviderBlock) (env : Environment)
    (network : Network) : (Outcome Unit × Provider) × Network :=
  let (outcome, network) := (openSession block env).start network
  let result := { value? := outcome.value?.map fun _ => (), diagnostics := outcome.diagnostics }
  ((result, { client? := outcome.value?.or provider.client? }), network)

def run {α β : Type} (provider : Provider) (answer : Option Client → α → Action β) (call : α)
    (network : Network) : Outcome β × Network :=
  (answer provider.client? call).start network

/-! ## Blocks -/

def resourceSchemas : List (String × Schema) :=
  [("org", Org.resourceSchema), ("org_local_user", LocalUser.resourceSchema)]

def lookupSchemas : List (String × Schema) :=
  [("org", Org.lookupSchema), ("org_local_user", LocalUser.lookupSchema),
    ("region", Region.lookupSchema), ("role", Role.lookupSchema),
    ("version", Version.lookupSchema)]

def schema? (schemas : List (String × Schema)) (name : String) : Option Schema :=
  (schemas.find? fun entry => entry.1 = name).map (·.2)

/-! ## Laws -/

/-- A session stays in place while no other one can be opened. -/
theorem configure_failed {provider : Provider} {block : ProviderBlock} {env : Environment}
    {network : Network} (h : ((provider.configure block env network).1.1).value? = none) :
    (provider.configure block env network).1.2 = provider := by
  simp only [configure, Option.map_eq_none_iff] at h ⊢
  rw [h]
  rfl

end Provider

end CloudTenancy
