import CloudTenancy.Proofs.OrgConvergence
import CloudTenancy.Proofs.Paging

/-!
CloudTenancy.Proofs.OrgViews — the ways to look at an organization agree.

* `Action.Gives` — an action ends with a result and reports nothing.
* `Client.ListsAlone` — the pages of a collection hold one entity alone for a value in a field.
* `Client.listsAlone_of_reply` — the collection has one page, which is answered at once.

An organization is imported by its name or by its URN, looked up by its name, and read again by its
id. All of these go through one `OrgState.refresh`. What it makes of an organization depends on the
attributes before it in one place only, the description, and none of the first three starts from a
description. So they come to the same attributes, and there is nothing left to change for a look
after them.

Main statement: `organization_views_agree`.
-/

namespace CloudTenancy

/-! ## Attributes after a look -/

namespace OrgState

/-- Only whether there was a description counts. -/
theorem refresh_congr {state other : OrgState} (org : Org)
    (h : state.description.isNull = other.description.isNull) :
    state.refresh org = other.refresh org := by
  have hnull : ∀ description : Value String, description.isNull = true → description = .null := by
    intro description hkept
    cases description with
    | null => rfl
    | unknown => cases hkept
    | known text => cases hkept
  unfold refresh
  cases hother : other.description.isNull with
  | false => simp [h, hother]
  | true => rw [hnull _ (h.trans hother), hnull _ hother]; rfl

/-- A description is null after a look if it was null before and the service shows none. -/
theorem isNull_description_refresh (state : OrgState) (org : Org) :
    (state.refresh org).description.isNull =
      (org.description.isEmpty && state.description.isNull) := by
  show Value.isNull (if org.description.isEmpty && state.description.isNull then state.description
    else .known org.description) = _
  cases hkept : org.description.isEmpty && state.description.isNull with
  | false => rfl
  | true => exact (Bool.and_eq_true_iff.1 hkept).2

/-- To look again is to see the same. -/
theorem refresh_refresh (state : OrgState) (org : Org) :
    (state.refresh org).refresh org = state.refresh org := by
  have hdescription := state.isNull_description_refresh org
  cases hempty : org.description.isEmpty with
  | false => simp [refresh, hempty]
  | true =>
    rw [hempty, Bool.true_and] at hdescription
    exact refresh_congr org hdescription

end OrgState

/-! ## Actions that succeed -/

/-- The action ends with a result and reports nothing. -/
def Action.Gives {α : Type} (action : Action α) (start : ActionState) (a : α) : Prop :=
  (action.perform start).1 = some a ∧ (action.perform start).2.diagnostics = start.diagnostics

/-- An action that makes one call gives what is made of the call's result. -/
theorem Action.gives_call {α β : Type} {client : Client} {describe : ClientError → Diagnostic}
    {call : Client → Call α} {result : α → β} {start : ActionState} {a : α}
    (h : ((call client).perform start.network).1 = .ok a) :
    (do
      let client ← Action.configured (some client)
      let a ← Action.attempt describe (call client)
      return result a : Action β).Gives start (result a) := by
  have hcall : (call client).perform start.network =
      (.ok a, ((call client).perform start.network).2) := Prod.ext h rfl
  rw [Gives, perform_bind_of_some (perform_configured client start),
    perform_bind_of_some (perform_attempt_of_ok hcall), perform_pure]
  exact ⟨rfl, rfl⟩

/-! ## Entities that are alone -/

namespace Client

variable {α : Type} {client : Client} {decoder : Json.Decoder α} {path field value : String}
  {tenant? : Option String} {net : Network}

/-- The pages of a collection hold one entity alone for a value in a field. -/
def ListsAlone (client : Client) (tenant? : Option String) (net : Network)
    (decoder : Json.Decoder α) (path field value : String) (entity : α) : Prop :=
  ∃ url n, client.base.join path = .ok url ∧
    Walk client decoder url (some (field ++ "==" ++ value)) tenant? 1 net n (.ok [entity])

/-- An entity is found exactly when the pages hold it alone. -/
theorem findOne_ok_iff {kind : String} {entity : α} :
    ((client.findOne decoder kind path field value tenant?).perform net).1 = .ok entity ↔
      client.ListsAlone tenant? net decoder path field value entity := by
  obtain ⟨hlists, hfinds, -⟩ := collections_are_read_whole client decoder path tenant?
  rw [(hfinds kind field value).found]
  constructor
  · intro h
    cases hjoin : client.base.join path with
    | error error =>
      rw [(hlists _).unjoined error hjoin] at h
      cases h
    | ok url =>
      obtain ⟨n, result, hwalk⟩ := (hlists (some (field ++ "==" ++ value))).total url net
      rw [(hlists _).perform url hjoin net n result hwalk] at h
      cases h
      exact ⟨url, n, hjoin, hwalk⟩
  · rintro ⟨url, n, hjoin, hwalk⟩
    rw [(hlists _).perform url hjoin net n _ hwalk]

/-- A collection has one page, which is answered at once and holds one entity. -/
theorem listsAlone_of_reply {url : Url} {request : Request} {reply : Reply} {body : Page α}
    {entity : α} (hjoin : client.base.join path = .ok url)
    (hclock : net.now + client.timeout < Clock.bound)
    (hrequest : client.request .get url (pageQuery 1 (some (field ++ "==" ++ value))) .empty
      tenant? = .ok request)
    (hreply : net.scripted request 0 = .ok reply) (hsuccess : reply.status.isSuccess = true)
    (hdecode : reply.decode (Page.decoder decoder) = .ok body) (hend : body.pageCount ≤ 1)
    (halone : body.values = [entity]) :
    client.ListsAlone tenant? net decoder path field value entity := by
  have hpage : client.readPage decoder url (some (field ++ "==" ++ value)) tenant? 1 net =
      .ok body := by
    rw [readPage, send_of_reply hclock hrequest hreply hsuccess]
    exact received_ok hdecode
  have hwalk : Walk client decoder url (some (field ++ "==" ++ value)) tenant? 1 net 1
      (.ok (([] ++ [body]).flatMap Page.values)) := .finished .nil hpage hend
  have hvalues : ([] ++ [body]).flatMap Page.values = [entity] := by simp [halone]
  exact ⟨url, 1, hjoin, hvalues ▸ hwalk⟩

/-- A success that holds an entity shows it. -/
theorem shows_of_reply {url : Url} {request : Request} {reply : Reply} {entity : α}
    (hjoin : client.base.join path = .ok url) (hclock : net.now + client.timeout < Clock.bound)
    (hrequest : client.request .get url [] .empty tenant? = .ok request)
    (hreply : net.scripted request 0 = .ok reply) (hsuccess : reply.status.isSuccess = true)
    (hdecode : reply.decode decoder = .ok entity) :
    client.Shows tenant? net decoder path (· = entity) := by
  have hsend := send_of_reply hclock hrequest hreply hsuccess
  exact ⟨url, reply, entity, hjoin, congrArg Prod.fst hsend, hdecode, rfl⟩

end Client

/-! ## Looks at an organization -/

namespace Org

/-- The service lists an organization alone for a name. -/
abbrev ListedAs (client : Client) (net : Network) (name : String) (org : Org) : Prop :=
  client.ListsAlone none net Org.decoder Client.orgsPath "name" name org

variable {client : Client} {start : ActionState} {name urn : String} {org : Org}

/-- An import by name gives the organization that is listed for the name. -/
theorem gives_importState_of_listedAs (hname : Urn.isOrganization name = false)
    (h : ListedAs client start.network name org) :
    (importState (some client) name).Gives start { state := OrgState.refresh {} org } := by
  unfold importState
  simp only [hname, Bool.false_eq_true, if_false]
  exact Action.gives_call (Client.findOne_ok_iff.2 h)

/-- An import by identifier gives the organization that is shown at its path. -/
theorem gives_importState_of_shows (hurn : Urn.isOrganization urn = true)
    (h : client.Shows none start.network Org.decoder (path urn) (· = org)) :
    (importState (some client) urn).Gives start { state := OrgState.refresh {} org } := by
  obtain ⟨_, rfl, hget⟩ := h.get
  unfold importState
  simp only [hurn, if_true]
  exact Action.gives_call hget

/-- The data source gives the organization that is listed for its name. -/
theorem gives_lookup {config : OrgState} (h : ListedAs client start.network config.name.text org) :
    (lookup (some client) config).Gives start (config.refresh org) :=
  Action.gives_call (Client.findOne_ok_iff.2 h)

/-- A refresh gives the organization that is shown at the path of the state. -/
theorem gives_read {state : OrgState} {privateData : PrivateData}
    (h : client.Shows none start.network Org.decoder (path state.id.text) (· = org)) :
    (read (some client) state privateData).Gives start ⟨state.refresh org, privateData⟩ := by
  obtain ⟨_, rfl, hget⟩ := h.get
  exact Action.gives_call hget

/-- **Views.** Attributes that were refreshed from an organization ask for it, but for who manages
it; to refresh them again changes nothing; and of the attributes before, only whether there was a
description counts. So a look by name, a look by URN and the lookup of a configuration that gives
the name only come to the same attributes of the same organization, and a read after any of them
returns these as they are. -/
theorem organization_views_agree :
    (∀ (state : OrgState) (org : Org),
      (state.refresh org).toOrg = { org with managedBy? := none }) ∧
    (∀ (state : OrgState) (org : Org), (state.refresh org).refresh org = state.refresh org) ∧
    (∀ (state other : OrgState) (org : Org),
      state.description.isNull = other.description.isNull →
        state.refresh org = other.refresh org) ∧
    ∀ (org : Org) (name urn : String), Urn.isOrganization name = false →
      Urn.isOrganization urn = true →
        (∀ client start, ListedAs client start.network name org →
          (importState (some client) name).Gives start { state := OrgState.refresh {} org }) ∧
        (∀ client start, client.Shows none start.network Org.decoder (path urn) (· = org) →
          (importState (some client) urn).Gives start { state := OrgState.refresh {} org }) ∧
        (∀ client start, ListedAs client start.network name org →
          (lookup (some client) { name := .known name }).Gives start (OrgState.refresh {} org)) ∧
        ∀ client start privateData,
          client.Shows none start.network Org.decoder (path org.id) (· = org) →
          (read (some client) (OrgState.refresh {} org) privateData).Gives start
            ⟨OrgState.refresh {} org, privateData⟩ := by
  refine ⟨OrgState.toOrg_refresh, OrgState.refresh_refresh,
    fun _ _ org => OrgState.refresh_congr org, ?_⟩
  intro org name urn hname hurn
  refine ⟨?_, ?_, ?_, ?_⟩
  · intro client start hlisted
    exact gives_importState_of_listedAs hname hlisted
  · intro client start hshows
    exact gives_importState_of_shows hurn hshows
  · intro client start hlisted
    have hnothing : OrgState.refresh { name := .known name } org = OrgState.refresh {} org :=
      OrgState.refresh_congr org rfl
    exact hnothing ▸ gives_lookup hlisted
  · intro client start privateData hshows
    have hread : (read (some client) (OrgState.refresh {} org) privateData).Gives start
        ⟨(OrgState.refresh {} org).refresh org, privateData⟩ := gives_read hshows
    rwa [OrgState.refresh_refresh] at hread

/-! ## Samples -/

def sampleOrg : Org where
  id := "urn:vcloud:org:42"
  name := "acme"
  displayName := "ACME"
  managedBy? := some { id := "urn:vcloud:org:1", name := "system" }

/-- A page that lists it alone. -/
def samplePage : Json := .object [("values", .array [sampleOrg.toJson])]

theorem decode_samplePage :
    Reply.decode { body := samplePage.write } (Page.decoder Org.decoder) =
      .ok { values := [sampleOrg] } :=
  ok_of_toOption (by decide +kernel)

def sampleCollection : Url :=
  { (Client.sample "t" 3).base with path := .segments ["cloudapi", "1.0.0", "orgs"] }

theorem join_orgsPath : (Client.sample "t" 3).base.join Client.orgsPath = .ok sampleCollection :=
  ok_of_toOption (by decide +kernel)

theorem listedAs_sampleOrg :
    ListedAs (Client.sample "t" 3) (.holding samplePage) "acme" sampleOrg :=
  Client.listsAlone_of_reply join_orgsPath (by decide) rfl rfl rfl decode_samplePage (by decide) rfl

theorem shows_sampleOrg :
    (Client.sample "t" 3).Shows none (.holding sampleOrg.toJson) Org.decoder
      (path "urn:vcloud:org:42") (· = sampleOrg) := by
  have hjoin : (Client.sample "t" 3).base.join (path "urn:vcloud:org:42") =
      .ok { (Client.sample "t" 3).base with
        path := .segments ["cloudapi", "1.0.0", "orgs", "urn:vcloud:org:42"] } :=
    ok_of_toOption (by decide +kernel)
  have hdecode : Reply.decode { body := sampleOrg.toJson.write } Org.decoder = .ok sampleOrg :=
    ok_of_toOption (by decide +kernel)
  exact Client.shows_of_reply hjoin (by decide) rfl rfl rfl hdecode

/-- The same organization by its name, by its URN and by a configuration, and once more. -/
theorem organization_views_agree_on_sample :
    (importState (some (Client.sample "t" 3)) "acme").Gives
        { network := .holding samplePage } { state := OrgState.refresh {} sampleOrg } ∧
      (importState (some (Client.sample "t" 3)) "urn:vcloud:org:42").Gives
        { network := .holding sampleOrg.toJson } { state := OrgState.refresh {} sampleOrg } ∧
      (lookup (some (Client.sample "t" 3)) { name := .known "acme" }).Gives
        { network := .holding samplePage } (OrgState.refresh {} sampleOrg) ∧
      (read (some (Client.sample "t" 3)) (OrgState.refresh {} sampleOrg) .null).Gives
        { network := .holding sampleOrg.toJson } { state := OrgState.refresh {} sampleOrg } := by
  obtain ⟨hname, hurn, hconfig, hread⟩ :=
    organization_views_agree.2.2.2 sampleOrg "acme" "urn:vcloud:org:42" rfl rfl
  exact ⟨hname _ _ listedAs_sampleOrg, hurn _ _ shows_sampleOrg, hconfig _ _ listedAs_sampleOrg,
    hread _ _ _ shows_sampleOrg⟩

end Org

end CloudTenancy
