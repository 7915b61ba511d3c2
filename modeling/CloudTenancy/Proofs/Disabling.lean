import CloudTenancy.Proofs.Removal
import Mathlib.Data.List.Basic

/-!
CloudTenancy.Proofs.Disabling — what the removal of an organization sends, and in which order.

* `Org.disabling` — the change that disables an organization.
* `Org.Disabled` — the ways in which an organization is found or made disabled, with the steps of
  each.
* `Org.Dissolves` — the ways in which a removal ends, each with its steps and what is reported.
* `Org.DisabledFirst` — what the steps and the requests of a removal keep to.
* `Org.GoneAt` — the requests for the organization that may find it gone.

A removal is a look, a change that disables, and the removal proper. `exists_dissolves` and
`Dissolves.perform` say once where it can end; the order of its requests and its outcome are then
read off the ways, one at a time.

Main statements: `deleted_only_when_disabled` and `gone_organization_counts_as_removed`.
-/

namespace CloudTenancy

namespace Org

variable {client : Client} {path : String} {org : Org} {net seen : Network}

/-! ## Disabling -/

/-- The change that disables an organization. It is sent back as it was shown, but for that. -/
def disabling (path : String) (org : Org) : Change Org :=
  .replacement Org.decoder path { org with isEnabled := false }.toJson

/-- An organization that was shown is disabled, or it is disabled by a replacement at its own
address: at once, or by a task that has succeeded, after which it is read again. -/
inductive Disabled (client : Client) (path : String) (org : Org) (seen : Network) :
    List Step → Prop
  | already : org.isEnabled = false → Disabled client path org seen []
  | atOnce {url : Url} {later : Network} {reply : Reply} {kept : Org} :
    org.isEnabled = true → client.base.join path = .ok url →
    (client.send .put url [] (.json { org with isEnabled := false }.toJson) none).perform seen =
      (.ok reply, later) →
    reply.status ≠ .accepted → reply.decode Org.decoder = .ok kept →
    Disabled client path org seen [.ask .put url [] (.json { org with isEnabled := false }.toJson)]
  | byTask {url : Url} {later : Network} {accepting shown : Reply} {steps : List Step} {task : Task}
      {kept : Org} :
    org.isEnabled = true → client.base.join path = .ok url →
    (client.send .put url [] (.json { org with isEnabled := false }.toJson) none).perform seen =
      (.ok accepting, later) →
    accepting.status = .accepted → client.Awaits none accepting later steps (.ok task) →
    task.status = "success" →
    client.reply none url (client.follow none later steps) = .ok shown →
    shown.decode Org.decoder = .ok kept →
    Disabled client path org seen
      (.ask .put url [] (.json { org with isEnabled := false }.toJson) :: steps ++ [.get url])

/-- A run that goes through disables the organization. -/
theorem Disabled.of_runs {steps : List Step} {kept : Org} (henabled : org.isEnabled = true)
    (h : (disabling path org).Runs client none seen steps (.ok kept)) :
    Disabled client path org seen steps := by
  generalize hresult : (.ok kept : Except ClientError Org) = result at h
  cases h with
  | unjoined => cases hresult
  | refused => cases hresult
  | immediate hjoin hsend hstatus =>
    exact .atOnce henabled hjoin hsend hstatus (decode_of_received hresult.symm)
  | unfinished => cases hresult
  | unowned => cases hresult
  | done _ _ _ _ hnext => cases hnext
  | unfetched => cases hresult
  | @fetched url target later accepting steps task _ hjoin hsend hstatus hawaits hnext htarget =>
    cases hnext
    cases hjoin.symm.trans htarget
    cases hreply : client.reply none url (client.follow none later steps) with
    | error error =>
      rw [hreply] at hresult
      cases hresult
    | ok shown =>
      rw [hreply] at hresult
      exact .byTask henabled hjoin hsend hstatus hawaits (Change.success_of_awaits hawaits) hreply
        (decode_of_received hresult.symm)

/-- Where an enabled organization has been disabled, the replacement has run to success. -/
theorem Disabled.runs {steps : List Step} (h : Disabled client path org seen steps)
    (henabled : org.isEnabled = true) :
    ∃ kept, (disabling path org).Runs client none seen steps (.ok kept) := by
  cases h with
  | already hdisabled =>
    rw [henabled] at hdisabled
    cases hdisabled
  | @atOnce url later reply kept _ hjoin hsend hstatus hdecode =>
    refine ⟨kept, ?_⟩
    have hruns : (disabling path org).Runs client none seen _ _ := .immediate hjoin hsend hstatus
    rwa [show (disabling path org).receive reply = .ok kept from received_ok hdecode] at hruns
  | @byTask url later accepting shown steps task kept _ hjoin hsend hstatus hawaits _ hreply
      hdecode =>
    refine ⟨kept, ?_⟩
    have hruns : (disabling path org).Runs client none seen _ _ :=
      .fetched hjoin hsend hstatus hawaits rfl hjoin
    rw [hreply] at hruns
    rwa [show Except.bind (.ok shown) (disabling path org).receive = .ok kept from
      received_ok hdecode] at hruns

/-! ## Outcomes -/

/-- A removal, or a part of it, that has ended: it counts as done unless something is reported. -/
def ended (start : ActionState) (later : Network) : Option Diagnostic → Option Unit × ActionState
  | none => (some (), { start with network := later })
  | some d => (none, { network := later, diagnostics := start.diagnostics.error d })

/-- What is reported of a look in front of a removal, or of the removal itself, that fails. That
there is nothing to remove is no failure. -/
def failureReport (summary : String) (error : ClientError) : Option Diagnostic :=
  if error.isNotFound then none else some (.ofError summary error)

/-- What is reported of the removal itself. -/
def removalReport : Except ClientError Unit → Option Diagnostic
  | .ok _ => none
  | .error error => failureReport "Failed to delete organization" error

/-- What is reported of disabling. Here any failure is one. -/
def disablingReport : Except ClientError Org → Option Diagnostic
  | .ok _ => none
  | .error error => some (.ofError "Failed to disable organization" error)

/-- A part that takes a missing entity for an answer ends with what is reported of its failure. -/
theorem perform_orMissing {α : Type} {call : Call α} {summary : String} {start : ActionState}
    {error : ClientError} {later : Network} {next : Option α → Action Unit}
    (h : call.perform start.network = (.error error, later)) (hnone : next none = pure ()) :
    (Action.attempt (.ofError summary) call.orMissing >>= next).perform start =
      ended start later (failureReport summary error) := by
  unfold failureReport
  split
  · rename_i hmissing
    rw [Action.perform_bind_of_some (Action.perform_orMissing_of_missing h hmissing), hnone]
    rfl
  · rename_i hfailed
    rw [Action.perform_bind_of_none (Action.perform_orMissing_of_error h hfailed)]
    rfl

/-- Disabling ends as the run of its requests ends. -/
theorem perform_disable_of_runs {start : ActionState} {steps : List Step}
    {result : Except ClientError Org} (henabled : org.isEnabled = true)
    (h : (disabling path org).Runs client none start.network steps result) :
    (disable client path org).perform start =
      ended start (client.follow none start.network steps) (disablingReport result) := by
  have hcall : (client.update Org.decoder path { org with isEnabled := false }.toJson).perform
      start.network = (result, client.follow none start.network steps) := by
    rw [Change.call_replacement]
    exact h.perform
  unfold disable
  rw [if_pos henabled]
  cases result with
  | ok kept =>
    rw [Action.perform_bind_of_some (Action.perform_attempt_of_ok hcall)]
    rfl
  | error error =>
    rw [Action.perform_bind_of_none (Action.perform_attempt_of_error hcall)]
    rfl

theorem Disabled.perform {start : ActionState} {steps : List Step}
    (h : Disabled client path org start.network steps) :
    (disable client path org).perform start =
      (some (), { start with network := client.follow none start.network steps }) := by
  cases henabled : org.isEnabled with
  | false =>
    have hnone : steps = [] := by
      cases h with
      | already => rfl
      | atOnce hother => rw [henabled] at hother; cases hother
      | byTask hother => rw [henabled] at hother; cases hother
    subst hnone
    unfold disable
    rw [henabled]
    rfl
  | true =>
    obtain ⟨kept, hruns⟩ := h.runs henabled
    exact perform_disable_of_runs henabled hruns

/-- The removal itself, with what is reported of it. -/
theorem perform_removal {start : ActionState} {steps : List Step}
    {result : Except ClientError Unit}
    (h : (Change.removal path deleteQuery).Runs client none start.network steps result) :
    ((do
      let _ ← Action.attempt (.ofError "Failed to delete organization")
        (client.delete path deleteQuery).orMissing
      return () : Action Unit).perform start) =
      ended start (client.follow none start.network steps) (removalReport result) := by
  have hcall : (client.delete path deleteQuery).perform start.network =
      (result, client.follow none start.network steps) := by
    rw [Change.call_removal]
    exact h.perform
  cases result with
  | ok done =>
    rw [Action.perform_bind_of_some (Action.perform_orMissing_of_ok hcall)]
    rfl
  | error error => exact perform_orMissing hcall rfl

/-! ## Removals -/

/-- The ways in which the removal of an organization ends, each with its steps and with what is
reported of it. A removal of which nothing is reported counts as done. -/
inductive Dissolves (client : Client) (path : String) (net : Network) :
    List Step → Option Diagnostic → Prop
  | unaddressed {error : UrlError} :
    client.base.join path = .error error →
    Dissolves client path net [] (failureReport "Failed to read organization" (.url error))
  | unseen {url : Url} {seen : Network} {error : ClientError} :
    client.base.join path = .ok url →
    (client.get Org.decoder path).perform net = (.error error, seen) →
    Dissolves client path net [.get url] (failureReport "Failed to read organization" error)
  | undisabled {url : Url} {org : Org} {seen : Network} {steps : List Step} {error : ClientError} :
    client.base.join path = .ok url →
    (client.get Org.decoder path).perform net = (.ok org, seen) → org.isEnabled = true →
    (disabling path org).Runs client none seen steps (.error error) →
    Dissolves client path net (.get url :: steps)
      (some (.ofError "Failed to disable organization" error))
  | removed {url : Url} {org : Org} {seen : Network} {first steps : List Step}
      {result : Except ClientError Unit} :
    client.base.join path = .ok url →
    (client.get Org.decoder path).perform net = (.ok org, seen) →
    Disabled client path org seen first →
    (Change.removal path deleteQuery).Runs client none (client.follow none seen first) steps
      result →
    Dissolves client path net (.get url :: (first ++ steps)) (removalReport result)

/-- Fetching an organization leaves the network as one look does. -/
theorem network_of_get {url : Url} {result : Except ClientError Org}
    (hjoin : client.base.join path = .ok url)
    (h : (client.get Org.decoder path).perform net = (result, seen)) :
    seen = client.follow none net [.get url] := by
  rw [Change.perform_get hjoin] at h
  exact (congrArg Prod.snd h).symm

/-- What a way comes to is what the removal comes to. -/
theorem Dissolves.perform {prior : OrgState} {start : ActionState} {steps : List Step}
    {report? : Option Diagnostic}
    (h : Dissolves client (Org.path prior.id.text) start.network steps report?) :
    (destroy (some client) prior).perform start =
      ended start (client.follow none start.network steps) report? := by
  unfold destroy
  rw [Action.perform_bind_of_some (Action.perform_configured client start)]
  dsimp only
  cases h with
  | unaddressed hjoin =>
    exact perform_orMissing (Change.perform_get_of_unjoined hjoin none start.network) rfl
  | unseen hjoin hget => rw [perform_orMissing hget rfl, network_of_get hjoin hget]
  | @undisabled url org _ steps error hjoin hget henabled hruns =>
    cases network_of_get hjoin hget
    have hdisable := @perform_disable_of_runs client _ org ⟨_, start.diagnostics⟩ _ _ henabled hruns
    rw [Action.perform_bind_of_some (Action.perform_orMissing_of_ok hget)]
    exact Action.perform_bind_of_none hdisable
  | @removed url org _ first steps result hjoin hget hdisabled hruns =>
    cases network_of_get hjoin hget
    have hdisable := @Disabled.perform client _ org ⟨_, start.diagnostics⟩ _ hdisabled
    have hfollow : client.follow none start.network (.get url :: (first ++ steps)) =
        client.follow none (client.follow none (client.follow none start.network [.get url]) first)
          steps := by
      rw [← Client.follow_append, ← Client.follow_append]
      rfl
    rw [Action.perform_bind_of_some (Action.perform_orMissing_of_ok hget), hfollow]
    exact (Action.perform_bind_of_some hdisable).trans (@perform_removal client _ ⟨_, _⟩ _ _ hruns)

/-- Every run of the dissolving takes one of the courses that are told apart. -/
theorem exists_dissolves (client : Client) (path : String) (net : Network) :
    ∃ steps report?, Dissolves client path net steps report? := by
  cases hjoin : client.base.join path with
  | error error => exact ⟨_, _, .unaddressed hjoin⟩
  | ok url =>
    cases hget : (client.get Org.decoder path).perform net with
    | mk result seen =>
      cases result with
      | error error => exact ⟨_, _, .unseen hjoin hget⟩
      | ok org =>
        have hremoves : ∀ {first}, Disabled client path org seen first →
            ∃ steps report?, Dissolves client path net steps report? := by
          intro first hdisabled
          obtain ⟨steps, removal, hruns⟩ :=
            (Change.removal path deleteQuery).exists_runs client none
              (client.follow none seen first)
          exact ⟨_, _, .removed hjoin hget hdisabled hruns⟩
        cases henabled : org.isEnabled with
        | false => exact hremoves (.already henabled)
        | true =>
          obtain ⟨first, disabled, hdisabling⟩ :=
            (disabling path org).exists_runs client none seen
          cases disabled with
          | error error => exact ⟨_, _, .undisabled hjoin hget henabled hdisabling⟩
          | ok kept => exact hremoves (.of_runs henabled hdisabling)

/-! ## The order of requests -/

/-- The steps of a removal: looks; the replacement that disables an organization that was shown as
enabled; and, once it is disabled, the removal itself. -/
inductive Acts (client : Client) (path : String) (net : Network) : Step → Prop
  | looks {step : Step} : step.Reads → Acts client path net step
  | disables {url : Url} {org : Org} {seen : Network} :
    client.base.join path = .ok url →
    (client.get Org.decoder path).perform net = (.ok org, seen) → org.isEnabled = true →
    Acts client path net (.ask .put url [] (.json { org with isEnabled := false }.toJson))
  | deletes {url : Url} {org : Org} {seen : Network} {first : List Step} :
    client.base.join path = .ok url →
    (client.get Org.decoder path).perform net = (.ok org, seen) →
    Disabled client path org seen first →
    Acts client path net (.ask .delete url deleteQuery .empty)

/-- What disables an organization looks, but for the one replacement. -/
theorem Disabled.step_cases {first : List Step} (h : Disabled client path org seen first) :
    ∀ step ∈ first, step.Reads ∨ ∃ url, client.base.join path = .ok url ∧ org.isEnabled = true ∧
      step = .ask .put url [] (.json { org with isEnabled := false }.toJson) := by
  cases h with
  | already => simp
  | atOnce henabled hjoin =>
    intro step hstep
    exact .inr ⟨_, hjoin, henabled, List.mem_singleton.1 hstep⟩
  | byTask henabled hjoin _ _ hawaits =>
    intro step hstep
    rcases List.mem_cons.1 hstep with rfl | hstep
    · exact .inr ⟨_, hjoin, henabled, rfl⟩
    rcases List.mem_append.1 hstep with hwait | hlast
    · exact .inl (hawaits.reads step hwait)
    · rw [List.mem_singleton.1 hlast]
      exact .inl (Step.reads_get _)

/-- Nothing is deleted while an organization is being disabled. -/
theorem Disabled.delete_not_mem {first : List Step} (h : Disabled client path org seen first)
    (url : Url) (query : List (String × String)) (body : Body) :
    .ask .delete url query body ∉ first := by
  intro hmem
  rcases h.step_cases _ hmem with hreads | ⟨_, -, -, heq⟩
  · cases hreads.1
  · cases heq

/-- Each request of a dissolving is one of those it may make. -/
theorem Dissolves.acts {steps : List Step} {report? : Option Diagnostic}
    (h : Dissolves client path net steps report?) : ∀ step ∈ steps, Acts client path net step := by
  cases h with
  | unaddressed => simp
  | unseen =>
    intro step hstep
    rw [List.mem_singleton.1 hstep]
    exact .looks (Step.reads_get _)
  | undisabled hjoin hget henabled hruns =>
    intro step hstep
    rcases List.mem_cons.1 hstep with rfl | hstep
    · exact .looks (Step.reads_get _)
    rcases hruns.steps_eq with rfl | ⟨_, rest, hown, rfl, hreads⟩
    · simp at hstep
    rcases List.mem_cons.1 hstep with rfl | hstep
    · exact .disables hown hget henabled
    · exact .looks (hreads step hstep)
  | removed hjoin hget hdisabled hruns =>
    intro step hstep
    rcases List.mem_cons.1 hstep with rfl | hstep
    · exact .looks (Step.reads_get _)
    rcases List.mem_append.1 hstep with hfirst | hstep
    · rcases hdisabled.step_cases step hfirst with hreads | ⟨_, hown, henabled, rfl⟩
      · exact .looks hreads
      · exact .disables hown hget henabled
    rcases hruns.steps_eq with rfl | ⟨_, rest, hown, rfl, hreads⟩
    · simp at hstep
    rcases List.mem_cons.1 hstep with rfl | hstep
    · exact .deletes hown hget hdisabled
    · exact .looks (hreads step hstep)

/-- What the removal of an organization keeps to, in its steps and in the requests that arrive. -/
structure DisabledFirst (client : Client) (path : String) (net : Network) (steps : List Step)
    (requests : List Request) : Prop where
  /-- In front of the removal itself stand a look that has shown the organization, at the same
  address, and what has disabled it. -/
  deletes : ∀ before url query body later, steps = before ++ .ask .delete url query body :: later →
    client.base.join path = .ok url ∧ query = [("force", "true"), ("recursive", "true")] ∧
      body = .empty ∧
      ∃ org seen first, (client.get Org.decoder path).perform net = (.ok org, seen) ∧
        before = .get url :: first ∧ Disabled client path org seen first
  /-- A replacement sends the organization back as it was shown, but disabled. -/
  replaces : ∀ request ∈ requests, request.method = .put →
    ∃ url org seen, client.base.join path = .ok url ∧
      (client.get Org.decoder path).perform net = (.ok org, seen) ∧ org.isEnabled = true ∧
      request.url = Request.address url ∧
      request.body = .json { org with isEnabled := false }.toJson
  /-- Everything in the organization goes with it. -/
  addressed : ∀ request ∈ requests, request.method = .delete →
    ∃ url, client.base.join path = .ok url ∧
      request.url = Request.address (url.appendQuery "force=true&recursive=true") ∧
      request.body = .empty
  /-- Nothing follows a look that fails. -/
  unseen : ∀ error seen, (client.get Org.decoder path).perform net = (.error error, seen) →
    client.follow none net steps = seen ∧ ∀ request ∈ requests, request.method = .get
  /-- Nothing follows a replacement that fails. -/
  undisabled : ∀ org seen error later,
    (client.get Org.decoder path).perform net = (.ok org, seen) → org.isEnabled = true →
    (client.update Org.decoder path { org with isEnabled := false }.toJson).perform seen =
      (.error error, later) →
    client.follow none net steps = later ∧ ∀ request ∈ requests, request.method ≠ .delete
  /-- What is disabled is not replaced. -/
  untouched : ∀ org seen, (client.get Org.decoder path).perform net = (.ok org, seen) →
    org.isEnabled = false → ∀ request ∈ requests, request.method ≠ .put

/-- Disabling that has failed has not disabled the organization. -/
theorem Disabled.update_ok {first : List Step} (h : Disabled client path org seen first)
    (henabled : org.isEnabled = true) :
    ∃ kept, (client.update Org.decoder path { org with isEnabled := false }.toJson).perform seen =
      (.ok kept, client.follow none seen first) := by
  obtain ⟨kept, hruns⟩ := h.runs henabled
  refine ⟨kept, ?_⟩
  rw [Change.call_replacement]
  exact hruns.perform

/-- The requests of a removal, by their methods. -/
theorem Dissolves.request_cases {steps : List Step} {report? : Option Diagnostic}
    {requests : List Request} (h : Dissolves client path net steps report?)
    (hcopies : client.Copies none net steps requests) {request : Request}
    (hmem : request ∈ requests) :
    request.method = .get ∨
      (request.method = .put ∧ ∃ url org seen, client.base.join path = .ok url ∧
        (client.get Org.decoder path).perform net = (.ok org, seen) ∧ org.isEnabled = true ∧
        request.url = Request.address url ∧
        request.body = .json { org with isEnabled := false }.toJson) ∨
      (request.method = .delete ∧ ∃ url org seen first, client.base.join path = .ok url ∧
        request.url = Request.address (url.appendQuery "force=true&recursive=true") ∧
        request.body = .empty ∧ (client.get Org.decoder path).perform net = (.ok org, seen) ∧
        Disabled client path org seen first) := by
  obtain ⟨method, url, query, body, hstep, hbuilt⟩ := hcopies.asked hmem
  obtain ⟨hmethod, hurl, hbody, -⟩ := Request.make_ok hbuilt
  rw [hmethod]
  cases h.acts _ hstep with
  | looks hreads => exact .inl hreads.1
  | disables hjoin hget henabled =>
    exact .inr (.inl ⟨rfl, _, _, _, hjoin, hget, henabled, hurl, hbody⟩)
  | deletes hjoin hget hdisabled =>
    exact .inr (.inr ⟨rfl, _, _, _, _, hjoin, hurl, hbody, hget, hdisabled⟩)

/-- A removal itself stands behind what has disabled the organization, and nowhere else. -/
theorem Dissolves.before_delete {steps : List Step} {report? : Option Diagnostic}
    (h : Dissolves client path net steps report?) {before later : List Step} {url : Url}
    {query : List (String × String)} {body : Body}
    (hsteps : steps = before ++ .ask .delete url query body :: later) :
    client.base.join path = .ok url ∧ query = deleteQuery ∧ body = .empty ∧
      ∃ org seen first, (client.get Org.decoder path).perform net = (.ok org, seen) ∧
        before = .get url :: first ∧ Disabled client path org seen first := by
  have hmem : .ask .delete url query body ∈ steps := by simp [hsteps]
  cases h with
  | unaddressed => cases hmem
  | unseen => cases List.mem_singleton.1 hmem
  | undisabled _ _ _ hruns =>
    rcases hruns.steps_eq with rfl | ⟨_, rest, -, rfl, hreads⟩
    · cases List.mem_singleton.1 hmem
    · simp only [List.mem_cons] at hmem
      rcases hmem with hlook | hown | hrest
      · cases hlook
      · cases hown
      · cases (hreads _ hrest).1
  | @removed target org seen first _ _ hjoin hget hdisabled hruns =>
    rcases hruns.steps_eq with rfl | ⟨_, rest, hown, rfl, hreads⟩
    · rcases List.mem_cons.1 hmem with hlook | hfirst
      · cases hlook
      · rw [List.append_nil] at hfirst
        exact absurd hfirst (hdisabled.delete_not_mem url query body)
    · cases hjoin.symm.trans hown
      -- The removal stands once among the steps, so the list can be cut there in one way only.
      have hbefore : .ask .delete url query body ∉ .get target :: first := by
        intro hearlier
        rcases List.mem_cons.1 hearlier with hlook | hfirst
        · cases hlook
        · exact hdisabled.delete_not_mem url query body hfirst
      have hafter : .ask .delete url query body ∉ rest := by
        intro hlater
        cases (hreads _ hlater).1
      rw [← List.cons_append] at hsteps
      obtain ⟨rfl, hsame, -⟩ := (List.append_cons_inj_of_notMem hbefore hafter).1 hsteps
      cases hsame
      exact ⟨hjoin, rfl, rfl, org, seen, first, hget, rfl, hdisabled⟩

/-- Before an organization is deleted, the answers have shown it to be disabled. -/
theorem Dissolves.disabledFirst {steps : List Step} {report? : Option Diagnostic}
    {requests : List Request} (h : Dissolves client path net steps report?)
    (hcopies : client.Copies none net steps requests) :
    DisabledFirst client path net steps requests where
  deletes := fun _ _ _ _ _ hsteps => h.before_delete hsteps
  replaces := by
    intro request hmem hmethod
    rcases h.request_cases hcopies hmem with hget | ⟨-, hput⟩ | ⟨hdelete, -⟩
    · cases hmethod.symm.trans hget
    · exact hput
    · cases hmethod.symm.trans hdelete
  addressed := by
    intro request hmem hmethod
    rcases h.request_cases hcopies hmem with hget | ⟨hput, -⟩ |
        ⟨-, url, _, _, _, hjoin, hurl, hbody, -⟩
    · cases hmethod.symm.trans hget
    · cases hmethod.symm.trans hput
    · exact ⟨url, hjoin, hurl, hbody⟩
  unseen := by
    intro error seen hget
    refine ⟨?_, ?_⟩
    · cases h with
      | unaddressed hjoin =>
        rw [Change.perform_get_of_unjoined hjoin] at hget
        exact congrArg Prod.snd hget
      | unseen hjoin => exact (network_of_get hjoin hget).symm
      | undisabled _ hget' => cases hget.symm.trans hget'
      | removed _ hget' => cases hget.symm.trans hget'
    · intro request hmem
      rcases h.request_cases hcopies hmem with hmethod | ⟨-, _, _, _, -, hget', -⟩ |
          ⟨-, _, _, _, _, -, -, -, hget', -⟩
      · exact hmethod
      · cases hget.symm.trans hget'
      · cases hget.symm.trans hget'
  undisabled := by
    intro org seen error later hget henabled hupdate
    -- Whatever follows the look starts with the replacement, and that one fails.
    have hnever : ∀ {first}, ¬ Disabled client path org seen first := by
      intro first hdisabled
      obtain ⟨kept, hok⟩ := hdisabled.update_ok henabled
      cases hupdate.symm.trans hok
    refine ⟨?_, ?_⟩
    · cases h with
      | unaddressed hjoin => cases hget.symm.trans (Change.perform_get_of_unjoined hjoin none net)
      | unseen _ hget' => cases hget.symm.trans hget'
      | undisabled hjoin hget' _ hruns =>
        cases hget.symm.trans hget'
        rw [Change.call_replacement] at hupdate
        cases network_of_get hjoin hget
        exact congrArg Prod.snd (hruns.perform.symm.trans hupdate)
      | removed _ hget' hdisabled =>
        cases hget.symm.trans hget'
        exact (hnever hdisabled).elim
    · intro request hmem hmethod
      rcases h.request_cases hcopies hmem with hother | ⟨hother, -⟩ |
          ⟨-, _, _, _, _, -, -, -, hget', hdisabled⟩
      · cases hmethod.symm.trans hother
      · cases hmethod.symm.trans hother
      · cases hget.symm.trans hget'
        exact hnever hdisabled
  untouched := by
    intro org seen hget hdisabled request hmem hmethod
    rcases h.request_cases hcopies hmem with hother | ⟨-, _, _, _, -, hget', henabled, -⟩ |
        ⟨hother, -⟩
    · cases hmethod.symm.trans hother
    · cases hget.symm.trans hget'
      cases hdisabled.symm.trans henabled
    · cases hmethod.symm.trans hother

/-- **Order.** Whatever the service answers, an organization is deleted only after a look has shown
it and it is disabled: it was shown so, or a replacement that says so has gone through. -/
theorem deleted_only_when_disabled (client : Client) (prior : OrgState) (start : ActionState) :
    ∃ steps requests,
      ((destroy (some client) prior).perform start).2.network =
        client.follow none start.network steps ∧
      (client.follow none start.network steps).arrived = start.network.arrived ++ requests ∧
      client.Copies none start.network steps requests ∧
      DisabledFirst client (Org.path prior.id.text) start.network steps requests := by
  obtain ⟨steps, report?, hdissolves⟩ :=
    exists_dissolves client (Org.path prior.id.text) start.network
  obtain ⟨requests, harrived, hcopies⟩ := client.arrived_follow none steps start.network
  refine ⟨steps, requests, ?_, harrived, hcopies, hdissolves.disabledFirst hcopies⟩
  rw [hdissolves.perform]
  cases report? <;> rfl

def sampleRemoval : OrgState := { id := .known "u" }

/-- A service that shows an enabled organization, disables it and removes it. -/
def obliging : Network :=
  Client.answering
    [{ body := (Org.toJson { id := "u", name := "n" }).write },
      { body := (Org.toJson { id := "u", name := "n", isEnabled := false }).write },
      { status := ⟨204⟩ }]

/-- An enabled organization is looked at, disabled and removed, in this order. -/
theorem enabled_organization_is_disabled_first :
    ((destroy (some (Client.sample "t" 60)) sampleRemoval).perform { network := obliging }).1 =
        some () ∧
      ∃ steps requests,
        DisabledFirst (Client.sample "t" 60) (Org.path "u") obliging steps requests ∧
          requests.map (fun request => (request.method, request.url.text)) =
            [(.get, "http://h/cloudapi/1.0.0/orgs/u"), (.put, "http://h/cloudapi/1.0.0/orgs/u"),
              (.delete, "http://h/cloudapi/1.0.0/orgs/u?force=true&recursive=true")] := by
  obtain ⟨steps, requests, hnetwork, harrived, -, hdisabledFirst⟩ :=
    deleted_only_when_disabled (Client.sample "t" 60) sampleRemoval { network := obliging }
  have hlog : Client.log ((destroy (some (Client.sample "t" 60)) sampleRemoval).perform
      { network := obliging }).2.network =
      [(.get, "http://h/cloudapi/1.0.0/orgs/u"), (.put, "http://h/cloudapi/1.0.0/orgs/u"),
        (.delete, "http://h/cloudapi/1.0.0/orgs/u?force=true&recursive=true")] := by
    decide +kernel
  rw [Client.log, hnetwork, harrived] at hlog
  exact ⟨by decide +kernel, steps, requests, hdisabledFirst, hlog⟩

/-! ## Organizations that are gone -/

/-- The requests for the organization itself in a removal. -/
inductive Stage
  /-- The look in front. -/
  | look
  /-- The replacement that disables it. -/
  | disabling
  /-- The look after a task has disabled it. -/
  | reread
  | removal
  deriving DecidableEq, Repr

/-- The service says, in answer to a request for the organization, that it is not there. -/
inductive GoneAt (client : Client) (path : String) (net : Network) : Stage → Prop
  | look {url : Url} :
    client.base.join path = .ok url → client.Denied none net .get url [] .empty →
    GoneAt client path net .look
  | disabling {url : Url} {org : Org} {seen : Network} :
    client.base.join path = .ok url →
    (client.get Org.decoder path).perform net = (.ok org, seen) → org.isEnabled = true →
    client.Denied none seen .put url [] (.json { org with isEnabled := false }.toJson) →
    GoneAt client path net .disabling
  | reread {url : Url} {org : Org} {seen later : Network} {reply : Reply} {steps : List Step}
      {task : Task} :
    client.base.join path = .ok url →
    (client.get Org.decoder path).perform net = (.ok org, seen) → org.isEnabled = true →
    (client.send .put url [] (.json { org with isEnabled := false }.toJson) none).perform seen =
      (.ok reply, later) →
    reply.status = .accepted → client.Awaits none reply later steps (.ok task) →
    client.Denied none (client.follow none later steps) .get url [] .empty →
    GoneAt client path net .reread
  | removal {url : Url} {org : Org} {seen : Network} {first : List Step} :
    client.base.join path = .ok url →
    (client.get Org.decoder path).perform net = (.ok org, seen) →
    Disabled client path org seen first →
    client.Denied none (client.follow none seen first) .delete url deleteQuery .empty →
    GoneAt client path net .removal

/-- An organization that is gone when it is looked at or removed leaves nothing to report; one that
is gone in between cannot be disabled. -/
theorem GoneAt.dissolves {stage : Stage} (h : GoneAt client path net stage) :
    ∃ steps report?, Dissolves client path net steps report? ∧
      ((stage = .look ∨ stage = .removal) → report? = none) ∧
      ((stage = .disabling ∨ stage = .reread) → ∃ error, error.isNotFound = true ∧
        report? = some (.ofError "Failed to disable organization" error)) := by
  -- The stage determines the way that is taken and the request that is denied.
  cases h with
  | look hjoin hdenied =>
    obtain ⟨error, herror, hmissing⟩ :=
      (@Client.missing_get_iff _ client none net Org.decoder path).2 ⟨_, hjoin, hdenied⟩
    refine ⟨_, _, .unseen hjoin (Prod.ext herror rfl), fun _ => if_pos hmissing, ?_⟩
    rintro (hstage | hstage) <;> cases hstage
  | disabling hjoin hget henabled hdenied =>
    obtain ⟨error, herror, hmissing⟩ := hdenied.failed
    have hruns : (Org.disabling path _).Runs client none _ _ _ :=
      .refused hjoin (Prod.ext herror rfl)
    refine ⟨_, _, .undisabled hjoin hget henabled hruns, ?_, fun _ => ⟨error, hmissing, rfl⟩⟩
    rintro (hstage | hstage) <;> cases hstage
  | @reread url org seen later reply steps task hjoin hget henabled hsend hstatus hawaits hdenied =>
    obtain ⟨error, herror, hmissing⟩ := @Client.Denied.look _ _ _ _ Org.decoder _ hdenied
    have hruns : (Org.disabling path org).Runs client none seen _ _ :=
      .fetched hjoin hsend hstatus hawaits rfl hjoin
    rw [show (client.reply none url (client.follow none later steps)).bind
      (Org.disabling path org).receive = .error error from herror] at hruns
    refine ⟨_, _, .undisabled hjoin hget henabled hruns, ?_, fun _ => ⟨error, hmissing, rfl⟩⟩
    rintro (hstage | hstage) <;> cases hstage
  | removal hjoin hget hdisabled hdenied =>
    obtain ⟨error, herror, hmissing⟩ := hdenied.failed
    have hruns : (Change.removal path deleteQuery).Runs client none _ _ _ :=
      .refused hjoin (Prod.ext herror rfl)
    refine ⟨_, _, .removed hjoin hget hdisabled hruns, fun _ => if_pos hmissing, ?_⟩
    rintro (hstage | hstage) <;> cases hstage

/-- **Vanishing.** An organization that the service does not know any more, when it is looked at or
when it is removed, counts as removed, and no error is reported. The one exception is an
organization that vanishes while it is disabled: that is reported as a failure. -/
theorem gone_organization_counts_as_removed {client : Client} {prior : OrgState}
    {start : ActionState} {stage : Stage}
    (h : GoneAt client (Org.path prior.id.text) start.network stage) :
    ((stage = .look ∨ stage = .removal) →
      ((destroy (some client) prior).perform start).1 = some () ∧
        ((destroy (some client) prior).perform start).2.diagnostics = start.diagnostics) ∧
    ((stage = .disabling ∨ stage = .reread) → ∃ error, error.isNotFound = true ∧
      ((destroy (some client) prior).perform start).1 = none ∧
        ((destroy (some client) prior).perform start).2.diagnostics =
          start.diagnostics.error (.ofError "Failed to disable organization" error)) := by
  obtain ⟨steps, report?, hdissolves, hquiet, hreported⟩ := h.dissolves
  rw [hdissolves.perform]
  refine ⟨?_, ?_⟩
  · intro hstage
    rw [hquiet hstage]
    exact ⟨rfl, rfl⟩
  · intro hstage
    obtain ⟨error, hmissing, hreport⟩ := hreported hstage
    rw [hreport]
    exact ⟨error, hmissing, rfl, rfl⟩

/-! ### Samples -/

def sampleUrl : Url :=
  { (Client.sample "t" 60).base with path := .segments ["cloudapi", "1.0.0", "orgs", "u"] }

theorem join_samplePath : (Client.sample "t" 60).base.join (Org.path "u") = .ok sampleUrl :=
  ok_of_toOption (by decide +kernel)

/-- A service that does not know the organization. -/
def ignorant : Network where
  answers := [⟨some { status := .notFound }, none⟩]

theorem gone_organization_counts_as_removed_at_look :
    GoneAt (Client.sample "t" 60) (Org.path "u") ignorant .look ∧
      ((destroy (some (Client.sample "t" 60)) sampleRemoval).perform { network := ignorant }).1 =
        some () := by
  have hsend := @Client.send_of_settled (Client.sample "t" 60) .get sampleUrl [] .empty none
    ignorant _ (by decide) rfl (by decide +kernel)
  have hgone : GoneAt (Client.sample "t" 60) (Org.path "u") ignorant .look :=
    .look join_samplePath (Client.denied_of_send (congrArg Prod.fst hsend) rfl)
  have hremoved := @gone_organization_counts_as_removed _ sampleRemoval ⟨ignorant, {}⟩ _ hgone
  exact ⟨hgone, (hremoved.1 (.inl rfl)).1⟩

def sampleLook : Request where
  method := .get
  url := sampleUrl
  headers := [("accept", Client.accept), ("authorization", Request.bearer "t"),
    ("user-agent", Request.userAgent)]
  body := .empty

/-- A service that shows an organization, and then does not know it any more. -/
def forgetful : Network where
  answers :=
    [⟨some { body := (Org.toJson { id := "u", name := "n" }).write }, none⟩,
      ⟨some { status := .notFound }, none⟩]

theorem forgetful_gone : GoneAt (Client.sample "t" 60) (Org.path "u") forgetful .disabling := by
  have hdecode :
      Reply.decode { body := (Org.toJson { id := "u", name := "n" }).write } Org.decoder =
        .ok { id := "u", name := "n" } :=
    ok_of_toOption (by decide +kernel)
  have hget := @Client.perform_get_of_reply _ (Client.sample "t" 60) none forgetful sampleUrl
    sampleLook _ Org.decoder (Org.path "u") _ join_samplePath (by decide) rfl rfl rfl hdecode
  have hsend := @Client.send_of_settled (Client.sample "t" 60) .put sampleUrl []
    (.json (Org.toJson { id := "u", name := "n", isEnabled := false })) none
    (forgetful.exchange sampleLook).2 _ (by decide) rfl (by decide +kernel)
  exact .disabling join_samplePath hget rfl (Client.denied_of_send (congrArg Prod.fst hsend) rfl)

/-- The service says that the organization is not there, and the removal fails. -/
theorem removal_fails_though_organization_is_gone :
    GoneAt (Client.sample "t" 60) (Org.path "u") forgetful .disabling ∧
      ((destroy (some (Client.sample "t" 60)) sampleRemoval).perform { network := forgetful }).1 =
        none ∧
      ((destroy (some (Client.sample "t" 60)) sampleRemoval).perform
        { network := forgetful }).2.diagnostics.errors ≠ [] := by
  obtain ⟨steps, report?, hdissolves, -, hreported⟩ := forgetful_gone.dissolves
  obtain ⟨error, -, rfl⟩ := hreported (.inl rfl)
  rw [@Dissolves.perform _ sampleRemoval ⟨forgetful, {}⟩ _ _ hdissolves]
  refine ⟨forgetful_gone, rfl, ?_⟩
  simp [ended]

end Org

end CloudTenancy
