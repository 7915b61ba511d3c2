import CloudTenancy.LocalUser.Resource
import CloudTenancy.Proofs.Apply

/-!
CloudTenancy.Proofs.Removal — what a removal that counts as done says about the entity.

* `Client.denies` — an answer that says that what is asked for is not there.
* `Client.Denied` — a request that comes to such an answer.
* `Client.Removed` — the ways in which the service says that an entity is gone.
* `Client.Overlooked` — the way in which it does not: the removal has been accepted, and it is its
  task, at an address of its own, that the service does not know.
* `Org.Vanished`, `Org.Misjudged` — the same for organizations, which are looked at and disabled
  first.

A missing entity is told by the failure of a whole call: a removal is a request for the entity and
then looks at a task. So the failure is traced back to the request that it answers.

Main statement: `removal_is_sound_unless_overlooked`.
-/

namespace CloudTenancy

namespace Client

variable {α : Type} {client : Client} {tenant? : Option String} {net : Network}

/-! ## Requests for what is not there -/

/-- The answer says that what is asked for is not there: by its status, or in the failure body. -/
def denies : Except HttpError Reply → Bool
  | .error _ => false
  | .ok reply =>
    !reply.status.isSuccess &&
      (reply.status = .notFound || (ClientError.errorBody reply).minorErrorCode = "NOT_FOUND")

theorem denies_of_settle {outcome : Except HttpError Reply} {error : ClientError}
    (h : settle outcome = .error error) (hmissing : error.isNotFound = true) :
    denies outcome = true := by
  cases outcome with
  | error failure =>
    cases h
    simp [ClientError.isNotFound] at hmissing
  | ok reply =>
    rw [settle] at h
    split at h
    · cases h
    · rename_i hsuccess
      cases h
      simpa [denies, hsuccess, ClientError.ofReply, ClientError.isNotFound] using hmissing

/-- The request fails as one for something that is not there, and the answer to one of its attempts
says so. -/
structure Denied (client : Client) (tenant? : Option String) (net : Network) (method : Method)
    (url : Url) (query : List (String × String)) (body : Body) : Prop where
  failed : ∃ error, ((client.send method url query body tenant?).perform net).1 = .error error ∧
    error.isNotFound = true
  answered : ∃ request n, client.request method url query body tenant? = .ok request ∧
    (∀ i < n, refuses (net.scripted request i) = true) ∧ denies (net.scripted request n) = true

/-- A request that fails with not-found was denied by its last answer. -/
theorem denied_of_send {method : Method} {url : Url} {query : List (String × String)} {body : Body}
    {error : ClientError}
    (h : ((client.send method url query body tenant?).perform net).1 = .error error)
    (hmissing : error.isNotFound = true) : client.Denied tenant? net method url query body := by
  refine ⟨⟨error, h, hmissing⟩, ?_⟩
  have hsettles := client.send_settles method url query body tenant? net
  rw [h] at hsettles
  generalize hresult : (.error error : Except ClientError Reply) = result at hsettles
  cases hsettles with
  | overflow =>
    cases hresult
    simp [ClientError.isNotFound] at hmissing
  | unbuilt =>
    cases hresult
    simp [ClientError.isNotFound] at hmissing
  | settled n hbuilt hrefused =>
    exact ⟨_, n, hbuilt, hrefused, denies_of_settle hresult.symm hmissing⟩

/-- A success that cannot be decoded is not taken for a missing entity. -/
theorem isNotFound_of_received {decoder : Json.Decoder α} {reply : Reply} {error : ClientError}
    (h : received decoder reply = .error error) : error.isNotFound = false := by
  cases hbody : reply.decode decoder with
  | error failure =>
    rw [received_error hbody] at h
    cases h
    rfl
  | ok entity =>
    rw [received_ok hbody] at h
    cases h

/-- A look fails as one for something missing only if its own request does. -/
theorem denied_of_bind {decoder : Json.Decoder α} {url : Url} {error : ClientError}
    (h : (client.reply tenant? url net).bind (received decoder) = .error error)
    (hmissing : error.isNotFound = true) : client.Denied tenant? net .get url [] .empty := by
  cases hreply : client.reply tenant? url net with
  | error failure =>
    rw [hreply] at h
    cases h
    exact denied_of_send hreply hmissing
  | ok reply =>
    rw [hreply] at h
    rw [isNotFound_of_received h] at hmissing
    cases hmissing

/-- A look that is denied fails with not-found. -/
theorem Denied.look {decoder : Json.Decoder α} {url : Url}
    (h : client.Denied tenant? net .get url [] .empty) :
    ∃ error, (client.reply tenant? url net).bind (received decoder) = .error error ∧
      error.isNotFound = true := by
  obtain ⟨error, hsend, hmissing⟩ := h.failed
  have hreply : client.reply tenant? url net = .error error := hsend
  exact ⟨error, by rw [hreply]; rfl, hmissing⟩

/-! ## Calls of which a missing entity is a result -/

/-- The call succeeds, or fails as one for something that is not there. -/
def EndsWell (call : Call α) (net : Network) : Prop :=
  (∃ a, (call.perform net).1 = .ok a) ∨
    ∃ error, (call.perform net).1 = .error error ∧ error.isNotFound = true

theorem endsWell_of_ok {call : Call α} {net' : Network} {a : α}
    (h : call.perform net = (.ok a, net')) : EndsWell call net :=
  .inl ⟨a, by rw [h]⟩

/-- A failure ends well only if it is not-found. -/
theorem endsWell_iff_of_error {call : Call α} {net' : Network} {error : ClientError}
    (h : call.perform net = (.error error, net')) :
    EndsWell call net ↔ error.isNotFound = true := by
  simp [EndsWell, h]

/-- An entity is missing exactly when its address can be made and the look at it is denied. -/
theorem missing_get_iff {decoder : Json.Decoder α} {path : String} :
    (∃ error, ((client.get decoder path tenant?).perform net).1 = .error error ∧
      error.isNotFound = true) ↔
      ∃ url, client.base.join path = .ok url ∧ client.Denied tenant? net .get url [] .empty := by
  constructor
  · rintro ⟨error, herror, hmissing⟩
    cases hjoin : client.base.join path with
    | error failure =>
      rw [Change.perform_get_of_unjoined hjoin] at herror
      cases herror
      cases hmissing
    | ok url =>
      rw [Change.perform_get hjoin] at herror
      exact ⟨url, rfl, denied_of_bind herror hmissing⟩
  · rintro ⟨url, hjoin, hdenied⟩
    rw [Change.perform_get hjoin]
    exact hdenied.look

/-! ## Removals -/

/-- The service says that the entity at a path is gone. -/
inductive Removed (client : Client) (tenant? : Option String) (path : String)
    (query : List (String × String)) (net : Network) : Prop
  /-- Removed at once. -/
  | atOnce {url : Url} {net' : Network} {reply : Reply} :
    client.base.join path = .ok url →
    (client.send .delete url query .empty tenant?).perform net = (.ok reply, net') →
    reply.status.isSuccess = true → reply.status ≠ .accepted →
    Removed client tenant? path query net
  /-- Removed by a task that has succeeded. -/
  | byTask {url : Url} {net' : Network} {reply : Reply} {steps : List Step} {task : Task} :
    client.base.join path = .ok url →
    (client.send .delete url query .empty tenant?).perform net = (.ok reply, net') →
    reply.status = .accepted →
    client.Awaits tenant? reply net' steps (.ok task) → task.status = "success" →
    Removed client tenant? path query net
  /-- Not there, in answer to the removal. -/
  | absent {url : Url} :
    client.base.join path = .ok url →
    client.Denied tenant? net .delete url query .empty →
    Removed client tenant? path query net
  /-- Not there, in answer to a look at the address of the entity itself. -/
  | unseen {url : Url} {net' : Network} {reply : Reply} {location : String} {n : Nat} :
    client.base.join path = .ok url →
    (client.send .delete url query .empty tenant?).perform net = (.ok reply, net') →
    reply.status = .accepted → reply.header? "location" = some location →
    client.base.join location = .ok url → client.GoesOn tenant? url net' n →
    client.Denied tenant? (client.follow tenant? net' (client.looks url n)) .get url [] .empty →
    Removed client tenant? path query net

/-- The removal has been accepted, and its task, which has an address of its own, is not there. -/
inductive Overlooked (client : Client) (tenant? : Option String) (path : String)
    (query : List (String × String)) (net : Network) : Prop
  | lost {url target : Url} {net' : Network} {reply : Reply} {location : String} {n : Nat} :
    client.base.join path = .ok url →
    (client.send .delete url query .empty tenant?).perform net = (.ok reply, net') →
    reply.status = .accepted → reply.header? "location" = some location →
    client.base.join location = .ok target → target ≠ url → client.GoesOn tenant? target net' n →
    client.Denied tenant? (client.follow tenant? net' (client.looks target n)) .get target []
      .empty →
    Overlooked client tenant? path query net

/-- A task that cannot be looked at any more ends the wait. -/
theorem Awaits.of_denied {reply : Reply} {location : String} {url : Url} {n : Nat}
    (hheader : reply.header? "location" = some location)
    (hjoin : client.base.join location = .ok url) (hon : client.GoesOn tenant? url net n)
    (hdenied : client.Denied tenant? (client.follow tenant? net (client.looks url n)) .get url []
      .empty) :
    ∃ steps error, client.Awaits tenant? reply net steps (.error error) ∧
      error.isNotFound = true := by
  obtain ⟨error, hlook, hmissing⟩ := @Denied.look _ _ _ _ Task.decoder _ hdenied
  exact ⟨_, error, .polled hheader hjoin (.lost n hon hlook), hmissing⟩

/-- A wait fails as one for something missing only if a look at the task does. -/
theorem Awaits.denied {reply : Reply} {steps : List Step} {error : ClientError}
    (h : client.Awaits tenant? reply net steps (.error error))
    (hmissing : error.isNotFound = true) :
    ∃ location url n, reply.header? "location" = some location ∧
      client.base.join location = .ok url ∧ client.GoesOn tenant? url net n ∧
      client.Denied tenant? (client.follow tenant? net (client.looks url n)) .get url []
        .empty := by
  cases h with
  | unlocated => cases hmissing
  | unjoined => cases hmissing
  | polled hheader hjoin hpolls =>
    cases hpolls with
    | lost n hon hlook => exact ⟨_, _, n, hheader, hjoin, hon, denied_of_bind hlook hmissing⟩
    | failed => cases hmissing

/-- A removal ends well in the ways that say that the entity is gone, and in one that does not. -/
theorem endsWell_delete_iff {path : String} {query : List (String × String)} :
    EndsWell (client.delete path query tenant?) net ↔
      client.Removed tenant? path query net ∨ client.Overlooked tenant? path query net := by
  rw [Change.call_removal]
  constructor
  · intro h
    obtain ⟨steps, result, hruns⟩ := (Change.removal path query).exists_runs client tenant? net
    have hperform := hruns.perform
    -- A failure on the way counts only if it answers a request for something that is not there:
    -- the removal itself, or a look at its task.
    cases hruns with
    | unjoined =>
      have hmissing := (endsWell_iff_of_error hperform).1 h
      cases hmissing
    | refused hjoin hsend =>
      have hmissing := (endsWell_iff_of_error hperform).1 h
      exact .inl (.absent hjoin (denied_of_send (congrArg Prod.fst hsend) hmissing))
    | immediate hjoin hsend hstatus =>
      exact .inl (.atOnce hjoin hsend (send_ok hsend).1 hstatus)
    | @unfinished url _ _ _ _ hjoin hsend hstatus hawaits =>
      have hmissing := (endsWell_iff_of_error hperform).1 h
      obtain ⟨location, target, n, hheader, htarget, hon, hdenied⟩ := hawaits.denied hmissing
      by_cases hsame : target = url
      · subst hsame
        exact .inl (.unseen hjoin hsend hstatus hheader htarget hon hdenied)
      · exact .inr (.lost hjoin hsend hstatus hheader htarget hsame hon hdenied)
    | unowned _ _ _ _ hnext => cases hnext
    | done hjoin hsend hstatus hawaits =>
      exact .inl (.byTask hjoin hsend hstatus hawaits (Change.success_of_awaits hawaits))
    | unfetched _ _ _ _ hnext => cases hnext
    | fetched _ _ _ _ hnext => cases hnext
  · -- A task that is not there ends the call well at any address.
    have hlost : ∀ {url target : Url} {net' : Network} {reply : Reply} {location : String}
        {n : Nat},
        client.base.join path = .ok url →
        (client.send .delete url query .empty tenant?).perform net = (.ok reply, net') →
        reply.status = .accepted → reply.header? "location" = some location →
        client.base.join location = .ok target → client.GoesOn tenant? target net' n →
        client.Denied tenant? (client.follow tenant? net' (client.looks target n)) .get target []
          .empty →
        EndsWell ((Change.removal path query).call client tenant?) net := by
      intro url target net' reply location n hjoin hsend hstatus hheader htarget hon hdenied
      obtain ⟨steps, error, hawaits, hmissing⟩ := Awaits.of_denied hheader htarget hon hdenied
      have hruns : (Change.removal path query).Runs client tenant? net _ _ :=
        .unfinished hjoin hsend hstatus hawaits
      exact (endsWell_iff_of_error hruns.perform).2 hmissing
    rintro (hremoved | hoverlooked)
    · cases hremoved with
      | atOnce hjoin hsend _ hstatus =>
        have hruns : (Change.removal path query).Runs client tenant? net _ _ :=
          .immediate hjoin hsend hstatus
        exact endsWell_of_ok hruns.perform
      | byTask hjoin hsend hstatus hawaits =>
        have hruns : (Change.removal path query).Runs client tenant? net _ _ :=
          .done hjoin hsend hstatus hawaits rfl
        exact endsWell_of_ok hruns.perform
      | absent hjoin hdenied =>
        obtain ⟨error, hsend, hmissing⟩ := hdenied.failed
        have hruns : (Change.removal path query).Runs client tenant? net _ _ :=
          .refused hjoin (Prod.ext hsend rfl)
        exact (endsWell_iff_of_error hruns.perform).2 hmissing
      | unseen hjoin hsend hstatus hheader htarget hon hdenied =>
        exact hlost hjoin hsend hstatus hheader htarget hon hdenied
    · cases hoverlooked with
      | lost hjoin hsend hstatus hheader htarget _ hon hdenied =>
        exact hlost hjoin hsend hstatus hheader htarget hon hdenied

/-- A removal that was overlooked says nothing about the entity. -/
theorem Overlooked.not_removed {path : String} {query : List (String × String)}
    (h : client.Overlooked tenant? path query net) : ¬ client.Removed tenant? path query net := by
  obtain ⟨hjoin, hsend, hstatus, hheader, htarget, hother, hon, hdenied⟩ := h
  intro hremoved
  -- The network determines its answers, so every way to be removed contradicts one of them.
  cases hremoved with
  | atOnce hjoin' hsend' _ hstatus' =>
    rw [hjoin] at hjoin'
    cases hjoin'
    rw [hsend] at hsend'
    cases hsend'
    exact hstatus' hstatus
  | byTask hjoin' hsend' _ hawaits' =>
    rw [hjoin] at hjoin'
    cases hjoin'
    rw [hsend] at hsend'
    cases hsend'
    obtain ⟨steps, error, hawaits, -⟩ := Awaits.of_denied hheader htarget hon hdenied
    have hsame := hawaits.perform.symm.trans hawaits'.perform
    cases congrArg Prod.fst hsame
  | absent hjoin' hdenied' =>
    rw [hjoin] at hjoin'
    cases hjoin'
    obtain ⟨error, hfailed, -⟩ := hdenied'.failed
    rw [hsend] at hfailed
    cases hfailed
  | unseen hjoin' hsend' _ hheader' htarget' =>
    rw [hjoin] at hjoin'
    cases hjoin'
    rw [hsend] at hsend'
    cases hsend'
    rw [hheader] at hheader'
    cases hheader'
    rw [htarget] at htarget'
    cases htarget'
    exact hother rfl

end Client

/-! ## Actions -/

namespace Action

variable {α : Type} {describe : ClientError → Diagnostic} {call : Call α} {start : ActionState}
  {net : Network}

theorem perform_orMissing_of_ok {a : α} (h : call.perform start.network = (.ok a, net)) :
    (attempt describe call.orMissing).perform start =
      (some (some a), { start with network := net }) := by
  refine perform_attempt_of_ok ?_
  simp only [Call.orMissing, Call.perform_of, h]

theorem perform_orMissing_of_missing {error : ClientError}
    (h : call.perform start.network = (.error error, net)) (hmissing : error.isNotFound = true) :
    (attempt describe call.orMissing).perform start =
      (some none, { start with network := net }) := by
  refine perform_attempt_of_ok ?_
  simp only [Call.orMissing, Call.perform_of, h, hmissing, if_true]

theorem perform_orMissing_of_error {error : ClientError}
    (h : call.perform start.network = (.error error, net)) (hfailed : ¬ error.isNotFound = true) :
    (attempt describe call.orMissing).perform start =
      (none, { network := net, diagnostics := start.diagnostics.error (describe error) }) := by
  refine perform_attempt_of_error ?_
  simp only [Call.orMissing, Call.perform_of, h, if_neg hfailed]

/-- An action that ends with a call succeeds if the call ends well. -/
theorem done_iff_endsWell :
    ((do
      let _ ← attempt describe call.orMissing
      return () : Action Unit).perform start).1 = some () ↔
      Client.EndsWell call start.network := by
  cases hcall : call.perform start.network with
  | mk result net =>
    cases result with
    | ok a =>
      rw [perform_bind_of_some (perform_orMissing_of_ok hcall), perform_pure]
      exact iff_of_true rfl (Client.endsWell_of_ok hcall)
    | error error =>
      rw [Client.endsWell_iff_of_error hcall]
      by_cases hmissing : error.isNotFound = true
      · rw [perform_bind_of_some (perform_orMissing_of_missing hcall hmissing), perform_pure]
        exact iff_of_true rfl hmissing
      · rw [perform_bind_of_none (perform_orMissing_of_error hcall hmissing)]
        exact iff_of_false (by simp) hmissing

end Action

/-! ## Organizations -/

namespace Org

/-- The service says that an organization is gone: at the first look, or when it is removed after it
has been disabled. -/
inductive Vanished (client : Client) (path : String) (start : ActionState) : Prop
  | absent {url : Url} :
    client.base.join path = .ok url → client.Denied none start.network .get url [] .empty →
    Vanished client path start
  | removed {org : Org} {net : Network} {disabled : ActionState} :
    (client.get Org.decoder path).perform start.network = (.ok org, net) →
    (disable client path org).perform { start with network := net } = (some (), disabled) →
    client.Removed none path deleteQuery disabled.network →
    Vanished client path start

/-- The removal of an organization, disabled before, is overlooked. -/
inductive Misjudged (client : Client) (path : String) (start : ActionState) : Prop
  | overlooked {org : Org} {net : Network} {disabled : ActionState} :
    (client.get Org.decoder path).perform start.network = (.ok org, net) →
    (disable client path org).perform { start with network := net } = (some (), disabled) →
    client.Overlooked none path deleteQuery disabled.network →
    Misjudged client path start

/-- The removal of an organization that is there. -/
theorem done_after_disable_iff {client : Client} {path : String} {org : Org} {start : ActionState} :
    ((do
      disable client path org
      let _ ← Action.attempt (.ofError "Failed to delete organization")
        (client.delete path deleteQuery).orMissing
      return () : Action Unit).perform start).1 = some () ↔
      ∃ disabled, (disable client path org).perform start = (some (), disabled) ∧
        (client.Removed none path deleteQuery disabled.network ∨
          client.Overlooked none path deleteQuery disabled.network) := by
  cases hdisable : (disable client path org).perform start with
  | mk value? disabled =>
    cases value? with
    | none =>
      rw [Action.perform_bind_of_none hdisable]
      refine iff_of_false (by simp) ?_
      rintro ⟨_, hdone, -⟩
      cases hdone
    | some done =>
      rw [Action.perform_bind_of_some hdisable, Action.done_iff_endsWell,
        Client.endsWell_delete_iff]
      constructor
      · intro h
        exact ⟨disabled, rfl, h⟩
      · rintro ⟨_, hdone, h⟩
        cases hdone
        exact h

/-- A removal succeeds exactly where the organization counts as vanished. -/
theorem destroy_iff {client : Client} {prior : OrgState} {start : ActionState} :
    ((destroy (some client) prior).perform start).1 = some () ↔
      Vanished client (path prior.id.text) start ∨
        Misjudged client (path prior.id.text) start := by
  unfold destroy
  rw [Action.perform_bind_of_some (Action.perform_configured client start)]
  dsimp only
  -- That the look is denied is the only failure that counts as absence.
  have habsent := @Client.missing_get_iff _ client none start.network Org.decoder
    (path prior.id.text)
  cases hget : (client.get Org.decoder (path prior.id.text)).perform start.network with
  | mk result net =>
    rw [hget] at habsent
    cases result with
    | ok org =>
      rw [Action.perform_bind_of_some (Action.perform_orMissing_of_ok hget)]
      dsimp only
      rw [done_after_disable_iff]
      constructor
      · rintro ⟨disabled, hdisable, hremoved | hoverlooked⟩
        · exact .inl (.removed hget hdisable hremoved)
        · exact .inr (.overlooked hget hdisable hoverlooked)
      · rintro (hvanished | ⟨hget', hdisable, hoverlooked⟩)
        · cases hvanished with
          | absent hjoin hdenied =>
            obtain ⟨error, herror, -⟩ := habsent.2 ⟨_, hjoin, hdenied⟩
            cases herror
          | removed hget' hdisable hremoved =>
            rw [hget] at hget'
            cases hget'
            exact ⟨_, hdisable, .inl hremoved⟩
        · rw [hget] at hget'
          cases hget'
          exact ⟨_, hdisable, .inr hoverlooked⟩
    | error error =>
      have hnoOrg : ∀ {org : Org} {net' : Network},
          (client.get Org.decoder (path prior.id.text)).perform start.network ≠
            (.ok org, net') := by
        intro org net' h
        rw [hget] at h
        cases h
      by_cases hmissing : error.isNotFound = true
      · rw [Action.perform_bind_of_some (Action.perform_orMissing_of_missing hget hmissing)]
        obtain ⟨url, hjoin, hdenied⟩ := habsent.1 ⟨error, rfl, hmissing⟩
        exact iff_of_true rfl (.inl (.absent hjoin hdenied))
      · rw [Action.perform_bind_of_none (Action.perform_orMissing_of_error hget hmissing)]
        refine iff_of_false (by simp) ?_
        rintro (hvanished | ⟨hget', -, -⟩)
        · cases hvanished with
          | absent hjoin hdenied =>
            obtain ⟨error', herror, hmissing'⟩ := habsent.2 ⟨_, hjoin, hdenied⟩
            cases herror
            exact hmissing hmissing'
          | removed hget' => exact hnoOrg hget'
        · exact hnoOrg hget'

/-- An organization that is misjudged has not vanished in the eyes of the provider. -/
theorem Misjudged.not_vanished {client : Client} {path : String} {start : ActionState}
    (h : Misjudged client path start) : ¬ Vanished client path start := by
  obtain ⟨hget, hdisable, hoverlooked⟩ := h
  intro hvanished
  cases hvanished with
  | absent hjoin hdenied =>
    obtain ⟨error, herror, -⟩ :=
      (@Client.missing_get_iff _ client none start.network Org.decoder path).2 ⟨_, hjoin, hdenied⟩
    rw [hget] at herror
    cases herror
  | removed hget' hdisable' hremoved =>
    rw [hget] at hget'
    cases hget'
    rw [hdisable] at hdisable'
    cases hdisable'
    exact hoverlooked.not_removed hremoved

end Org

/-- **Removals.** When the removal of an organization or of a user counts as done, the service has
said that the entity is gone: it has been removed, at once or by a task that has succeeded, or it
was not there in answer to a request for itself. The one exception is an accepted removal whose
task, at another address, is not there. -/
theorem removal_is_sound_unless_overlooked (client : Client) (start : ActionState) :
    (∀ prior : OrgState,
      (((Org.destroy (some client) prior).perform start).1 = some () ↔
        Org.Vanished client (Org.path prior.id.text) start ∨
          Org.Misjudged client (Org.path prior.id.text) start) ∧
      ¬ (Org.Vanished client (Org.path prior.id.text) start ∧
        Org.Misjudged client (Org.path prior.id.text) start)) ∧
    ∀ prior : LocalUserState,
      (((LocalUser.destroy (some client) prior).perform start).1 = some () ↔
        client.Removed (some prior.orgId.text) (LocalUser.path prior.id.text) [] start.network ∨
          client.Overlooked (some prior.orgId.text) (LocalUser.path prior.id.text) []
            start.network) ∧
      ¬ (client.Removed (some prior.orgId.text) (LocalUser.path prior.id.text) [] start.network ∧
        client.Overlooked (some prior.orgId.text) (LocalUser.path prior.id.text) []
          start.network) := by
  refine ⟨?_, ?_⟩
  · intro prior
    exact ⟨Org.destroy_iff, fun ⟨hvanished, hmisjudged⟩ => hmisjudged.not_vanished hvanished⟩
  · intro prior
    refine ⟨?_, fun ⟨hremoved, hoverlooked⟩ => hoverlooked.not_removed hremoved⟩
    unfold LocalUser.destroy
    rw [Action.perform_bind_of_some (Action.perform_configured client start),
      Action.done_iff_endsWell, Client.endsWell_delete_iff]

/-! ## Samples -/

namespace LocalUser

def sampleRemoval : LocalUserState := { id := .known "u", orgId := .known "o" }

def sampleRequest : Request where
  method := .delete
  url := { (Client.sample "t" 60).base with path := .segments ["cloudapi", "1.0.0", "users", "u"] }
  headers := [("accept", Client.accept), ("authorization", Request.bearer "t"),
    ("x-vmware-vcloud-tenant-context", "o"), ("user-agent", Request.userAgent)]
  body := .empty

def taskUrl : Url := { (Client.sample "t" 60).base with path := .segments ["task"] }

theorem join_samplePath : (Client.sample "t" 60).base.join (path "u") = .ok sampleRequest.url :=
  ok_of_toOption (by decide +kernel)

theorem join_task : (Client.sample "t" 60).base.join "/task" = .ok taskUrl :=
  ok_of_toOption (by decide +kernel)

/-- A service that accepts a removal, and then does not know the task. -/
def forgetful : Network where
  answers :=
    [⟨some { status := .accepted, headers := [("location", Utf8.encode "/task")] }, none⟩,
      ⟨some { status := .notFound }, none⟩]

theorem forgetful_overlooks :
    (Client.sample "t" 60).Overlooked (some "o") (path "u") [] forgetful := by
  have hsend := @Client.send_of_settled (Client.sample "t" 60) .delete sampleRequest.url [] .empty
    (some "o") forgetful sampleRequest (by decide) rfl rfl
  have hlook := @Client.send_of_settled (Client.sample "t" 60) .get taskUrl [] .empty (some "o")
    (forgetful.exchange sampleRequest).2 _ (by decide) rfl (by decide +kernel)
  have hdenied := Client.denied_of_send (congrArg Prod.fst hlook) rfl
  exact @Client.Overlooked.lost _ _ _ _ _ _ _ _ _ _ 0 join_samplePath hsend rfl
    (by decide +kernel) join_task (by decide) (fun i hi => absurd hi (Nat.not_lt_zero i)) hdenied

/-- The removal counts as done, and all that the service has said is that it does not know the
task. -/
theorem removal_counts_though_task_is_lost :
    ((destroy (some (Client.sample "t" 60)) sampleRemoval).perform { network := forgetful }).1 =
        some () ∧
      ¬ (Client.sample "t" 60).Removed (some "o") (path "u") [] forgetful := by
  refine ⟨?_, forgetful_overlooks.not_removed⟩
  unfold destroy
  rw [Action.perform_bind_of_some (Action.perform_configured _ _), Action.done_iff_endsWell]
  exact Client.endsWell_delete_iff.2 (.inr forgetful_overlooks)

end LocalUser

end CloudTenancy
