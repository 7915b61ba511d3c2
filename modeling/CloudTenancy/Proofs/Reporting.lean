import CloudTenancy.Proofs.Deadlines
import CloudTenancy.Proofs.OrgViews
import CloudTenancy.Proofs.Sessions

/-!
CloudTenancy.Proofs.Reporting — a call of the provider ends with a result or with one error.

* `Diagnostic.IsStop` — the words for a time that no clock can show. A call that comes to such a
  time does not end with a report; it stops where it is.
* `Action.Told`, `Outcome.Told` — an action has a result and reports nothing, or it has none and
  reports one error.
* `Action.Reports` — what tells how it has ended, if it is given the time.

A handler ends at the first of its parts that fails, and each part reports its own failure once. So
what a handler tells is read off its text, and what is left are the words: no report of a failure
may be taken for a stop.

Main statements: `failures_are_reported`, and `lookup_stops_unreported` for a session that is not
given the time.
-/

namespace CloudTenancy

variable {α β : Type}

/-! ## Stops -/

def Clock.overflowText : String := "overflow when adding duration to instant"

/-- The report stands for a call that has stopped at a time that no clock can show. -/
def Diagnostic.IsStop (d : Diagnostic) : Prop := d.detail = Clock.overflowText

instance (d : Diagnostic) : Decidable d.IsStop := inferInstanceAs (Decidable (d.detail = _))

def Text.Begins (c : Char) (s : String) : Prop := s.toList.head? = some c

def Text.Ends (c : Char) (s : String) : Prop := s.toList.getLast? = some c

instance (c : Char) (s : String) : Decidable (Text.Begins c s) :=
  inferInstanceAs (Decidable (s.toList.head? = some c))

instance (c : Char) (s : String) : Decidable (Text.Ends c s) :=
  inferInstanceAs (Decidable (s.toList.getLast? = some c))

theorem Text.Begins.append {c : Char} {s : String} (h : Begins c s) (rest : String) :
    Begins c (s ++ rest) := by
  rw [Begins, String.toList_append, List.head?_append, h]
  rfl

theorem Text.Ends.append {c : Char} {s : String} (h : Ends c s) (front : String) :
    Ends c (front ++ s) := by
  rw [Ends, String.toList_append, List.getLast?_append, h]
  rfl

namespace Clock

theorem ne_overflowText_of_begins {c : Char} {s : String} (h : Text.Begins c s) (hc : c ≠ 'o') :
    s ≠ overflowText := by
  have hown : Text.Begins 'o' overflowText := by decide
  rintro rfl
  exact hc (Option.some.inj (h.symm.trans hown))

theorem ne_overflowText_of_ends {c : Char} {s : String} (h : Text.Ends c s) (hc : c ≠ 't') :
    s ≠ overflowText := by
  have hown : Text.Ends 't' overflowText := by decide
  rintro rfl
  exact hc (Option.some.inj (h.symm.trans hown))

end Clock

/-- No other failure of a call has these words. The words of a missing entity begin with its kind,
so there it is the end that tells. -/
theorem ClientError.redacted_ne_overflowText {error : ClientError} (h : error ≠ .clockOverflow) :
    error.redacted ≠ Clock.overflowText := by
  cases error with
  | clockOverflow => exact absurd rfl h
  | notFound =>
    have hend : Text.Ends 'd' "' not found" := by decide
    exact Clock.ne_overflowText_of_ends (hend.append _) (by decide)
  | http =>
    have hstart : Text.Begins 'H' "HTTP request failed: " := by decide
    exact Clock.ne_overflowText_of_begins (hstart.append _) (by decide)
  | url =>
    have hstart : Text.Begins 'i' "invalid URL: " := by decide
    exact Clock.ne_overflowText_of_begins (hstart.append _) (by decide)
  | serialization =>
    have hstart : Text.Begins 's' "serialization error: " := by decide
    exact Clock.ne_overflowText_of_begins (hstart.append _) (by decide)
  | api =>
    have hstart : Text.Begins 'A' "API error " := by decide
    exact Clock.ne_overflowText_of_begins
      (((((hstart.append _).append _).append _).append _).append _) (by decide)
  | ambiguous =>
    have hstart : Text.Begins 'f' "found " := by decide
    exact Clock.ne_overflowText_of_begins
      ((((((hstart.append _).append _).append _).append _).append _).append _) (by decide)
  | login =>
    have hstart : Text.Begins 'l' "login failed: " := by decide
    exact Clock.ne_overflowText_of_begins (hstart.append _) (by decide)
  | missingAccessToken =>
    have hstart : Text.Begins 'l' "login response did not carry the " := by decide
    exact Clock.ne_overflowText_of_begins ((hstart.append _).append _) (by decide)
  | tokenFile =>
    have hstart : Text.Begins 't' "token file " := by decide
    exact Clock.ne_overflowText_of_begins (((hstart.append _).append _).append _) (by decide)
  | task =>
    have hstart : Text.Begins 't' "task " := by decide
    exact Clock.ne_overflowText_of_begins (((hstart.append _).append _).append _) (by decide)

/-- No refused configuration is reported in the words of the clock. -/
theorem ConfigError.message_ne_overflowText (error : ConfigError) :
    error.message ≠ Clock.overflowText := by
  cases error with
  | missing =>
    have hend : Text.Ends ')' ")" := by decide
    exact Clock.ne_overflowText_of_ends (hend.append _) (by decide)
  | invalidUrl =>
    have hstart : Text.Begins 'u' "url '" := by decide
    exact Clock.ne_overflowText_of_begins (((hstart.append _).append _).append _) (by decide)
  | unknownAuthType =>
    have hstart : Text.Begins 'a' "auth_type '" := by decide
    exact Clock.ne_overflowText_of_begins (((hstart.append _).append _).append _) (by decide)
  | invalidBool =>
    have hend : Text.Ends '\'' "'" := by decide
    exact Clock.ne_overflowText_of_ends (hend.append _) (by decide)
  | invalidRetryTimeout =>
    have hend : Text.Ends '\'' "'" := by decide
    exact Clock.ne_overflowText_of_ends (hend.append _) (by decide)
  | emptySeparator =>
    have hstart : Text.Begins 'i' "import_separator must not be empty" := by decide
    exact Clock.ne_overflowText_of_begins hstart (by decide)

/-- A report without details is no stop. -/
theorem Diagnostic.not_isStop_of_detail {d : Diagnostic} (h : d.detail = "") : ¬ d.IsStop := by
  rw [IsStop, h]
  decide

/-- Only the clock's own failure is taken for a stop. -/
theorem Diagnostic.not_isStop_ofError (summary : String) (error : ClientError)
    (h : error ≠ .clockOverflow) : ¬ (Diagnostic.ofError summary error).IsStop :=
  ClientError.redacted_ne_overflowText h

/-! ## Actions that tell how they have ended -/

/-- The action has a result and reports nothing, or it has none and reports one error. -/
inductive Action.Told (start : ActionState) : Option α × ActionState → Prop
  | result {a : α} {net : Network} : Told start (some a, { start with network := net })
  | failure {d : Diagnostic} {net : Network} : ¬ d.IsStop →
    Told start (none, { network := net, diagnostics := start.diagnostics.error d })

/-- An action that starts in time ends in time, and tells how it has ended. -/
def Action.Reports (T : Network → Prop) (action : Action α) : Prop :=
  ∀ start, T start.network →
    T (action.perform start).2.network ∧ Action.Told start (action.perform start)

namespace Action

variable {T : Network → Prop}

theorem Reports.pure (a : α) : (Pure.pure a : Action α).Reports T := fun _ h => ⟨h, .result⟩

theorem Reports.fail {d : Diagnostic} (hd : ¬ d.IsStop) : (Action.fail d : Action α).Reports T :=
  fun _ h => ⟨h, .failure hd⟩

/-- A sequence reports what it should when both of its parts do. -/
theorem Reports.bind {action : Action α} {next : α → Action β} (haction : action.Reports T)
    (hnext : ∀ a, (next a).Reports T) : (action >>= next).Reports T := by
  intro start hstart
  obtain ⟨hlater, htold⟩ := haction start hstart
  generalize hperform : action.perform start = ended at hlater htold
  cases htold with
  | @result a net =>
    rw [perform_bind_of_some hperform]
    obtain ⟨hlast, htold⟩ := hnext a _ hlater
    refine ⟨hlast, ?_⟩
    generalize (next a).perform { start with network := net } = ended at htold
    cases htold with
    | result => exact .result
    | failure hd => exact .failure hd
  | failure hd =>
    rw [perform_bind_of_none hperform]
    exact ⟨hlater, .failure hd⟩

/-- A call that keeps within the time fails with a report, and that is no stop. -/
theorem Reports.attempt {describe : ClientError → Diagnostic} {call : Call α}
    (hdescribe : ∀ error, error ≠ .clockOverflow → ¬ (describe error).IsStop)
    (h : call.Lasts T) : (Action.attempt describe call).Reports T := by
  intro start hstart
  cases hcall : call.perform start.network with
  | mk result later =>
    obtain ⟨hlater, htold⟩ := h.of_perform hstart hcall
    cases result with
    | ok a =>
      rw [perform_attempt_of_ok hcall]
      exact ⟨hlater, .result⟩
    | error error =>
      rw [perform_attempt_of_error hcall]
      refine ⟨hlater, .failure (hdescribe error ?_)⟩
      exact fun heq => htold (by rw [heq])

/-- A failure is reported under a summary of its own. -/
theorem Reports.attempt_ofError {call : Call α} (summary : String) (h : call.Lasts T) :
    (Action.attempt (.ofError summary) call).Reports T :=
  .attempt (Diagnostic.not_isStop_ofError summary) h

theorem Reports.configured {client : Client} {next : Client → Action α}
    (h : (next client).Reports T) : (Action.configured (some client) >>= next).Reports T := by
  intro start hstart
  rw [perform_bind_of_some (perform_configured client start)]
  exact h start hstart

/-- What makes one call and puts the reply in another form reports the failure of the call. -/
theorem Reports.asked {client : Client} {describe : ClientError → Diagnostic}
    {call : Client → Call α} (form : α → β)
    (hdescribe : ∀ error, error ≠ .clockOverflow → ¬ (describe error).IsStop)
    (h : (call client).Lasts T) :
    (do
      let client ← Action.configured (some client)
      let a ← Action.attempt describe (call client)
      return form a : Action β).Reports T :=
  .configured (.bind (.attempt hdescribe h) fun a => .pure (form a))

/-- An action without a session reports that there is none. -/
theorem Unconfigured.reports {action : Action α} (h : action.Unconfigured) :
    action.Reports T := by
  intro start hstart
  rw [h start]
  exact ⟨hstart, .failure (Diagnostic.not_isStop_of_detail rfl)⟩

end Action

/-! ## Errands -/

/-- The calls that need a session report if their handlers do. -/
theorem Handlers.Each.reports {σ : Type} {T : Network → Prop} {handlers : Handlers σ}
    {client? : Option Client}
    (h : handlers.Each client? fun call _ action => call.needsSession = true → action.Reports T)
    {call : ResourceCall σ} (hneeds : call.needsSession = true) :
    (handlers.manage client? call).Reports T :=
  h.manage (fun _ _ a _ _ => .pure a)
    (fun _ _ _ _ form hreports hneeds => .bind (hreports hneeds) fun a => .pure (form a))
    call hneeds

section

variable (client : Client)

namespace Org

theorem not_isStop_gone (kind id : String) : ¬ (gone kind id).IsStop := by
  have hstart : Text.Begins 'R'
      "Remove it from the Terraform state with `terraform state rm` to recreate it" := by decide
  exact Clock.ne_overflowText_of_begins hstart (by decide)

theorem not_isStop_goneOr (kind summary id : String) {error : ClientError}
    (h : error ≠ .clockOverflow) : ¬ (goneOr kind summary id error).IsStop := by
  unfold goneOr
  split
  · exact not_isStop_gone kind id
  · exact Diagnostic.not_isStop_ofError _ _ h

theorem reports_disable (path : String) (org : Org) :
    (disable client path org).Reports client.HasTime := by
  unfold disable
  split
  · exact .bind (.attempt_ofError _ (Client.lasts_update _ _)) fun _ => .pure ()
  · exact .pure ()

theorem reports_destroy (prior : OrgState) :
    (destroy (some client) prior).Reports client.HasTime := by
  refine .configured (.bind (.attempt_ofError _ (.orMissing (Client.lasts_get _))) fun org? => ?_)
  cases org? with
  | none => exact .pure ()
  | some org =>
    refine .bind (reports_disable client _ org) fun _ => ?_
    exact .bind (.attempt_ofError _ (.orMissing (Client.lasts_delete _ _))) fun _ => .pure ()

theorem reports_importState (id : String) :
    (importState (some client) id).Reports client.HasTime := by
  refine .configured (.bind (.attempt_ofError _ ?_) fun org => .pure _)
  split
  · exact Client.lasts_get _
  · exact Client.lasts_findOne _ _ _ _

/-- Every call to manage organizations that needs a session reports its failures. -/
theorem reports_manage {call : ResourceCall OrgState} (h : call.needsSession = true) :
    (manage (some client) call).Reports client.HasTime := by
  refine Handlers.Each.reports ⟨?_, ?_, ?_, ?_, ?_, ?_⟩ h
  · rintro _ ⟨⟩
  · exact fun _ _ _ => .asked _ (fun _ => not_isStop_goneOr _ _ _) (Client.lasts_get _)
  · exact fun _ _ => .asked _ (Diagnostic.not_isStop_ofError _) (Client.lasts_create _ _)
  · exact fun _ _ _ => .asked _ (Diagnostic.not_isStop_ofError _) (Client.lasts_update _ _)
  · exact fun prior _ => reports_destroy client prior
  · exact fun id _ => reports_importState client id

end Org

namespace LocalUser

theorem reports_importNames {T : Network → Prop} (id : String) :
    (importNames client id).Reports T := by
  unfold importNames
  split
  · exact .pure _
  · exact .fail (Diagnostic.not_isStop_of_detail rfl)

theorem reports_importState (id : String) :
    (importState (some client) id).Reports client.HasTime := by
  refine .configured (.bind (reports_importNames client id) fun names => ?_)
  refine .bind (.attempt_ofError _ (Client.lasts_findOne _ _ _ _)) fun org => ?_
  exact .bind (.attempt_ofError _ (Client.lasts_findOne _ _ _ _)) fun _ => .pure _

theorem reports_manage {call : ResourceCall LocalUserState} (h : call.needsSession = true) :
    (manage (some client) call).Reports client.HasTime := by
  refine Handlers.Each.reports ⟨?_, ?_, ?_, ?_, ?_, ?_⟩ h
  · rintro _ ⟨⟩
  · exact fun _ _ _ => .asked _ (fun _ => Org.not_isStop_goneOr _ _ _) (Client.lasts_get _)
  · exact fun _ _ => .asked _ (Diagnostic.not_isStop_ofError _) (Client.lasts_create _ _)
  · exact fun _ _ _ => .asked _ (Diagnostic.not_isStop_ofError _) (Client.lasts_update _ _)
  · exact fun _ _ =>
      .asked _ (Diagnostic.not_isStop_ofError _) (.orMissing (Client.lasts_delete _ _))
  · exact fun id _ => reports_importState client id

end LocalUser

namespace Version

/-- What the service's versions are refused for has no details. -/
theorem detail_of_assess {config : VersionState} {active : List String} {d : Diagnostic}
    (h : assess config active = .error d) : d.detail = "" := by
  unfold assess at h
  split at h
  · cases h
    rfl
  · rename_i version _
    cases hmatches : assessCondition config version with
    | ok value =>
      rw [hmatches] at h
      cases h
    | error other =>
      rw [hmatches] at h
      cases h
      unfold assessCondition at hmatches
      split at hmatches
      · split at hmatches
        · cases hmatches
          rfl
        · dsimp only at hmatches
          split at hmatches
          · cases hmatches
            rfl
          · cases hmatches
      · cases hmatches

theorem reports_lookup (config : VersionState) :
    (lookup (some client) config).Reports client.HasTime := by
  refine .configured (.bind (.attempt_ofError _ (Client.lasts_get _)) fun versions => ?_)
  split
  · exact .pure _
  · rename_i d hassess
    exact .fail (Diagnostic.not_isStop_of_detail (detail_of_assess hassess))

end Version

theorem LookupCall.reports_answer {σ : Type} {T : Network → Prop} {validate : σ → Action Unit}
    {lookup : σ → Action σ} (hlookup : ∀ config, (lookup config).Reports T) {call : LookupCall σ}
    (h : call.needsSession = true) : (LookupCall.answer validate lookup call).Reports T := by
  cases call with
  | validate => cases h
  | read config => exact .bind (hlookup config) fun _ => .pure _

/-- An errand with a session tells how it has ended, if there is time for it. -/
theorem Errand.reports_act {errand : Errand} (h : errand.needsSession = true) :
    (errand.act (some client)).Reports client.HasTime := by
  have hfound : ∀ {α β : Type} {decoder : Json.Decoder α} {summary kind path field value : String}
      {tenant? : Option String} {result : α → β},
      (do
        let client ← Action.configured (some client)
        let a ← Action.attempt (.ofError summary)
          (client.findOne decoder kind path field value tenant?)
        return result a : Action β).Reports client.HasTime := by
    intro α β decoder summary kind path field value tenant? result
    exact .asked _ (Diagnostic.not_isStop_ofError _) (Client.lasts_findOne _ _ _ _)
  cases errand with
  | org call => exact Org.reports_manage client h
  | localUser call => exact LocalUser.reports_manage client h
  | orgLookup call => exact LookupCall.reports_answer (fun _ => hfound) h
  | localUserLookup call => exact LookupCall.reports_answer (fun _ => hfound) h
  | roleLookup call => exact LookupCall.reports_answer (fun _ => hfound) h
  | regionLookup call => exact LookupCall.reports_answer (fun _ => hfound) h
  | versionLookup call => exact LookupCall.reports_answer (Version.reports_lookup client) h

end

/-! ## The provider -/

/-- There is a result and no report, or no result and one error. A call that has stopped has
neither. -/
inductive Outcome.Told : Outcome α → Prop
  | result (a : α) : Told { value? := some a, diagnostics := {} }
  | failure {d : Diagnostic} : ¬ d.IsStop →
    Told { value? := none, diagnostics := { errors := [d], warnings := [] } }

theorem Action.Told.outcome {action : Action α} {net : Network}
    (h : Action.Told { network := net } (action.perform { network := net })) :
    (action.start net).1.Told := by
  unfold Action.start
  generalize action.perform { network := net } = ended at h
  cases h with
  | result => exact .result _
  | failure hd => exact .failure hd

namespace Provider

/-- A session that cannot be opened is reported, since no login looks at a deadline. -/
theorem reports_openSession (block : ProviderBlock) (env : Environment) :
    (openSession block env).Reports fun _ => True := by
  unfold openSession
  split
  · rename_i error _
    exact .fail (ConfigError.message_ne_overflowText error)
  · exact .attempt_ofError _ (Login.untimed_connect _)

/-- A configuration has a result or reports one error. -/
theorem told_configure (provider : Provider) (block : ProviderBlock) (env : Environment)
    (net : Network) : (provider.configure block env net).1.1.Told := by
  have htold := (reports_openSession block env { network := net } trivial).2.outcome
  unfold configure
  generalize (openSession block env).start net = ended at htold
  obtain ⟨outcome, later⟩ := ended
  cases htold with
  | result => exact .result ()
  | failure hd => exact .failure hd

/-- **Reports.** Whatever the service answers and whether there is a session or not: a call that
needs a session, and a configuration, has a result and reports nothing, or it has none and reports
one error. For a call with a session the clock has to show the times that the call comes to. -/
theorem failures_are_reported (provider : Provider) (net : Network) :
    (∀ errand : Errand, errand.needsSession = true →
      (∀ client, provider.client? = some client → client.HasTime net) →
      (provider.serve errand net).1.Told) ∧
    ∀ block env, (provider.configure block env net).1.1.Told := by
  refine ⟨?_, fun block env => told_configure provider block env net⟩
  intro errand hsession htime
  rw [serve_eq]
  cases hclient : provider.client? with
  | none =>
    have hreports := (Errand.unconfigured_act hsession).reports (T := fun _ => True)
    exact (hreports { network := net } trivial).2.outcome
  | some client =>
    exact (Errand.reports_act client hsession { network := net } (htime client hclient)).2.outcome

/-- A session with a minute for busy entities has the time to look an organization up. -/
theorem failures_are_reported_of_lookup :
    ((⟨some (Client.sample "t" 60)⟩ : Provider).serve (.orgLookup (.read { name := .known "acme" }))
      (.holding Org.samplePage)).1.Told := by
  have htime : (Client.sample "t" 60).HasTime (.holding Org.samplePage) := by decide
  exact (failures_are_reported ⟨some (Client.sample "t" 60)⟩ (.holding Org.samplePage)).1 _ rfl
    (by rintro _ ⟨⟩; exact htime)

end Provider

/-! ## A session without time -/

theorem Outcome.not_told_of_isStop {d : Diagnostic} {warnings : List Diagnostic} (h : d.IsStop) :
    ¬ (Outcome.mk (none : Option α) { errors := [d], warnings }).Told := by
  intro htold
  cases htold with
  | failure hd => exact hd h

/-- Nothing is found in a session whose deadlines no clock can show. -/
theorem Client.findOne_past_clock {client : Client} {decoder : Json.Decoder α}
    {kind path field value : String} {tenant? : Option String} {net : Network} {url : Url}
    (hjoin : client.base.join path = .ok url)
    (hclock : Clock.bound ≤ net.now + client.timeout) :
    (client.findOne decoder kind path field value tenant?).perform net =
      (.error .clockOverflow, net) := by
  have hsend : ∀ page, (client.send .get url (pageQuery page (some (field ++ "==" ++ value))) .empty
      tenant?).perform net = (.error .clockOverflow, net) := fun _ => send_past_clock hclock
  have hpages : client.pagesFrom decoder url (some (field ++ "==" ++ value)) tenant? 1 net =
      (.error .clockOverflow, net) := by
    rw [pagesFrom_eq, readPage, hsend, after_pageStep, hsend]
    rfl
  have hlist : (client.list decoder path (some (field ++ "==" ++ value)) tenant?).perform net =
      (.error .clockOverflow, net) := (perform_list hjoin net).trans hpages
  exact Call.perform_bind_of_error hlist

namespace Provider

def patientEnv : Environment := .ofList [("VCFA_MAX_RETRY_TIMEOUT", "18446744073709551615")]

/-- A provider is configured to wait as long as can be set, and this is accepted. The organization
is there and would be shown at once, but its lookup has neither a result nor an error: it stops at
the deadline, which no clock can show. -/
theorem lookup_stops_unreported :
    (({} : Provider).configure tokenBlock patientEnv {}).1 =
        ({ value? := some (), diagnostics := {} },
          ⟨some (Client.sample "t" (Nat.pow 2 64 - 1))⟩) ∧
      Org.ListedAs (Client.sample "t" 3) (.holding Org.samplePage) "acme" Org.sampleOrg ∧
      ¬ ((⟨some (Client.sample "t" (Nat.pow 2 64 - 1))⟩ : Provider).serve
        (.orgLookup (.read { name := .known "acme" })) (.holding Org.samplePage)).1.Told := by
  have hresolve : Settings.resolve tokenBlock patientEnv =
      .ok {
        url := (Client.sample "t" 0).base, org := "System", credentials := .token "t"
        allowUnverifiedSsl := false, maxRetryTimeout := Nat.pow 2 64 - 1
        importSeparator := "." } :=
    ok_of_toOption (by decide +kernel)
  have hfind : (Org.find (Client.sample "t" (Nat.pow 2 64 - 1)) "acme").perform
      (.holding Org.samplePage) = (.error .clockOverflow, .holding Org.samplePage) :=
    Client.findOne_past_clock Org.join_orgsPath (by decide)
  refine ⟨?_, Org.listedAs_sampleOrg, ?_⟩
  · simp only [configure, openSession, hresolve]
    rfl
  · have hlookup : (Org.lookup (some (Client.sample "t" (Nat.pow 2 64 - 1)))
        { name := .known "acme" }).perform { network := .holding Org.samplePage } =
        (none, {
          network := .holding Org.samplePage
          diagnostics := { errors := [.ofError "Failed to read organization" .clockOverflow] } }) :=
      (Action.perform_bind_of_some (Action.perform_configured _ _)).trans
        (Action.perform_bind_of_none (Action.perform_attempt_of_error hfind))
    have hstop : (Diagnostic.ofError "Failed to read organization" .clockOverflow).IsStop := rfl
    have hact : ((Errand.orgLookup (.read { name := .known "acme" })).act
        (some (Client.sample "t" (Nat.pow 2 64 - 1)))).perform
        { network := .holding Org.samplePage } = (none, _) := Action.perform_bind_of_none hlookup
    rw [serve_eq, Action.start, hact]
    exact Outcome.not_told_of_isStop hstop

end Provider

end CloudTenancy
