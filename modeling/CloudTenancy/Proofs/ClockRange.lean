import CloudTenancy.Proofs.Acceptance
import CloudTenancy.Proofs.Reporting
import Mathlib.Data.Nat.Find

/-!
CloudTenancy.Proofs.ClockRange — the retry timeouts that are accepted and the times that clocks
show.

* `Client.horizon` — the latest time that a request which starts at some time may look at: one pause
  behind the last attempt that its deadline allows.
* `Client.StaysInRange` — whatever the service does, a request that starts at some time does not
  look at a time that the clock cannot show.

A request adds to the clock twice: the timeout to the time at which it starts, and the pause to the
time of each attempt that finds a busy entity. Attempts start by the deadline, a number of pauses
after the first one, so the horizon is the greatest of these sums. Below the end of the clock all of
them can be shown. Otherwise a service that is busy for long enough leads to one that cannot.

Main statement: `horizon_decides_overflow`.
-/

namespace CloudTenancy

/-! ## One request -/

namespace Client

variable {client : Client} {method : Method} {url : Url} {query : List (String × String)}
  {body : Body} {tenant? : Option String} {request : Request} {net : Network} {now : Nat}

/-- The latest time that a request which starts at some time may look at. -/
def horizon (client : Client) (now : Nat) : Nat :=
  now + (client.timeout / client.retryPause + 1) * client.retryPause

/-- Whatever the service does, a request that starts at some time does not look at a time that the
clock cannot show. -/
def StaysInRange (client : Client) (now : Nat) (method : Method) (url : Url)
    (query : List (String × String)) (body : Body) (tenant? : Option String) : Prop :=
  ∀ net : Network, net.now = now →
    ((client.send method url query body tenant?).perform net).1 ≠ .error .clockOverflow

/-- The horizon lies behind the deadline, since the last pause may go past it. -/
theorem deadline_lt_horizon (hpause : 0 < client.retryPause) (now : Nat) :
    now + client.timeout < client.horizon now :=
  Nat.add_lt_add_left (Nat.lt_mul_of_div_lt (Nat.lt_succ_self _) hpause) now

/-- An answer alone never overflows the clock. -/
theorem settle_ne_overflow (outcome : Except HttpError Reply) :
    settle outcome ≠ .error .clockOverflow := by
  intro h
  cases outcome with
  | error error => cases h
  | ok reply =>
    rw [settle] at h
    split at h
    · cases h
    · simp [ClientError.ofReply] at h

/-- Some attempt finds no busy entity, at the latest when the script is used up. -/
theorem exists_first_settled (net : Network) (request : Request) :
    ∃ k, (∀ i < k, refuses (net.scripted request i) = true) ∧
      refuses (net.scripted request k) = false := by
  have hend : refuses (net.scripted request net.answers.length) = false := by
    rw [Network.scripted]
    split
    · rw [List.getElem?_eq_none (Nat.le_refl _)]
      exact refuses_exhausted
    · rfl
  have hsome : ∃ k, refuses (net.scripted request k) = false := ⟨_, hend⟩
  refine ⟨Nat.find hsome, ?_, Nat.find_spec hsome⟩
  intro i hi
  simpa using Nat.find_min hsome hi

/-- If the horizon can be shown, then so can all times that a request looks at. -/
theorem staysInRange_of_horizon (hpause : 0 < client.retryPause)
    (h : client.horizon now < Clock.bound) :
    client.StaysInRange now method url query body tenant? := by
  intro net hnow
  subst hnow
  have hclock := Nat.lt_trans (deadline_lt_horizon hpause net.now) h
  cases hbuilt : client.request method url query body tenant? with
  | error error =>
    rw [send_of_request hclock, hbuilt]
    intro h
    cases h
  | ok request =>
    obtain ⟨k, hbusy, hsettled⟩ := exists_first_settled net request
    obtain ⟨hin, hlate⟩ :=
      (send_retries_busy hpause hclock fun _ => h).2 request hbuilt hbusy hsettled
    rcases Nat.lt_or_ge client.timeout (k * client.retryPause) with hlt | hle
    · rw [(hlate hlt).1.result]
      exact settle_ne_overflow _
    · rw [(hin hle).result]
      exact settle_ne_overflow _

theorem refuses_unavailable {n i : Nat} (hi : i < n) :
    refuses ((unavailable n).scripted request i) = true := by
  have hanswer : (unavailable n).answers[i]? = some ⟨some { status := .unavailable }, none⟩ := by
    simp [unavailable, hi]
  have hreachable : (unavailable n).reachable = true := rfl
  have hbusy : refuses (.ok { status := .unavailable }) = true := by decide +kernel
  rw [Network.scripted, if_pos hreachable, hanswer]
  exact hbusy

/-- If the horizon cannot be shown, then a service that is unavailable for all attempts leads to a
time that cannot be shown. -/
theorem not_staysInRange_of_horizon
    (hbuilt : client.request method url query body tenant? = .ok request)
    (h : Clock.bound ≤ client.horizon now) :
    ¬client.StaysInRange now method url query body tenant? := by
  intro hstays
  obtain ⟨last, hlast⟩ : ∃ last, client.timeout / client.retryPause = last := ⟨_, rfl⟩
  have hallowed := Nat.div_mul_le_self client.timeout client.retryPause
  rw [horizon, hlast, Nat.succ_mul] at h
  rw [hlast] at hallowed
  obtain ⟨net, hnet⟩ : ∃ net, (unavailable (last + 1)).wait now = net := ⟨_, rfl⟩
  have hnow : net.now = now := hnet ▸ Nat.zero_add now
  refine hstays net hnow ?_
  rcases Nat.lt_or_ge (net.now + client.timeout) Clock.bound with hclock | hclock
  · have hbusy : ∀ i < last + 1, refuses (net.scripted request i) = true := by
      intro i hi
      rw [← hnet, Network.scripted_wait]
      exact refuses_unavailable hi
    have hbefore : ∀ i < last, refuses (net.scripted request i) = true :=
      fun i hi => hbusy i (Nat.lt_succ_of_lt hi)
    simp only [send_of_request hclock, hbuilt]
    rw [attempt_eq_retried hclock (Nat.add_le_add_left hallowed _) hbefore, attempt_past_clock]
    · rw [Network.scripted_retried]
      exact hbusy last (Nat.lt_succ_self last)
    · rw [Network.now_retried, hnow]
      omega
  · rw [send_past_clock hclock]

/-- With the pause of two seconds the horizon is the first even second behind the timeout. -/
theorem horizon_of_pause (hpause : client.retryPause = 2000) (now : Nat) :
    client.horizon now = now + (client.maxRetryTimeout / 2 + 1) * 2000 := by
  have hdiv : client.maxRetryTimeout * 1000 / 2000 = client.maxRetryTimeout / 2 := by omega
  rw [horizon, timeout, hpause, hdiv]

end Client

/-! ## Accepted settings -/

namespace Settings

variable {block : ProviderBlock} {env : Environment} {settings : Settings} {client : Client}
  {net later : Network}

/-- A timeout that is accepted is an unsigned number of 64 bits. -/
theorem Follow.timeout_lt (h : Follow block env settings) (hfits : block.Fits) :
    settings.maxRetryTimeout < Nat.pow 2 64 := by
  cases hblock : block.maxRetryTimeout? with
  | some seconds =>
    have hlt := hfits seconds hblock
    rw [← h.timeoutInBlock seconds hblock] at hlt
    exact Nat.lt_trans (Int.ofNat_lt.1 hlt) (by decide)
  | none =>
    cases htext : env .maxRetryTimeout with
    | none =>
      rw [h.timeoutByDefault hblock htext]
      decide
    | some text =>
      obtain ⟨digits, -, -, -, -, hlt⟩ := h.timeoutInVariable hblock text htext
      exact hlt

/-- A client that has logged in keeps the timeout of its settings and pauses for two seconds. -/
theorem intervals_of_connect (h : (Client.connect settings).perform net = (.ok client, later)) :
    client.maxRetryTimeout = settings.maxRetryTimeout ∧ client.retryPause = 2000 := by
  cases htoken : (Login.token settings).perform net with
  | mk result left =>
    cases result with
    | error error =>
      rw [Client.connect, Call.perform_bind_of_error htoken] at h
      cases h
    | ok token =>
      rw [Client.connect, Call.perform_bind_of_ok htoken] at h
      cases h
      exact ⟨rfl, rfl⟩

/-- **The clock and accepted timeouts.** A session that is opened with accepted settings looks at
times up to its horizon, which is at most one pause behind the deadline. A request stays in the
range of the clock if the horizon does; one that can be built stays there only if the horizon does.
If not even the deadline can be shown, then every request ends before anything is sent. -/
theorem horizon_decides_overflow (hfits : block.Fits)
    (hresolve : resolve block env = .ok settings)
    (hconnect : (Client.connect settings).perform net = (.ok client, later)) (now : Nat)
    (method : Method) (url : Url) (query : List (String × String)) (body : Body)
    (tenant? : Option String) :
    settings.maxRetryTimeout < Nat.pow 2 64 ∧
    (now + (settings.maxRetryTimeout / 2 + 1) * 2000 < Clock.bound →
      client.StaysInRange now method url query body tenant?) ∧
    (∀ request, client.request method url query body tenant? = .ok request →
      (client.StaysInRange now method url query body tenant? ↔
        now + (settings.maxRetryTimeout / 2 + 1) * 2000 < Clock.bound)) ∧
    (Clock.bound ≤ now + settings.maxRetryTimeout * 1000 → ∀ start : Network, start.now = now →
      (client.send method url query body tenant?).perform start =
        (.error .clockOverflow, start)) := by
  have houtcome := outcome_resolve block env
  rw [hresolve] at houtcome
  obtain ⟨htimeout, hpause⟩ := intervals_of_connect hconnect
  have hpositive : 0 < client.retryPause := by rw [hpause]; decide
  rw [← htimeout, ← Client.horizon_of_pause hpause]
  refine ⟨htimeout ▸ houtcome.of_ok.1.timeout_lt hfits, Client.staysInRange_of_horizon hpositive,
    ?_, ?_⟩
  · intro request hbuilt
    refine ⟨?_, Client.staysInRange_of_horizon hpositive⟩
    intro hstays
    refine Nat.lt_of_not_le fun hover => ?_
    exact Client.not_staysInRange_of_horizon hbuilt hover hstays
  · intro hover start hstart
    subst hstart
    exact Client.send_past_clock hover

/-! ## Two sessions -/

def tokenSettings (maxRetryTimeout : Nat) : Settings where
  url := (Client.sample "t" 0).base
  org := systemOrg
  credentials := .token "t"
  allowUnverifiedSsl := false
  maxRetryTimeout
  importSeparator := defaultSeparator

/-- A session that waits for a minute. Its requests stay in range when the clock starts, and they do
not if the clock has a minute left. -/
theorem horizon_decides_overflow_of_minute :
    resolve Provider.tokenBlock .empty = .ok (tokenSettings 60) ∧
      (Client.connect (tokenSettings 60)).perform {} = (.ok (Client.sample "t" 60), {}) ∧
      (Client.sample "t" 60).StaysInRange 0 .get (Client.sample "t" 60).base [] .empty none ∧
      ¬(Client.sample "t" 60).StaysInRange (Clock.bound - 60000) .get (Client.sample "t" 60).base []
        .empty none := by
  have hfits : Provider.tokenBlock.Fits := nofun
  have hresolve : resolve Provider.tokenBlock .empty = .ok (tokenSettings 60) := rfl
  have hconnect : (Client.connect (tokenSettings 60)).perform {} =
      (.ok (Client.sample "t" 60), {}) := rfl
  have hdecides := fun now =>
    (horizon_decides_overflow hfits hresolve hconnect now .get (Client.sample "t" 60).base [] .empty
      none).2.2.1 (Client.sampleRequest "t") rfl
  refine ⟨hresolve, hconnect, (hdecides 0).2 (by decide), ?_⟩
  intro hstays
  exact absurd ((hdecides _).1 hstays) (by decide)

/-- A session that waits as long as can be set: whatever the clock shows, its deadline cannot be
shown, so nothing is ever sent. -/
theorem patient_session_never_sends :
    resolve Provider.tokenBlock Provider.patientEnv = .ok (tokenSettings (Nat.pow 2 64 - 1)) ∧
      ∃ client,
        (Client.connect (tokenSettings (Nat.pow 2 64 - 1))).perform {} = (.ok client, {}) ∧
        ∀ method url query body tenant? net,
          (client.send method url query body tenant?).perform net =
            (.error .clockOverflow, net) := by
  refine ⟨ok_of_toOption (by decide +kernel), Client.sample "t" (Nat.pow 2 64 - 1), rfl, ?_⟩
  intro method url query body tenant? net
  have hpast : Clock.bound ≤ (Client.sample "t" (Nat.pow 2 64 - 1)).timeout := by decide
  exact Client.send_past_clock (Nat.le_trans hpast (Nat.le_add_left _ _))

end Settings

end CloudTenancy
