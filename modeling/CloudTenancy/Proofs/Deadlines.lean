import CloudTenancy.Client.Login
import CloudTenancy.Proofs.Retry

/-!
CloudTenancy.Proofs.Deadlines — the times that calls come to, and whether the clock can show them.

* `Client.reserve`, `Client.HasTime` — the latest time that answers and pauses can lead to, and that
  the clock can show it with a deadline behind it.
* `Call.Lasts` — a call that keeps its time and does not end for want of one.
* `Client.Spends` — what a request makes of the time that there is.
* `Login.Untimed` — a call that needs no deadline.

Every answer pays for one pause at most, the one behind it. So a session has all the time that it
needs if it has the time for a pause behind each answer that is still to come, and this is what each
of its requests keeps.

Main statements: the calls of a session with time last, and logins need none.
-/

namespace CloudTenancy

variable {α β : Type}

/-! ## The time that is left -/

namespace Client

/-- The longest pause of a session, in milliseconds. -/
def longestPause (client : Client) : Nat := max client.retryPause client.pollInterval

/-- The latest time that a session comes to if it makes its longest pause behind every answer. -/
def reserve (client : Client) (net : Network) : Nat :=
  net.now + net.answers.length * client.longestPause

/-- However long the service keeps the session waiting, the clock can show the next deadline and the
next attempt. -/
def HasTime (client : Client) (net : Network) : Prop :=
  client.reserve net + max client.timeout client.retryPause < Clock.bound

instance (client : Client) (net : Network) : Decidable (client.HasTime net) :=
  inferInstanceAs (Decidable (_ < _))

variable {client : Client} {net later : Network}

theorem HasTime.of_le (h : client.HasTime net) (hle : client.reserve later ≤ client.reserve net) :
    client.HasTime later :=
  Nat.lt_of_le_of_lt (Nat.add_le_add_right hle _) h

/-- A pause is paid for by an answer. -/
theorem reserve_wait (hpaid : client.reserve later + client.longestPause ≤ client.reserve net)
    {duration : Nat} (hle : duration ≤ client.longestPause) :
    client.reserve (later.wait duration) ≤ client.reserve net := by
  have hwait : client.reserve (later.wait duration) = client.reserve later + duration := by
    simp only [reserve, Network.now_wait, Network.answers_wait]
    omega
  omega

/-- An exchange uses up an answer, whose pause is no longer to come. -/
theorem reserve_exchange_le {request : Request} {outcome : Except HttpError Reply}
    (h : net.exchange request = (outcome, later)) : client.reserve later ≤ client.reserve net := by
  obtain rfl : (net.exchange request).2 = later := by rw [h]
  simp only [reserve, Network.now_exchange]
  exact Nat.add_le_add_left
    (Nat.mul_le_mul_right _ (Network.length_answers_exchange_le request net)) _

/-- A reply other than that of an exhausted server pays for a pause. -/
theorem reserve_exchange_paid {request : Request} {reply : Reply}
    (h : net.exchange request = (.ok reply, later)) (hreply : reply ≠ Network.exhausted) :
    client.reserve later + client.longestPause ≤ client.reserve net := by
  have hnow : later.now = net.now := by
    have := Network.now_exchange net request
    rwa [h] at this
  have hlength : later.answers.length + 1 ≤ net.answers.length :=
    (Network.exchange_ok h).resolve_left hreply
  have hpaid := Nat.mul_le_mul_right client.longestPause hlength
  rw [Nat.add_mul, Nat.one_mul] at hpaid
  simp only [reserve, hnow]
  omega

end Client

/-! ## Calls that keep their time -/

/-- A call has ended in time, and not for want of a time that the clock can show. -/
def Network.Lasted (T : Network → Prop) (ended : Except ClientError α × Network) : Prop :=
  T ended.2 ∧ ended.1 ≠ .error .clockOverflow

/-- A call that starts in time ends in time. -/
def Call.Lasts (T : Network → Prop) (call : Call α) : Prop :=
  ∀ net, T net → Network.Lasted T (call.perform net)

namespace Call

variable {T : Network → Prop}

theorem Lasts.of_perform {call : Call α} (h : call.Lasts T) {net : Network}
    {ended : Except ClientError α × Network} (hnet : T net) (hperform : call.perform net = ended) :
    Network.Lasted T ended :=
  hperform ▸ h net hnet

theorem Lasts.pure (a : α) : (Pure.pure a : Call α).Lasts T := fun _ h => ⟨h, nofun⟩

theorem Lasts.throw {error : ClientError} (herror : error ≠ .clockOverflow) :
    (MonadExcept.throw error : Call α).Lasts T :=
  fun _ h => ⟨h, fun heq => herror (Except.error.inj heq)⟩

theorem Lasts.ofExcept {ε : Type} {failure : ε → ClientError} {result : Except ε α}
    (h : ∀ error, result = .error error → failure error ≠ .clockOverflow) :
    (Call.ofExcept failure result).Lasts T := by
  intro net hnet
  refine ⟨hnet, ?_⟩
  cases hresult : result with
  | ok a => exact nofun
  | error error => exact fun heq => h error hresult (Except.error.inj heq)

/-- A sequence lasts when both of its parts do. -/
theorem Lasts.bind {call : Call α} {next : α → Call β} (hcall : call.Lasts T)
    (hnext : ∀ a, (next a).Lasts T) : (call >>= next).Lasts T := by
  intro net hnet
  cases hperform : call.perform net with
  | mk result later =>
    obtain ⟨hlater, htold⟩ := hcall.of_perform hnet hperform
    cases result with
    | error error =>
      rw [perform_bind_of_error hperform]
      exact ⟨hlater, fun heq => htold (by rw [Except.error.inj heq])⟩
    | ok a =>
      rw [perform_bind_of_ok hperform]
      exact hnext a later hlater

theorem Lasts.orMissing {call : Call α} (h : call.Lasts T) : call.orMissing.Lasts T := by
  intro net hnet
  simp only [Call.orMissing, perform_of]
  cases hperform : call.perform net with
  | mk result later =>
    obtain ⟨hlater, htold⟩ := h.of_perform hnet hperform
    cases result with
    | ok a => exact ⟨hlater, nofun⟩
    | error error =>
      dsimp only
      split
      · exact ⟨hlater, nofun⟩
      · exact ⟨hlater, fun heq => htold (by rw [Except.error.inj heq])⟩

/-- A bare exchange lasts when the network it leaves behind still has time. -/
theorem Lasts.exchange (request : Request)
    (h : ∀ net, T net → T (net.exchange request).2) : (Call.exchange request).Lasts T := by
  intro net hnet
  refine ⟨h net hnet, ?_⟩
  show ((net.exchange request).1.mapError ClientError.http) ≠ _
  cases (net.exchange request).1 with
  | ok reply => exact nofun
  | error error => exact nofun

theorem Lasts.decode (decoder : Json.Decoder α) (reply : Reply) :
    (Call.decode decoder reply).Lasts T :=
  .ofExcept fun _ _ => nofun

end Call

namespace Client

variable {client : Client} {decoder : Json.Decoder α} {tenant? : Option String} {net : Network}

/-- A request has ended in time, and a success has left the time for a pause. -/
structure Spends (client : Client) (net : Network) (ended : Except ClientError Reply × Network) :
    Prop where
  told : ended.1 ≠ .error .clockOverflow
  reserve_le : client.reserve ended.2 ≤ client.reserve net
  paid : ∀ reply, ended.1 = .ok reply →
    client.reserve ended.2 + client.longestPause ≤ client.reserve net

theorem Spends.of_error {error : ClientError} {later : Network} (herror : error ≠ .clockOverflow)
    (hle : client.reserve later ≤ client.reserve net) :
    client.Spends net (.error error, later) :=
  ⟨fun heq => herror (Except.error.inj heq), hle, nofun⟩

/-- One attempt does not overflow the clock while there is time, and uses time up. -/
theorem spends_attempt {deadline : Nat} {request : Request} (h : client.HasTime net) :
    client.Spends net (client.attempt deadline request net) := by
  have hreported : ∀ reply, ClientError.ofReply reply ≠ .clockOverflow := by
    intro reply heq
    simp [ClientError.ofReply] at heq
  fun_induction attempt client deadline request net with
  | case1 net error net' hexchange => exact .of_error (by rintro ⟨⟩) (reserve_exchange_le hexchange)
  | case2 net reply net' hexchange hsuccess =>
    have hreply : reply ≠ Network.exhausted := by
      rintro rfl
      exact absurd hsuccess (by decide)
    exact ⟨by rintro ⟨⟩, reserve_exchange_le hexchange,
      fun _ _ => reserve_exchange_paid hexchange hreply⟩
  | case3 net reply net' hexchange _ error hbusy hnext =>
    have hin := h.of_le (reserve_exchange_le hexchange)
    have hnow : net'.now + client.retryPause < Clock.bound := by
      simp only [HasTime, reserve] at hin
      omega
    simp [Clock.later?, hnow] at hnext
  -- A busy answer is one of the script, so it pays for the pause behind it.
  | case4 net reply net' hexchange _ error hbusy next hnext _ ih =>
    have hreply : reply ≠ Network.exhausted := by
      rintro rfl
      exact absurd hbusy (by rw [not_isBusy_exhausted]; simp)
    have hwait : client.reserve (net'.wait client.retryPause) ≤ client.reserve net :=
      reserve_wait (reserve_exchange_paid hexchange hreply) (Nat.le_max_left _ _)
    obtain ⟨htold, hreserve, hpaid⟩ := ih (h.of_le hwait)
    exact ⟨htold, Nat.le_trans hreserve hwait,
      fun reply hok => Nat.le_trans (hpaid reply hok) hwait⟩
  | case5 net reply net' hexchange =>
    exact .of_error (hreported reply) (reserve_exchange_le hexchange)
  | case6 net reply net' hexchange =>
    exact .of_error (hreported reply) (reserve_exchange_le hexchange)

/-- A whole request with its retries does not overflow the clock while there is time. -/
theorem spends_send (method : Method) (url : Url) (query : List (String × String)) (body : Body)
    (h : client.HasTime net) :
    client.Spends net ((client.send method url query body tenant?).perform net) := by
  have hclock : net.now + client.timeout < Clock.bound := by
    simp only [HasTime, reserve] at h
    omega
  rw [send_of_request hclock]
  cases client.request method url query body tenant? with
  | error error => exact .of_error nofun (Nat.le_refl _)
  | ok request => exact spends_attempt h

theorem lasts_send (method : Method) (url : Url) (query : List (String × String)) (body : Body) :
    (client.send method url query body tenant?).Lasts client.HasTime := by
  intro net h
  have hspends := @spends_send client tenant? net method url query body h
  exact ⟨h.of_le hspends.reserve_le, hspends.told⟩

theorem lasts_join (path : String) : (client.join path).Lasts client.HasTime :=
  .ofExcept fun _ _ => nofun

/-! ### Reading -/

theorem lasts_get (path : String) :
    (client.get decoder path tenant?).Lasts client.HasTime :=
  .bind (lasts_join path) fun _ => .bind (lasts_send _ _ _ _) fun reply => .decode decoder reply

/-- Reading page after page keeps within the time, whatever number of pages there are. -/
theorem lasted_pagesFrom (url : Url) (filter? : Option String) (page : Nat)
    (h : client.HasTime net) :
    Network.Lasted client.HasTime (client.pagesFrom decoder url filter? tenant? page net) := by
  have hsent : ∀ page, (client.send .get url (pageQuery page filter?) .empty tenant?).Lasts
      client.HasTime := fun page => lasts_send _ _ _ _
  fun_induction pagesFrom client decoder url filter? tenant? page net with
  | case1 page net error net' hsend =>
    obtain ⟨hlater, htold⟩ := (hsent page).of_perform h hsend
    exact ⟨hlater, fun heq => htold (by rw [Except.error.inj heq])⟩
  | case2 page net reply net' hsend => exact ⟨((hsent page).of_perform h hsend).1, nofun⟩
  | case3 page net reply net' hsend => exact ⟨((hsent page).of_perform h hsend).1, nofun⟩
  | case4 page net reply net' hsend body hdecode hpage error net'' hrest ih =>
    have := ih ((hsent page).of_perform h hsend).1
    rw [hrest] at this
    exact ⟨this.1, fun heq => this.2 (by rw [Except.error.inj heq])⟩
  | case5 page net reply net' hsend body hdecode hpage more net'' hrest ih =>
    have := ih ((hsent page).of_perform h hsend).1
    rw [hrest] at this
    exact ⟨this.1, nofun⟩

theorem lasts_findOne (kind path field value : String) :
    (client.findOne decoder kind path field value tenant?).Lasts client.HasTime := by
  refine .bind (.bind (lasts_join path) fun url net h => ?_) fun found => .ofExcept ?_
  · exact lasted_pagesFrom url _ 1 h
  · intro error herror
    rcases found with _ | ⟨_, _ | ⟨_, _⟩⟩ <;> cases herror <;> exact nofun

/-! ### Changing -/

/-- Polling keeps within the time, however often the task is looked at. -/
theorem lasted_poll (url : Url) (h : client.HasTime net) :
    Network.Lasted client.HasTime (client.poll url tenant? net) := by
  have hsent : ∀ {net net' : Network} {result : Except ClientError Reply}, client.HasTime net →
      (client.send .get url [] .empty tenant?).perform net = (result, net') →
      client.Spends net (result, net') := by
    intro net net' result h hsend
    exact hsend ▸ spends_send .get url [] .empty h
  fun_induction poll client url tenant? net with
  | case1 net error net' hsend =>
    obtain ⟨htold, hle, -⟩ := hsent h hsend
    exact ⟨h.of_le hle, fun heq => htold (by rw [Except.error.inj heq])⟩
  | case2 net reply net' hsend => exact ⟨h.of_le (hsent h hsend).reserve_le, nofun⟩
  | case3 net reply net' hsend task _ _ =>
    refine ⟨h.of_le (hsent h hsend).reserve_le, ?_⟩
    unfold taskResult
    split <;> exact nofun
  | case4 net reply net' hsend task _ _ ih =>
    have hwait : client.reserve (net'.wait client.pollInterval) ≤ client.reserve net :=
      reserve_wait ((hsent h hsend).paid reply rfl) (Nat.le_max_right _ _)
    exact ih (h.of_le hwait)

theorem lasts_waitForTask (reply : Reply) :
    (client.waitForTask reply tenant?).Lasts client.HasTime := by
  refine .bind (.ofExcept ?_) fun location => .bind (lasts_join location) fun url net h => ?_
  · intro error herror
    unfold taskLocation at herror
    split at herror <;> cases herror
    exact nofun
  · exact lasted_poll url h

theorem lasts_create (path : String) (body : Json) :
    (client.create decoder path body tenant?).Lasts client.HasTime := by
  refine .bind (lasts_join path) fun url => .bind (lasts_send _ _ _ _) fun reply => ?_
  split
  · refine .bind (lasts_waitForTask reply) fun task => .bind (.ofExcept ?_) fun _ => lasts_get _
    intro error herror
    unfold taskOwner at herror
    split at herror <;> cases herror
    exact nofun
  · exact .decode decoder reply

theorem lasts_update (path : String) (body : Json) :
    (client.update decoder path body tenant?).Lasts client.HasTime := by
  refine .bind (lasts_join path) fun url => .bind (lasts_send _ _ _ _) fun reply => ?_
  split
  · exact .bind (lasts_waitForTask reply) fun _ => lasts_get _
  · exact .decode decoder reply

/-- A deletion keeps within the time, its task included. -/
theorem lasts_delete (path : String) (query : List (String × String)) :
    (client.delete path query tenant?).Lasts client.HasTime := by
  refine .bind (lasts_join path) fun url => .bind (lasts_send _ _ _ _) fun reply => ?_
  split
  · exact .bind (lasts_waitForTask reply) fun _ => .pure ()
  · exact .pure ()

end Client

/-! ## Logins -/

namespace Login

/-- A call without deadlines. -/
abbrev Untimed (call : Call α) : Prop := call.Lasts fun _ => True

theorem untimed_post (settings : Settings) (path : String) (headers : List (String × String))
    (body : Body) : Untimed (post settings path headers body) := by
  refine .bind (.ofExcept fun _ _ => nofun) fun url => ?_
  refine .bind (.ofExcept fun _ _ => nofun) fun request => ?_
  refine .bind (.exchange request fun _ _ => trivial) fun reply => ?_
  split
  · exact .pure reply
  · exact .throw nofun

/-- The exchange of a refresh token never waits, so that the clock plays no part in it. -/
theorem untimed_refresh (settings : Settings) (refreshToken : String)
    (clientId? : Option String) : Untimed (refresh settings refreshToken clientId?) :=
  .bind (untimed_post _ _ _ _) fun reply => .decode _ reply

theorem untimed_readFile (decoder : Json.Decoder α) (path : String) :
    Untimed (readFile decoder path) := by
  intro net _
  refine ⟨trivial, ?_⟩
  simp only [readFile, Call.perform_of]
  split
  · exact nofun
  · split <;> exact nofun

theorem untimed_writeFile (path : String) (contents : Bytes) :
    Untimed (writeFile path contents) := by
  intro net _
  refine ⟨trivial, ?_⟩
  simp only [writeFile, Call.perform_of]
  split <;> exact nofun

/-- No login flow waits. -/
theorem untimed_token (settings : Settings) : Untimed (token settings) := by
  unfold token
  split
  · refine .bind (untimed_post _ _ _ _) fun reply => .ofExcept ?_
    intro error herror
    unfold accessToken at herror
    split at herror <;> cases herror
    exact nofun
  · exact .pure _
  · exact .bind (untimed_refresh _ _ _) fun _ => .pure _
  · refine .bind (untimed_readFile _ _) fun file => .bind (.ofExcept ?_) fun _ =>
      .bind (untimed_refresh _ _ _) fun _ => .pure _
    intro error herror
    unfold checkType at herror
    split at herror <;> cases herror
    exact nofun
  · refine .bind (untimed_readFile _ _) fun file => .bind (untimed_refresh _ _ _) fun grant => ?_
    split
    · exact .bind (untimed_writeFile _ _) fun _ => .pure _
    · exact .pure _

/-- Connecting never waits. -/
theorem untimed_connect (settings : Settings) : Untimed (Client.connect settings) :=
  .bind (untimed_token settings) fun _ => .pure _

end Login

end CloudTenancy
