import CloudTenancy.Client.Entity

/-!
CloudTenancy.Proofs.Retry — what becomes of a request whose entity is busy.

* `Network.scripted` — the outcome that the script holds for the attempt of a number.
* `Network.retried` — the network after attempts that were each followed by a pause.
* `Network.arrivals` — the copies of a request that reach the server.
* `Client.settle` — what one attempt comes to, `Client.refuses` whether it found a busy entity.
* `Client.Attempted` — a request attempted once and then again a number of times.
* `Client.Settles` — what a request comes to, told by one of its attempts.

The deadline is read off the clock once, before the first attempt. The clock moves by the pauses
only, so attempt `i` starts `i` pauses after the first one, and the script decides what it comes
to. `attempt_eq_retried` follows the loop for any number of busy answers, `attempt_eq_of_refused` to
the attempt it stops at; the rest is arithmetic on pauses.

Main statement: `send_retries_busy`, the number of attempts that a request gets and the answer it
ends with.
-/

namespace CloudTenancy

/-! ## The script -/

/-- What a request comes to that meets an answer. -/
def Answer.outcome (answer : Answer) (request : Request) : Except HttpError Reply :=
  match answer.reply? with
  | some reply => .ok reply
  | none => .error (.sending request.url.text)

namespace Network

/-- The outcome that the script holds for attempt `i` of a request. The server fails when the
script is used up, and what is not delivered uses up nothing. -/
def scripted (net : Network) (request : Request) (i : Nat) : Except HttpError Reply :=
  if net.reachable then
    match net.answers[i]? with
    | some answer => answer.outcome request
    | none => .ok exhausted
  else .error (.sending request.url.text)

/-- The network after `n` attempts, each with a pause behind it. -/
def retried (net : Network) (request : Request) (pause : Nat) : Nat → Network
  | 0 => net
  | n + 1 => ((net.exchange request).2.wait pause).retried request pause n

/-- The copies of a request that reach the server in `n` attempts. -/
def arrivals (net : Network) (request : Request) (n : Nat) : List Request :=
  if net.reachable then List.replicate n request else []

@[simp] theorem now_wait (net : Network) (duration : Nat) :
    (net.wait duration).now = net.now + duration := rfl

@[simp] theorem arrived_wait (net : Network) (duration : Nat) :
    (net.wait duration).arrived = net.arrived := rfl

@[simp] theorem answers_wait (net : Network) (duration : Nat) :
    (net.wait duration).answers = net.answers := rfl

@[simp] theorem reachable_wait (net : Network) (duration : Nat) :
    (net.wait duration).reachable = net.reachable := rfl

theorem scripted_wait (net : Network) (duration : Nat) (request : Request) (i : Nat) :
    (net.wait duration).scripted request i = net.scripted request i := rfl

theorem arrivals_wait (net : Network) (duration : Nat) (request : Request) (n : Nat) :
    (net.wait duration).arrivals request n = net.arrivals request n := rfl

/-! ### One exchange -/

/-- An exchange comes to what the script says first. -/
theorem exchange_fst (net : Network) (request : Request) :
    (net.exchange request).1 = net.scripted request 0 := by
  unfold exchange scripted
  split
  · cases net.answers with
    | nil => rfl
    | cons answer rest => rfl
  · rfl

@[simp] theorem reachable_exchange (net : Network) (request : Request) :
    (net.exchange request).2.reachable = net.reachable := by
  unfold exchange
  split
  · cases net.answers <;> rfl
  · rfl

@[simp] theorem now_exchange (net : Network) (request : Request) :
    (net.exchange request).2.now = net.now := by
  unfold exchange
  split
  · cases net.answers <;> rfl
  · rfl

/-- An exchange adds its request to those that have arrived, if the service can be reached. -/
theorem arrived_exchange (net : Network) (request : Request) :
    (net.exchange request).2.arrived = net.arrived ++ net.arrivals request 1 := by
  unfold exchange arrivals
  split
  · cases net.answers <;> rfl
  · simp

theorem answers_exchange (net : Network) (request : Request) :
    (net.exchange request).2.answers =
      if net.reachable then net.answers.drop 1 else net.answers := by
  unfold exchange
  split
  · cases net.answers with
    | nil => simp
    | cons answer rest => simp [receive]
  · rfl

/-- An exchange uses up the first outcome of the script. -/
theorem scripted_exchange (net : Network) (request : Request) (i : Nat) :
    (net.exchange request).2.scripted request i = net.scripted request (i + 1) := by
  unfold scripted
  rw [reachable_exchange, answers_exchange]
  split
  · rw [List.getElem?_drop, Nat.add_comm]
  · rfl

theorem arrivals_exchange (net : Network) (request : Request) (n : Nat) :
    (net.exchange request).2.arrivals request n = net.arrivals request n := by
  simp only [arrivals, reachable_exchange]

/-- A request that is repeated arrives as often as it is sent. -/
theorem arrivals_add (net : Network) (request : Request) (m n : Nat) :
    net.arrivals request (m + n) = net.arrivals request m ++ net.arrivals request n := by
  unfold arrivals
  split
  · exact List.replicate_append_replicate.symm
  · rfl

/-! ### Many exchanges -/

theorem retried_succ (net : Network) (request : Request) (pause n : Nat) :
    net.retried request pause (n + 1) =
      ((net.exchange request).2.wait pause).retried request pause n := rfl

/-- Every repetition is one pause later. -/
theorem now_retried (net : Network) (request : Request) (pause n : Nat) :
    (net.retried request pause n).now = net.now + n * pause := by
  induction n generalizing net with
  | zero => simp [retried]
  | succ n ih =>
    rw [retried_succ, ih, now_wait, now_exchange, Nat.succ_mul]
    omega

theorem reachable_retried (net : Network) (request : Request) (pause n : Nat) :
    (net.retried request pause n).reachable = net.reachable := by
  induction n generalizing net with
  | zero => rfl
  | succ n ih => rw [retried_succ, ih, reachable_wait, reachable_exchange]

theorem arrived_retried (net : Network) (request : Request) (pause n : Nat) :
    (net.retried request pause n).arrived = net.arrived ++ net.arrivals request n := by
  induction n generalizing net with
  | zero => simp [retried, arrivals]
  | succ n ih =>
    rw [retried_succ, ih, arrived_wait, arrived_exchange, arrivals_wait, arrivals_exchange,
      List.append_assoc, ← arrivals_add, Nat.add_comm 1 n]

/-- Behind the repetitions the script goes on where they have left it. -/
theorem scripted_retried (net : Network) (request : Request) (pause n i : Nat) :
    (net.retried request pause n).scripted request i = net.scripted request (n + i) := by
  induction n generalizing net with
  | zero => rw [retried, Nat.zero_add]
  | succ n ih => rw [retried_succ, ih, scripted_wait, scripted_exchange, Nat.succ_add]

end Network

/-! ## Attempts -/

namespace Client

/-- What an attempt comes to: a success, or the failure that it stands for. -/
def settle : Except HttpError Reply → Except ClientError Reply
  | .error error => .error (.http error)
  | .ok reply => if reply.status.isSuccess then .ok reply else .error (.ofReply reply)

/-- The answer of a busy entity: the service is unavailable, or the failure body says so. -/
def refuses : Except HttpError Reply → Bool
  | .error _ => false
  | .ok reply =>
    !reply.status.isSuccess &&
      (reply.status = .unavailable ||
        (ClientError.errorBody reply).minorErrorCode = "BUSY_ENTITY")

/-- A failure is taken for a busy entity exactly if its reply refuses. -/
theorem isBusy_ofReply {reply : Reply} (h : reply.status.isSuccess = false) :
    (ClientError.ofReply reply).isBusy = refuses (.ok reply) := by
  simp [refuses, h, ClientError.ofReply, ClientError.isBusy]

/-- A busy answer comes to a failure that says so. -/
theorem settle_of_refuses {attempt : Except HttpError Reply} (h : refuses attempt = true) :
    ∃ error, settle attempt = .error error ∧ error.isBusy = true := by
  cases attempt with
  | error error => simp [refuses] at h
  | ok reply =>
    cases hsuccess : reply.status.isSuccess with
    | true => simp [refuses, hsuccess] at h
    | false =>
      rw [← isBusy_ofReply hsuccess] at h
      exact ⟨.ofReply reply, by simp [settle, hsuccess], h⟩

/-- A server without answers is not busy. -/
theorem refuses_exhausted : refuses (.ok Network.exhausted) = false := by
  have h : (ClientError.ofReply Network.exhausted).isBusy = refuses (.ok Network.exhausted) :=
    isBusy_ofReply (by decide)
  rw [← h]
  exact not_isBusy_exhausted

/-- An attempt that finds no busy entity is the last one. -/
theorem attempt_of_settled {client : Client} {deadline : Nat} {request : Request} {net : Network}
    (h : refuses (net.scripted request 0) = false) :
    client.attempt deadline request net =
      (settle (net.scripted request 0), (net.exchange request).2) := by
  rw [← Network.exchange_fst] at h ⊢
  rw [attempt]
  split
  · rename_i error net' hexchange
    rw [hexchange]
    rfl
  · rename_i reply net' hexchange
    rw [hexchange] at h ⊢
    cases hsuccess : reply.status.isSuccess with
    | true => simp [settle, hsuccess]
    | false =>
      rw [← isBusy_ofReply hsuccess] at h
      simp [settle, hsuccess, h]

/-- After a busy answer the clock decides on the next attempt. -/
theorem attempt_of_busy {client : Client} {deadline : Nat} {request : Request} {net : Network}
    (h : refuses (net.scripted request 0) = true) :
    client.attempt deadline request net =
      match Clock.later? net.now client.retryPause with
      | none => (.error .clockOverflow, (net.exchange request).2)
      | some next =>
        if next ≤ deadline then
          client.attempt deadline request ((net.exchange request).2.wait client.retryPause)
        else (settle (net.scripted request 0), (net.exchange request).2) := by
  have hnow := Network.now_exchange net request
  rw [← Network.exchange_fst] at h ⊢
  rw [attempt]
  split
  · rename_i error net' hexchange
    rw [hexchange] at h
    simp [refuses] at h
  · rename_i reply net' hexchange
    rw [hexchange] at h hnow ⊢
    have hsuccess : reply.status.isSuccess = false := by
      cases hs : reply.status.isSuccess with
      | true => simp [refuses, hs] at h
      | false => rfl
    rw [← isBusy_ofReply hsuccess] at h
    rw [← hnow]
    cases Clock.later? net'.now client.retryPause <;> simp [settle, hsuccess, h]

/-- The next attempt follows, unless it would come after the deadline. -/
theorem attempt_of_refused {client : Client} {deadline : Nat} {request : Request} {net : Network}
    (h : refuses (net.scripted request 0) = true)
    (hclock : net.now + client.retryPause < Clock.bound) :
    client.attempt deadline request net =
      if net.now + client.retryPause ≤ deadline then
        client.attempt deadline request ((net.exchange request).2.wait client.retryPause)
      else (settle (net.scripted request 0), (net.exchange request).2) := by
  rw [attempt_of_busy h, Clock.later?, if_pos hclock]

/-- Without a time for the next attempt that the clock can show the call ends. -/
theorem attempt_past_clock {client : Client} {deadline : Nat} {request : Request} {net : Network}
    (h : refuses (net.scripted request 0) = true)
    (hclock : Clock.bound ≤ net.now + client.retryPause) :
    client.attempt deadline request net = (.error .clockOverflow, (net.exchange request).2) := by
  rw [attempt_of_busy h, Clock.later?, if_neg (Nat.not_lt.2 hclock)]

/-- The loop follows busy answers to attempt `n`, if that starts by the deadline. -/
theorem attempt_eq_retried {client : Client} {deadline : Nat} {request : Request}
    {net : Network} {n : Nat} (hbound : deadline < Clock.bound)
    (hin : net.now + n * client.retryPause ≤ deadline)
    (hbusy : ∀ i < n, refuses (net.scripted request i) = true) :
    client.attempt deadline request net =
      client.attempt deadline request (net.retried request client.retryPause n) := by
  induction n generalizing net with
  | zero => rfl
  | succ n ih =>
    rw [Nat.succ_mul] at hin
    have hnext : net.now + client.retryPause ≤ deadline := by omega
    rw [attempt_of_refused (hbusy 0 (Nat.succ_pos n)) (by omega), if_pos hnext, ih,
      Network.retried_succ]
    · rw [Network.now_wait, Network.now_exchange]
      omega
    · intro i hi
      rw [Network.scripted_wait, Network.scripted_exchange]
      exact hbusy (i + 1) (Nat.succ_lt_succ hi)

/-- The loop stops at that attempt if its answer is not busy or the attempt after it would come too
late. -/
theorem attempt_eq_of_refused {client : Client} {deadline : Nat} {request : Request}
    {net : Network} {n : Nat} (hbound : deadline < Clock.bound)
    (hin : net.now + n * client.retryPause ≤ deadline)
    (hbusy : ∀ i < n, refuses (net.scripted request i) = true)
    (hstop : refuses (net.scripted request n) = false ∨
      (deadline < net.now + (n + 1) * client.retryPause ∧
        net.now + (n + 1) * client.retryPause < Clock.bound)) :
    client.attempt deadline request net =
      (settle (net.scripted request n),
        ((net.retried request client.retryPause n).exchange request).2) := by
  have hnow := Network.now_retried net request client.retryPause n
  have hlast := Network.scripted_retried net request client.retryPause n 0
  rw [Nat.add_zero] at hlast
  rw [attempt_eq_retried hbound hin hbusy, ← hlast]
  rw [← hlast, Nat.succ_mul, ← Nat.add_assoc, ← hnow] at hstop
  cases hrefuses : refuses ((net.retried request client.retryPause n).scripted request 0) with
  | false => exact attempt_of_settled hrefuses
  | true =>
    obtain ⟨hlate, hclock⟩ := hstop.resolve_left (by simp [hrefuses])
    rw [attempt_of_refused hrefuses hclock, if_neg (Nat.not_le.2 hlate)]

/-! ## Requests of a session -/

def timeout (client : Client) : Nat := client.maxRetryTimeout * 1000

/-- A request was attempted once and then `n` times more. Each answer but the last one was busy
and had a pause behind it, and the last answer is what the call comes to. -/
structure Attempted (client : Client) (request : Request) (net : Network) (n : Nat)
    (ended : Except ClientError Reply × Network) : Prop where
  refused : ∀ i < n, refuses (net.scripted request i) = true
  result : ended.1 = settle (net.scripted request n)
  network : ended.2 = ((net.retried request client.retryPause n).exchange request).2
  arrived : ended.2.arrived = net.arrived ++ net.arrivals request (n + 1)
  now : ended.2.now = net.now + n * client.retryPause

theorem attempted_of_eq {client : Client} {request : Request} {net : Network} {n : Nat}
    {ended : Except ClientError Reply × Network}
    (hbusy : ∀ i < n, refuses (net.scripted request i) = true)
    (h : ended = (settle (net.scripted request n),
      ((net.retried request client.retryPause n).exchange request).2)) :
    Attempted client request net n ended := by
  subst h
  refine ⟨hbusy, rfl, rfl, ?_, ?_⟩
  · have hreachable := Network.reachable_retried net request client.retryPause n
    rw [Network.arrived_exchange, Network.arrived_retried, Network.arrivals_add,
      List.append_assoc]
    simp only [Network.arrivals, hreachable]
  · rw [Network.now_exchange, Network.now_retried]

/-- While the clock can show the deadline, what is sent is attempted up to it. -/
theorem send_of_request {client : Client} {method : Method} {url : Url}
    {query : List (String × String)} {body : Body} {tenant? : Option String} {net : Network}
    (hclock : net.now + client.timeout < Clock.bound) :
    (client.send method url query body tenant?).perform net =
      match client.request method url query body tenant? with
      | .error error => (.error (.http error), net)
      | .ok request => client.attempt (net.now + client.timeout) request net := by
  have hlater : Clock.later? net.now (client.maxRetryTimeout * 1000) =
      some (net.now + client.timeout) := if_pos hclock
  cases hbuilt : client.request method url query body tenant? with
  | error error => simp only [send, Call.perform_of, hlater, hbuilt]
  | ok request => simp only [send, Call.perform_of, hlater, hbuilt]

/-- An answer that finds no busy entity is the end of a request. -/
theorem send_of_settled {client : Client} {method : Method} {url : Url}
    {query : List (String × String)} {body : Body} {tenant? : Option String} {net : Network}
    {request : Request} (hclock : net.now + client.timeout < Clock.bound)
    (hrequest : client.request method url query body tenant? = .ok request)
    (hsettled : refuses (net.scripted request 0) = false) :
    (client.send method url query body tenant?).perform net =
      (settle (net.scripted request 0), (net.exchange request).2) := by
  rw [send_of_request hclock, hrequest]
  exact attempt_of_settled hsettled

/-- Without a deadline that the clock can show a call ends before anything is sent. -/
theorem send_past_clock {client : Client} {method : Method} {url : Url}
    {query : List (String × String)} {body : Body} {tenant? : Option String} {net : Network}
    (hclock : Clock.bound ≤ net.now + client.timeout) :
    (client.send method url query body tenant?).perform net = (.error .clockOverflow, net) := by
  have hlater : Clock.later? net.now (client.maxRetryTimeout * 1000) = none :=
    if_neg (Nat.not_lt.2 hclock)
  simp only [send, Call.perform_of, hlater]

/-- What a request comes to: one of its attempts decides, the first one that finds no busy entity or
a busy one that is not tried again. Otherwise there is no attempt, or no clock shows the next
one. -/
inductive Settles (client : Client) (tenant? : Option String) (net : Network) (method : Method)
    (url : Url) (query : List (String × String)) (body : Body) : Except ClientError Reply → Prop
  | overflow : Settles client tenant? net method url query body (.error .clockOverflow)
  | unbuilt {error : HttpError} :
    client.request method url query body tenant? = .error error →
    Settles client tenant? net method url query body (.error (.http error))
  | settled {request : Request} (n : Nat) :
    client.request method url query body tenant? = .ok request →
    (∀ i < n, refuses (net.scripted request i) = true) →
    Settles client tenant? net method url query body (settle (net.scripted request n))

/-- Attempts find a busy entity up to the last one, and that one decides unless no clock shows the
next one. All of them arrive, if the server can be reached. -/
theorem attempt_settles (client : Client) (deadline : Nat) (request : Request) (net : Network) :
    ∃ n, (∀ i < n, refuses (net.scripted request i) = true) ∧
      (client.attempt deadline request net).2.arrived =
        net.arrived ++ net.arrivals request (n + 1) ∧
      ((client.attempt deadline request net).1 = .error .clockOverflow ∨
        (client.attempt deadline request net).1 = settle (net.scripted request n)) := by
  have hlast : ∀ {net net' : Network} {outcome : Except HttpError Reply}
      (result : Except ClientError Reply), net.exchange request = (outcome, net') →
      result = .error .clockOverflow ∨ result = settle outcome →
      ∃ n, (∀ i < n, refuses (net.scripted request i) = true) ∧
        net'.arrived = net.arrived ++ net.arrivals request (n + 1) ∧
        (result = .error .clockOverflow ∨ result = settle (net.scripted request n)) := by
    intro net net' outcome result hexchange hresult
    have harrived := net.arrived_exchange request
    have hscripted := net.exchange_fst request
    rw [hexchange] at harrived hscripted
    exact ⟨0, fun i hi => absurd hi (Nat.not_lt_zero i), harrived, hscripted ▸ hresult⟩
  fun_induction attempt client deadline request net with
  | case1 net error net' hexchange => exact hlast _ hexchange (.inr rfl)
  | case2 net reply net' hexchange hsuccess =>
    exact hlast _ hexchange (.inr (if_pos hsuccess).symm)
  | case3 net reply net' hexchange => exact hlast _ hexchange (.inl rfl)
  | case4 net reply net' hexchange hfailure error hbusy next hnext hin ih =>
    obtain ⟨n, hrefused, harrived, hresult⟩ := ih
    have hnet' : net' = (net.exchange request).2 := by rw [hexchange]
    subst hnet'
    -- A busy answer in front moves the script on by one.
    refine ⟨n + 1, ?_, ?_, ?_⟩
    · intro i hi
      cases i with
      | zero =>
        rw [← Network.exchange_fst, hexchange, ← isBusy_ofReply (by simpa using hfailure)]
        exact hbusy
      | succ i =>
        rw [← Network.scripted_exchange]
        exact hrefused i (by omega)
    · rw [harrived, Network.arrived_wait, Network.arrived_exchange, Network.arrivals_wait,
        Network.arrivals_exchange, List.append_assoc, ← Network.arrivals_add, Nat.add_comm 1]
    · rwa [Network.scripted_wait, Network.scripted_exchange] at hresult
  | case5 net reply net' hexchange hfailure =>
    exact hlast _ hexchange (.inr (if_neg hfailure).symm)
  | case6 net reply net' hexchange hfailure =>
    exact hlast _ hexchange (.inr (if_neg hfailure).symm)

/-- Whatever is sent, it comes to one of the ends that are told apart. -/
theorem send_settles (client : Client) (method : Method) (url : Url)
    (query : List (String × String)) (body : Body) (tenant? : Option String) (net : Network) :
    Settles client tenant? net method url query body
      ((client.send method url query body tenant?).perform net).1 := by
  rcases Nat.lt_or_ge (net.now + client.timeout) Clock.bound with hclock | hclock
  · rw [send_of_request hclock]
    cases hbuilt : client.request method url query body tenant? with
    | error error => exact .unbuilt hbuilt
    | ok request =>
      obtain ⟨n, hrefused, -, hoverflow | hresult⟩ :=
        attempt_settles client (net.now + client.timeout) request net
      · simp only [hoverflow]
        exact .overflow
      · simp only [hresult]
        exact .settled n hbuilt hrefused
  · rw [send_past_clock hclock]
    exact .overflow

/-- **Busy retry.** A script of `k` busy answers and then another one: the request is attempted
until that answer, or as long as an attempt can start by the deadline. A request that cannot be
built is not sent at all. The clock has to show the deadline, and also the first attempt after it
where that one is considered. -/
theorem send_retries_busy {client : Client} {method : Method} {url : Url}
    {query : List (String × String)} {body : Body} {tenant? : Option String} {net : Network}
    {k : Nat} (hpause : 0 < client.retryPause)
    (hclock : net.now + client.timeout < Clock.bound)
    (hnext : client.timeout < k * client.retryPause →
      net.now + (client.timeout / client.retryPause + 1) * client.retryPause < Clock.bound) :
    (∀ error, client.request method url query body tenant? = .error error →
      (client.send method url query body tenant?).perform net = (.error (.http error), net)) ∧
    ∀ request, client.request method url query body tenant? = .ok request →
      (∀ i < k, refuses (net.scripted request i) = true) →
      refuses (net.scripted request k) = false →
      (k * client.retryPause ≤ client.timeout →
        Attempted client request net k
          ((client.send method url query body tenant?).perform net)) ∧
      (client.timeout < k * client.retryPause →
        Attempted client request net (client.timeout / client.retryPause)
          ((client.send method url query body tenant?).perform net) ∧
        (∃ error, ((client.send method url query body tenant?).perform net).1 = .error error ∧
          error.isBusy = true) ∧
        client.timeout / client.retryPause * client.retryPause ≤ client.timeout) := by
  rw [send_of_request hclock]
  refine ⟨?_, ?_⟩
  · intro error herror
    rw [herror]
  intro request hrequest hbusy hsettled
  rw [hrequest]
  refine ⟨?_, ?_⟩
  · intro hin
    exact attempted_of_eq hbusy (attempt_eq_of_refused hclock (by omega) hbusy (.inl hsettled))
  · intro hlate
    -- The attempts end with the last one that the deadline allows, and its answer is still busy.
    have hlast : client.timeout / client.retryPause < k :=
      (Nat.div_lt_iff_lt_mul hpause).2 hlate
    have hpauses := Nat.div_mul_le_self client.timeout client.retryPause
    have hover : client.timeout < (client.timeout / client.retryPause + 1) * client.retryPause :=
      Nat.lt_mul_of_div_lt (Nat.lt_succ_self _) hpause
    have hbefore : ∀ i < client.timeout / client.retryPause,
        refuses (net.scripted request i) = true :=
      fun i hi => hbusy i (Nat.lt_trans hi hlast)
    have hended := attempt_eq_of_refused hclock (by omega) hbefore (.inr ⟨by omega, hnext hlate⟩)
    refine ⟨attempted_of_eq hbefore hended, ?_, hpauses⟩
    simp only [hended]
    exact settle_of_refuses (hbusy _ hlast)

/-! ## Samples -/

/-- A session with a token and a time to wait for busy entities, in seconds. -/
def sample (token : String) (maxRetryTimeout : Nat) : Client where
  base := { scheme := "http", authority? := some { host := .domain "h" }, path := .segments [""] }
  token := token
  maxRetryTimeout := maxRetryTimeout
  importSeparator := "."

def sampleRequest (token : String) : Request where
  method := .get
  url := (sample token 0).base
  headers := [("accept", accept), ("authorization", Request.bearer token),
    ("user-agent", Request.userAgent)]
  body := .empty

/-- A service that has some replies to give. -/
def answering (replies : List Reply) : Network where
  answers := replies.map fun reply => ⟨some reply, none⟩

/-- Methods and addresses of the requests that have arrived. -/
def log (net : Network) : List (Method × String) :=
  net.arrived.map fun request => (request.method, request.url.text)

def unavailable (n : Nat) : Network where
  answers := List.replicate n ⟨some { status := .unavailable }, none⟩

/-- Two busy answers, and three seconds to wait: the second attempt is the last one. -/
theorem send_gives_up_after_second_attempt :
    Attempted (sample "t" 3) (sampleRequest "t") (unavailable 2) 1
        (((sample "t" 3).send .get (sample "t" 3).base [] .empty none).perform (unavailable 2)) ∧
      ∃ error,
        (((sample "t" 3).send .get (sample "t" 3).base [] .empty none).perform
          (unavailable 2)).1 = .error error ∧ error.isBusy = true := by
  have hbusy : ∀ i < 2, refuses ((unavailable 2).scripted (sampleRequest "t") i) = true := by
    decide +kernel
  have hsettled : refuses ((unavailable 2).scripted (sampleRequest "t") 2) = false :=
    refuses_exhausted
  obtain ⟨hended, herror, -⟩ :=
    ((@send_retries_busy (sample "t" 3) .get (sample "t" 3).base [] .empty none (unavailable 2) 2
      (by decide) (by decide) (by decide)).2 (sampleRequest "t") rfl hbusy hsettled).2 (by decide)
  exact ⟨hended, herror⟩

def ready : Network where
  answers := [⟨some {}, none⟩]

/-- With a token that no header can hold nothing is sent, though the service would answer at once
with a success; and nothing is sent either if no clock can show the deadline. -/
theorem send_sends_nothing :
    ready.scripted (sampleRequest "a\nb") 0 = .ok {} ∧ refuses (.ok {}) = false ∧
      0 < (sample "a\nb" 60).retryPause ∧
      0 * (sample "a\nb" 60).retryPause ≤ (sample "a\nb" 60).timeout ∧
      ((sample "a\nb" 60).send .get (sample "a\nb" 60).base [] .empty none).perform ready =
        (.error (.http (.builder none)), ready) ∧
      ((sample "t" (Nat.pow 2 64 - 1)).send .get (sample "t" 0).base [] .empty none).perform
          ready = (.error .clockOverflow, ready) := by
  refine ⟨rfl, rfl, by decide, by decide, ?_, send_past_clock (by decide)⟩
  rw [send_of_request (by decide)]
  rfl

end Client

end CloudTenancy
