import CloudTenancy.Proofs.Retry

/-!
CloudTenancy.Proofs.Trace — what calls send, one request after the other.

* `Step` — a request of a session, or a pause.
* `Client.follow` — the network after steps.
* `Client.reply` — what the request for an address comes to.
* `Client.Sent` — what the server sees of one request: copies of it, a further one only after the
  answer of a busy entity.
* `Client.Copies` — the requests that arrive when steps are followed, in the order of the steps.

A busy entity makes one step many requests. So the steps say what a call asks for, in order, and
`arrived_follow` says what the server sees of it.
-/

namespace CloudTenancy

/-- What a call does next. -/
inductive Step
  /-- Asks for something, again and again while the entity is busy. -/
  | ask (method : Method) (url : Url) (query : List (String × String)) (body : Body)
  | pause (duration : Nat)

/-- Asks for what is at an address. -/
def Step.get (url : Url) : Step := .ask .get url [] .empty

namespace Client

/-! ## Following steps -/

def after (client : Client) (tenant? : Option String) (net : Network) : Step → Network
  | .ask method url query body => ((client.send method url query body tenant?).perform net).2
  | .pause duration => net.wait duration

def follow (client : Client) (tenant? : Option String) (net : Network) (steps : List Step) :
    Network :=
  steps.foldl (client.after tenant?) net

@[simp] theorem follow_nil (client : Client) (tenant? : Option String) (net : Network) :
    client.follow tenant? net [] = net := rfl

@[simp] theorem follow_cons (client : Client) (tenant? : Option String) (net : Network)
    (step : Step) (steps : List Step) :
    client.follow tenant? net (step :: steps) =
      client.follow tenant? (client.after tenant? net step) steps := rfl

/-- Steps are followed one after the other. -/
theorem follow_append (client : Client) (tenant? : Option String) (net : Network)
    (steps more : List Step) :
    client.follow tenant? net (steps ++ more) =
      client.follow tenant? (client.follow tenant? net steps) more :=
  List.foldl_append

theorem perform_join_ok {client : Client} {path : String} {url : Url}
    (h : client.base.join path = .ok url) (net : Network) :
    (client.join path).perform net = (.ok url, net) :=
  Call.perform_ofExcept_ok h net

theorem perform_join_error {client : Client} {path : String} {error : UrlError}
    (h : client.base.join path = .error error) (net : Network) :
    (client.join path).perform net = (.error (.url error), net) :=
  Call.perform_ofExcept_error h net

/-- What the request for an address comes to. -/
def reply (client : Client) (tenant? : Option String) (url : Url) (net : Network) :
    Except ClientError Reply :=
  ((client.send .get url [] .empty tenant?).perform net).1

/-! ## Requests that arrive -/

/-- What the server sees of a request that is asked for: copies of it. One that is answered with a
success has arrived, and there is a further copy only after the answer of a busy entity. A request
that cannot be built does not arrive. -/
structure Sent (client : Client) (tenant? : Option String) (net : Network) (method : Method)
    (url : Url) (query : List (String × String)) (body : Body) (copies : List Request) : Prop where
  built : ∀ request ∈ copies, client.request method url query body tenant? = .ok request
  answered : ∀ reply, ((client.send method url query body tenant?).perform net).1 = .ok reply →
    copies ≠ []
  refused : ∀ request ∈ copies, ∀ i, i + 1 < copies.length →
    refuses (net.scripted request i) = true

/-- The requests that arrive while steps are followed: the copies of what is asked for, in order. -/
inductive Copies (client : Client) (tenant? : Option String) :
    Network → List Step → List Request → Prop
  | nil {net : Network} : Copies client tenant? net [] []
  | pause {net : Network} {duration : Nat} {steps : List Step} {requests : List Request} :
    Copies client tenant? (net.wait duration) steps requests →
    Copies client tenant? net (.pause duration :: steps) requests
  | ask {net : Network} {method : Method} {url : Url} {query : List (String × String)}
      {body : Body} {steps : List Step} {copies requests : List Request} :
    client.Sent tenant? net method url query body copies →
    Copies client tenant? (client.after tenant? net (.ask method url query body)) steps requests →
    Copies client tenant? net (.ask method url query body :: steps) (copies ++ requests)

/-- Attempts are copies of one request, and all but the last one find a busy entity. -/
theorem arrived_attempt (client : Client) (deadline : Nat) (request : Request) (net : Network) :
    ∃ n, (client.attempt deadline request net).2.arrived =
        net.arrived ++ List.replicate n request ∧
      (∀ reply, (client.attempt deadline request net).1 = .ok reply → 0 < n) ∧
      ∀ i, i + 1 < n → refuses (net.scripted request i) = true := by
  obtain ⟨n, hrefused, harrived, hresult⟩ := client.attempt_settles deadline request net
  rw [Network.arrivals] at harrived
  split at harrived
  · exact ⟨n + 1, harrived, fun _ _ => Nat.succ_pos n, fun i hi => hrefused i (by omega)⟩
  · rename_i hundelivered
    refine ⟨0, harrived, ?_, fun i hi => absurd hi (by omega)⟩
    intro reply hok
    rw [hok, Network.scripted, if_neg hundelivered] at hresult
    simp [settle] at hresult

/-- Nothing need arrive of a request that fails. -/
theorem Sent.of_error {client : Client} {tenant? : Option String} {net : Network}
    {method : Method} {url : Url} {query : List (String × String)} {body : Body}
    {error : ClientError}
    (h : ((client.send method url query body tenant?).perform net).1 = .error error) :
    client.Sent tenant? net method url query body [] where
  built := by simp
  answered := by
    intro reply hreply
    rw [h] at hreply
    cases hreply
  refused := by simp

/-- What arrives of a request are copies of it, as many as there were attempts. -/
theorem arrived_send (client : Client) (method : Method) (url : Url)
    (query : List (String × String)) (body : Body) (tenant? : Option String) (net : Network) :
    ∃ copies, ((client.send method url query body tenant?).perform net).2.arrived =
        net.arrived ++ copies ∧
      client.Sent tenant? net method url query body copies := by
  cases hsend : (client.send method url query body tenant?).perform net with
  | mk result net' =>
    have hperform := hsend
    simp only [send, Call.perform_of] at hperform
    split at hperform
    · cases hperform
      exact ⟨[], by simp, .of_error (congrArg Prod.fst hsend)⟩
    · rename_i deadline _
      cases hbuilt : client.request method url query body tenant? with
      | error error =>
        rw [hbuilt] at hperform
        cases hperform
        exact ⟨[], by simp, .of_error (congrArg Prod.fst hsend)⟩
      | ok built =>
        rw [hbuilt] at hperform
        obtain ⟨n, harrived, hanswered, hrefused⟩ := arrived_attempt client deadline built net
        have hattempt : client.attempt deadline built net = (result, net') := hperform
        rw [hattempt] at harrived hanswered
        refine ⟨List.replicate n built, harrived, ?_, ?_, ?_⟩
        · intro request hmem
          rw [List.eq_of_mem_replicate hmem, hbuilt]
        · intro reply hreply hnone
          rw [hsend] at hreply
          have hpos := hanswered reply hreply
          rw [List.replicate_eq_nil_iff] at hnone
          omega
        · intro request hmem i hi
          rw [List.length_replicate] at hi
          rw [List.eq_of_mem_replicate hmem]
          exact hrefused i hi

/-- Following steps sends what they ask for and nothing else. -/
theorem arrived_follow (client : Client) (tenant? : Option String) (steps : List Step)
    (net : Network) :
    ∃ requests, (client.follow tenant? net steps).arrived = net.arrived ++ requests ∧
      Copies client tenant? net steps requests := by
  induction steps generalizing net with
  | nil => exact ⟨[], by simp, .nil⟩
  | cons step steps ih =>
    obtain ⟨requests, harrived, hcopies⟩ := ih (client.after tenant? net step)
    cases step with
    | pause duration => exact ⟨requests, harrived, .pause hcopies⟩
    | ask method url query body =>
      obtain ⟨copies, hsent, hbuilt⟩ := arrived_send client method url query body tenant? net
      refine ⟨copies ++ requests, ?_, .ask hbuilt hcopies⟩
      rw [follow_cons, harrived, after, hsent, List.append_assoc]

/-- A request that arrives is one that was asked for. -/
theorem Copies.asked {client : Client} {tenant? : Option String} {net : Network}
    {steps : List Step} {requests : List Request} (h : Copies client tenant? net steps requests)
    {request : Request} (hmem : request ∈ requests) :
    ∃ method url query body, Step.ask method url query body ∈ steps ∧
      client.request method url query body tenant? = .ok request := by
  induction h with
  | nil => simp at hmem
  | pause _ ih =>
    obtain ⟨method, url, query, body, hstep, hbuilt⟩ := ih hmem
    exact ⟨method, url, query, body, List.mem_cons_of_mem _ hstep, hbuilt⟩
  | ask hsent _ ih =>
    rcases List.mem_append.1 hmem with hcopy | hlater
    · exact ⟨_, _, _, _, List.mem_cons_self, hsent.built request hcopy⟩
    · obtain ⟨method, url, query, body, hstep, hbuilt⟩ := ih hlater
      exact ⟨method, url, query, body, List.mem_cons_of_mem _ hstep, hbuilt⟩

end Client

end CloudTenancy
