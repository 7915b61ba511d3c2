import CloudTenancy.Proofs.Trace

/-!
CloudTenancy.Proofs.Tasks — what a change sends, from its own request to the last look at its task.

* `Change` — a change of an entity: its request, what an immediate reply comes to, and what is left
  to do when a task has ended well. `Change.creation`, `Change.replacement` and `Change.removal`
  are those of the service.
* `Client.looks` — looks at a task that goes on, each with a pause behind it.
* `Client.Awaits` — the ways in which the wait for a task ends, with the steps of each.
* `Change.Runs` — the ways in which a change ends, with the steps of each.
* `Change.Follows` — every run of a call is one of these.

The wait has no bound of its own: `exists_polls` goes by induction on the answers that are left and
collects the looks at the unfinished task in front of the last one.

Main statement: `changes_follow_tasks`.
-/

namespace CloudTenancy

variable {α : Type}

/-- An entity as a reply holds it. -/
def received (decoder : Json.Decoder α) (reply : Reply) : Except ClientError α :=
  (reply.decode decoder).mapError .http

theorem received_ok {decoder : Json.Decoder α} {reply : Reply} {entity : α}
    (h : reply.decode decoder = .ok entity) : received decoder reply = .ok entity := by
  rw [received, h]
  rfl

theorem received_error {decoder : Json.Decoder α} {reply : Reply} {error : HttpError}
    (h : reply.decode decoder = .error error) :
    received decoder reply = .error (.http error) := by
  rw [received, h]
  rfl

theorem decode_of_received {decoder : Json.Decoder α} {reply : Reply} {entity : α}
    (h : received decoder reply = .ok entity) : reply.decode decoder = .ok entity := by
  cases hdecode : reply.decode decoder with
  | error error =>
    rw [received_error hdecode] at h
    cases h
  | ok other =>
    rw [received_ok hdecode] at h
    cases h
    rfl

/-- Only the body of a reply counts for the entity it holds, not its status. -/
theorem received_congr (decoder : Json.Decoder α) {first second : Reply}
    (hbody : first.body = second.body) (hcut : first.isCut = second.isCut) :
    received decoder first = received decoder second := by
  simp only [received, Reply.decode, hbody, hcut]

/-! ## Waiting for a task -/

namespace Client

/-- Looks at a task, each with a pause behind it. -/
def looks (client : Client) (url : Url) : Nat → List Step
  | 0 => []
  | n + 1 => .get url :: .pause client.pollInterval :: client.looks url n

def look (client : Client) (tenant? : Option String) (url : Url) (net : Network) :
    Except ClientError Task :=
  (client.reply tenant? url net).bind (received Task.decoder)

/-- The task goes on at each of the first `n` looks. -/
def GoesOn (client : Client) (tenant? : Option String) (url : Url) (net : Network) (n : Nat) :
    Prop :=
  ∀ i < n, ∃ task,
    client.look tenant? url (client.follow tenant? net (client.looks url i)) = .ok task ∧
      task.status ≠ "success" ∧ task.status ≠ "error" ∧ task.status ≠ "aborted"

/-- How the looks at a task end: the last one fails, or it shows a task that has come to its end.
The steps are those of the looks, and no pause follows the last one. -/
inductive Polls (client : Client) (tenant? : Option String) (url : Url) (net : Network) :
    List Step → Except ClientError Task → Prop
  /-- The look is not answered by a task. -/
  | lost (n : Nat) {error : ClientError} :
    client.GoesOn tenant? url net n →
    client.look tenant? url (client.follow tenant? net (client.looks url n)) = .error error →
    Polls client tenant? url net (client.looks url n ++ [.get url]) (.error error)
  | failed (n : Nat) {task : Task} :
    client.GoesOn tenant? url net n →
    client.look tenant? url (client.follow tenant? net (client.looks url n)) = .ok task →
    task.status = "error" ∨ task.status = "aborted" →
    Polls client tenant? url net (client.looks url n ++ [.get url])
      (.error (.task task.id task.failureMessage))
  | succeeded (n : Nat) {task : Task} :
    client.GoesOn tenant? url net n →
    client.look tenant? url (client.follow tenant? net (client.looks url n)) = .ok task →
    task.status = "success" →
    Polls client tenant? url net (client.looks url n ++ [.get url]) (.ok task)

/-- How the wait ends that an accepting reply asks for. Without an address nothing is sent. -/
inductive Awaits (client : Client) (tenant? : Option String) (reply : Reply) (net : Network) :
    List Step → Except ClientError Task → Prop
  /-- The reply does not tell, in visible characters, where the task is. -/
  | unlocated :
    reply.header? "location" = none →
    Awaits client tenant? reply net []
      (.error (.task "" "accepted without a task location"))
  | unjoined {location : String} {error : UrlError} :
    reply.header? "location" = some location →
    client.base.join location = .error error →
    Awaits client tenant? reply net [] (.error (.url error))
  | polled {location : String} {url : Url} {steps : List Step}
      {result : Except ClientError Task} :
    reply.header? "location" = some location →
    client.base.join location = .ok url →
    Polls client tenant? url net steps result →
    Awaits client tenant? reply net steps result

/-! ### The loop -/

/-- A task has come to its end by success or by one of two failures. -/
theorem isFinished_iff (task : Task) :
    task.isFinished = true ↔
      task.status = "success" ∨ task.status = "error" ∨ task.status = "aborted" := by
  simp [Task.isFinished, or_assoc]

theorem taskResult_of_success {task : Task} (h : task.status = "success") :
    taskResult task = .ok task := by
  simp [taskResult, Task.isSuccess, h]

theorem taskResult_of_failure {task : Task} (h : task.status = "error" ∨ task.status = "aborted") :
    taskResult task = .error (.task task.id task.failureMessage) := by
  rcases h with h | h <;> simp [taskResult, Task.isSuccess, h]

/-- One turn of the loop. -/
theorem poll_eq (client : Client) (url : Url) (tenant? : Option String) (net : Network) :
    client.poll url tenant? net =
      match client.look tenant? url net with
      | .error error => (.error error, client.follow tenant? net [.get url])
      | .ok task =>
        if task.isFinished then (taskResult task, client.follow tenant? net [.get url])
        else client.poll url tenant? (client.follow tenant? net (client.looks url 1)) := by
  rw [poll]
  split
  · rename_i error net' hsend
    simp [look, reply, hsend, Except.bind, Step.get, after]
  · rename_i reply net' hsend
    have hlook : client.look tenant? url net = received Task.decoder reply := by
      simp [look, Client.reply, hsend, Except.bind]
    rw [hlook]
    cases hbody : reply.decode Task.decoder with
    | error error =>
      rw [received_error hbody]
      simp [Step.get, after, hsend]
    | ok task =>
      rw [received_ok hbody]
      simp [looks, Step.get, after, hsend]

/-- A task that has come to its end is not looked at again. -/
theorem poll_of_finished {client : Client} {url : Url} {tenant? : Option String} {net : Network}
    {task : Task} (hlook : client.look tenant? url net = .ok task)
    (hfinished : task.isFinished = true) :
    client.poll url tenant? net = (taskResult task, client.follow tenant? net [.get url]) := by
  rw [poll_eq, hlook]
  exact if_pos hfinished

/-- Unfinished looks lead the loop to where they end. -/
theorem GoesOn.poll {client : Client} {tenant? : Option String} {url : Url} {net : Network}
    {n : Nat} (h : client.GoesOn tenant? url net n) :
    client.poll url tenant? net =
      client.poll url tenant? (client.follow tenant? net (client.looks url n)) := by
  induction n generalizing net with
  | zero => rfl
  | succ n ih =>
    obtain ⟨task, hlook, hstatus⟩ := h 0 (Nat.succ_pos n)
    have hrest : client.GoesOn tenant? url (client.follow tenant? net (client.looks url 1)) n :=
      fun i hi => h (i + 1) (Nat.succ_lt_succ hi)
    have hunfinished : ¬ task.isFinished = true := by
      rw [isFinished_iff, not_or, not_or]
      exact hstatus
    rw [poll_eq]
    simp only [looks, follow_nil] at hlook
    rw [hlook]
    simp only [if_neg hunfinished]
    exact ih hrest

/-- What the looks come to is what the loop comes to. -/
theorem Polls.poll {client : Client} {tenant? : Option String} {url : Url} {net : Network}
    {steps : List Step} {result : Except ClientError Task}
    (h : Polls client tenant? url net steps result) :
    client.poll url tenant? net = (result, client.follow tenant? net steps) := by
  cases h with
  | lost n hon hlook =>
    rw [hon.poll, poll_eq, hlook, follow_append]
  | failed n hon hlook hstatus =>
    rw [hon.poll, poll_of_finished hlook ((isFinished_iff _).2 (.inr hstatus)),
      taskResult_of_failure hstatus, follow_append]
  | succeeded n hon hlook hstatus =>
    rw [hon.poll, poll_of_finished hlook ((isFinished_iff _).2 (.inl hstatus)),
      taskResult_of_success hstatus, follow_append]

/-- One more unfinished look in front. -/
theorem Polls.cons {client : Client} {tenant? : Option String} {url : Url} {net : Network}
    {task : Task} {steps : List Step} {result : Except ClientError Task}
    (hlook : client.look tenant? url net = .ok task) (hstatus : ¬ task.isFinished = true)
    (h : Polls client tenant? url (client.follow tenant? net (client.looks url 1)) steps result) :
    Polls client tenant? url net (client.looks url 1 ++ steps) result := by
  have hmore : ∀ n,
      client.GoesOn tenant? url (client.follow tenant? net (client.looks url 1)) n →
      client.GoesOn tenant? url net (n + 1) := by
    intro n hon i hi
    cases i with
    | zero =>
      rw [isFinished_iff, not_or, not_or] at hstatus
      exact ⟨task, hlook, hstatus⟩
    | succ i => exact hon i (Nat.lt_of_succ_lt_succ hi)
  cases h with
  | lost n hon hend => exact .lost (n + 1) (hmore n hon) hend
  | failed n hon hend hfailed => exact .failed (n + 1) (hmore n hon) hend hfailed
  | succeeded n hon hend hok => exact .succeeded (n + 1) (hmore n hon) hend hok

/-- Every look uses up an answer. -/
theorem length_answers_look {client : Client} {tenant? : Option String} {url : Url}
    {net : Network} {task : Task} (hlook : client.look tenant? url net = .ok task) :
    (client.follow tenant? net (client.looks url 1)).answers.length < net.answers.length := by
  cases hsend : (client.send .get url [] .empty tenant?).perform net with
  | mk result net' =>
    cases result with
    | error error => simp [look, Client.reply, hsend, Except.bind] at hlook
    | ok reply =>
      have hlt := (send_ok hsend).2
      simpa [looks, Step.get, after, hsend] using hlt

/-- A wait comes to an end, since every look uses up an answer. -/
theorem exists_polls (client : Client) (url : Url) (tenant? : Option String) (net : Network) :
    ∃ steps result, Polls client tenant? url net steps result := by
  induction hlength : net.answers.length using Nat.strongRecOn generalizing net with
  | ind length ih =>
    have hnone : client.GoesOn tenant? url net 0 := fun i hi => absurd hi (Nat.not_lt_zero i)
    cases hlook : client.look tenant? url net with
    | error error => exact ⟨_, _, .lost 0 hnone hlook⟩
    | ok task =>
      by_cases hfinished : task.isFinished = true
      · rcases (isFinished_iff task).1 hfinished with hok | hfailed
        · exact ⟨_, _, .succeeded 0 hnone hlook hok⟩
        · exact ⟨_, _, .failed 0 hnone hlook hfailed⟩
      · have hlt := length_answers_look hlook
        obtain ⟨steps, result, hpolls⟩ := ih _ (hlength ▸ hlt) _ rfl
        exact ⟨_, _, hpolls.cons hlook hfinished⟩

theorem taskLocation_of_header {reply : Reply} {location : String}
    (h : reply.header? "location" = some location) : taskLocation reply = .ok location := by
  simp only [taskLocation, h]

/-- The wait that a reply asks for is what the call comes to. -/
theorem Awaits.perform {client : Client} {tenant? : Option String} {reply : Reply}
    {net : Network} {steps : List Step} {result : Except ClientError Task}
    (h : Awaits client tenant? reply net steps result) :
    (client.waitForTask reply tenant?).perform net =
      (result, client.follow tenant? net steps) := by
  unfold waitForTask
  cases h with
  | unlocated hheader =>
    have hlocation : taskLocation reply =
        .error (.task "" "accepted without a task location") := by
      simp only [taskLocation, hheader]
    rw [Call.perform_bind_of_error (Call.perform_ofExcept_error hlocation net)]
    rfl
  | unjoined hheader hjoin =>
    rw [Call.perform_bind_of_ok (Call.perform_ofExcept_ok (taskLocation_of_header hheader) net),
      Call.perform_bind_of_error (perform_join_error hjoin net)]
    rfl
  | polled hheader hjoin hpolls =>
    rw [Call.perform_bind_of_ok (Call.perform_ofExcept_ok (taskLocation_of_header hheader) net),
      Call.perform_bind_of_ok (perform_join_ok hjoin net), Call.perform_of]
    exact hpolls.poll

/-- The wait for a reply comes to an end, with a task or without. -/
theorem exists_awaits (client : Client) (tenant? : Option String) (reply : Reply)
    (net : Network) : ∃ steps result, Awaits client tenant? reply net steps result := by
  cases hheader : reply.header? "location" with
  | none => exact ⟨_, _, .unlocated hheader⟩
  | some location =>
    cases hjoin : client.base.join location with
    | error error => exact ⟨_, _, .unjoined hheader hjoin⟩
    | ok url =>
      obtain ⟨steps, result, hpolls⟩ := exists_polls client url tenant? net
      exact ⟨steps, result, .polled hheader hjoin hpolls⟩

end Client

/-! ## Changes -/

/-- What is left to do when a task has ended well. -/
inductive Next (α : Type)
  | done (a : α)
  /-- The entity is read again. -/
  | fetch (path : String)

/-- A change of an entity. -/
structure Change (α : Type) where
  method : Method
  path : String
  query : List (String × String) := []
  body : Body := .empty
  /-- What a reply that holds the entity comes to. -/
  receive : Reply → Except ClientError α
  next : Task → Except ClientError (Next α)

namespace Change

/-- A new entity is read from below its collection, by the id of its task's owner. -/
def creation (decoder : Json.Decoder α) (path : String) (body : Json) : Change α where
  method := .post
  path := path
  body := .json body
  receive := received decoder
  next := fun task =>
    match task.owner? with
    | some owner => .ok (.fetch (Client.trimSlashes path ++ "/" ++ owner.id))
    | none => .error (.task task.id "task has no owner")

/-- A changed entity is read from where it was. -/
def replacement (decoder : Json.Decoder α) (path : String) (body : Json) : Change α where
  method := .put
  path := path
  body := .json body
  receive := received decoder
  next := fun _ => .ok (.fetch path)

/-- Nothing is left to read of an entity that has been removed. -/
def removal (path : String) (query : List (String × String)) : Change Unit where
  method := .delete
  path := path
  query := query
  receive := fun _ => .ok ()
  next := fun _ => .ok (.done ())

/-- The step of the change's own request. -/
def ask (change : Change α) (url : Url) : Step :=
  .ask change.method url change.query change.body

def send (change : Change α) (client : Client) (tenant? : Option String) (url : Url)
    (net : Network) : Except ClientError Reply × Network :=
  (client.send change.method url change.query change.body tenant?).perform net

/-- The ways in which a change ends, each with the steps that lead there. -/
inductive Runs (change : Change α) (client : Client) (tenant? : Option String) (net : Network) :
    List Step → Except ClientError α → Prop
  | unjoined {error : UrlError} :
    client.base.join change.path = .error error →
    Runs change client tenant? net [] (.error (.url error))
  | refused {url : Url} {net' : Network} {error : ClientError} :
    client.base.join change.path = .ok url →
    change.send client tenant? url net = (.error error, net') →
    Runs change client tenant? net [change.ask url] (.error error)
  /-- Carried out at once: there is no further request. -/
  | immediate {url : Url} {net' : Network} {reply : Reply} :
    client.base.join change.path = .ok url →
    change.send client tenant? url net = (.ok reply, net') →
    reply.status ≠ .accepted →
    Runs change client tenant? net [change.ask url] (change.receive reply)
  /-- The wait for the task fails. -/
  | unfinished {url : Url} {net' : Network} {reply : Reply} {steps : List Step}
      {error : ClientError} :
    client.base.join change.path = .ok url →
    change.send client tenant? url net = (.ok reply, net') →
    reply.status = .accepted →
    client.Awaits tenant? reply net' steps (.error error) →
    Runs change client tenant? net (change.ask url :: steps) (.error error)
  /-- The task does not tell what it was about. -/
  | unowned {url : Url} {net' : Network} {reply : Reply} {steps : List Step} {task : Task}
      {error : ClientError} :
    client.base.join change.path = .ok url →
    change.send client tenant? url net = (.ok reply, net') →
    reply.status = .accepted →
    client.Awaits tenant? reply net' steps (.ok task) →
    change.next task = .error error →
    Runs change client tenant? net (change.ask url :: steps) (.error error)
  | done {url : Url} {net' : Network} {reply : Reply} {steps : List Step} {task : Task} {a : α} :
    client.base.join change.path = .ok url →
    change.send client tenant? url net = (.ok reply, net') →
    reply.status = .accepted →
    client.Awaits tenant? reply net' steps (.ok task) →
    change.next task = .ok (.done a) →
    Runs change client tenant? net (change.ask url :: steps) (.ok a)
  /-- No address can be made of the path of the entity. -/
  | unfetched {url : Url} {net' : Network} {reply : Reply} {steps : List Step} {task : Task}
      {path : String} {error : UrlError} :
    client.base.join change.path = .ok url →
    change.send client tenant? url net = (.ok reply, net') →
    reply.status = .accepted →
    client.Awaits tenant? reply net' steps (.ok task) →
    change.next task = .ok (.fetch path) →
    client.base.join path = .error error →
    Runs change client tenant? net (change.ask url :: steps) (.error (.url error))
  /-- Read again, by one more request: what its reply holds is the result. -/
  | fetched {url target : Url} {net' : Network} {reply : Reply} {steps : List Step} {task : Task}
      {path : String} :
    client.base.join change.path = .ok url →
    change.send client tenant? url net = (.ok reply, net') →
    reply.status = .accepted →
    client.Awaits tenant? reply net' steps (.ok task) →
    change.next task = .ok (.fetch path) →
    client.base.join path = .ok target →
    Runs change client tenant? net (change.ask url :: steps ++ [.get target])
      ((client.reply tenant? target (client.follow tenant? net' steps)).bind change.receive)

/-! ### Calls as changes -/

/-- The rest of a change whose task has ended well. -/
def finish (change : Change α) (client : Client) (tenant? : Option String) (task : Task) :
    Call α := do
  match ← Call.ofExcept id (change.next task) with
  | .done a => return a
  | .fetch path =>
    let url ← client.join path
    let reply ← client.send .get url [] .empty tenant?
    Call.ofExcept id (change.receive reply)

/-- A change as a call. -/
def call (change : Change α) (client : Client) (tenant? : Option String) : Call α := do
  let url ← client.join change.path
  let reply ← client.send change.method url change.query change.body tenant?
  if reply.status = .accepted then
    let task ← client.waitForTask reply tenant?
    change.finish client tenant? task
  else Call.ofExcept id (change.receive reply)

theorem decode_eq (decoder : Json.Decoder α) (reply : Reply) :
    Call.decode decoder reply = Call.ofExcept id (received decoder reply) := by
  unfold Call.decode received Call.ofExcept
  cases reply.decode decoder <;> rfl

/-- A fetch is one look at its address. -/
theorem perform_fetch (client : Client) (tenant? : Option String) (target : Url)
    (receive : Reply → Except ClientError α) (net : Network) :
    (do
      let reply ← client.send .get target [] .empty tenant?
      Call.ofExcept id (receive reply) : Call α).perform net =
      ((client.reply tenant? target net).bind receive,
        client.follow tenant? net [.get target]) := by
  have hnet : client.follow tenant? net [.get target] =
      ((client.send .get target [] .empty tenant?).perform net).2 := rfl
  rw [hnet, Client.reply]
  cases hget : (client.send .get target [] .empty tenant?).perform net with
  | mk result net' =>
    cases result with
    | error error => rw [Call.perform_bind_of_error hget]; rfl
    | ok reply => rw [Call.perform_bind_of_ok hget, Call.perform_ofExcept_id]; rfl

/-- A look at a path asks once, for its address. -/
theorem perform_get {client : Client} {decoder : Json.Decoder α} {path : String} {url : Url}
    (h : client.base.join path = .ok url) (tenant? : Option String) (net : Network) :
    (client.get decoder path tenant?).perform net =
      ((client.reply tenant? url net).bind (received decoder),
        client.follow tenant? net [.get url]) := by
  simp only [Client.get, decode_eq]
  rw [Call.perform_bind_of_ok (Client.perform_join_ok h net), perform_fetch]

/-- A path that has no address is not asked for. -/
theorem perform_get_of_unjoined {client : Client} {decoder : Json.Decoder α} {path : String}
    {error : UrlError} (h : client.base.join path = .error error) (tenant? : Option String)
    (net : Network) :
    (client.get decoder path tenant?).perform net = (.error (.url error), net) := by
  rw [Client.get, Call.perform_bind_of_error (Client.perform_join_error h net)]

theorem follow_ask {change : Change α} {client : Client} {tenant? : Option String} {url : Url}
    {net net' : Network} {result : Except ClientError Reply}
    (hsend : change.send client tenant? url net = (result, net')) (steps : List Step) :
    client.follow tenant? net (change.ask url :: steps) = client.follow tenant? net' steps := by
  have hafter : client.after tenant? net (change.ask url) =
      (change.send client tenant? url net).2 := rfl
  rw [Client.follow_cons, hafter, hsend]

/-- A change whose task has ended well is left with the rest. -/
theorem perform_accepted {change : Change α} {client : Client} {tenant? : Option String}
    {net net' : Network} {url : Url} {reply : Reply} {steps : List Step} {task : Task}
    (hjoin : client.base.join change.path = .ok url)
    (hsend : change.send client tenant? url net = (.ok reply, net'))
    (hstatus : reply.status = .accepted)
    (hawaits : client.Awaits tenant? reply net' steps (.ok task)) :
    (change.call client tenant?).perform net =
      (change.finish client tenant? task).perform (client.follow tenant? net' steps) := by
  unfold call
  rw [Call.perform_bind_of_ok (Client.perform_join_ok hjoin net),
    Call.perform_bind_of_ok hsend, if_pos hstatus, Call.perform_bind_of_ok hawaits.perform]

/-- What a run comes to is what the change comes to. -/
theorem Runs.perform {change : Change α} {client : Client} {tenant? : Option String}
    {net : Network} {steps : List Step} {result : Except ClientError α}
    (h : change.Runs client tenant? net steps result) :
    (change.call client tenant?).perform net = (result, client.follow tenant? net steps) := by
  cases h with
  | unjoined hjoin =>
    rw [call, Call.perform_bind_of_error (Client.perform_join_error hjoin net)]
    rfl
  | refused hjoin hsend =>
    rw [call, Call.perform_bind_of_ok (Client.perform_join_ok hjoin net),
      Call.perform_bind_of_error hsend, follow_ask hsend]
    rfl
  | immediate hjoin hsend hstatus =>
    rw [call, Call.perform_bind_of_ok (Client.perform_join_ok hjoin net),
      Call.perform_bind_of_ok hsend, if_neg hstatus, Call.perform_ofExcept_id, follow_ask hsend]
    rfl
  | unfinished hjoin hsend hstatus hawaits =>
    rw [call, Call.perform_bind_of_ok (Client.perform_join_ok hjoin net),
      Call.perform_bind_of_ok hsend, if_pos hstatus, Call.perform_bind_of_error hawaits.perform,
      follow_ask hsend]
  | unowned hjoin hsend hstatus hawaits hnext =>
    rw [perform_accepted hjoin hsend hstatus hawaits, finish,
      Call.perform_bind_of_error (Call.perform_ofExcept_error hnext _), follow_ask hsend]
    rfl
  | done hjoin hsend hstatus hawaits hnext =>
    rw [perform_accepted hjoin hsend hstatus hawaits, finish,
      Call.perform_bind_of_ok (Call.perform_ofExcept_ok hnext _), follow_ask hsend]
    rfl
  | unfetched hjoin hsend hstatus hawaits hnext htarget =>
    rw [perform_accepted hjoin hsend hstatus hawaits, finish,
      Call.perform_bind_of_ok (Call.perform_ofExcept_ok hnext _), follow_ask hsend]
    exact Call.perform_bind_of_error (Client.perform_join_error htarget _)
  | fetched hjoin hsend hstatus hawaits hnext htarget =>
    rw [perform_accepted hjoin hsend hstatus hawaits, finish,
      Call.perform_bind_of_ok (Call.perform_ofExcept_ok hnext _)]
    dsimp only
    rw [Call.perform_bind_of_ok (Client.perform_join_ok htarget _), perform_fetch,
      List.cons_append, follow_ask hsend, Client.follow_append]

/-- Every change has a run, whatever the service answers. -/
theorem exists_runs (change : Change α) (client : Client) (tenant? : Option String)
    (net : Network) : ∃ steps result, change.Runs client tenant? net steps result := by
  cases hjoin : client.base.join change.path with
  | error error => exact ⟨_, _, .unjoined hjoin⟩
  | ok url =>
    cases hsend : change.send client tenant? url net with
    | mk sent net' =>
      cases sent with
      | error error => exact ⟨_, _, .refused hjoin hsend⟩
      | ok reply =>
        by_cases hstatus : reply.status = .accepted
        · obtain ⟨steps, awaited, hawaits⟩ := Client.exists_awaits client tenant? reply net'
          cases awaited with
          | error error => exact ⟨_, _, .unfinished hjoin hsend hstatus hawaits⟩
          | ok task =>
            cases hnext : change.next task with
            | error error => exact ⟨_, _, .unowned hjoin hsend hstatus hawaits hnext⟩
            | ok next =>
              cases next with
              | done a => exact ⟨_, _, .done hjoin hsend hstatus hawaits hnext⟩
              | fetch path =>
                cases htarget : client.base.join path with
                | error error =>
                  exact ⟨_, _, .unfetched hjoin hsend hstatus hawaits hnext htarget⟩
                | ok target =>
                  exact ⟨_, _, .fetched hjoin hsend hstatus hawaits hnext htarget⟩
        · exact ⟨_, _, .immediate hjoin hsend hstatus⟩

/-- A creation is the change that reads what it has made below its collection. -/
theorem call_creation (client : Client) (decoder : Json.Decoder α) (path : String) (body : Json)
    (tenant? : Option String) :
    client.create decoder path body tenant? = (creation decoder path body).call client tenant? := by
  have hfinish : ∀ task, (do
      let owner ← Call.ofExcept id (Client.taskOwner task)
      client.get decoder (Client.memberPath (Client.trimSlashes path) owner.id) tenant?) =
      (creation decoder path body).finish client tenant? task := by
    intro task
    cases howner : task.owner? with
    | none =>
      simp only [finish, creation, Client.taskOwner, howner]
      rfl
    | some owner =>
      simp only [finish, creation, Client.taskOwner, howner, Client.get, decode_eq]
      rfl
  refine bind_congr fun url => bind_congr fun reply => ?_
  split
  · exact bind_congr hfinish
  · exact decode_eq decoder reply

/-- A replacement is the change that reads again what it has changed. -/
theorem call_replacement (client : Client) (decoder : Json.Decoder α) (path : String) (body : Json)
    (tenant? : Option String) :
    client.update decoder path body tenant? =
      (replacement decoder path body).call client tenant? := by
  refine bind_congr fun url => bind_congr fun reply => ?_
  split
  · refine bind_congr fun task => ?_
    simp only [finish, replacement, Client.get, decode_eq]
    rfl
  · exact decode_eq decoder reply

/-- A removal is the change that reads nothing afterwards. -/
theorem call_removal (client : Client) (path : String) (query : List (String × String))
    (tenant? : Option String) :
    client.delete path query tenant? = (removal path query).call client tenant? := by
  refine bind_congr fun url => bind_congr fun reply => ?_
  split
  · exact bind_congr fun task => rfl
  · rfl

/-- The reply that tells what a change came to: the one to its own request, unless that accepts the
change as a task; then the one to the request for the entity. -/
inductive Answers (change : Change α) (client : Client) (tenant? : Option String) (net : Network) :
    Reply → Prop
  | immediate {url : Url} {net' : Network} {reply : Reply} :
    client.base.join change.path = .ok url →
    change.send client tenant? url net = (.ok reply, net') →
    reply.status ≠ .accepted →
    Answers change client tenant? net reply
  | fetched {url target : Url} {net' : Network} {accepting reply : Reply} {steps : List Step}
      {task : Task} {path : String} :
    client.base.join change.path = .ok url →
    change.send client tenant? url net = (.ok accepting, net') →
    accepting.status = .accepted →
    client.Awaits tenant? accepting net' steps (.ok task) →
    change.next task = .ok (.fetch path) →
    client.base.join path = .ok target →
    client.reply tenant? target (client.follow tenant? net' steps) = .ok reply →
    Answers change client tenant? net reply

/-- A change comes to what the reply that answers it holds. -/
theorem Answers.perform {change : Change α} {client : Client} {tenant? : Option String}
    {net : Network} {reply : Reply} (h : change.Answers client tenant? net reply) :
    ((change.call client tenant?).perform net).1 = change.receive reply := by
  cases h with
  | immediate hjoin hsend hstatus => rw [(Runs.immediate hjoin hsend hstatus).perform]
  | fetched hjoin hsend hstatus hawaits hnext htarget hreply =>
    rw [(Runs.fetched hjoin hsend hstatus hawaits hnext htarget).perform, hreply]
    rfl

/-- A task that the wait hands on has succeeded. -/
theorem success_of_awaits {client : Client} {tenant? : Option String} {reply : Reply}
    {net : Network} {steps : List Step} {task : Task}
    (h : client.Awaits tenant? reply net steps (.ok task)) : task.status = "success" := by
  cases h with
  | polled _ _ hpolls =>
    cases hpolls with
    | succeeded _ _ _ hstatus => exact hstatus

/-- A change that was accepted succeeds only behind a task that has. -/
theorem success_of_perform {change : Change α} {client : Client} {tenant? : Option String}
    {net net' : Network} {url : Url} {reply : Reply} {a : α}
    (hjoin : client.base.join change.path = .ok url)
    (hsend : change.send client tenant? url net = (.ok reply, net'))
    (hstatus : reply.status = .accepted)
    (hok : ((change.call client tenant?).perform net).1 = .ok a) :
    ∃ steps task, client.Awaits tenant? reply net' steps (.ok task) ∧ task.status = "success" := by
  obtain ⟨steps, awaited, hawaits⟩ := Client.exists_awaits client tenant? reply net'
  cases awaited with
  | error error =>
    rw [(Runs.unfinished hjoin hsend hstatus hawaits).perform] at hok
    cases hok
  | ok task => exact ⟨steps, task, hawaits, success_of_awaits hawaits⟩

/-- A call does what the change says. On every network there is a run, a run determines what the
call comes to and where it leaves the network, and the server sees the requests of its steps, in
order, and no others. A change that is accepted as a task succeeds only if the task did. -/
structure Follows (change : Change α) (client : Client) (tenant? : Option String)
    (call : Call α) : Prop where
  total : ∀ net, ∃ steps result, change.Runs client tenant? net steps result
  perform : ∀ net steps result, change.Runs client tenant? net steps result →
    call.perform net = (result, client.follow tenant? net steps)
  arrived : ∀ net steps result, change.Runs client tenant? net steps result →
    ∃ requests, (call.perform net).2.arrived = net.arrived ++ requests ∧
      client.Copies tenant? net steps requests
  succeeds : ∀ net net' url reply a, client.base.join change.path = .ok url →
    change.send client tenant? url net = (.ok reply, net') → reply.status = .accepted →
    (call.perform net).1 = .ok a →
    ∃ steps task, client.Awaits tenant? reply net' steps (.ok task) ∧ task.status = "success"

/-- A call does what its change says. -/
theorem follows_call (change : Change α) (client : Client) (tenant? : Option String) :
    change.Follows client tenant? (change.call client tenant?) where
  total := change.exists_runs client tenant?
  perform := fun _ _ _ hruns => hruns.perform
  arrived := by
    intro net steps result hruns
    rw [hruns.perform]
    exact client.arrived_follow tenant? steps net
  succeeds := fun _ _ _ _ _ => success_of_perform

/-- It makes no difference to a call on which way the entity arrives. -/
def SameEither (change : Change α) (client : Client) (tenant? : Option String) (call : Call α) :
    Prop :=
  ∀ net₁ net₂ reply₁ reply₂, change.Answers client tenant? net₁ reply₁ →
    change.Answers client tenant? net₂ reply₂ → reply₁.body = reply₂.body →
    reply₁.isCut = reply₂.isCut → (call.perform net₁).1 = (call.perform net₂).1

/-- At once or behind a task, the same body comes to the same result. -/
theorem sameEither_call {change : Change α} {decoder : Json.Decoder α}
    (hreceive : change.receive = received decoder) (client : Client) (tenant? : Option String) :
    change.SameEither client tenant? (change.call client tenant?) := by
  intro net₁ net₂ reply₁ reply₂ h₁ h₂ hbody hcut
  rw [h₁.perform, h₂.perform, hreceive]
  exact received_congr decoder hbody hcut

/-- **Accepted tasks.** What the three changes send and come to, for every network: without a task
there is no further request; a task is looked at, always at one address, until it has come to its
end; then a new entity is read from below its collection and a changed one from where it was; and
whatever fails is the last thing that is sent. -/
theorem changes_follow_tasks (client : Client) (decoder : Json.Decoder α) (path : String)
    (body : Json) (query : List (String × String)) (tenant? : Option String) :
    (creation decoder path body).Follows client tenant?
        (client.create decoder path body tenant?) ∧
      (replacement decoder path body).Follows client tenant?
        (client.update decoder path body tenant?) ∧
      (removal path query).Follows client tenant? (client.delete path query tenant?) ∧
      (creation decoder path body).SameEither client tenant?
        (client.create decoder path body tenant?) ∧
      (replacement decoder path body).SameEither client tenant?
        (client.update decoder path body tenant?) := by
  rw [call_creation, call_replacement, call_removal]
  exact ⟨follows_call _ client tenant?, follows_call _ client tenant?,
    follows_call _ client tenant?, sameEither_call rfl client tenant?,
    sameEither_call rfl client tenant?⟩

/-! ## A sample -/

/-- What a look at the task of a new organization shows. -/
def sampleTask (status : String) : Json :=
  .object [("status", .string status), ("owner", .object [("id", .string "u")])]

/-- A service that accepts a creation as a task, which is running at the first look and has
succeeded at the second one. -/
def accepting : Network :=
  Client.answering
    [{ status := .accepted, headers := [("location", Utf8.encode "http://h/task/1")] },
      { body := (sampleTask "running").write },
      { body := (sampleTask "success").write },
      { body := (Json.object [("id", .string "u"), ("name", .string "n")]).write }]

/-- The task is looked at until it has succeeded, and then its owner is read. -/
theorem accepted_creation_follows_its_task :
    ∃ steps org, (creation Org.decoder Client.orgsPath (.object [])).Runs (Client.sample "t" 60)
        none accepting steps (.ok org) ∧
      org.name = "n" ∧
      Client.log (((Client.sample "t" 60).create Org.decoder Client.orgsPath (.object [])).perform
          accepting).2 =
        [(.post, "http://h/cloudapi/1.0.0/orgs"), (.get, "http://h/task/1"),
          (.get, "http://h/task/1"), (.get, "http://h/cloudapi/1.0.0/orgs/u")] := by
  obtain ⟨htotal, hperform, -, -⟩ := (changes_follow_tasks (Client.sample "t" 60) Org.decoder
    Client.orgsPath (.object []) [] none).1
  obtain ⟨steps, result, hruns⟩ := htotal accepting
  have hname : (((Client.sample "t" 60).create Org.decoder Client.orgsPath (.object [])).perform
      accepting).1.toOption.map (·.name) = some "n" := by decide +kernel
  rw [hperform _ _ _ hruns] at hname
  cases result with
  | error error => cases hname
  | ok org => exact ⟨steps, org, hruns, Option.some.inj hname, by decide +kernel⟩

end Change

end CloudTenancy
