import CloudTenancy.Action
import CloudTenancy.Client.Login
import CloudTenancy.Proofs.Tasks
import Mathlib.Data.List.Forall2

/-!
CloudTenancy.Proofs.TwoRuns — two runs that nobody can tell apart who must not.

* `Likeness` — how the requests and the files of two runs may differ.
* `Network.Alike` — the networks of two runs at one point of them.
* `SameEnd` — results of two runs: the same failure, or values that belong together.
* `Call.Agree`, `Action.Agree` — calls and actions that lead networks that are alike to networks
  that are alike, and to results that belong together.

Two runs on one script go side by side as long as their requests have the same addresses: then each
request meets the same answer in both. So a secret that no address holds changes nothing that comes
back. `Agree` is closed under the parts of which calls are made, and the loops keep it by induction
on the answers that are left.

Main statements: `agree_create` and `agree_update`, whose bodies may differ between the runs, and
`agree_post`.
-/

namespace CloudTenancy

variable {α β γ δ ε : Type}

/-! ## Networks -/

/-- How the requests and the files of two runs may differ. Requests that belong together have one
address, which is named if they fail. -/
structure Likeness where
  requests : Request → Request → Prop
  files : FileSystem → FileSystem → Prop
  refl : ∀ request, requests request request
  url_eq : ∀ {request other}, requests request other → request.url = other.url
  replaced : ∀ {before after} (name : String), files before after →
    files (before.set name .directory) (after.set name .directory)

def Likeness.onSameFiles (requests : Request → Request → Prop)
    (refl : ∀ request, requests request request)
    (url_eq : ∀ {request other}, requests request other → request.url = other.url) :
    Likeness where
  requests
  files := Eq
  refl
  url_eq
  replaced name h := congrArg (FileSystem.set · name .directory) h

/-- The networks of two runs: the same answers are left, the same time has passed, and the requests
that have arrived and the files are alike. -/
structure Network.Alike (L : Likeness) (net other : Network) : Prop where
  reachable : net.reachable = other.reachable
  answers : net.answers = other.answers
  arrived : List.Forall₂ L.requests net.arrived other.arrived
  now : net.now = other.now
  files : L.files net.files other.files

variable {L : Likeness}

namespace Network.Alike

variable {net other : Network}

/-- Runs that start on one network. -/
theorem of_files (hfiles : L.files net.files net.files) : net.Alike L net where
  reachable := rfl
  answers := rfl
  arrived := List.forall₂_same.2 fun request _ => L.refl request
  now := rfl
  files := hfiles

theorem wait (h : net.Alike L other) (duration : Nat) :
    (net.wait duration).Alike L (other.wait duration) where
  reachable := h.reachable
  answers := h.answers
  arrived := h.arrived
  now := congrArg (· + duration) h.now
  files := h.files

/-- Requests that belong together meet the same answer. -/
theorem exchange (h : net.Alike L other) {request request' : Request}
    (hrequest : L.requests request request') :
    (net.exchange request).1 = (other.exchange request').1 ∧
      (net.exchange request).2.Alike L (other.exchange request').2 := by
  have hurl := L.url_eq hrequest
  have harrived :
      List.Forall₂ L.requests (net.arrived ++ [request]) (other.arrived ++ [request']) :=
    List.rel_append h.arrived (.cons hrequest .nil)
  cases hreachable : net.reachable with
  | false =>
    rw [Network.exchange_unreachable hreachable,
      Network.exchange_unreachable (h.reachable ▸ hreachable)]
    exact ⟨by rw [hurl], h⟩
  | true =>
    have hother : other.reachable = true := h.reachable ▸ hreachable
    unfold Network.exchange
    rw [if_pos hreachable, if_pos hother, ← h.answers]
    split
    · exact ⟨rfl, ⟨h.reachable, rfl, harrived, h.now, h.files⟩⟩
    · rename_i answer rest _
      refine ⟨by rw [hurl], ⟨h.reachable, rfl, harrived, h.now, ?_⟩⟩
      cases hreplaced : answer.replaced? with
      | none => simpa only [Network.receive, hreplaced] using h.files
      | some name => simpa only [Network.receive, hreplaced] using L.replaced name h.files

end Network.Alike

/-! ## Results -/

/-- Results of two runs: the same failure, or values that belong together. -/
inductive SameEnd (Q : α → β → Prop) : Except ε α → Except ε β → Prop
  | ok {a : α} {b : β} : Q a b → SameEnd Q (.ok a) (.ok b)
  | error (error : ε) : SameEnd Q (.error error) (.error error)

theorem SameEnd.of_eq {result other : Except ε α} (h : result = other) :
    SameEnd Eq result other := by
  subst h
  cases result with
  | error error => exact .error error
  | ok a => exact .ok rfl

theorem SameEnd.eq {result other : Except ε α} (h : SameEnd Eq result other) : result = other := by
  cases h with
  | ok h => rw [h]
  | error => rfl

theorem SameEnd.mono {Q S : α → β → Prop} {result : Except ε α} {other : Except ε β}
    (h : SameEnd Q result other) (himp : ∀ a b, Q a b → S a b) : SameEnd S result other := by
  cases h with
  | ok h => exact .ok (himp _ _ h)
  | error error => exact .error error

theorem SameEnd.map {Q : α → β → Prop} {S : γ → δ → Prop} {result : Except ε α} {other : Except ε β}
    {f : α → γ} {g : β → δ} (h : SameEnd Q result other) (hmap : ∀ a b, Q a b → S (f a) (g b)) :
    SameEnd S (result.map f) (other.map g) := by
  cases h with
  | ok h => exact .ok (hmap _ _ h)
  | error error => exact .error error

theorem SameEnd.bind {Q : α → β → Prop} {S : γ → δ → Prop} {result : Except ε α}
    {other : Except ε β} {next : α → Except ε γ} {next' : β → Except ε δ}
    (h : SameEnd Q result other) (hnext : ∀ a b, Q a b → SameEnd S (next a) (next' b)) :
    SameEnd S (result >>= next) (other >>= next') := by
  cases h with
  | ok h => exact hnext _ _ h
  | error error => exact .error error

/-- The first result is the same in both runs. -/
theorem SameEnd.bind_same {S : γ → δ → Prop} {result other : Except ε α} {next : α → Except ε γ}
    {next' : α → Except ε δ} (h : result = other) (hnext : ∀ a, SameEnd S (next a) (next' a)) :
    SameEnd S (result >>= next) (other >>= next') :=
  (SameEnd.of_eq h).bind fun a _ hab => hab ▸ hnext a

theorem SameEnd.mapError {ε' : Type} {Q : α → β → Prop} {result : Except ε α} {other : Except ε β}
    (h : SameEnd Q result other) (failure : ε → ε') :
    SameEnd Q (result.mapError failure) (other.mapError failure) := by
  cases h with
  | ok h => exact .ok h
  | error error => exact .error (failure error)

/-- Whether a request can be built shows in its address and in its headers, and not in its body. -/
theorem Request.sameEnd_make {R : Request → Request → Prop} {method : Method} {url : Url}
    {headers headers' : List (String × String)} {body body' : Body}
    (hvalues : (headers.all fun header => isHeaderValue header.2) =
      headers'.all fun header => isHeaderValue header.2)
    (h : R
      { method, url := address url, body
        headers := ownHeaders url ++ headers ++
          (body.contentType?.toList.map fun type => ("content-type", type)) ++
          [("user-agent", userAgent)] }
      { method, url := address url, body := body'
        headers := ownHeaders url ++ headers' ++
          (body'.contentType?.toList.map fun type => ("content-type", type)) ++
          [("user-agent", userAgent)] }) :
    SameEnd R (make method url headers body) (make method url headers' body') := by
  unfold make
  rw [← hvalues]
  dsimp only
  split
  · exact .error _
  · split
    · exact .error _
    · split
      · exact .error _
      · exact .ok h

/-! ## Calls -/

/-- On networks that are alike the calls end alike, with results that belong together. -/
def Call.Agree (L : Likeness) (Q : α → β → Prop) (call : Call α) (other : Call β) : Prop :=
  ∀ net net', Network.Alike L net net' →
    SameEnd Q (call.perform net).1 (other.perform net').1 ∧
      (call.perform net).2.Alike L (other.perform net').2

namespace Call.Agree

variable {Q : α → β → Prop} {S : γ → δ → Prop}

theorem mono {P : α → β → Prop} {call : Call α} {other : Call β} (h : Agree L P call other)
    (himp : ∀ a b, P a b → Q a b) : Agree L Q call other := by
  intro net net' halike
  obtain ⟨hends, hlater⟩ := h net net' halike
  exact ⟨hends.mono himp, hlater⟩

theorem pure {a : α} {b : β} (h : Q a b) : Agree L Q (Pure.pure a) (Pure.pure b) :=
  fun _ _ halike => ⟨.ok h, halike⟩

theorem throw (error : ClientError) :
    Agree L Q (MonadExcept.throw error : Call α) (MonadExcept.throw error : Call β) :=
  fun _ _ halike => ⟨.error error, halike⟩

theorem ofExcept {failure : ε → ClientError} {result : Except ε α} {other : Except ε β}
    (h : SameEnd Q result other) :
    Agree L Q (Call.ofExcept failure result) (Call.ofExcept failure other) :=
  fun _ _ halike => ⟨h.mapError failure, halike⟩

/-- What needs no network agrees with itself. -/
theorem ofExcept_self (failure : ε → ClientError) (result : Except ε α) :
    Agree L Eq (Call.ofExcept failure result) (Call.ofExcept failure result) :=
  .ofExcept (.of_eq rfl)

theorem bind {call : Call α} {other : Call β} {next : α → Call γ} {next' : β → Call δ}
    (hcall : Agree L Q call other) (hnext : ∀ a b, Q a b → Agree L S (next a) (next' b)) :
    Agree L S (call >>= next) (other >>= next') := by
  intro net net' halike
  obtain ⟨hends, hlater⟩ := hcall net net' halike
  cases hperform : call.perform net with
  | mk result later =>
    cases hperform' : other.perform net' with
    | mk result' later' =>
      rw [hperform, hperform'] at hends hlater
      cases hends with
      | error error =>
        rw [Call.perform_bind_of_error hperform, Call.perform_bind_of_error hperform']
        exact ⟨.error error, hlater⟩
      | ok hab =>
        rw [Call.perform_bind_of_ok hperform, Call.perform_bind_of_ok hperform']
        exact hnext _ _ hab later later' hlater

/-- What comes back is the same in both runs. -/
theorem bind_same {call other : Call α} {next : α → Call γ} {next' : α → Call δ}
    (hcall : Agree L Eq call other) (hnext : ∀ a, Agree L S (next a) (next' a)) :
    Agree L S (call >>= next) (other >>= next') :=
  hcall.bind fun a _ h => h ▸ hnext a

theorem exchange {request request' : Request} (h : L.requests request request') :
    Agree L Eq (Call.exchange request) (Call.exchange request') := by
  intro net net' halike
  obtain ⟨hsame, hlater⟩ := halike.exchange h
  exact ⟨.of_eq (congrArg (·.mapError ClientError.http) hsame), hlater⟩

theorem decode (decoder : Json.Decoder α) (reply : Reply) :
    Agree L Eq (Call.decode decoder reply) (Call.decode decoder reply) :=
  .ofExcept_self _ _

/-- What is missing in one run is missing in the other one. -/
theorem orMissing {call other : Call α} (h : Agree L Eq call other) :
    Agree L Eq call.orMissing other.orMissing := by
  intro net net' halike
  obtain ⟨hends, hlater⟩ := h net net' halike
  simp only [Call.orMissing, Call.perform_of]
  cases hperform : call.perform net with
  | mk result later =>
    cases hperform' : other.perform net' with
    | mk result' later' =>
      rw [hperform, hperform'] at hends hlater
      obtain rfl : result = result' := hends.eq
      cases result with
      | ok a => exact ⟨.ok rfl, hlater⟩
      | error error =>
        cases hmissing : error.isNotFound with
        | true => simpa only [hmissing, if_true] using ⟨.ok rfl, hlater⟩
        | false => simpa [hmissing] using ⟨.error error, hlater⟩

end Call.Agree

/-! ## Requests of a session -/

namespace Client

variable (client : Client)

/-- One attempt, and what follows it. -/
theorem attempt_eq (deadline : Nat) (request : Request) (net : Network) :
    client.attempt deadline request net =
      match net.exchange request with
      | (.error error, later) => (.error (.http error), later)
      | (.ok reply, later) =>
        if reply.status.isSuccess then (.ok reply, later)
        else if (ClientError.ofReply reply).isBusy then
          match Clock.later? later.now client.retryPause with
          | none => (.error .clockOverflow, later)
          | some next =>
            if next ≤ deadline then
              client.attempt deadline request (later.wait client.retryPause)
            else (.error (.ofReply reply), later)
        else (.error (.ofReply reply), later) := by
  rw [attempt]
  split
  · rename_i hexchange
    rw [hexchange]
  · rename_i hexchange
    rw [hexchange]
    dsimp only
    split
    · rfl
    · split <;> rfl

/-- A busy entity has used up an answer. -/
theorem length_answers_of_busy {request : Request} {net later : Network} {reply : Reply}
    (hexchange : net.exchange request = (.ok reply, later))
    (hbusy : (ClientError.ofReply reply).isBusy = true) :
    later.answers.length < net.answers.length := by
  rcases Network.exchange_ok hexchange with rfl | hlt
  · rw [not_isBusy_exhausted] at hbusy
    cases hbusy
  · exact hlt

/-- The second run takes the turns of the first one. -/
theorem alike_attempt (deadline : Nat) {request request' : Request}
    (hrequest : L.requests request request') {net other : Network} (h : net.Alike L other) :
    (client.attempt deadline request net).1 = (client.attempt deadline request' other).1 ∧
      (client.attempt deadline request net).2.Alike L
        (client.attempt deadline request' other).2 := by
  -- Every turn uses up an answer. The answers are the same, so the first run counts for both.
  induction hlength : net.answers.length using Nat.strongRecOn generalizing net other with
  | ind length ih =>
    obtain ⟨hsame, hlater⟩ := h.exchange hrequest
    rw [attempt_eq, attempt_eq client deadline request' other]
    cases hexchange : net.exchange request with
    | mk outcome later =>
      cases hexchange' : other.exchange request' with
      | mk outcome' later' =>
        rw [hexchange, hexchange'] at hsame hlater
        obtain rfl : outcome = outcome' := hsame
        cases outcome with
        | error error => exact ⟨rfl, hlater⟩
        | ok reply =>
          dsimp only at hlater ⊢
          rw [← hlater.now]
          cases reply.status.isSuccess with
          | true => exact ⟨rfl, hlater⟩
          | false =>
            cases hbusy : (ClientError.ofReply reply).isBusy with
            | false => exact ⟨rfl, hlater⟩
            | true =>
              cases Clock.later? later.now client.retryPause with
              | none => exact ⟨rfl, hlater⟩
              | some next =>
                by_cases hin : next ≤ deadline
                · simp only [if_pos hin]
                  have hlt := length_answers_of_busy hexchange hbusy
                  exact ih _ (hlength ▸ hlt) (hlater.wait client.retryPause) rfl
                · simp only [if_neg hin]
                  exact ⟨rfl, hlater⟩

/-- Requests of a session that are built alike end alike. -/
theorem agree_send {method : Method} {url : Url} {query : List (String × String)}
    {body body' : Body} {tenant? : Option String}
    (hbuilt : SameEnd L.requests (client.request method url query body tenant?)
      (client.request method url query body' tenant?)) :
    Call.Agree L Eq (client.send method url query body tenant?)
      (client.send method url query body' tenant?) := by
  intro net net' halike
  simp only [send, Call.perform_of, ← halike.now]
  cases Clock.later? net.now (client.maxRetryTimeout * 1000) with
  | none => exact ⟨.error _, halike⟩
  | some deadline =>
    generalize client.request method url query body tenant? = built at hbuilt ⊢
    generalize client.request method url query body' tenant? = built' at hbuilt ⊢
    cases hbuilt with
    | error error => exact ⟨.error _, halike⟩
    | ok hrequest =>
      obtain ⟨hsame, hlater⟩ := client.alike_attempt deadline hrequest halike
      exact ⟨.of_eq hsame, hlater⟩

theorem agree_send_same (method : Method) (url : Url) (query : List (String × String))
    (body : Body) (tenant? : Option String) :
    Call.Agree L Eq (client.send method url query body tenant?)
      (client.send method url query body tenant?) :=
  client.agree_send ((SameEnd.of_eq rfl).mono fun request _ h => h ▸ L.refl request)

theorem agree_join (path : String) : Call.Agree L Eq (client.join path) (client.join path) :=
  .ofExcept_self _ _

/-! ### Looks -/

theorem agree_get (decoder : Json.Decoder α) (path : String) (tenant? : Option String) :
    Call.Agree L Eq (client.get decoder path tenant?) (client.get decoder path tenant?) :=
  .bind_same (client.agree_join path) fun url =>
    .bind_same (client.agree_send_same .get url [] .empty tenant?) fun reply =>
      .decode decoder reply

/-- The looks at a task are the same ones in both runs. -/
theorem agree_poll (url : Url) (tenant? : Option String) :
    Call.Agree L Eq (Call.of (client.poll url tenant?)) (Call.of (client.poll url tenant?)) := by
  intro net other h
  simp only [Call.perform_of]
  induction hlength : net.answers.length using Nat.strongRecOn generalizing net other with
  | ind length ih =>
    obtain ⟨hends, hlater⟩ := client.agree_send_same .get url [] .empty tenant? net other h
    have hsame : client.look tenant? url other = client.look tenant? url net :=
      congrArg (·.bind (received Task.decoder)) hends.eq.symm
    rw [poll_eq, poll_eq client url tenant? other, hsame]
    cases hlook : client.look tenant? url net with
    | error error => exact ⟨.error error, hlater⟩
    | ok task =>
      by_cases hfinished : task.isFinished = true
      · simp only [if_pos hfinished]
        exact ⟨.of_eq rfl, hlater⟩
      · simp only [if_neg hfinished]
        have hlt := length_answers_look hlook
        exact ih _ (hlength ▸ hlt) _ _ (hlater.wait client.pollInterval) rfl

theorem agree_waitForTask (reply : Reply) (tenant? : Option String) :
    Call.Agree L Eq (client.waitForTask reply tenant?) (client.waitForTask reply tenant?) :=
  .bind_same (.ofExcept_self _ _) fun location =>
    .bind_same (client.agree_join location) fun url => client.agree_poll url tenant?

/-! ### Changes -/

/-- Entities are added alike if the requests that add them are built alike. -/
theorem agree_create (decoder : Json.Decoder α) (path : String) {body body' : Json}
    {tenant? : Option String}
    (hbuilt : ∀ url, SameEnd L.requests (client.request .post url [] (.json body) tenant?)
      (client.request .post url [] (.json body') tenant?)) :
    Call.Agree L Eq (client.create decoder path body tenant?)
      (client.create decoder path body' tenant?) := by
  refine .bind_same (client.agree_join path) fun url => ?_
  refine .bind_same (client.agree_send (hbuilt url)) fun reply => ?_
  split
  · refine .bind_same (client.agree_waitForTask reply tenant?) fun task => ?_
    exact .bind_same (.ofExcept_self _ _) fun owner => client.agree_get decoder _ tenant?
  · exact .decode decoder reply

theorem agree_update (decoder : Json.Decoder α) (path : String) {body body' : Json}
    {tenant? : Option String}
    (hbuilt : ∀ url, SameEnd L.requests (client.request .put url [] (.json body) tenant?)
      (client.request .put url [] (.json body') tenant?)) :
    Call.Agree L Eq (client.update decoder path body tenant?)
      (client.update decoder path body' tenant?) := by
  refine .bind_same (client.agree_join path) fun url => ?_
  refine .bind_same (client.agree_send (hbuilt url)) fun reply => ?_
  split
  · exact .bind_same (client.agree_waitForTask reply tenant?) fun _ =>
      client.agree_get decoder path tenant?
  · exact .decode decoder reply

theorem agree_delete (path : String) (query : List (String × String)) (tenant? : Option String) :
    Call.Agree L Eq (client.delete path query tenant?) (client.delete path query tenant?) := by
  refine .bind_same (client.agree_join path) fun url => ?_
  refine .bind_same (client.agree_send_same .delete url query .empty tenant?) fun reply => ?_
  split
  · exact .bind_same (client.agree_waitForTask reply tenant?) fun _ => .pure rfl
  · exact .pure rfl

end Client

/-! ## Logins -/

/-- What is posted without a session ends alike if the requests are built alike. -/
theorem Login.agree_post {settings settings' : Settings} {path : String}
    {headers headers' : List (String × String)} {body body' : Body}
    (hurl : settings.url = settings'.url)
    (hbuilt : ∀ url, SameEnd L.requests (Request.make .post url headers body)
      (Request.make .post url headers' body')) :
    Call.Agree L Eq (post settings path headers body) (post settings' path headers' body') := by
  unfold post
  rw [← hurl]
  refine .bind_same (.ofExcept_self _ _) fun url => ?_
  refine .bind (.ofExcept (hbuilt url)) fun request request' hrequest => ?_
  refine .bind_same (.exchange hrequest) fun reply => ?_
  split
  · exact .pure rfl
  · exact .throw _

/-! ## Actions -/

/-- Two runs of the provider end alike: with the same reports, with results that belong together,
and on networks that are alike. -/
structure SameRun (L : Likeness) (Q : α → β → Prop) (run : Outcome α × Network)
    (other : Outcome β × Network) : Prop where
  value : Option.Rel Q run.1.value? other.1.value?
  diagnostics : run.1.diagnostics = other.1.diagnostics
  network : run.2.Alike L other.2

/-- On networks that are alike, and with the same reports so far, the actions end alike. -/
def Action.Agree (L : Likeness) (Q : α → β → Prop) (action : Action α) (other : Action β) : Prop :=
  ∀ start start', start.network.Alike L start'.network → start.diagnostics = start'.diagnostics →
    Option.Rel Q (action.perform start).1 (other.perform start').1 ∧
      (action.perform start).2.diagnostics = (other.perform start').2.diagnostics ∧
      (action.perform start).2.network.Alike L (other.perform start').2.network

namespace Action.Agree

variable {Q : α → β → Prop} {S : γ → δ → Prop}

theorem pure {a : α} {b : β} (h : Q a b) : Agree L Q (Pure.pure a) (Pure.pure b) :=
  fun _ _ halike hreports => ⟨.some h, hreports, halike⟩

theorem fail (d : Diagnostic) : Agree L Q (Action.fail d : Action α) (Action.fail d : Action β) :=
  fun _ _ halike hreports => ⟨.none, congrArg (·.error d) hreports, halike⟩

/-- A failure is the same one in both runs, and so is its report. -/
theorem attempt {call : Call α} {other : Call β} (describe : ClientError → Diagnostic)
    (h : Call.Agree L Q call other) :
    Agree L Q (Action.attempt describe call) (Action.attempt describe other) := by
  intro start start' halike hreports
  obtain ⟨hends, hlater⟩ := h _ _ halike
  simp only [Action.attempt, Action.perform_of]
  cases hcall : call.perform start.network with
  | mk result later =>
    cases hcall' : other.perform start'.network with
    | mk result' later' =>
      rw [hcall, hcall'] at hends hlater
      cases hends with
      | ok hab => exact ⟨.some hab, hreports, hlater⟩
      | error error => exact ⟨.none, congrArg (·.error (describe error)) hreports, hlater⟩

theorem bind {action : Action α} {other : Action β} {next : α → Action γ} {next' : β → Action δ}
    (haction : Agree L Q action other) (hnext : ∀ a b, Q a b → Agree L S (next a) (next' b)) :
    Agree L S (action >>= next) (other >>= next') := by
  intro start start' halike hreports
  obtain ⟨hvalue, hdiagnostics, hlater⟩ := haction start start' halike hreports
  cases hperform : action.perform start with
  | mk value? state =>
    cases hperform' : other.perform start' with
    | mk value'? state' =>
      rw [hperform, hperform'] at hvalue hdiagnostics hlater
      cases hvalue with
      | none =>
        rw [Action.perform_bind_of_none hperform, Action.perform_bind_of_none hperform']
        exact ⟨.none, hdiagnostics, hlater⟩
      | some hab =>
        rw [Action.perform_bind_of_some hperform, Action.perform_bind_of_some hperform']
        exact hnext _ _ hab state state' hlater hdiagnostics

theorem bind_same {action other : Action α} {next : α → Action γ} {next' : α → Action δ}
    (haction : Agree L Eq action other) (hnext : ∀ a, Agree L S (next a) (next' a)) :
    Agree L S (action >>= next) (other >>= next') :=
  haction.bind fun a _ h => h ▸ hnext a

theorem configured (client? : Option Client) :
    Agree L Eq (Action.configured client?) (Action.configured client?) := by
  cases client? with
  | none => exact .fail _
  | some client => exact .pure rfl

theorem start {action : Action α} {other : Action β} (h : Agree L Q action other)
    {net net' : Network} (halike : net.Alike L net') :
    SameRun L Q (action.start net) (other.start net') := by
  obtain ⟨hvalue, hdiagnostics, hlater⟩ := h { network := net } { network := net' } halike rfl
  exact ⟨hvalue, hdiagnostics, hlater⟩

end Action.Agree

end CloudTenancy
