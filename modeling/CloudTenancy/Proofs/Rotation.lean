import CloudTenancy.Client.Login
import CloudTenancy.Proofs.Apply
import CloudTenancy.Proofs.Effects
import CloudTenancy.Proofs.WrittenRecords

/-!
CloudTenancy.Proofs.Rotation — what logins do with token files.

* `FileSystem.Holds` — the tokens of a service account in the file at a path.
* `FileSystem.afterAnswers` — the files as answers leave them.
* `Network.Spends` — a network afterwards, whose answers have been used up in front and whose files
  nobody else has touched.
* `Login.Grants` — the service grants tokens in exchange for those of a file.
* `Login.Shows` — a request that shows the tokens of a file.
* `Login.Ends` — the ways in which a login of a service account ends.
* `Visit` — a login with the replies that it finds. `Visit.Turn` is what it makes of the tokens, and
  `Chain` one login after the other.

The file is read before the exchange and written after it. In between an answer may have put a
directory in its place; then the login fails.

Main statement: `tokens_rotate`.
-/

namespace CloudTenancy

variable {α : Type}

/-! ## Files with tokens -/

namespace FileSystem

variable {files : FileSystem} {path : String}

/-- The file at a path holds the tokens of a service account. -/
def Holds (files : FileSystem) (path : String) (file : ServiceAccountFile) : Prop :=
  ∃ text, files.readText path = .ok text ∧
    ServiceAccountFile.decoder.run (Utf8.encode text) = .ok file

/-- A path holds one file at a time. -/
theorem Holds.unique {file other : ServiceAccountFile} (h : files.Holds path file)
    (hother : files.Holds path other) : file = other := by
  obtain ⟨text, htext, hfile⟩ := h
  obtain ⟨text', htext', hfile'⟩ := hother
  cases htext.symm.trans htext'
  exact Except.ok.inj (hfile.symm.trans hfile')

/-- A file with tokens is no directory. -/
theorem Holds.node?_ne {file : ServiceAccountFile} {name : String} (h : files.Holds path file)
    (hresolve : files.resolve path = .ok (.entry name)) : files.node? name ≠ some .directory := by
  obtain ⟨text, htext, -⟩ := h
  obtain ⟨other, contents, hother, hnode⟩ := node?_of_readText htext
  rw [hresolve] at hother
  cases hother
  simp [hnode]

end FileSystem

/-! ## Answers that are used up -/

/-- The files after answers: some names have become directories. -/
def FileSystem.afterAnswers (files : FileSystem) (used : List Answer) : FileSystem :=
  (used.filterMap (·.replaced?)).foldl (fun files name => files.set name .directory) files

/-- Afterwards the first answers have been used up, and the files are as these leave them. -/
def Network.Spends (net later : Network) : Prop :=
  ∃ used, net.answers = used ++ later.answers ∧ later.files = net.files.afterAnswers used

namespace Network

instance : Composes Spends where
  refl net := ⟨[], rfl, rfl⟩
  trans := by
    rintro net later last ⟨used, hanswers, hfiles⟩ ⟨more, hlater, hlast⟩
    refine ⟨used ++ more, by rw [hanswers, hlater, List.append_assoc], ?_⟩
    rw [hlast, hfiles]
    simp [FileSystem.afterAnswers]

/-- An exchange uses up an answer, and what the answer replaces is replaced. -/
theorem spends_exchange (net : Network) (request : Request) :
    net.Spends (net.exchange request).2 := by
  unfold exchange
  split
  · cases hanswers : net.answers with
    | nil => exact ⟨[], by simp [hanswers], rfl⟩
    | cons answer rest =>
      refine ⟨[answer], by simp [hanswers, receive], ?_⟩
      cases hreplaced : answer.replaced? <;>
        simp [receive, FileSystem.afterAnswers, hreplaced]
  · exact Composes.refl net

/-- Answers that replace nothing leave the files alone. -/
theorem Spends.files_eq {net later : Network} (h : net.Spends later)
    (hquiet : ∀ answer ∈ net.answers, answer.replaced? = none) : later.files = net.files := by
  obtain ⟨used, hanswers, hfiles⟩ := h
  have hnone : used.filterMap (·.replaced?) = [] := by
    rw [List.filterMap_eq_nil_iff]
    intro answer hanswer
    exact hquiet answer (by rw [hanswers]; exact List.mem_append_left _ hanswer)
  rw [hfiles, FileSystem.afterAnswers, hnone]
  rfl

end Network

/-! ## Calls that write no file -/

/-- The call writes no file: it only uses up answers. -/
def Call.WritesNothing (call : Call α) : Prop := call.Obeys Network.Spends

namespace Login

/-- A request of a login writes no file. -/
theorem writesNothing_post (settings : Settings) (path : String)
    (headers : List (String × String)) (body : Body) :
    (post settings path headers body).WritesNothing := by
  refine .bind (.ofExcept _ _) fun url => .bind (.ofExcept _ _) fun request => ?_
  refine .bind (fun net => net.spends_exchange request) fun reply => ?_
  split
  · exact .pure reply
  · exact .throw _

theorem writesNothing_refresh (settings : Settings) (token : String) (clientId? : Option String) :
    (refresh settings token clientId?).WritesNothing :=
  .bind (writesNothing_post _ _ _ _) fun _ => .ofExcept _ _

/-- Reading a file writes none. -/
theorem writesNothing_readFile (decoder : Json.Decoder α) (path : String) :
    (readFile decoder path).WritesNothing := by
  intro net
  have hnet : ((readFile decoder path).perform net).2 = net := by
    simp only [readFile, Call.perform_of]
    split
    · rfl
    · split <;> rfl
  rw [hnet]
  exact Network.Composes.refl net

/-- The other login flows write no file. -/
theorem writesNothing_token {settings : Settings}
    (h : ∀ path, settings.credentials ≠ .serviceAccountTokenFile path) :
    (token settings).WritesNothing := by
  unfold token
  cases hcredentials : settings.credentials with
  | integrated user password =>
    exact .bind (writesNothing_post _ _ _ _) fun _ => .ofExcept _ _
  | token token => exact .pure token
  | apiToken token => exact .bind (writesNothing_refresh _ _ _) fun _ => .pure _
  | apiTokenFile path =>
    refine .bind (writesNothing_readFile _ _) fun file => .bind (.ofExcept _ _) fun _ => ?_
    exact .bind (writesNothing_refresh _ _ _) fun _ => .pure _
  | serviceAccountTokenFile path => exact absurd hcredentials (h path)

/-! ## The exchange -/

def form (file : ServiceAccountFile) : Body :=
  .form (String.ofList (Form.pairs
    [("grant_type", "refresh_token"), ("client_id", file.clientId),
      ("refresh_token", file.refreshToken)]))

/-- The request that exchanges the tokens of a file is built, and it is answered by a success that
grants tokens. -/
def Grants (settings : Settings) (file : ServiceAccountFile) (net : Network) (grant : TokenGrant) :
    Prop :=
  ∃ url request reply,
    settings.url.join (exchangePath settings) = .ok url ∧
    Request.make .post url [("accept", "application/json")] (form file) = .ok request ∧
    net.scripted request 0 = .ok reply ∧ reply.status.isSuccess = true ∧
    reply.decode TokenGrant.decoder = .ok grant

/-- The request shows the tokens of a file. -/
def Shows (file : ServiceAccountFile) (request : Request) : Prop :=
  request.method = .post ∧ request.body = form file

/-- A request shows the tokens of one file only. -/
theorem Shows.tokens_eq {file other : ServiceAccountFile} {request : Request}
    (h : Shows file request) (hother : Shows other request) :
    file.clientId = other.clientId ∧ file.refreshToken = other.refreshToken := by
  obtain ⟨-, hbody⟩ := h
  rw [hother.2, form, form, Body.form.injEq] at hbody
  have hpairs := String.ofList_injective hbody
  simp only [Form.pairs_cons] at hpairs
  have hlast : ∀ token,
      Form.pairs [("refresh_token", token)] = Form.pair ("refresh_token", token) :=
    fun token => by simp [Form.pairs, List.intercalate]
  rw [hlast, hlast] at hpairs
  have hrest := (List.cons.inj (List.append_cancel_left hpairs)).2
  obtain ⟨hclient, -, htoken⟩ := (List.append_cons_inj_of_notMem
    (Form.ampersand_not_mem_pair _ _) (Form.ampersand_not_mem_pair _ _)).1 hrest
  exact ⟨(Form.pair_inj hclient).symm, (Form.pair_inj htoken).symm⟩

/-- What the answer to a post comes to. -/
def answered : Except HttpError Reply → Except ClientError Reply
  | .error error => .error (.http error)
  | .ok reply => if reply.status.isSuccess then .ok reply else .error (.ofLoginReply reply)

/-- How a post goes: it is not sent, or the answer decides. -/
theorem post_cases (settings : Settings) (path : String) (headers : List (String × String))
    (body : Body) (net : Network) :
    ((∀ url request, settings.url.join path = .ok url →
          Request.make .post url headers body ≠ .ok request) ∧
        ∃ error, (post settings path headers body).perform net = (.error error, net)) ∨
      ∃ url request, settings.url.join path = .ok url ∧
        Request.make .post url headers body = .ok request ∧
        (post settings path headers body).perform net =
          (answered (net.scripted request 0), (net.exchange request).2) := by
  cases hjoin : settings.url.join path with
  | error error =>
    refine .inl ⟨by simp, .url error, ?_⟩
    exact Call.perform_bind_of_error (Call.perform_ofExcept_error hjoin net)
  | ok url =>
    have hurl := @Call.perform_ofExcept_ok _ _ ClientError.url _ _ hjoin net
    cases hmake : Request.make .post url headers body with
    | error error =>
      refine .inl ⟨?_, .http error, ?_⟩
      · rintro _ request ⟨⟩ hmade
        rw [hmake] at hmade
        cases hmade
      · rw [post, Call.perform_bind_of_ok hurl]
        exact Call.perform_bind_of_error (Call.perform_ofExcept_error hmake net)
    | ok request =>
      refine .inr ⟨url, request, rfl, hmake, ?_⟩
      have hrequest := @Call.perform_ofExcept_ok _ _ ClientError.http _ _ hmake net
      rw [post, Call.perform_bind_of_ok hurl, Call.perform_bind_of_ok hrequest, ← net.exchange_fst]
      cases hexchange : net.exchange request with
      | mk outcome later =>
        have hsent : (Call.exchange request).perform net = (outcome.mapError .http, later) := by
          simp only [Call.exchange, Call.perform_of, hexchange]
        cases outcome with
        | error error => exact Call.perform_bind_of_error hsent
        | ok reply =>
          rw [Call.perform_bind_of_ok hsent, answered]
          split <;> rfl

section

variable {settings : Settings} {path : String} {net : Network} {file : ServiceAccountFile}
  {grant : TokenGrant}

theorem refresh_eq (settings : Settings) (file : ServiceAccountFile) :
    refresh settings file.refreshToken (some file.clientId) =
      post settings (exchangePath settings) [("accept", "application/json")] (form file) >>=
        Call.decode TokenGrant.decoder := rfl

theorem network_bind_decode (call : Call Reply) (decoder : Json.Decoder α) (net : Network) :
    ((call >>= Call.decode decoder).perform net).2 = (call.perform net).2 := by
  cases hcall : call.perform net with
  | mk result later =>
    cases result with
    | error error => rw [Call.perform_bind_of_error hcall]
    | ok reply =>
      rw [Call.perform_bind_of_ok hcall]
      rfl

/-- The exchange gives the tokens that the service grants. -/
theorem refresh_ok_iff :
    ((refresh settings file.refreshToken (some file.clientId)).perform net).1 = .ok grant ↔
      Grants settings file net grant := by
  rw [refresh_eq]
  unfold Grants
  generalize form file = body
  obtain ⟨hunsent, error, hpost⟩ | ⟨url, request, hjoin, hmake, hpost⟩ :=
    post_cases settings (exchangePath settings) [("accept", "application/json")] body net
  · rw [Call.perform_bind_of_error hpost]
    refine iff_of_false (by simp) ?_
    rintro ⟨url, request, reply, hjoin, hmake, -⟩
    exact hunsent url request hjoin hmake
  · -- Address and request follow from the settings, so only the reply is left open.
    have hgrants : (∃ url request reply,
        settings.url.join (exchangePath settings) = .ok url ∧
          Request.make .post url [("accept", "application/json")] body = .ok request ∧
          net.scripted request 0 = .ok reply ∧ reply.status.isSuccess = true ∧
          reply.decode TokenGrant.decoder = .ok grant) ↔
        ∃ reply, net.scripted request 0 = .ok reply ∧ reply.status.isSuccess = true ∧
          reply.decode TokenGrant.decoder = .ok grant := by
      constructor
      · rintro ⟨url', request', reply, hjoin', hmake', hreply⟩
        rw [hjoin] at hjoin'
        cases hjoin'
        rw [hmake] at hmake'
        cases hmake'
        exact ⟨reply, hreply⟩
      · rintro ⟨reply, hreply⟩
        exact ⟨url, request, reply, hjoin, hmake, hreply⟩
    rw [hgrants]
    cases hscripted : net.scripted request 0 with
    | error error =>
      rw [hscripted, answered] at hpost
      rw [Call.perform_bind_of_error hpost]
      simp
    | ok reply =>
      rw [hscripted, answered] at hpost
      by_cases hsuccess : reply.status.isSuccess = true
      · rw [if_pos hsuccess] at hpost
        rw [Call.perform_bind_of_ok hpost]
        cases hdecode : reply.decode TokenGrant.decoder with
        | error error =>
          rw [Call.decode, Call.perform_ofExcept_error hdecode]
          simp [hdecode]
        | ok granted =>
          rw [Call.decode, Call.perform_ofExcept_ok hdecode]
          simp [hdecode, hsuccess]
      · rw [if_neg hsuccess] at hpost
        rw [Call.perform_bind_of_error hpost]
        simp [hsuccess]

/-- The exchange sends at most one request, and that one shows the tokens of the file. -/
theorem arrived_refresh (settings : Settings) (file : ServiceAccountFile) (net : Network) :
    ∃ requests, ((refresh settings file.refreshToken (some file.clientId)).perform net).2.arrived =
        net.arrived ++ requests ∧
      requests.length ≤ 1 ∧ ∀ request ∈ requests, Shows file request := by
  rw [refresh_eq, network_bind_decode]
  obtain ⟨-, error, hpost⟩ | ⟨url, request, -, hmake, hpost⟩ :=
    post_cases settings (exchangePath settings) [("accept", "application/json")] (form file) net
  · rw [hpost]
    exact ⟨[], by simp, by simp, by simp⟩
  · rw [hpost]
    obtain ⟨hmethod, -, hbody, -⟩ := Request.make_ok hmake
    refine ⟨net.arrivals request 1, net.arrived_exchange request, ?_, ?_⟩
    · unfold Network.arrivals
      split <;> simp
    · intro other hother
      unfold Network.arrivals at hother
      split at hother
      · rw [List.eq_of_mem_replicate hother]
        exact ⟨hmethod, hbody⟩
      · simp at hother

/-! ## One login -/

/-- A file that is held is read as it is. -/
theorem readFile_of_holds (h : net.files.Holds path file) :
    (readFile ServiceAccountFile.decoder path).perform net = (.ok file, net) := by
  obtain ⟨text, htext, hrun⟩ := h
  simp only [readFile, Call.perform_of, htext, hrun]

/-- A path that holds no tokens fails the login, with the path in the report. -/
theorem readFile_of_not_holds (h : ∀ file, ¬ net.files.Holds path file) :
    ∃ message, (readFile ServiceAccountFile.decoder path).perform net =
      (.error (.tokenFile path message), net) := by
  cases htext : net.files.readText path with
  | error failure => exact ⟨failure.message, by simp only [readFile, Call.perform_of, htext]⟩
  | ok text =>
    cases hrun : ServiceAccountFile.decoder.run (Utf8.encode text) with
    | error failure =>
      exact ⟨failure.message, by simp only [readFile, Call.perform_of, htext, hrun]⟩
    | ok file => exact absurd ⟨text, htext, hrun⟩ (h file)

/-- What is done with tokens that have been granted. -/
def keep (path : String) (file : ServiceAccountFile) (grant : TokenGrant) : Call String := do
  if let some refreshToken := grant.refreshToken? then
    writeFile path { file with refreshToken }.contents
  return grant.accessToken

/-- What the file says is exchanged, and what is granted is kept. -/
theorem serviceAccount_of_holds (settings : Settings) (h : net.files.Holds path file) :
    (serviceAccount settings path).perform net =
      (refresh settings file.refreshToken (some file.clientId) >>= keep path file).perform net :=
  Call.perform_bind_of_ok (readFile_of_holds h)

/-- The file holds new tokens once they have been written. -/
theorem holds_of_write {files written : FileSystem}
    (h : files.write path file.contents = .ok written) : written.Holds path file := by
  obtain ⟨text, htext⟩ := file.isText_contents
  rw [← htext] at h
  exact ⟨text, FileSystem.readText_of_write h, by rw [htext, file.run_contents]⟩

/-- Without a new refresh token nothing is written. -/
theorem keep_of_none (hnone : grant.refreshToken? = none) :
    (keep path file grant).perform net = (.ok grant.accessToken, net) := by
  unfold keep
  rw [hnone]
  rfl

/-- The file has been written before the access token is used. -/
theorem keep_of_written {token : String} {written : FileSystem}
    (htoken : grant.refreshToken? = some token)
    (h : net.files.write path { file with refreshToken := token }.contents = .ok written) :
    (keep path file grant).perform net =
      (.ok grant.accessToken, { net with files := written }) := by
  have hwrite : (writeFile path { file with refreshToken := token }.contents).perform net =
      (.ok (), { net with files := written }) := by
    simp only [writeFile, Call.perform_of, h]
  unfold keep
  rw [htoken]
  exact Call.perform_bind_of_ok hwrite

/-- A token that cannot be kept fails the login, whatever was granted. -/
theorem keep_of_unwritten {token : String} {failure : FileError}
    (htoken : grant.refreshToken? = some token)
    (h : net.files.write path { file with refreshToken := token }.contents = .error failure) :
    (keep path file grant).perform net = (.error (.tokenFile path failure.message), net) := by
  have hwrite : (writeFile path { file with refreshToken := token }.contents).perform net =
      (.error (.tokenFile path failure.message), net) := by
    simp only [writeFile, Call.perform_of, h]
  unfold keep
  rw [htoken]
  exact Call.perform_bind_of_error hwrite

/-- How a login of a service account ends whose file holds tokens, and the network afterwards. The
file is written only with a refresh token that has been granted. -/
inductive Ends (settings : Settings) (path : String) (file : ServiceAccountFile) (net : Network) :
    Except ClientError Client × Network → Prop
  /-- The service grants nothing. -/
  | refused {error : ClientError} {left : Network} :
    (∀ grant, ¬ Grants settings file net grant) → net.Spends left →
    Ends settings path file net (.error error, left)
  /-- The refresh token of the file goes on. -/
  | granted {client : Client} {grant : TokenGrant} {left : Network} :
    Grants settings file net grant → grant.refreshToken? = none →
    client.token = grant.accessToken → net.Spends left →
    Ends settings path file net (.ok client, left)
  /-- The new refresh token is in the file before the login counts as done. -/
  | rotated {client : Client} {grant : TokenGrant} {token name : String} {left : Network}
      {written : FileSystem} :
    Grants settings file net grant → grant.refreshToken? = some token →
    client.token = grant.accessToken → net.Spends left →
    left.files.resolve path = .ok (.entry name) →
    written = left.files.set name (.file { file with refreshToken := token }.contents) →
    written.Holds path { file with refreshToken := token } →
    Ends settings path file net (.ok client, { left with files := written })
  /-- The new refresh token cannot be written. -/
  | unwritten {grant : TokenGrant} {token : String} {failure : FileError} {left : Network} :
    Grants settings file net grant → grant.refreshToken? = some token → net.Spends left →
    left.files.write path { file with refreshToken := token }.contents = .error failure →
    Ends settings path file net (.error (.tokenFile path failure.message), left)

/-- At most one request arrives, and that one shows the tokens of a file. -/
def AsksOnce (file : ServiceAccountFile) (net later : Network) : Prop :=
  ∃ requests, later.arrived = net.arrived ++ requests ∧ requests.length ≤ 1 ∧
    ∀ request ∈ requests, Shows file request

theorem connect_of_ok {later : Network} {accessToken : String}
    (h : (token settings).perform net = (.ok accessToken, later)) :
    ∃ client : Client, client.token = accessToken ∧
      (Client.connect settings).perform net = (.ok client, later) :=
  ⟨_, rfl, Call.perform_bind_of_ok h⟩

theorem connect_of_error {later : Network} {error : ClientError}
    (h : (token settings).perform net = (.error error, later)) :
    (Client.connect settings).perform net = (.error error, later) :=
  Call.perform_bind_of_error h

/-- With a service account the login is the one by its file. -/
theorem token_eq (h : settings.credentials = .serviceAccountTokenFile path) :
    token settings = serviceAccount settings path := by
  unfold token
  rw [h]

/-- A login with a held file takes one of the courses, and asks once at most. -/
theorem ends_connect (hcredentials : settings.credentials = .serviceAccountTokenFile path)
    (h : net.files.Holds path file) :
    Ends settings path file net ((Client.connect settings).perform net) ∧
      AsksOnce file net ((Client.connect settings).perform net).2 := by
  have hlogin := serviceAccount_of_holds settings h
  rw [← token_eq hcredentials] at hlogin
  have hspends := writesNothing_refresh settings file.refreshToken (some file.clientId) net
  have hasks := arrived_refresh settings file net
  have hgrants := fun grant => @refresh_ok_iff settings net file grant
  -- The exchange decides how the login ends; only after it is the file written.
  cases hrefresh : (refresh settings file.refreshToken (some file.clientId)).perform net with
  | mk result left =>
    rw [hrefresh] at hspends hasks hgrants
    cases result with
    | error error =>
      rw [Call.perform_bind_of_error hrefresh] at hlogin
      rw [connect_of_error hlogin]
      refine ⟨.refused (fun grant hgrant => ?_) hspends, hasks⟩
      cases (hgrants grant).2 hgrant
    | ok grant =>
      have hgranted := (hgrants grant).1 rfl
      rw [Call.perform_bind_of_ok hrefresh] at hlogin
      cases htoken : grant.refreshToken? with
      | none =>
        rw [keep_of_none htoken] at hlogin
        obtain ⟨client, hclient, hconnect⟩ := connect_of_ok hlogin
        rw [hconnect]
        exact ⟨.granted hgranted htoken hclient hspends, hasks⟩
      | some token =>
        cases hwrite : left.files.write path { file with refreshToken := token }.contents with
        | error failure =>
          rw [keep_of_unwritten htoken hwrite] at hlogin
          rw [connect_of_error hlogin]
          exact ⟨.unwritten hgranted htoken hspends hwrite, hasks⟩
        | ok written =>
          rw [keep_of_written htoken hwrite] at hlogin
          obtain ⟨client, hclient, hconnect⟩ := connect_of_ok hlogin
          obtain ⟨name, hresolve, -, hwritten⟩ := FileSystem.write_ok hwrite
          rw [hconnect]
          exact ⟨.rotated hgranted htoken hclient hspends hresolve hwritten (holds_of_write hwrite),
            hasks⟩

/-- Without a file that can be read nothing is asked for. -/
theorem connect_of_not_holds (hcredentials : settings.credentials = .serviceAccountTokenFile path)
    (h : ∀ file, ¬ net.files.Holds path file) :
    ∃ message, (Client.connect settings).perform net = (.error (.tokenFile path message), net) := by
  obtain ⟨message, hread⟩ := readFile_of_not_holds h
  refine ⟨message, connect_of_error ?_⟩
  rw [token_eq hcredentials]
  exact Call.perform_bind_of_error hread

end

end Login

/-! ## One login after the other -/

/-- A login with the replies that it finds, none where the connection is closed. -/
structure Visit where
  settings : Settings
  reachable : Bool := true
  replies : List (Option Reply)
  now : Nat := 0

namespace Visit

def network (visit : Visit) (files : FileSystem) : Network where
  reachable := visit.reachable
  answers := visit.replies.map fun reply? => { reply? }
  now := visit.now
  files := files

def login (visit : Visit) (files : FileSystem) : Except ClientError Client × Network :=
  (Client.connect visit.settings).perform (visit.network files)

/-- What the login makes of the files and of the tokens that one of them holds. -/
inductive Turn (path : String) (visit : Visit) (files : FileSystem) (file : ServiceAccountFile) :
    FileSystem → ServiceAccountFile → Prop
  | refused {error : ClientError} :
    (∀ grant, ¬ Login.Grants visit.settings file (visit.network files) grant) →
    (visit.login files).1 = .error error → (visit.login files).2.files = files →
    Turn path visit files file files file
  | granted {client : Client} {grant : TokenGrant} :
    Login.Grants visit.settings file (visit.network files) grant → grant.refreshToken? = none →
    (visit.login files).1 = .ok client → client.token = grant.accessToken →
    (visit.login files).2.files = files →
    Turn path visit files file files file
  | rotated {client : Client} {grant : TokenGrant} {token name : String} :
    Login.Grants visit.settings file (visit.network files) grant →
    grant.refreshToken? = some token →
    (visit.login files).1 = .ok client → client.token = grant.accessToken →
    files.resolve path = .ok (.entry name) →
    (visit.login files).2.files =
      files.set name (.file { file with refreshToken := token }.contents) →
    Turn path visit files file
      (files.set name (.file { file with refreshToken := token }.contents))
      { file with refreshToken := token }

variable {path : String} {visit : Visit} {files files' : FileSystem}
  {file file' : ServiceAccountFile}

/-- The replies do nothing to the files. -/
theorem files_of_spends {left : Network} (h : (visit.network files).Spends left) :
    left.files = files := by
  refine h.files_eq fun answer hanswer => ?_
  obtain ⟨reply?, -, rfl⟩ := List.mem_map.1 hanswer
  rfl

/-- Every visit is a turn: it keeps the file, or rotates its refresh token. -/
theorem exists_turn (hcredentials : visit.settings.credentials = .serviceAccountTokenFile path)
    (h : files.Holds path file) :
    Login.AsksOnce file (visit.network files) (visit.login files).2 ∧
      ∃ files' file', visit.Turn path files file files' file' ∧ files'.Holds path file' := by
  obtain ⟨hends, hasks⟩ := @Login.ends_connect visit.settings path (visit.network files) file
    hcredentials h
  refine ⟨hasks, ?_⟩
  have hlogin : (Client.connect visit.settings).perform (visit.network files) =
      visit.login files := rfl
  rw [hlogin] at hends
  generalize hresult : visit.login files = result at hends
  cases hends with
  | refused hrefused hspends =>
    have hturn : visit.Turn path files file files file :=
      .refused hrefused (by rw [hresult]) (by rw [hresult]; exact files_of_spends hspends)
    exact ⟨files, file, hturn, h⟩
  | granted hgranted hnone hclient hspends =>
    have hturn : visit.Turn path files file files file :=
      .granted hgranted hnone (by rw [hresult]) hclient
        (by rw [hresult]; exact files_of_spends hspends)
    exact ⟨files, file, hturn, h⟩
  | rotated hgranted htoken hclient hspends hresolve hwritten hholds =>
    rw [files_of_spends hspends] at hresolve hwritten
    subst hwritten
    exact ⟨_, _, .rotated hgranted htoken (by rw [hresult]) hclient hresolve (by rw [hresult]),
      hholds⟩
  | unwritten _ _ hspends hwrite =>
    -- Nobody has replaced the file since it was read, so it can be written.
    obtain ⟨text, htext, -⟩ := h
    rw [files_of_spends hspends] at hwrite
    obtain ⟨written, hwritten⟩ := FileSystem.exists_write_of_readText htext _
    rw [hwrite] at hwritten
    cases hwritten

/-- A turn keeps the type and the identifier of the account. -/
theorem Turn.account_eq (h : visit.Turn path files file files' file') :
    file'.tokenType = file.tokenType ∧ file'.clientId = file.clientId := by
  cases h with
  | refused => exact ⟨rfl, rfl⟩
  | granted => exact ⟨rfl, rfl⟩
  | rotated => exact ⟨rfl, rfl⟩

/-- Only the file that the path leads to is written. -/
theorem Turn.node?_eq {name other : String} (h : visit.Turn path files file files' file')
    (hresolve : files.resolve path = .ok (.entry name)) (hother : other ≠ name) :
    files'.node? other = files.node? other := by
  cases h with
  | refused => rfl
  | granted => rfl
  | rotated _ _ _ _ hresolve' =>
    rw [hresolve] at hresolve'
    cases hresolve'
    rw [FileSystem.node?_set, if_neg hother]

/-- The path leads to the same name afterwards. -/
theorem Turn.resolve {name : String} (h : visit.Turn path files file files' file')
    (hholds : files.Holds path file) (hresolve : files.resolve path = .ok (.entry name)) :
    files'.resolve path = .ok (.entry name) := by
  cases h with
  | refused => exact hresolve
  | granted => exact hresolve
  | rotated _ _ _ _ hresolve' =>
    rw [hresolve] at hresolve'
    cases hresolve'
    exact FileSystem.resolve_set (hholds.node?_ne hresolve) hresolve

/-- The files afterwards are those that the login leaves. -/
theorem Turn.files_eq (h : visit.Turn path files file files' file') :
    (visit.login files).2.files = files' := by
  cases h with
  | refused _ _ hfiles => exact hfiles
  | granted _ _ _ _ hfiles => exact hfiles
  | rotated _ _ _ _ _ hfiles => exact hfiles

end Visit

/-- Logins one after the other. Each one finds the tokens that the one before has left. -/
inductive Chain (path : String) :
    FileSystem → ServiceAccountFile → List Visit → FileSystem → ServiceAccountFile → Prop
  | nil {files : FileSystem} {file : ServiceAccountFile} : Chain path files file [] files file
  | cons {files files' files'' : FileSystem} {file file' file'' : ServiceAccountFile}
      {visit : Visit} {visits : List Visit} :
    Login.AsksOnce file (visit.network files) (visit.login files).2 →
    visit.Turn path files file files' file' →
    Chain path files' file' visits files'' file'' →
    Chain path files file (visit :: visits) files'' file''

namespace Chain

variable {path : String} {visits : List Visit} {files files' : FileSystem}
  {file file' : ServiceAccountFile}

/-- So does any number of turns. -/
theorem account_eq (h : Chain path files file visits files' file') :
    file'.tokenType = file.tokenType ∧ file'.clientId = file.clientId := by
  induction h with
  | nil => exact ⟨rfl, rfl⟩
  | cons _ hturn _ ih =>
    obtain ⟨htype, hclient⟩ := hturn.account_eq
    exact ⟨ih.1.trans htype, ih.2.trans hclient⟩

/-- Each login leaves its files to the next one. -/
theorem files_eq (h : Chain path files file visits files' file') :
    visits.foldl (fun files visit => (visit.login files).2.files) files = files' := by
  induction h with
  | nil => rfl
  | cons _ hturn _ ih => rw [List.foldl_cons, hturn.files_eq, ih]

/-- As long as all logins are those of the account in a file, the file goes on to hold tokens, and
no other file changes. -/
theorem exists_chain (hholds : files.Holds path file)
    (h : ∀ visit ∈ visits, visit.settings.credentials = .serviceAccountTokenFile path) :
    ∃ files' file', Chain path files file visits files' file' ∧ files'.Holds path file' ∧
      ∀ name, files.resolve path = .ok (.entry name) →
        ∀ other, other ≠ name → files'.node? other = files.node? other := by
  induction visits generalizing files file with
  | nil => exact ⟨files, file, .nil, hholds, fun _ _ _ _ => rfl⟩
  | cons visit visits ih =>
    obtain ⟨hasks, files', file', hturn, hholds'⟩ :=
      Visit.exists_turn (h visit List.mem_cons_self) hholds
    obtain ⟨files'', file'', hchain, hholds'', hnodes⟩ :=
      ih hholds' fun other hother => h other (List.mem_cons_of_mem visit hother)
    refine ⟨files'', file'', .cons hasks hturn hchain, hholds'', ?_⟩
    intro name hresolve other hother
    rw [hnodes name (hturn.resolve hholds hresolve) other hother]
    exact hturn.node?_eq hresolve hother

end Chain

/-- **Rotation.** What logins do with token files. A login of a service account shows the tokens
that its file holds, and ends in one of the ways of `Ends`; if the file holds none, it fails. One
login after the other, each finds the tokens that the one before has left: the refresh token that
was granted last, with the type and the client id of the start. The other login flows write no file,
and a request shows the tokens of one file only. -/
theorem tokens_rotate :
    (∀ settings path net, settings.credentials = .serviceAccountTokenFile path →
      ((∀ file, ¬ net.files.Holds path file) →
        ∃ message, (Client.connect settings).perform net =
          (.error (.tokenFile path message), net)) ∧
      ∀ file, net.files.Holds path file →
        Login.Ends settings path file net ((Client.connect settings).perform net) ∧
          Login.AsksOnce file net ((Client.connect settings).perform net).2) ∧
    (∀ path files file visits, files.Holds path file →
      (∀ visit ∈ visits, visit.settings.credentials = .serviceAccountTokenFile path) →
      ∃ files' file', Chain path files file visits files' file' ∧ files'.Holds path file' ∧
        file'.tokenType = file.tokenType ∧ file'.clientId = file.clientId ∧
        ∀ name, files.resolve path = .ok (.entry name) →
          ∀ other, other ≠ name → files'.node? other = files.node? other) ∧
    (∀ settings, (∀ path, settings.credentials ≠ .serviceAccountTokenFile path) →
      ∀ net : Network, net.Spends ((Client.connect settings).perform net).2) ∧
    ∀ file other request, Login.Shows file request → Login.Shows other request →
      file.clientId = other.clientId ∧ file.refreshToken = other.refreshToken := by
  refine ⟨?_, ?_, ?_, fun file other request => Login.Shows.tokens_eq⟩
  · intro settings path net hcredentials
    exact ⟨Login.connect_of_not_holds hcredentials, fun file => Login.ends_connect hcredentials⟩
  · intro path files file visits hholds hcredentials
    obtain ⟨files', file', hchain, hholds', hnodes⟩ := Chain.exists_chain hholds hcredentials
    obtain ⟨htype, hclient⟩ := hchain.account_eq
    exact ⟨files', file', hchain, hholds', htype, hclient, hnodes⟩
  · intro settings hcredentials
    exact Call.Obeys.bind (Login.writesNothing_token hcredentials) fun _ => .pure _

/-! ## Samples -/

def sampleAccount : ServiceAccountFile :=
  { tokenType := "Service Account", refreshToken := "r", clientId := "c" }

def sampleFiles : FileSystem := [("f", .file sampleAccount.contents)]

/-- A login at a service that grants new tokens. -/
def sampleVisit : Visit where
  settings :=
    { url := (Client.sample "t" 60).base
      org := Settings.systemOrg
      credentials := .serviceAccountTokenFile "f"
      allowUnverifiedSsl := false
      maxRetryTimeout := Settings.defaultRetryTimeout
      importSeparator := Settings.defaultSeparator }
  replies :=
    [some {
      body := Utf8.encode "\x7b\"access_token\":\"a\",\"refresh_token\":\"\\\"\"\x7d" }]

/-- A later login, at which the service grants other tokens again. -/
def laterVisit : Visit where
  settings := sampleVisit.settings
  replies :=
    [some { body := Utf8.encode "\x7b\"access_token\":\"b\",\"refresh_token\":\"s\"\x7d" }]

/-- Two logins in a row. Both succeed, each with the token that its reply grants, and the refresh
token of the second reply is the one that is stored in the end. -/
theorem account_logs_in_twice :
    sampleFiles.Holds "f" sampleAccount ∧
      (sampleVisit.login sampleFiles).1.toOption.map (·.token) = some "a" ∧
      (laterVisit.login (sampleVisit.login sampleFiles).2.files).1.toOption.map (·.token) =
        some "b" ∧
      ∃ files', Chain "f" sampleFiles sampleAccount [sampleVisit, laterVisit] files'
          { sampleAccount with refreshToken := "s" } ∧
        files'.Holds "f" { sampleAccount with refreshToken := "s" } := by
  have hwrite : FileSystem.write [] "f" sampleAccount.contents = .ok sampleFiles :=
    ok_of_toOption (by decide +kernel)
  have hholds := Login.holds_of_write hwrite
  obtain ⟨files', file', hchain, hholds', -⟩ :=
    tokens_rotate.2.1 "f" sampleFiles sampleAccount [sampleVisit, laterVisit] hholds
      (by simp [sampleVisit, laterVisit])
  have hlast : FileSystem.write [] "f" { sampleAccount with refreshToken := "s" }.contents =
      .ok files' := by
    rw [← hchain.files_eq]
    exact ok_of_toOption (by decide +kernel)
  obtain rfl := hholds'.unique (Login.holds_of_write hlast)
  exact ⟨hholds, by decide +kernel, by decide +kernel, files', hchain, hholds'⟩

end CloudTenancy
