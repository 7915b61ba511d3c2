import CloudTenancy.Proofs.TwoRuns
import CloudTenancy.Provider

/-!
CloudTenancy.Proofs.Passwords — where the password of a local user goes.

* `Request.SameButPassword` — requests that differ at most in the password of the user that they add
  or change.
* `LocalUserState.withPassword` — attributes with another password.
* `LocalUser.SameAnswer` — answers that differ at most in the password, which is the one that was
  passed in.

The password is read in one place only: where the user is made that a change asks for. What a look
or a removal asks for does not hold it, and of a change it stands in the body of the first request.
So two runs with passwords of their own agree.

Main statement: `passwords_reach_only_changes`.
-/

namespace CloudTenancy

variable {L : Likeness}

/-! ## Requests -/

/-- The requests differ at most in the password of the user that they add or change. -/
inductive Request.SameButPassword : Request → Request → Prop
  | same (request : Request) : SameButPassword request request
  | password {method : Method} (url : Url) (headers : List (String × String))
      (before after : List (String × Json)) (first second : String) :
    method = .post ∨ method = .put →
    SameButPassword
      { method, url, headers
        body := .json (.object (before ++ ("password", .string first) :: after)) }
      { method, url, headers
        body := .json (.object (before ++ ("password", .string second) :: after)) }

theorem Request.SameButPassword.url_eq {request other : Request}
    (h : request.SameButPassword other) : request.url = other.url := by
  cases h with
  | same => rfl
  | password => rfl

/-- Runs that cannot be told apart at all. -/
def Likeness.same : Likeness := .onSameFiles Eq (fun _ => rfl) (congrArg Request.url)

/-- Runs that differ at most in the password of the user that a request adds or changes. -/
def Likeness.butPassword : Likeness :=
  .onSameFiles Request.SameButPassword .same Request.SameButPassword.url_eq

def Json.present (member : String × Option Json) : Option (String × Json) :=
  member.2.map fun value => (member.1, value)

/-- A password is one member of the JSON of a user, and the other ones do not show it. -/
theorem User.exists_toJson_password (user : User) :
    ∃ before after, ∀ password, { user with password? := some password }.toJson =
      .object (before ++ ("password", .string password) :: after) := by
  refine ⟨List.filterMap Json.present
      [("id", nonEmpty user.id), ("username", some (.string user.username))],
    List.filterMap Json.present [
      ("roleEntityRefs", some (.array (user.roleRefs.map EntityRef.toJson))),
      ("orgEntityRef", user.orgRef?.map EntityRef.toJson),
      ("providerType", some (.string user.providerType)),
      ("enabled", some (.bool user.enabled))], fun password => ?_⟩
  have hcons : ∀ members,
      ("password", Json.string password) :: List.filterMap Json.present members =
        List.filterMap Json.present (("password", some (.string password)) :: members) :=
    fun _ => rfl
  rw [hcons, ← List.filterMap_append]
  rfl

/-- Requests that ask for one user with passwords of their own. -/
theorem Client.sameEnd_request_user (client : Client) (user : User) (first second : String)
    {method : Method} (hmethod : method = .post ∨ method = .put) (tenant? : Option String)
    (url : Url) :
    SameEnd Request.SameButPassword
      (client.request method url [] (.json { user with password? := some first }.toJson) tenant?)
      (client.request method url [] (.json { user with password? := some second }.toJson)
        tenant?) := by
  obtain ⟨before, after, hjson⟩ := user.exists_toJson_password
  rw [hjson, hjson]
  exact Request.sameEnd_make rfl (.password _ _ before after first second hmethod)

/-! ## Users -/

def LocalUserState.withPassword (state : LocalUserState) (password : Value String) :
    LocalUserState :=
  { state with password }

namespace LocalUser

/-- Answers about one user whose password is the one of each run. -/
inductive SameAnswer (first second : Value String) :
    ResourceAnswer LocalUserState → ResourceAnswer LocalUserState → Prop
  | done : SameAnswer first second .done .done
  | kept (state : LocalUserState) (privateData : PrivateData) :
    SameAnswer first second (.kept ⟨state.withPassword first, privateData⟩)
      (.kept ⟨state.withPassword second, privateData⟩)

variable {L : Likeness} {first second : Value String}

/-- What the service tells of a user leaves the password alone. -/
theorem refresh_withPassword (state : LocalUserState) (password : Value String) (user : User) :
    (state.withPassword password).refresh user = (state.refresh user).withPassword password := rfl

/-- A user that is looked at, added or changed alike gives answers that belong together. -/
theorem agree_refresh {client? : Option Client} {failure : ClientError → Diagnostic}
    {call call' : Client → Call User} (state : LocalUserState) (privateData : PrivateData)
    (hcall : ∀ client, Call.Agree L Eq (call client) (call' client)) :
    Action.Agree L (fun kept kept' => SameAnswer first second (.kept kept) (.kept kept'))
      (do
        let client ← Action.configured client?
        let user ← Action.attempt failure (call client)
        return ⟨(state.withPassword first).refresh user, privateData⟩ : Action (Kept _))
      (do
        let client ← Action.configured client?
        let user ← Action.attempt failure (call' client)
        return ⟨(state.withPassword second).refresh user, privateData⟩ : Action (Kept _)) := by
  refine .bind_same (.configured client?) fun client => ?_
  refine .bind_same (.attempt failure (hcall client)) fun user => ?_
  rw [refresh_withPassword, refresh_withPassword]
  exact .pure (.kept (state.refresh user) privateData)

/-- A look does not ask for the password. -/
theorem agree_read (client? : Option Client) (state : LocalUserState) (privateData : PrivateData) :
    Action.Agree L (SameAnswer first second)
      (manage client? (.read (state.withPassword first) privateData))
      (manage client? (.read (state.withPassword second) privateData)) :=
  .bind (agree_refresh state privateData fun client => client.agree_get _ _ _) fun _ _ => .pure

/-- A removal does not ask for the password. -/
theorem agree_destroy (client? : Option Client) (prior : LocalUserState) :
    Action.Agree L (SameAnswer first second)
      (manage client? (.destroy (prior.withPassword first)))
      (manage client? (.destroy (prior.withPassword second))) := by
  refine .bind_same ?_ fun _ => .pure .done
  refine .bind_same (.configured client?) fun client => ?_
  exact .bind_same (.attempt _ (.orMissing (client.agree_delete _ [] _))) fun _ => .pure rfl

/-- A change that keeps the password does not tell it. -/
theorem agree_update (client? : Option Client) (prior planned : LocalUserState) :
    Action.Agree L (SameAnswer first second)
      (manage client? (.update (prior.withPassword first) (planned.withPassword first)))
      (manage client? (.update (prior.withPassword second) (planned.withPassword second))) := by
  have hbody : replacement (prior.withPassword first) (planned.withPassword first) =
      replacement (prior.withPassword second) (planned.withPassword second) := by
    simp [replacement, LocalUserState.withPassword, LocalUserState.toUser, LocalUserState.roleRefs]
  refine .bind (agree_refresh planned _ fun client => ?_) fun _ _ => .pure
  rw [hbody]
  refine client.agree_update _ _ fun url => (SameEnd.of_eq rfl).mono fun request _ h => ?_
  exact h ▸ L.refl request

/-- A user is added with the password of each run. -/
theorem agree_create (client? : Option Client) (planned : LocalUserState) :
    Action.Agree .butPassword (SameAnswer first second)
      (manage client? (.create (planned.withPassword first)))
      (manage client? (.create (planned.withPassword second))) := by
  refine .bind (agree_refresh planned _ fun client => ?_) fun _ _ => .pure
  exact client.agree_create _ _
    (client.sameEnd_request_user (planned.toUser true) first.text second.text (.inl rfl) _)

/-- A user is changed to the new password of each run. -/
theorem agree_update_password (client? : Option Client) (prior planned : LocalUserState)
    {old old' : Value String} (hnew : old ≠ first) (hnew' : old' ≠ second) :
    Action.Agree .butPassword (SameAnswer first second)
      (manage client? (.update (prior.withPassword old) (planned.withPassword first)))
      (manage client? (.update (prior.withPassword old') (planned.withPassword second))) := by
  have hbody : ∀ {before after : Value String}, before ≠ after →
      replacement (prior.withPassword before) (planned.withPassword after) =
        { replacement prior planned with password? := some after.text } := by
    intro before after hne
    simp [replacement, LocalUserState.withPassword, LocalUserState.toUser,
      LocalUserState.roleRefs, hne.symm]
  refine .bind (agree_refresh planned _ fun client => ?_) fun _ _ => .pure
  rw [hbody hnew, hbody hnew']
  exact client.agree_update _ _
    (client.sameEnd_request_user (replacement prior planned) first.text second.text (.inr rfl) _)

/-- **Passwords.** Whatever the service answers, two runs about one user with two passwords send the
same requests, have the same reports and end alike, with the password of each run in its result.
The requests differ only where a user is added or gets a new password, and there in one member of
the body of the request that says so. -/
theorem passwords_reach_only_changes (provider : Provider) (net : Network)
    (first second : Value String) :
    (∀ (state : LocalUserState) (privateData : PrivateData), SameRun .same (SameAnswer first second)
      (provider.run manage (.read (state.withPassword first) privateData) net)
      (provider.run manage (.read (state.withPassword second) privateData) net)) ∧
    (∀ prior : LocalUserState, SameRun .same (SameAnswer first second)
      (provider.run manage (.destroy (prior.withPassword first)) net)
      (provider.run manage (.destroy (prior.withPassword second)) net)) ∧
    (∀ prior planned : LocalUserState, SameRun .same (SameAnswer first second)
      (provider.run manage
        (.update (prior.withPassword first) (planned.withPassword first)) net)
      (provider.run manage
        (.update (prior.withPassword second) (planned.withPassword second)) net)) ∧
    (∀ planned : LocalUserState, SameRun .butPassword (SameAnswer first second)
      (provider.run manage (.create (planned.withPassword first)) net)
      (provider.run manage (.create (planned.withPassword second)) net)) ∧
    ∀ (prior planned : LocalUserState) (old old' : Value String), old ≠ first → old' ≠ second →
      SameRun .butPassword (SameAnswer first second)
        (provider.run manage (.update (prior.withPassword old) (planned.withPassword first)) net)
        (provider.run manage
          (.update (prior.withPassword old') (planned.withPassword second)) net) := by
  refine ⟨fun state privateData => ?_, fun prior => ?_, fun prior planned => ?_, fun planned => ?_,
    fun prior planned old old' hnew hnew' => ?_⟩
  · exact (agree_read provider.client? state privateData).start (.of_files rfl)
  · exact (agree_destroy provider.client? prior).start (.of_files rfl)
  · exact (agree_update provider.client? prior planned).start (.of_files rfl)
  · exact (agree_create provider.client? planned).start (.of_files rfl)
  · exact (agree_update_password provider.client? prior planned hnew hnew').start (.of_files rfl)

/-- A user that gets the password `r` instead of `p` in one run, and `s` instead of `q` in the
other one, from a service that closes every connection. -/
theorem passwords_reach_only_changes_of_new_passwords :
    (Value.known "p") ≠ .known "r" ∧ (Value.known "q") ≠ .known "s" ∧
      SameRun .butPassword (SameAnswer (.known "r") (.known "s"))
        (Provider.run ⟨some (.sample "t" 60)⟩ manage
          (.update { id := .known "u", orgId := .known "o", password := .known "p" }
            { id := .known "u", orgId := .known "o", password := .known "r" })
          { answers := [⟨none, none⟩] })
        (Provider.run ⟨some (.sample "t" 60)⟩ manage
          (.update { id := .known "u", orgId := .known "o", password := .known "q" }
            { id := .known "u", orgId := .known "o", password := .known "s" })
          { answers := [⟨none, none⟩] }) := by
  have hr : (Value.known "p") ≠ .known "r" := by decide
  have hs : (Value.known "q") ≠ .known "s" := by decide
  obtain ⟨-, -, -, -, hchange⟩ := passwords_reach_only_changes ⟨some (.sample "t" 60)⟩
    { answers := [⟨none, none⟩] } (.known "r") (.known "s")
  exact ⟨hr, hs, hchange { id := .known "u", orgId := .known "o" }
    { id := .known "u", orgId := .known "o" } (.known "p") (.known "q") hr hs⟩

end LocalUser

end CloudTenancy
