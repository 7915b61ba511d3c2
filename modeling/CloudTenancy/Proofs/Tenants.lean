import CloudTenancy.Proofs.Sessions

/-!
CloudTenancy.Proofs.Tenants — the organization that each request is made for.

* `Urn.IsEnd` — the part of an id behind its last colon.
* `Request.tenants` — the organizations that a request says it is made for, `Request.IsFor` the
  request that is made for one organization or for none.
* `LocalUser.Imports` — how the requests of an import go: the look-up of the organization is made
  for none, and what follows for the organization that has been found.
* `Errand.KeepsTo` — the requests of an errand are made for the organization that it is about.

The header is made in one place, from the organization that a call is given. So what remains is that
each handler gives its own organization to all the calls in it (`Client.MakesFor`), however many
attempts, pages, looks at a task and final looks these come to.

Main statement: `tenants_are_kept_apart`.
-/

namespace CloudTenancy

/-! ## The header -/

/-- The text is the part of an id behind its last colon, or the whole id if it has none. -/
def Urn.IsEnd (urn text : String) : Prop :=
  ':' ∉ text.toList ∧ (urn = text ∨ ∃ start, urn = start ++ ":" ++ text)

theorem Urn.isEnd_uuid (urn : String) : IsEnd urn (uuid urn) := by
  refine ⟨colon_not_mem_uuid urn, ?_⟩
  have hsplit : urn.toList =
      (urn.toList.reverse.dropWhile (· ≠ ':')).reverse ++ (uuid urn).toList :=
    calc urn.toList
      _ = (urn.toList.reverse.takeWhile (· ≠ ':') ++
            urn.toList.reverse.dropWhile (· ≠ ':')).reverse := by
          rw [List.takeWhile_append_dropWhile, List.reverse_reverse]
      _ = (urn.toList.reverse.dropWhile (· ≠ ':')).reverse ++ (uuid urn).toList := by
          rw [List.reverse_append, uuid, Text.afterLast, String.toList_ofList]
  cases hrest : urn.toList.reverse.dropWhile (· ≠ ':') with
  | nil =>
    rw [hrest, List.reverse_nil, List.nil_append] at hsplit
    exact .inl (String.toList_inj.1 hsplit)
  | cons c rest =>
    -- What stops the walk from the end is a colon.
    have hcolon : c = ':' := by
      have hstop := List.head?_dropWhile_not (· ≠ ':') urn.toList.reverse
      rw [hrest] at hstop
      simpa using hstop
    refine .inr ⟨String.ofList rest.reverse, String.toList_inj.1 ?_⟩
    rw [hsplit, hrest, hcolon]
    simp

namespace Request

/-- The organizations that a request says it is made for. -/
def tenants (request : Request) : List String := request.header "x-vmware-vcloud-tenant-context"

/-- The request is made for one organization, of which it shows the last part of the id, or for
none. -/
def IsFor (request : Request) : Option String → Prop
  | some org => ∃ uuid, request.tenants = [uuid] ∧ Urn.IsEnd org uuid
  | none => request.tenants = []

/-- A request says what its headers say, whatever its address. -/
theorem tenants_of_make {method : Method} {url : Url} {headers : List (String × String)}
    {body : Body} {request : Request} (h : make method url headers body = .ok request) :
    request.tenants =
      (headers.filter fun header => header.1 = "x-vmware-vcloud-tenant-context").map (·.2) := by
  have hkind : ((body.contentType?.toList.map fun type => ("content-type", type)).filter
      fun header => header.1 = "x-vmware-vcloud-tenant-context") = [] := by
    cases body <;> rfl
  rw [tenants, header, headers_of_make h]
  simp only [List.filter_append, hkind, List.append_nil]
  obtain hown | ⟨user, password?, hown⟩ := ownHeaders_eq url <;> simp [hown]

end Request

/-- A request for a tenant names it, and no other. -/
theorem Client.isFor_of_request {client : Client} {method : Method} {url : Url}
    {query : List (String × String)} {body : Body} {tenant? : Option String} {request : Request}
    (h : client.request method url query body tenant? = .ok request) : request.IsFor tenant? := by
  obtain ⟨address, hmake⟩ :
      ∃ address, Request.make method address (client.headers tenant?) body = .ok request := ⟨_, h⟩
  have hname : String.ofList (Settings.foldCase tenantHeader) =
      "x-vmware-vcloud-tenant-context" := rfl
  have htenants : request.tenants = tenant?.toList.map Urn.uuid := by
    rw [Request.tenants_of_make hmake, headers, hname]
    cases tenant? <;> simp
  cases tenant? with
  | none => exact htenants
  | some org => exact ⟨Urn.uuid org, htenants, Urn.isEnd_uuid org⟩

/-- So do all looks and edits for the tenant. -/
theorem Client.MakesFor.isFor {client : Client} {tenant? : Option String} {E : Edit → Prop}
    {request : Request} (h : client.MakesFor tenant? E request) : request.IsFor tenant? := by
  cases h with
  | look hbuilt => exact isFor_of_request hbuilt
  | edit _ _ hbuilt => exact isFor_of_request hbuilt

/-! ## Logins -/

namespace Login

variable {P : Request → Prop}

theorem sends_post {settings : Settings} {path : String} {headers : List (String × String)}
    {body : Body}
    (h : ∀ url request, settings.url.join path = .ok url →
      Request.make .post url headers body = .ok request → P request) :
    (post settings path headers body).Sends P := by
  intro net
  rw [post]
  cases hjoin : settings.url.join path with
  | error error =>
    rw [Call.perform_bind_of_error (Call.perform_ofExcept_error rfl net)]
    exact Network.Composes.refl net
  | ok url =>
    rw [Call.perform_bind_of_ok (Call.perform_ofExcept_ok rfl net)]
    cases hmake : Request.make .post url headers body with
    | error error =>
      rw [Call.perform_bind_of_error (Call.perform_ofExcept_error rfl net)]
      exact Network.Composes.refl net
    | ok request =>
      rw [Call.perform_bind_of_ok (Call.perform_ofExcept_ok rfl net)]
      refine Call.Obeys.bind (R := Network.Adds P) (fun net => ?_) (fun reply => ?_) net
      · refine ⟨net.arrivals request 1, net.arrived_exchange request, fun other hmem => ?_⟩
        have hsame : other = request := by
          unfold Network.arrivals at hmem
          split at hmem
          · exact List.eq_of_mem_replicate hmem
          · cases hmem
        exact hsame ▸ h url request hjoin hmake
      · split
        · exact .pure reply
        · exact .throw _

/-- A request without the header of a tenant is for none. -/
theorem isFor_of_make {url : Url} {headers : List (String × String)} {body : Body}
    {request : Request} (hheaders : ∀ header ∈ headers, header.1 ≠ "x-vmware-vcloud-tenant-context")
    (h : Request.make .post url headers body = .ok request) : request.IsFor none := by
  have hnone : (headers.filter fun header => header.1 = "x-vmware-vcloud-tenant-context") = [] := by
    simpa using hheaders
  rw [Request.IsFor, Request.tenants_of_make h, hnone]
  rfl

/-- The exchange of a refresh token is for no tenant. -/
theorem sends_refresh (settings : Settings) (token : String) (clientId? : Option String) :
    (refresh settings token clientId?).Sends (·.IsFor none) :=
  .bind (sends_post fun _ _ _ => isFor_of_make (by simp)) fun _ => .ofExcept _ _

/-- Files have nothing to do with requests. -/
theorem sends_of_files {α : Type} {call : Call α}
    (h : ∀ net, (call.perform net).2.arrived = net.arrived) : call.Sends P :=
  fun net => ⟨[], by rw [h, List.append_nil], by simp⟩

theorem sends_readFile {α : Type} (decoder : Json.Decoder α) (path : String) :
    (readFile decoder path).Sends P := by
  refine sends_of_files fun net => ?_
  simp only [readFile, Call.perform_of]
  split
  · rfl
  · split <;> rfl

theorem sends_writeFile (path : String) (contents : Bytes) :
    (writeFile path contents).Sends P := by
  refine sends_of_files fun net => ?_
  simp only [writeFile, Call.perform_of]
  split <;> rfl

/-- A login sends what its exchange sends, or what it sends for a user name and a password. -/
theorem sends_token_of_flows {settings : Settings}
    (hintegrated : ∀ user password, settings.credentials = .integrated user password →
      (integrated settings user password).Sends P)
    (hrefresh : ∀ token clientId?, (refresh settings token clientId?).Sends P) :
    (token settings).Sends P := by
  unfold token
  split
  · rename_i user password hcredentials
    exact hintegrated user password hcredentials
  · exact .pure _
  · exact .bind (hrefresh _ _) fun _ => .pure _
  · refine .bind (sends_readFile _ _) fun file => .bind (.ofExcept _ _) fun _ => ?_
    exact .bind (hrefresh _ _) fun _ => .pure _
  · refine .bind (sends_readFile _ _) fun file => .bind (hrefresh _ _) fun grant => ?_
    split
    · exact .bind (sends_writeFile _ _) fun _ => .pure _
    · exact .pure _

/-- A login is made for no organization. -/
theorem sends_token (settings : Settings) : (token settings).Sends (·.IsFor none) :=
  sends_token_of_flows
    (fun _ _ _ => .bind (sends_post fun _ _ _ => isFor_of_make (by simp)) fun _ => .ofExcept _ _)
    (sends_refresh settings)

end Login

/-! ## Imports -/

namespace LocalUser

/-- How the requests of an import go. An id that cannot be split sends none. The look-up of the
organization is made for none, and what follows it for the organization that has been found. -/
inductive Imports (client : Client) (id : String) (net : Network) : List Request → Prop
  | malformed {error : ImportId.Malformed} :
    ImportId.split id client.importSeparator importParts = .error error →
    Imports client id net []
  | missing {names : List String} {error : ClientError} {later : Network}
      {requests : List Request} :
    ImportId.split id client.importSeparator importParts = .ok names →
    (Org.find client (names.getD 0 "")).perform net = (.error error, later) →
    (∀ request ∈ requests, request.IsFor none) →
    Imports client id net requests
  | found {names : List String} {org : Org} {later : Network} {lookups requests : List Request} :
    ImportId.split id client.importSeparator importParts = .ok names →
    (Org.find client (names.getD 0 "")).perform net = (.ok org, later) →
    later.arrived = net.arrived ++ lookups →
    (∀ request ∈ lookups, request.IsFor none) →
    (∀ request ∈ requests, request.IsFor (some org.id)) →
    Imports client id net (lookups ++ requests)

/-- An import looks the organization up for none, and the user for the tenant that was found. -/
theorem imports_importState (client : Client) (id : String) (start : ActionState) :
    ∃ requests, ((importState (some client) id).perform start).2.network.arrived =
        start.network.arrived ++ requests ∧
      Imports client id start.network requests := by
  rw [importState, Action.perform_bind_of_some (Action.perform_configured client start)]
  cases hsplit : ImportId.split id client.importSeparator importParts with
  | error malformed =>
    have hnames : importNames client id = Action.fail { summary := malformed.message } := by
      simp only [importNames, hsplit]
    rw [hnames, Action.perform_bind_of_none (Action.perform_fail _ start)]
    exact ⟨[], (List.append_nil _).symm, .malformed hsplit⟩
  | ok names =>
    have hnames : importNames client id = pure (names.getD 0 "", names.getD 1 "") := by
      simp only [importNames, hsplit]
    rw [hnames, Action.perform_bind_of_some (Action.perform_pure _ start)]
    dsimp only
    obtain ⟨lookups, harrived, hlookups⟩ :=
      Org.sends_find client (E := fun _ => False) (names.getD 0 "") start.network
    have hnone : ∀ request ∈ lookups, request.IsFor none :=
      fun request hmem => (hlookups request hmem).isFor
    cases hfind : (Org.find client (names.getD 0 "")).perform start.network with
    | mk result later =>
      rw [hfind] at harrived
      cases result with
      | error error =>
        rw [Action.perform_bind_of_none (Action.perform_attempt_of_error hfind)]
        exact ⟨lookups, harrived, .missing hsplit hfind hnone⟩
      | ok org =>
        rw [Action.perform_bind_of_some (Action.perform_attempt_of_ok hfind),
          Action.perform_bind_pure]
        obtain ⟨requests, hlater, hrequests⟩ :=
          Action.Obeys.attempt (.ofError "Failed to import user")
            (sends_find client (E := fun _ => False) org.id (names.getD 1 ""))
            { start with network := later }
        refine ⟨lookups ++ requests, ?_, .found hsplit hfind harrived hnone ?_⟩
        · rw [hlater, harrived, List.append_assoc]
        · exact fun request hmem => (hrequests request hmem).isFor

end LocalUser

/-! ## Errands -/

/-- The organization that an errand other than an import is made for. -/
def Errand.tenant? : Errand → Option String
  | localUser call => LocalUser.tenant? call
  | localUserLookup (.read config) => some config.orgId.text
  | roleLookup (.read config) => some config.orgId.text
  | _ => none

/-- The requests of an errand are made for the organization that it is about. For an import that is
the organization that it finds. -/
inductive Errand.KeepsTo (net : Network) : Option Client → Errand → List Request → Prop
  | quiet (errand : Errand) : KeepsTo net none errand []
  | known {client : Client} {errand : Errand} {requests : List Request} :
    (∀ id, errand ≠ .localUser (.importState id)) →
    (∀ request ∈ requests, request.IsFor errand.tenant?) →
    KeepsTo net (some client) errand requests
  | imports {client : Client} {id : String} {requests : List Request} :
    LocalUser.Imports client id net requests →
    KeepsTo net (some client) (.localUser (.importState id)) requests

/-- What ends for want of a session sends nothing. -/
theorem Action.Unconfigured.quiet {α : Type} {P : Request → Prop} {action : Action α}
    (h : action.Unconfigured) : action.Sends P := by
  intro start
  rw [h start]
  exact Network.Composes.refl start.network

/-- Without a session a table of handlers sends nothing, if its validation does not. -/
theorem Handlers.NeedSession.quiet {σ : Type} {P : Request → Prop} {handlers : Handlers σ}
    (h : handlers.NeedSession) (hvalidate : ∀ config, (handlers.validate config).Sends P)
    (call : ResourceCall σ) : (handlers.manage none call).Sends P := by
  cases call with
  | validate config => exact .bind_pure (hvalidate config) _
  | planCreate => exact .pure _
  | planUpdate => exact .pure _
  | planDestroy => exact .pure _
  | _ => exact (h.unconfigured rfl).quiet

/-- Without a session nothing is sent. -/
theorem Errand.quiet_act {P : Request → Prop} (errand : Errand) : (errand.act none).Sends P := by
  have hlookup : ∀ {σ α : Type} {next : σ → Client → Action α} (config : σ),
      (Action.configured none >>= next config).Sends P :=
    fun _ => (Action.unconfigured_bind _).quiet
  cases errand with
  | org call => exact Org.needSession_handlers.quiet (fun _ => .pure ()) call
  | localUser call => exact LocalUser.needSession_handlers.quiet (fun _ => .forM_record _) call
  | orgLookup call => exact LookupCall.sends_answer (fun _ => .pure ()) hlookup call
  | localUserLookup call => exact LookupCall.sends_answer (fun _ => .pure ()) hlookup call
  | roleLookup call => exact LookupCall.sends_answer (fun _ => .pure ()) hlookup call
  | regionLookup call => exact LookupCall.sends_answer (fun _ => .pure ()) hlookup call
  | versionLookup call => exact LookupCall.sends_answer (fun _ => .forM_record _) hlookup call

/-- An errand other than an import is made for the organization that it names. -/
theorem Errand.isFor_act (client : Client) {errand : Errand}
    (hknown : ∀ id, errand ≠ .localUser (.importState id)) :
    (errand.act (some client)).Sends (·.IsFor errand.tenant?) := by
  have hisFor : ∀ {tenant? : Option String} {E : Edit → Prop} request,
      client.MakesFor tenant? E request → request.IsFor tenant? :=
    fun _ => Client.MakesFor.isFor
  cases errand with
  | org call => exact (Org.makesFor_manage client call).mono hisFor
  | localUser call =>
    have hcall : ∀ id, call ≠ .importState id := fun id h => hknown id (congrArg _ h)
    exact (LocalUser.makesFor_manage client hcall).mono hisFor
  | orgLookup call =>
    exact LookupCall.sends_answer (fun _ => .pure ())
      (fun config => (Org.sends_lookup client (E := fun _ => False) config).mono hisFor) call
  | localUserLookup call =>
    cases call with
    | validate config => exact .bind (.pure ()) fun _ => .pure _
    | read config =>
      exact .bind ((LocalUser.sends_lookup client (E := fun _ => False) config).mono hisFor)
        fun _ => .pure _
  | roleLookup call =>
    cases call with
    | validate config => exact .bind (.pure ()) fun _ => .pure _
    | read config =>
      exact .bind ((Role.sends_lookup client (E := fun _ => False) config).mono hisFor)
        fun _ => .pure _
  | regionLookup call =>
    exact LookupCall.sends_answer (fun _ => .pure ())
      (fun config => (Region.sends_lookup client (E := fun _ => False) config).mono hisFor) call
  | versionLookup call =>
    exact LookupCall.sends_answer (fun _ => .forM_record _)
      (fun config => (Version.sends_lookup client (E := fun _ => False) config).mono hisFor) call

/-- What an errand sends is for the tenant that it is about. -/
theorem Errand.keepsTo_act (client? : Option Client) (errand : Errand) (net : Network) :
    ∃ requests, ((errand.act client?).start net).2.arrived = net.arrived ++ requests ∧
      errand.KeepsTo net client? requests := by
  cases client? with
  | none =>
    obtain ⟨requests, harrived, hnone⟩ :=
      Errand.quiet_act (P := fun _ => False) errand { network := net }
    obtain rfl := List.eq_nil_iff_forall_not_mem.2 hnone
    exact ⟨[], harrived, .quiet errand⟩
  | some client =>
    by_cases himport : ∃ id, errand = .localUser (.importState id)
    · obtain ⟨id, rfl⟩ := himport
      obtain ⟨requests, harrived, himports⟩ :=
        LocalUser.imports_importState client id { network := net }
      refine ⟨requests, ?_, .imports himports⟩
      rw [← harrived]
      exact congrArg (·.2.network.arrived)
        (Action.perform_bind_pure (LocalUser.importState (some client) id) ResourceAnswer.kept _)
    · have hknown : ∀ id, errand ≠ .localUser (.importState id) := fun id h => himport ⟨id, h⟩
      obtain ⟨requests, harrived, hfor⟩ := Errand.isFor_act client hknown { network := net }
      exact ⟨requests, harrived, .known hknown hfor⟩

/-! ## The provider -/

namespace Provider

/-- A login is for no tenant. -/
theorem sends_openSession (block : ProviderBlock) (env : Environment) :
    (openSession block env).Sends (·.IsFor none) := by
  unfold openSession
  split
  · exact .fail _
  · exact .attempt _ (.bind (Login.sends_token _) fun _ => .pure _)

/-- **Tenants.** Whatever the service answers: all requests of a call of the provider name the
organization that the call is about and no other one, or none if it is about the service as a whole;
an import looks its organization up without naming one and then names the one that it has found; and
a configuration names none. -/
theorem tenants_are_kept_apart (provider : Provider) (net : Network) :
    (∀ errand : Errand, ∃ requests,
      (provider.serve errand net).2.arrived = net.arrived ++ requests ∧
        errand.KeepsTo net provider.client? requests) ∧
    ∀ block env, ∃ requests,
      (provider.configure block env net).2.arrived = net.arrived ++ requests ∧
        ∀ request ∈ requests, request.IsFor none := by
  refine ⟨fun errand => ?_, fun block env => ?_⟩
  · rw [serve_eq]
    exact errand.keepsTo_act provider.client? net
  · exact sends_openSession block env { network := net }

/-- An import looks for the organization without naming one, and for the user in the organization
that it has found. -/
theorem import_names_the_organization_it_has_found :
    ((⟨some (Client.sample "t" 60)⟩ : Provider).serve
        (.localUser (.importState "acme.alice.smith")) LocalUser.household).1.value?.isSome = true ∧
      ∃ requests,
        (Errand.localUser (.importState "acme.alice.smith")).KeepsTo LocalUser.household
          (some (Client.sample "t" 60)) requests ∧
        requests.map (fun request => (request.url.path.text, request.tenants)) =
          [("/cloudapi/1.0.0/orgs", []), ("/cloudapi/1.0.0/users", ["42"])] := by
  obtain ⟨requests, harrived, hkeeps⟩ := (tenants_are_kept_apart ⟨some (Client.sample "t" 60)⟩
    LocalUser.household).1 (.localUser (.importState "acme.alice.smith"))
  refine ⟨by decide +kernel, requests, hkeeps, ?_⟩
  have hlog : ((⟨some (Client.sample "t" 60)⟩ : Provider).serve
      (.localUser (.importState "acme.alice.smith")) LocalUser.household).2.arrived.map
      (fun request => (request.url.path.text, request.tenants)) =
        [("/cloudapi/1.0.0/orgs", []), ("/cloudapi/1.0.0/users", ["42"])] := by
    decide +kernel
  rwa [harrived] at hlog

end Provider

end CloudTenancy
