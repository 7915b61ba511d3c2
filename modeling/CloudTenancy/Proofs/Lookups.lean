import CloudTenancy.LocalUser.Resource
import CloudTenancy.Region.Lookup
import CloudTenancy.Role.Lookup
import CloudTenancy.Proofs.OrgViews
import CloudTenancy.Proofs.Queries
import CloudTenancy.Proofs.Requests

/-!
CloudTenancy.Proofs.Lookups — whether a lookup finds what it was asked for.

* `Network.Serves` — requests that have arrived, each of which has used up the next answer.
* `Network.Answers` — a request and the reply that it got.
* `Network.FiltersBy` — the service takes filters literally: what it lists for a filter that asks
  for a value in a field has this value there.
* `Client.Listed` — an entity stands in the reply to a request for a page.

A lookup asks for entities by a filter, which is the name of a field, two equals signs and the value
that is looked for, as it is. Nothing of the value is escaped, and what comes back is not compared
with it. What is found has therefore arrived in the reply to a request with this very filter, which
`listed_of_findOne` says, and nothing more is known of it. So a lookup finds what was asked for if
the service takes the filter literally, and a service that knows wildcards finds something else.

Main statements: `lookups_find_what_was_asked_for`, and `wildcard_finds_another_name` for a service
that does not take filters literally.
-/

namespace CloudTenancy

variable {α : Type}

/-! ## Requests and their replies -/

namespace Network

/-- Requests have arrived in between, and each of them has used up the next answer. -/
structure Serves (net later : Network) (requests : List Request) : Prop where
  arrived : later.arrived = net.arrived ++ requests
  answers : later.answers = net.answers.drop requests.length

/-- A request has arrived in between, and the answer whose turn it was holds a reply. -/
def Answers (net later : Network) (request : Request) (reply : Reply) : Prop :=
  ∃ (requests : List Request) (i : Nat) (answer : Answer), net.Serves later requests ∧
    requests[i]? = some request ∧ net.answers[i]? = some answer ∧ answer.reply? = some reply

variable {net later last : Network} {request : Request} {reply : Reply}
  {requests more : List Request}

theorem Serves.refl (net : Network) : net.Serves net [] := ⟨by simp, by simp⟩

theorem Serves.wait (net : Network) (duration : Nat) : net.Serves (net.wait duration) [] :=
  ⟨by simp, by simp⟩

/-- Requests that are served one after the other are served together. -/
theorem Serves.trans (h : net.Serves later requests) (hlast : later.Serves last more) :
    net.Serves last (requests ++ more) where
  arrived := by rw [hlast.arrived, h.arrived, List.append_assoc]
  answers := by rw [hlast.answers, h.answers, List.drop_drop, List.length_append]

/-- An answer stays one when further requests follow. -/
theorem Answers.followed (h : net.Answers later request reply) (hlast : later.Serves last more) :
    net.Answers last request reply := by
  obtain ⟨requests, i, answer, hserves, hrequest, hanswer, hreply⟩ := h
  refine ⟨requests ++ more, i, answer, hserves.trans hlast, ?_, hanswer, hreply⟩
  have hi := (List.getElem?_eq_some_iff.1 hrequest).1
  rwa [List.getElem?_append_left hi]

/-- An answer stays one when other requests were served before. -/
theorem Answers.preceded (hserves : net.Serves later requests)
    (h : later.Answers last request reply) : net.Answers last request reply := by
  obtain ⟨more, i, answer, hlast, hrequest, hanswer, hreply⟩ := h
  refine ⟨requests ++ more, requests.length + i, answer, hserves.trans hlast, ?_, ?_, hreply⟩
  · rwa [List.getElem?_append_right (Nat.le_add_right _ _), Nat.add_sub_cancel_left]
  · rwa [hserves.answers, List.getElem?_drop] at hanswer

theorem serves_of_exchange {outcome : Except HttpError Reply}
    (h : net.exchange request = (outcome, later)) : net.Serves later (net.arrivals request 1) := by
  obtain rfl : (net.exchange request).2 = later := by rw [h]
  refine ⟨net.arrived_exchange request, ?_⟩
  rw [answers_exchange, arrivals]
  split
  · simp
  · simp

/-- A reply that came from the service answers the request. -/
theorem answers_of_exchange (h : net.exchange request = (.ok reply, later))
    (hreply : reply ≠ exhausted) : net.Answers later request reply := by
  have hserves := serves_of_exchange h
  refine ⟨net.arrivals request 1, 0, ?_⟩
  unfold exchange at h
  split at h
  · rename_i hdelivered
    cases hanswers : net.answers with
    | nil =>
      rw [hanswers] at h
      cases h
      exact absurd rfl hreply
    | cons answer rest =>
      rw [hanswers] at h
      dsimp only at h
      refine ⟨answer, hserves, by simp [arrivals, hdelivered], by simp, ?_⟩
      cases hanswer : answer.reply? with
      | none =>
        rw [hanswer] at h
        cases h
      | some told =>
        rw [hanswer] at h
        cases h
        rfl
  · cases h

end Network

/-! ## What is listed -/

namespace Client

variable {client : Client} {decoder : Json.Decoder α} {tenant? filter? : Option String}
  {net later : Network} {url : Url}

/-- The reply to a success is one of the script. -/
theorem served_attempt (client : Client) (deadline : Nat) (request : Request) (net : Network) :
    (∃ requests, net.Serves (client.attempt deadline request net).2 requests) ∧
      ∀ reply, (client.attempt deadline request net).1 = .ok reply →
        net.Answers (client.attempt deadline request net).2 request reply := by
  fun_induction attempt client deadline request net with
  | case1 net error net' hexchange =>
    exact ⟨⟨_, Network.serves_of_exchange hexchange⟩, by rintro _ ⟨⟩⟩
  | case2 net reply net' hexchange hsuccess =>
    refine ⟨⟨_, Network.serves_of_exchange hexchange⟩, ?_⟩
    rintro _ ⟨⟩
    refine Network.answers_of_exchange hexchange ?_
    rintro rfl
    exact absurd hsuccess (by decide)
  | case3 net reply net' hexchange =>
    exact ⟨⟨_, Network.serves_of_exchange hexchange⟩, by rintro _ ⟨⟩⟩
  | case4 net reply net' hexchange _ _ _ _ _ _ ih =>
    obtain ⟨⟨requests, hlater⟩, hreply⟩ := ih
    have hwait := (Network.serves_of_exchange hexchange).trans (.wait net' client.retryPause)
    exact ⟨⟨_, hwait.trans hlater⟩, fun reply hok => .preceded hwait (hreply reply hok)⟩
  | case5 net reply net' hexchange =>
    exact ⟨⟨_, Network.serves_of_exchange hexchange⟩, by rintro _ ⟨⟩⟩
  | case6 net reply net' hexchange =>
    exact ⟨⟨_, Network.serves_of_exchange hexchange⟩, by rintro _ ⟨⟩⟩

/-- The reply to a request that succeeds is an answer to it. -/
theorem served_send {method : Method} {query : List (String × String)} {body : Body}
    {result : Except ClientError Reply}
    (h : (client.send method url query body tenant?).perform net = (result, later)) :
    (∃ requests, net.Serves later requests) ∧ ∀ reply, result = .ok reply →
      ∃ request, client.request method url query body tenant? = .ok request ∧
        net.Answers later request reply := by
  rcases Nat.lt_or_ge (net.now + client.timeout) Clock.bound with hclock | hclock
  · rw [send_of_request hclock] at h
    cases hbuilt : client.request method url query body tenant? with
    | error error =>
      rw [hbuilt] at h
      cases h
      exact ⟨⟨_, .refl net⟩, nofun⟩
    | ok request =>
      obtain ⟨hserves, hreply⟩ := client.served_attempt (net.now + client.timeout) request net
      rw [hbuilt] at h
      dsimp only at h
      rw [h] at hserves hreply
      exact ⟨hserves, fun reply hok => ⟨request, rfl, hreply reply hok⟩⟩
  · rw [send_past_clock hclock] at h
    cases h
    exact ⟨⟨_, .refl net⟩, nofun⟩

/-- The entity stands in the reply to a request for a page. -/
def Listed (client : Client) (tenant? : Option String) (decoder : Json.Decoder α) (url : Url)
    (filter? : Option String) (net later : Network) (entity : α) : Prop :=
  ∃ page request reply body,
    client.request .get url (pageQuery page filter?) .empty tenant? = .ok request ∧
      net.Answers later request reply ∧ reply.decode (Page.decoder decoder) = .ok body ∧
      entity ∈ body.values

/-- An entity that was listed stays so when further requests follow. -/
theorem Listed.followed {last : Network} {entity : α} {requests : List Request}
    (h : client.Listed tenant? decoder url filter? net later entity)
    (hlast : later.Serves last requests) :
    client.Listed tenant? decoder url filter? net last entity := by
  obtain ⟨page, request, reply, body, hbuilt, hanswers, hdecode, hmem⟩ := h
  exact ⟨page, request, reply, body, hbuilt, hanswers.followed hlast, hdecode, hmem⟩

/-- An entity that was listed stays so when other requests were served before. -/
theorem Listed.preceded {last : Network} {entity : α} {requests : List Request}
    (hserves : net.Serves later requests)
    (h : client.Listed tenant? decoder url filter? later last entity) :
    client.Listed tenant? decoder url filter? net last entity := by
  obtain ⟨page, request, reply, body, hbuilt, hanswers, hdecode, hmem⟩ := h
  exact ⟨page, request, reply, body, hbuilt, .preceded hserves hanswers, hdecode, hmem⟩

/-- The entities of a page that has been read are listed. -/
theorem listed_of_send {page : Nat} {reply : Reply} {body : Page α} {entity : α}
    (h : (client.send .get url (pageQuery page filter?) .empty tenant?).perform net =
      (.ok reply, later)) (hdecode : reply.decode (Page.decoder decoder) = .ok body)
    (hmem : entity ∈ body.values) : client.Listed tenant? decoder url filter? net later entity := by
  obtain ⟨request, hbuilt, hanswers⟩ := (served_send h).2 reply rfl
  exact ⟨page, request, reply, body, hbuilt, hanswers, hdecode, hmem⟩

/-- Every entity that is read stands in the reply to the request for its page. -/
theorem served_pagesFrom (client : Client) (decoder : Json.Decoder α) (url : Url)
    (filter? tenant? : Option String) (page : Nat) (net : Network) :
    (∃ requests,
      net.Serves (client.pagesFrom decoder url filter? tenant? page net).2 requests) ∧
      ∀ found, (client.pagesFrom decoder url filter? tenant? page net).1 = .ok found →
        ∀ entity ∈ found, client.Listed tenant? decoder url filter? net
          (client.pagesFrom decoder url filter? tenant? page net).2 entity := by
  fun_induction pagesFrom client decoder url filter? tenant? page net with
  | case1 page net error net' hsend => exact ⟨(served_send hsend).1, nofun⟩
  | case2 page net reply net' hsend => exact ⟨(served_send hsend).1, nofun⟩
  | case3 page net reply net' hsend body hdecode =>
    refine ⟨(served_send hsend).1, ?_⟩
    rintro _ ⟨⟩ entity hmem
    exact listed_of_send hsend hdecode hmem
  | case4 page net reply net' hsend body hdecode _ error net'' hrest ih =>
    obtain ⟨requests, hserves⟩ := (served_send hsend).1
    obtain ⟨⟨more, hlater⟩, -⟩ := ih
    rw [hrest] at hlater
    exact ⟨⟨_, hserves.trans hlater⟩, nofun⟩
  | case5 page net reply net' hsend body hdecode _ more net'' hrest ih =>
    obtain ⟨requests, hserves⟩ := (served_send hsend).1
    obtain ⟨⟨others, hlater⟩, hlisted⟩ := ih
    rw [hrest] at hlater hlisted
    refine ⟨⟨_, hserves.trans hlater⟩, ?_⟩
    rintro _ ⟨⟩ entity hmem
    rcases List.mem_append.1 hmem with hhere | hthere
    · exact (listed_of_send hsend hdecode hhere).followed hlater
    · exact .preceded hserves (hlisted more rfl entity hthere)

variable {kind path field value : String} {entity : α}

/-- A lookup does nothing but have its requests served. -/
theorem served_findOne (client : Client) (decoder : Json.Decoder α)
    (kind path field value : String) (tenant? : Option String) (net : Network) :
    ∃ requests, net.Serves
      ((client.findOne decoder kind path field value tenant?).perform net).2 requests := by
  obtain ⟨hlists, hfinds, -⟩ := collections_are_read_whole client decoder path tenant?
  rw [(hfinds kind field value).network]
  cases hjoin : client.base.join path with
  | error error =>
    rw [(hlists _).unjoined error hjoin]
    exact ⟨_, .refl net⟩
  | ok url =>
    rw [perform_list hjoin]
    exact (client.served_pagesFrom decoder url _ tenant? 1 net).1

/-- An entity that is found was listed by the service. -/
theorem listed_of_findOne
    (h : ((client.findOne decoder kind path field value tenant?).perform net).1 = .ok entity) :
    ∃ url, client.base.join path = .ok url ∧
      client.Listed tenant? decoder url (some (field ++ "==" ++ value)) net
        ((client.findOne decoder kind path field value tenant?).perform net).2 entity := by
  obtain ⟨-, hfinds, -⟩ := collections_are_read_whole client decoder path tenant?
  obtain ⟨url, -, hjoin, -⟩ := findOne_ok_iff.1 h
  refine ⟨url, hjoin, ?_⟩
  rw [(hfinds kind field value).found, perform_list hjoin] at h
  rw [(hfinds kind field value).network, perform_list hjoin]
  exact (client.served_pagesFrom decoder url _ tenant? 1 net).2 [entity] h entity
    List.mem_cons_self

end Client

/-! ## Services that take filters literally -/

/-- Whatever is listed in between for a filter that asks for a value in a field has this value
there. -/
def Network.FiltersBy (net later : Network) (decoder : Json.Decoder α) (field : String)
    (property : α → String) : Prop :=
  ∀ request reply body value, net.Answers later request reply →
    reply.decode (Page.decoder decoder) = .ok body →
    request.parameter? "filter" = some (Utf8.encode (field ++ "==" ++ value)) →
    ∀ entity ∈ body.values, property entity = value

/-- Part of what happens in between is as all of it. -/
theorem Network.FiltersBy.inner {before net later after : Network} {decoder : Json.Decoder α}
    {field : String} {property : α → String} {first last : List Request}
    (h : before.FiltersBy after decoder field property) (hfirst : before.Serves net first)
    (hlast : later.Serves after last) : net.FiltersBy later decoder field property := by
  intro request reply body value hanswers
  exact h request reply body value (.preceded hfirst (hanswers.followed hlast))

/-- If only requests with one filter arrive, it is enough to look at what the answers list. -/
theorem Network.FiltersBy.of_answers {net later : Network} {decoder : Json.Decoder α}
    {field value : String} {property : α → String}
    (hsends : net.Adds
      (·.parameter? "filter" = some (Utf8.encode (field ++ "==" ++ value))) later)
    (h : ∀ answer ∈ net.answers, ∀ reply body, answer.reply? = some reply →
      reply.decode (Page.decoder decoder) = .ok body →
      ∀ entity ∈ body.values, property entity = value) :
    net.FiltersBy later decoder field property := by
  intro request reply body asked hanswers hdecode hfilter entity hmem
  obtain ⟨requests, i, answer, hserves, hrequest, hanswer, hreply⟩ := hanswers
  obtain ⟨others, harrived, hfilters⟩ := hsends
  have hsame : requests = others := List.append_cancel_left (hserves.arrived.symm.trans harrived)
  have hasked : field ++ "==" ++ asked = field ++ "==" ++ value := by
    refine Utf8.encode_injective (Option.some.inj ?_)
    rw [← hfilter, hfilters request (hsame ▸ List.mem_of_getElem? hrequest)]
  rw [(String.append_right_inj _).1 hasked]
  exact h answer (List.mem_of_getElem? hanswer) reply body hreply hdecode entity hmem

namespace Client

/-- All requests of a look have its filter. -/
theorem sends_filter {client : Client} {decoder : Json.Decoder α} {kind path field value : String}
    {tenant? : Option String} (hplain : Reference.IsPlain path) :
    (client.findOne decoder kind path field value tenant?).Sends
      (·.parameter? "filter" = some (Utf8.encode (field ++ "==" ++ value))) := by
  intro net
  obtain ⟨hlists, hfinds, -⟩ := collections_are_read_whole client decoder path tenant?
  rw [(hfinds kind field value).network]
  cases hjoin : client.base.join path with
  | error error =>
    rw [(hlists _).unjoined error hjoin]
    exact Network.Composes.refl net
  | ok url =>
    rw [perform_list hjoin]
    obtain ⟨n, result, hwalk⟩ :=
      client.exists_walk decoder url (some (field ++ "==" ++ value)) tenant? 1 net
    rw [hwalk.pagesFrom]
    obtain ⟨requests, harrived, hcopies⟩ := client.arrived_follow tenant?
      (pageSteps url (some (field ++ "==" ++ value)) 1 n) net
    refine ⟨requests, harrived, ?_⟩
    intro request hmem
    obtain ⟨method, target, query, body, hstep, hbuilt⟩ := hcopies.asked hmem
    obtain ⟨page, -, heq⟩ := List.mem_map.1 hstep
    cases heq
    exact filter_of_request (Url.query?_of_join hplain hjoin) hbuilt

/-- What is found has the value that was looked for, if filters are taken literally. -/
theorem eq_of_findOne {client : Client} {decoder : Json.Decoder α}
    {kind path field value : String} {tenant? : Option String} {net : Network} {entity : α}
    {property : α → String} (hplain : Reference.IsPlain path)
    (h : ((client.findOne decoder kind path field value tenant?).perform net).1 = .ok entity)
    (hfilters : net.FiltersBy
      ((client.findOne decoder kind path field value tenant?).perform net).2 decoder field
      property) : property entity = value := by
  obtain ⟨url, hjoin, page, request, reply, body, hbuilt, hanswers, hdecode, hmem⟩ :=
    listed_of_findOne h
  exact hfilters request reply body value hanswers hdecode
    (filter_of_request (Url.query?_of_join hplain hjoin) hbuilt) entity hmem

theorem isPlain_rolesPath : Reference.IsPlain rolesPath := Reference.isPlain_of_isFixed (by decide)

theorem isPlain_regionsPath : Reference.IsPlain regionsPath :=
  Reference.isPlain_of_isFixed (by decide)

end Client

/-! ## Lookups -/

/-- An action that makes one look ends with a result exactly if one entity is listed alone, and with
what it makes of this entity. -/
theorem Action.look_iff {β : Type} {client : Client} {describe : ClientError → Diagnostic}
    {decoder : Json.Decoder α} {kind path field value : String} {tenant? : Option String}
    {result : α → β} {start : ActionState} {b : β} (property : α → String)
    (hplain : Reference.IsPlain path) :
    ((do
      let client ← Action.configured (some client)
      let a ← Action.attempt describe (client.findOne decoder kind path field value tenant?)
      return result a : Action β).perform start).1 = some b ↔
      ∃ entity, client.ListsAlone tenant? start.network decoder path field value entity ∧
        b = result entity ∧
        (start.network.FiltersBy
            ((do
              let client ← Action.configured (some client)
              let a ← Action.attempt describe (client.findOne decoder kind path field value tenant?)
              return result a : Action β).perform start).2.network decoder field property →
          property entity = value) := by
  constructor
  · intro h
    obtain ⟨entity, hfound, rfl⟩ := Action.ok_of_call h
    refine ⟨entity, Client.findOne_ok_iff.1 hfound, rfl, fun hfilters => ?_⟩
    rw [Action.network_call] at hfilters
    exact Client.eq_of_findOne hplain hfound hfilters
  · rintro ⟨entity, halone, rfl, -⟩
    exact (Action.gives_call (Client.findOne_ok_iff.2 halone)).1

namespace LocalUser

variable {client : Client} {id : String} {names : List String} {start : ActionState}

/-- The state of a user that has been found in an organization. -/
def imported (org : Org) (user : User) : Kept LocalUserState where
  state := LocalUserState.refresh { orgId := .known org.id, roleIds := .known .empty } user

/-- What an import comes to whose id can be split: a look for the organization, and then one for the
user in it. -/
theorem perform_importState
    (hsplit : ImportId.split id client.importSeparator importParts = .ok names) :
    (importState (some client) id).perform start =
      (do
        let org ← Action.attempt (.ofError "Failed to import user")
          (Org.find client (names.getD 0 ""))
        let user ← Action.attempt (.ofError "Failed to import user")
          (find client org.id (names.getD 1 ""))
        return imported org user : Action (Kept LocalUserState)).perform start := by
  have hnames : importNames client id = pure (names.getD 0 "", names.getD 1 "") := by
    simp only [importNames, hsplit]
  rw [importState, Action.perform_bind_of_some (Action.perform_configured client start), hnames,
    Action.perform_bind_of_some (Action.perform_pure _ start)]
  rfl

/-- An import ends with a user exactly if its id can be split, the organization is found, and then
the user is found in it. -/
theorem importState_iff {kept : Kept LocalUserState} :
    ((importState (some client) id).perform start).1 = some kept ↔
      ∃ names org user, ImportId.split id client.importSeparator importParts = .ok names ∧
        ((Org.find client (names.getD 0 "")).perform start.network).1 = .ok org ∧
        ((find client org.id (names.getD 1 "")).perform
          ((Org.find client (names.getD 0 "")).perform start.network).2).1 = .ok user ∧
        kept = imported org user := by
  cases hsplit : ImportId.split id client.importSeparator importParts with
  | error malformed =>
    have hnames : importNames client id = Action.fail { summary := malformed.message } := by
      simp only [importNames, hsplit]
    rw [importState, Action.perform_bind_of_some (Action.perform_configured client start), hnames,
      Action.perform_bind_of_none (Action.perform_fail _ start)]
    simp
  | ok names =>
    rw [perform_importState hsplit, Action.attempt_bind_iff]
    simp only [Action.attempt_bind_iff, Action.perform_pure, Option.some.injEq]
    constructor
    · rintro ⟨org, horg, user, huser, hkept⟩
      exact ⟨names, org, user, rfl, horg, huser, hkept.symm⟩
    · rintro ⟨_, org, user, ⟨⟩, horg, huser, rfl⟩
      exact ⟨org, horg, user, huser, rfl⟩

/-- The network after an import whose organization has been found. -/
theorem network_importState {org : Org}
    (hsplit : ImportId.split id client.importSeparator importParts = .ok names)
    (horg : ((Org.find client (names.getD 0 "")).perform start.network).1 = .ok org) :
    ((importState (some client) id).perform start).2.network =
      ((find client org.id (names.getD 1 "")).perform
        ((Org.find client (names.getD 0 "")).perform start.network).2).2 := by
  have hfirst : (Org.find client (names.getD 0 "")).perform start.network =
      (.ok org, ((Org.find client (names.getD 0 "")).perform start.network).2) :=
    Prod.ext horg rfl
  rw [perform_importState hsplit,
    Action.perform_bind_of_some (Action.perform_attempt_of_ok hfirst), Action.perform_bind_pure,
    Action.network_attempt]

end LocalUser

/-- **Lookups.** A lookup or an import by name has a result exactly if one entity alone is listed
for the filter, and the attributes are then those of the entity, but for the ones that it was looked
up by. If the service takes filters literally, the entity has exactly the name that was asked for,
whatever characters the name holds. -/
theorem lookups_find_what_was_asked_for (client : Client) (start : ActionState) :
    (∀ config state, ((Org.lookup (some client) config).perform start).1 = some state ↔
      ∃ org, client.ListsAlone none start.network Org.decoder Client.orgsPath "name"
          config.name.text org ∧ state = config.refresh org ∧
        (start.network.FiltersBy ((Org.lookup (some client) config).perform start).2.network
            Org.decoder "name" Org.name →
          org.name = config.name.text ∧ state.name = .known config.name.text)) ∧
    (∀ config state, ((Region.lookup (some client) config).perform start).1 = some state ↔
      ∃ region, client.ListsAlone none start.network Region.decoder Client.regionsPath "name"
          config.name.text region ∧ state = config.refresh region ∧ state.name = config.name ∧
        (start.network.FiltersBy ((Region.lookup (some client) config).perform start).2.network
            Region.decoder "name" Region.name →
          region.name = config.name.text)) ∧
    (∀ config state, ((Role.lookup (some client) config).perform start).1 = some state ↔
      ∃ role, client.ListsAlone (some config.orgId.text) start.network Role.decoder
          Client.rolesPath "name" config.name.text role ∧ state = config.refresh role ∧
        state.orgId = config.orgId ∧ state.name = config.name ∧
        (start.network.FiltersBy ((Role.lookup (some client) config).perform start).2.network
            Role.decoder "name" Role.name →
          role.name = config.name.text)) ∧
    (∀ config state, ((LocalUser.lookup (some client) config).perform start).1 = some state ↔
      ∃ user, client.ListsAlone (some config.orgId.text) start.network User.decoder
          Client.usersPath "username" config.username.text user ∧ state = config.refresh user ∧
        state.orgId = config.orgId ∧ state.username = config.username ∧
        (start.network.FiltersBy ((LocalUser.lookup (some client) config).perform start).2.network
            User.decoder "username" User.username →
          user.username = config.username.text)) ∧
    (∀ name kept, Urn.isOrganization name = false →
      (((Org.importState (some client) name).perform start).1 = some kept ↔
      ∃ org, client.ListsAlone none start.network Org.decoder Client.orgsPath "name" name org ∧
        kept = { state := OrgState.refresh {} org } ∧
        (start.network.FiltersBy ((Org.importState (some client) name).perform start).2.network
            Org.decoder "name" Org.name →
          org.name = name ∧ kept.state.name = .known name))) ∧
    ∀ id kept, ((LocalUser.importState (some client) id).perform start).1 = some kept ↔
      ∃ names org user, ImportId.split id client.importSeparator LocalUser.importParts =
          .ok names ∧
        client.ListsAlone none start.network Org.decoder Client.orgsPath "name" (names.getD 0 "")
          org ∧
        client.ListsAlone (some org.id)
          ((Org.find client (names.getD 0 "")).perform start.network).2 User.decoder
          Client.usersPath "username" (names.getD 1 "") user ∧
        kept = LocalUser.imported org user ∧ kept.state.username = .known user.username ∧
        (start.network.FiltersBy
            ((LocalUser.importState (some client) id).perform start).2.network Org.decoder "name"
            Org.name →
          org.name = names.getD 0 "") ∧
        (start.network.FiltersBy
            ((LocalUser.importState (some client) id).perform start).2.network User.decoder
            "username" User.username →
          user.username = names.getD 1 "") := by
  refine ⟨?_, ?_, ?_, ?_, ?_, ?_⟩
  · intro config state
    refine (Action.look_iff Org.name Client.isPlain_orgsPath).trans (exists_congr fun org => ?_)
    refine and_congr_right fun _ => and_congr_right ?_
    rintro rfl
    exact imp_congr_right fun _ => ⟨fun h => ⟨h, congrArg Value.known h⟩, And.left⟩
  · intro config state
    refine (Action.look_iff Region.name Client.isPlain_regionsPath).trans
      (exists_congr fun region => and_congr_right fun _ => and_congr_right ?_)
    rintro rfl
    exact (and_iff_right rfl).symm
  · intro config state
    refine (Action.look_iff Role.name Client.isPlain_rolesPath).trans
      (exists_congr fun role => and_congr_right fun _ => and_congr_right ?_)
    rintro rfl
    exact ((and_iff_right rfl).trans (and_iff_right rfl)).symm
  · intro config state
    refine (Action.look_iff User.username Client.isPlain_usersPath).trans
      (exists_congr fun user => and_congr_right fun _ => and_congr_right ?_)
    rintro rfl
    exact ((and_iff_right rfl).trans (and_iff_right rfl)).symm
  · intro name kept hurn
    unfold Org.importState
    simp only [hurn, Bool.false_eq_true, if_false]
    refine (Action.look_iff Org.name Client.isPlain_orgsPath).trans (exists_congr fun org => ?_)
    refine and_congr_right fun _ => and_congr_right ?_
    rintro rfl
    exact imp_congr_right fun _ => ⟨fun h => ⟨h, congrArg Value.known h⟩, And.left⟩
  · intro id kept
    constructor
    · intro h
      obtain ⟨names, org, user, hsplit, horg, huser, rfl⟩ := LocalUser.importState_iff.1 h
      obtain ⟨lookups, hlookups⟩ := client.served_findOne Org.decoder Org.kind Client.orgsPath
        "name" (names.getD 0 "") none start.network
      obtain ⟨requests, hrequests⟩ := client.served_findOne User.decoder LocalUser.kind
        Client.usersPath "username" (names.getD 1 "") (some org.id)
        ((Org.find client (names.getD 0 "")).perform start.network).2
      rw [LocalUser.network_importState hsplit horg]
      -- Filters are taken literally throughout the import, and each look is a part of it.
      refine ⟨names, org, user, hsplit, Client.findOne_ok_iff.1 horg, Client.findOne_ok_iff.1 huser,
        rfl, rfl, ?_, ?_⟩
      · intro hfilters
        exact Client.eq_of_findOne Client.isPlain_orgsPath horg
          (hfilters.inner (.refl _) hrequests)
      · intro hfilters
        exact Client.eq_of_findOne Client.isPlain_usersPath huser
          (hfilters.inner hlookups (.refl _))
    · rintro ⟨names, org, user, hsplit, horg, huser, rfl, -⟩
      exact LocalUser.importState_iff.2
        ⟨names, org, user, hsplit, Client.findOne_ok_iff.2 horg, Client.findOne_ok_iff.2 huser, rfl⟩

/-- A service that lists an organization by its own name. -/
theorem lookup_finds_sampleOrg :
    ((Org.lookup (some (Client.sample "t" 3)) { name := .known "acme" }).perform
        { network := .holding Org.samplePage }).1 =
          some (OrgState.refresh { name := .known "acme" } Org.sampleOrg) ∧
      (Network.holding Org.samplePage).FiltersBy
        ((Org.lookup (some (Client.sample "t" 3)) { name := .known "acme" }).perform
          { network := .holding Org.samplePage }).2.network Org.decoder "name" Org.name ∧
      Org.sampleOrg.name = "acme" := by
  have hfound : ((Org.lookup (some (Client.sample "t" 3)) { name := .known "acme" }).perform
      { network := .holding Org.samplePage }).1 =
        some (OrgState.refresh { name := .known "acme" } Org.sampleOrg) :=
    (Org.gives_lookup Org.listedAs_sampleOrg).1
  have hlisted : ∀ answer ∈ (Network.holding Org.samplePage).answers, ∀ reply body,
      answer.reply? = some reply → reply.decode (Page.decoder Org.decoder) = .ok body →
      ∀ org ∈ body.values, org.name = "acme" := by
    intro answer hanswer reply body hreply hdecode org hmem
    obtain rfl := List.mem_singleton.1 hanswer
    obtain rfl := Option.some.inj hreply
    rw [Org.decode_samplePage] at hdecode
    cases hdecode
    obtain rfl := List.mem_singleton.1 hmem
    rfl
  have hfilters : (Network.holding Org.samplePage).FiltersBy
      ((Org.lookup (some (Client.sample "t" 3)) { name := .known "acme" }).perform
        { network := .holding Org.samplePage }).2.network Org.decoder "name" Org.name := by
    rw [Org.lookup, Action.network_call]
    exact .of_answers (Client.sends_filter Client.isPlain_orgsPath _) hlisted
  obtain ⟨org, -, hstate, hname⟩ := (lookups_find_what_was_asked_for (Client.sample "t" 3)
    { network := .holding Org.samplePage }).1 _ _ |>.1 hfound
  have hasked := (hname hfilters).2
  exact ⟨hfound, hfilters, by simpa [OrgState.refresh] using hasked⟩

/-- A service that knows wildcards finds an organization that has another name than the one that was
asked for. -/
theorem wildcard_finds_another_name :
    ((Org.lookup (some (Client.sample "t" 3)) { name := .known "*" }).perform
        { network := .holding Org.samplePage }).1 =
          some (OrgState.refresh { name := .known "*" } Org.sampleOrg) ∧
      (OrgState.refresh { name := .known "*" } Org.sampleOrg).name ≠ .known "*" := by
  have hlisted : Org.ListedAs (Client.sample "t" 3) (.holding Org.samplePage) "*" Org.sampleOrg :=
    Client.listsAlone_of_reply Org.join_orgsPath (by decide) rfl rfl rfl Org.decode_samplePage
      (by decide) rfl
  exact ⟨(Org.gives_lookup hlisted).1, by decide⟩

end CloudTenancy
