import CloudTenancy.Proofs.ReadRecords
import CloudTenancy.Proofs.Tasks

/-!
CloudTenancy.Proofs.Paging — what a collection of many pages is read to.

* `Client.pageStep`, `Client.pageSteps` — the steps that ask for a page, and for pages in a row.
* `Client.readPage` — what the request for a page comes to.
* `Client.Leads` — pages that tell, each of them, of a later one.
* `Client.Walk` — how the pages of a collection end: at the first one that tells of no later one, or
  at the first one that does not arrive or cannot be read.
* `Client.Lists` — every run of a call is one of these.
* `Client.FindsOne` — what is made of all entities that were found.

Every page tells anew how many there are, so the end is not known before it is reached.
`pagesFrom_of_leads` follows the loop along the pages that lead on, for any number of them.

Main statement: `collections_are_read_whole`.
-/

namespace CloudTenancy

namespace Client

variable {α : Type} {client : Client} {decoder : Json.Decoder α} {url : Url}
  {filter? tenant? : Option String}

/-! ## Pages -/

/-- The step that asks for a page: by its number, for 128 entities, and for the filter. -/
def pageStep (url : Url) (filter? : Option String) (page : Nat) : Step :=
  .ask .get url
    ([("page", toString page), ("pageSize", "128")] ++
      filter?.toList.map fun filter => ("filter", filter)) .empty

/-- The steps that ask for `n` pages in a row. -/
def pageSteps (url : Url) (filter? : Option String) (first n : Nat) : List Step :=
  (List.range' first n).map (pageStep url filter?)

/-- What the request for a page comes to. -/
def readPage (client : Client) (decoder : Json.Decoder α) (url : Url)
    (filter? tenant? : Option String) (page : Nat) (net : Network) :
    Except ClientError (Page α) :=
  ((client.send .get url (pageQuery page filter?) .empty tenant?).perform net).1.bind
    (received (Page.decoder decoder))

/-- Pages are asked for from the first on. -/
theorem pageSteps_succ (url : Url) (filter? : Option String) (first n : Nat) :
    pageSteps url filter? first (n + 1) =
      pageStep url filter? first :: pageSteps url filter? (first + 1) n := rfl

theorem pageSteps_append (url : Url) (filter? : Option String) (first n : Nat) :
    pageSteps url filter? first n ++ [pageStep url filter? (first + n)] =
      pageSteps url filter? first (n + 1) := by
  have hrange : List.range' first (n + 1) = List.range' first n ++ [first + n] := by
    simp [List.range'_concat]
  simp [pageSteps, hrange]

/-- Behind a page the network is as the request for it leaves it. -/
theorem after_pageStep (net : Network) (page : Nat) :
    client.after tenant? net (pageStep url filter? page) =
      ((client.send .get url (pageQuery page filter?) .empty tenant?).perform net).2 := rfl

/-- Entities in front of those that are read. -/
def prepend (values : List α) (read : Except ClientError (List α) × Network) :
    Except ClientError (List α) × Network :=
  (read.1.map (values ++ ·), read.2)

/-- Entities that were read are put in front in the order of the pages. -/
theorem prepend_prepend (first second : List α) (read : Except ClientError (List α) × Network) :
    prepend first (prepend second read) = prepend (first ++ second) read := by
  obtain ⟨result, net⟩ := read
  cases result <;> simp [prepend, Except.map]

theorem prepend_nil (read : Except ClientError (List α) × Network) : prepend [] read = read := by
  obtain ⟨result, net⟩ := read
  cases result <;> simp [prepend, Except.map]

/-- One turn of the loop. -/
theorem pagesFrom_eq (client : Client) (decoder : Json.Decoder α) (url : Url)
    (filter? tenant? : Option String) (page : Nat) (net : Network) :
    client.pagesFrom decoder url filter? tenant? page net =
      match client.readPage decoder url filter? tenant? page net with
      | .error error => (.error error, client.after tenant? net (pageStep url filter? page))
      | .ok body =>
        if body.pageCount ≤ page then
          (.ok body.values, client.after tenant? net (pageStep url filter? page))
        else
          prepend body.values (client.pagesFrom decoder url filter? tenant? (page + 1)
            (client.after tenant? net (pageStep url filter? page))) := by
  rw [pagesFrom]
  split
  · rename_i error net' hsend
    simp [readPage, after_pageStep, hsend, Except.bind]
  · rename_i reply net' hsend
    have hpage : client.readPage decoder url filter? tenant? page net =
        received (Page.decoder decoder) reply := by
      simp [readPage, hsend, Except.bind]
    rw [hpage, after_pageStep, hsend]
    cases hbody : reply.decode (Page.decoder decoder) with
    | error error => rw [received_error hbody]
    | ok body =>
      rw [received_ok hbody]
      dsimp only
      split
      · rfl
      · cases hmore : client.pagesFrom decoder url filter? tenant? (page + 1) net' with
        | mk result net'' => cases result <;> rfl

/-! ## Walks -/

/-- The pages from `first` on, each of which tells of a later one. -/
def Leads (client : Client) (decoder : Json.Decoder α) (url : Url)
    (filter? tenant? : Option String) (first : Nat) (net : Network) (pages : List (Page α)) :
    Prop :=
  ∀ i, ∀ h : i < pages.length,
    client.readPage decoder url filter? tenant? (first + i)
        (client.follow tenant? net (pageSteps url filter? first i)) = .ok pages[i] ∧
      first + i < pages[i].pageCount

/-- How the pages from `first` on end, after how many of them, and what they come to. -/
inductive Walk (client : Client) (decoder : Json.Decoder α) (url : Url)
    (filter? tenant? : Option String) (first : Nat) (net : Network) :
    Nat → Except ClientError (List α) → Prop
  /-- The last page tells of no later one: all entities of all pages, in order. -/
  | finished {pages : List (Page α)} {last : Page α} :
    client.Leads decoder url filter? tenant? first net pages →
    client.readPage decoder url filter? tenant? (first + pages.length)
      (client.follow tenant? net (pageSteps url filter? first pages.length)) = .ok last →
    last.pageCount ≤ first + pages.length →
    Walk client decoder url filter? tenant? first net (pages.length + 1)
      (.ok ((pages ++ [last]).flatMap (·.values)))
  /-- A page does not arrive, or cannot be read. -/
  | broken {pages : List (Page α)} {error : ClientError} :
    client.Leads decoder url filter? tenant? first net pages →
    client.readPage decoder url filter? tenant? (first + pages.length)
      (client.follow tenant? net (pageSteps url filter? first pages.length)) = .error error →
    Walk client decoder url filter? tenant? first net (pages.length + 1) (.error error)

theorem Leads.nil {first : Nat} {net : Network} :
    client.Leads decoder url filter? tenant? first net [] :=
  fun i h => absurd h (Nat.not_lt_zero i)

/-- One more page in front. -/
theorem leads_cons {first : Nat} {net : Network} {page : Page α} {pages : List (Page α)} :
    client.Leads decoder url filter? tenant? first net (page :: pages) ↔
      (client.readPage decoder url filter? tenant? first net = .ok page ∧ first < page.pageCount) ∧
        client.Leads decoder url filter? tenant? (first + 1)
          (client.after tenant? net (pageStep url filter? first)) pages := by
  have hnumber : ∀ i, first + 1 + i = first + (i + 1) := fun i => by omega
  constructor
  · intro h
    refine ⟨h 0 (Nat.succ_pos _), ?_⟩
    intro i hi
    have hlater := h (i + 1) (Nat.succ_lt_succ hi)
    rwa [pageSteps_succ, follow_cons, ← hnumber] at hlater
  · rintro ⟨hfirst, hlater⟩ i hi
    cases i with
    | zero => exact hfirst
    | succ i =>
      rw [pageSteps_succ, follow_cons, ← hnumber]
      exact hlater i (Nat.lt_of_succ_lt_succ hi)

/-- Pages that lead on lead the loop to where they end. -/
theorem pagesFrom_of_leads {first : Nat} {net : Network} {pages : List (Page α)}
    (h : client.Leads decoder url filter? tenant? first net pages) :
    client.pagesFrom decoder url filter? tenant? first net =
      prepend (pages.flatMap (·.values))
        (client.pagesFrom decoder url filter? tenant? (first + pages.length)
          (client.follow tenant? net (pageSteps url filter? first pages.length))) := by
  induction pages generalizing first net with
  | nil => exact (prepend_nil _).symm
  | cons page pages ih =>
    obtain ⟨⟨hpage, hmore⟩, hlater⟩ := leads_cons.1 h
    rw [pagesFrom_eq, hpage]
    simp only [if_neg (Nat.not_le.2 hmore)]
    rw [ih hlater, prepend_prepend, List.length_cons, pageSteps_succ, follow_cons,
      List.flatMap_cons, Nat.add_right_comm, Nat.add_assoc first]

/-- What a walk comes to is what the loop comes to. -/
theorem Walk.pagesFrom {first n : Nat} {net : Network} {result : Except ClientError (List α)}
    (h : Walk client decoder url filter? tenant? first net n result) :
    client.pagesFrom decoder url filter? tenant? first net =
      (result, client.follow tenant? net (pageSteps url filter? first n)) := by
  have hsteps : ∀ n, client.after tenant?
      (client.follow tenant? net (pageSteps url filter? first n))
      (pageStep url filter? (first + n)) =
      client.follow tenant? net (pageSteps url filter? first (n + 1)) := by
    intro n
    rw [← pageSteps_append, follow_append]
    rfl
  cases h with
  | finished hleads hlast hend =>
    rw [pagesFrom_of_leads hleads, pagesFrom_eq, hlast]
    simp only [if_pos hend, hsteps, prepend, Except.map, List.flatMap_append, List.flatMap_cons,
      List.flatMap_nil, List.append_nil]
  | broken hleads hlast =>
    rw [pagesFrom_of_leads hleads, pagesFrom_eq, hlast]
    simp only [hsteps, prepend, Except.map]

/-- One more page in front, whose entities come first. -/
theorem Walk.cons {first n : Nat} {net : Network} {page : Page α}
    {result : Except ClientError (List α)}
    (hpage : client.readPage decoder url filter? tenant? first net = .ok page)
    (hmore : first < page.pageCount)
    (h : Walk client decoder url filter? tenant? (first + 1)
      (client.after tenant? net (pageStep url filter? first)) n result) :
    Walk client decoder url filter? tenant? first net (n + 1)
      (result.map (page.values ++ ·)) := by
  have hnumber : ∀ n, first + 1 + n = first + (n + 1) := fun n => by omega
  cases h with
  | @finished pages last hleads hlast hend =>
    have hall := leads_cons.2 ⟨⟨hpage, hmore⟩, hleads⟩
    rw [hnumber, ← follow_cons, ← pageSteps_succ] at hlast
    rw [hnumber] at hend
    exact .finished hall hlast hend
  | @broken pages error hleads hlast =>
    have hall := leads_cons.2 ⟨⟨hpage, hmore⟩, hleads⟩
    rw [hnumber, ← follow_cons, ← pageSteps_succ] at hlast
    exact .broken hall hlast

/-- A page that is read was the body of a success. -/
theorem readPage_ok {page : Nat} {net : Network} {body : Page α}
    (h : client.readPage decoder url filter? tenant? page net = .ok body) :
    ∃ reply, ((client.send .get url (pageQuery page filter?) .empty tenant?).perform net).1 =
        .ok reply ∧ reply.decode (Page.decoder decoder) = .ok body := by
  unfold readPage at h
  cases hsend : ((client.send .get url (pageQuery page filter?) .empty tenant?).perform net).1 with
  | error error => simp [hsend, Except.bind] at h
  | ok reply =>
    refine ⟨reply, rfl, ?_⟩
    cases hbody : reply.decode (Page.decoder decoder) with
    | error error => simp [hsend, Except.bind, received_error hbody] at h
    | ok read => simpa [hsend, Except.bind, received_ok hbody] using h

/-- Every page that is read uses up an answer. -/
theorem length_answers_pageStep {page : Nat} {net : Network} {body : Page α}
    (h : client.readPage decoder url filter? tenant? page net = .ok body) :
    (client.after tenant? net (pageStep url filter? page)).answers.length < net.answers.length := by
  obtain ⟨reply, hreply, -⟩ := readPage_ok h
  rw [after_pageStep]
  exact (send_ok (Prod.ext hreply rfl)).2

/-- The pages come to an end, since every one of them uses up an answer. -/
theorem exists_walk (client : Client) (decoder : Json.Decoder α) (url : Url)
    (filter? tenant? : Option String) (first : Nat) (net : Network) :
    ∃ n result, Walk client decoder url filter? tenant? first net n result := by
  -- Nothing bounds the page counts; it is the answers left that get fewer with every page.
  induction hlength : net.answers.length using Nat.strongRecOn generalizing first net with
  | ind length ih =>
    cases hpage : client.readPage decoder url filter? tenant? first net with
    | error error => exact ⟨_, _, .broken .nil hpage⟩
    | ok page =>
      by_cases hend : page.pageCount ≤ first
      · exact ⟨_, _, .finished .nil hpage hend⟩
      · have hlt := length_answers_pageStep hpage
        obtain ⟨n, result, hwalk⟩ := ih _ (hlength ▸ hlt) (first + 1) _ rfl
        exact ⟨_, _, hwalk.cons hpage (Nat.not_le.1 hend)⟩

/-! ### How far a walk goes -/

/-- Only a page that tells of a later one is not the last. -/
theorem Walk.le_of_pageCount_le {n bound : Nat} {net : Network}
    {result : Except ClientError (List α)}
    (h : Walk client decoder url filter? tenant? 1 net n result)
    (hcount : ∀ i < n, ∀ body,
      client.readPage decoder url filter? tenant? (1 + i)
        (client.follow tenant? net (pageSteps url filter? 1 i)) = .ok body →
      body.pageCount ≤ bound) :
    n ≤ max bound 1 := by
  have hpages : ∀ pages : List (Page α), client.Leads decoder url filter? tenant? 1 net pages →
      n = pages.length + 1 → n ≤ max bound 1 := by
    intro pages hleads hn
    rcases Nat.eq_zero_or_pos pages.length with hnone | hpos
    · omega
    · have hi : pages.length - 1 < pages.length := Nat.sub_lt hpos Nat.one_pos
      obtain ⟨hpage, hmore⟩ := hleads _ hi
      have hle := hcount _ (by omega) _ hpage
      omega
  cases h with
  | finished hleads => exact hpages _ hleads rfl
  | broken hleads => exact hpages _ hleads rfl

/-- The numbers of pages fit 64 bits, as the page counts do. -/
theorem Walk.lt {n : Nat} {net : Network} {result : Except ClientError (List α)}
    (h : Walk client decoder url filter? tenant? 1 net n result) : n < Nat.pow 2 64 := by
  have hcount : ∀ i < n, ∀ body,
      client.readPage decoder url filter? tenant? (1 + i)
        (client.follow tenant? net (pageSteps url filter? 1 i)) = .ok body →
      body.pageCount ≤ Nat.pow 2 64 - 1 := by
    intro i _ body hpage
    obtain ⟨reply, -, hbody⟩ := readPage_ok hpage
    exact Nat.le_sub_one_of_lt (Page.pageCount_lt hbody)
  have hle := h.le_of_pageCount_le hcount
  have hmax : max (Nat.pow 2 64 - 1) 1 < Nat.pow 2 64 := by decide
  exact Nat.lt_of_le_of_lt hle hmax

/-! ## Collections -/

/-- A call reads a collection: page after page, until one tells of no later one. On every network
there is a walk over the pages, a walk determines what the call comes to and where it leaves the
network, and the server sees the requests for its pages, in order, and no others. -/
structure Lists (client : Client) (decoder : Json.Decoder α) (path : String)
    (filter? tenant? : Option String) (call : Call (List α)) : Prop where
  unjoined : ∀ error, client.base.join path = .error error →
    ∀ net, call.perform net = (.error (.url error), net)
  total : ∀ url net, ∃ n result, Walk client decoder url filter? tenant? 1 net n result
  perform : ∀ url, client.base.join path = .ok url → ∀ net n result,
    Walk client decoder url filter? tenant? 1 net n result →
    call.perform net = (result, client.follow tenant? net (pageSteps url filter? 1 n))
  arrived : ∀ url, client.base.join path = .ok url → ∀ net n result,
    Walk client decoder url filter? tenant? 1 net n result →
    ∃ requests, (call.perform net).2.arrived = net.arrived ++ requests ∧
      Copies client tenant? net (pageSteps url filter? 1 n) requests
  fits : ∀ url net n result, Walk client decoder url filter? tenant? 1 net n result →
    n < Nat.pow 2 64
  brief : ∀ url net n result bound, Walk client decoder url filter? tenant? 1 net n result →
    (∀ i < n, ∀ body,
      client.readPage decoder url filter? tenant? (1 + i)
        (client.follow tenant? net (pageSteps url filter? 1 i)) = .ok body →
      body.pageCount ≤ bound) →
    n ≤ max bound 1

/-- Listing reads page after page from the first on. -/
theorem perform_list {path : String} (hjoin : client.base.join path = .ok url) (net : Network) :
    (client.list decoder path filter? tenant?).perform net =
      client.pagesFrom decoder url filter? tenant? 1 net := by
  unfold list
  rw [Call.perform_bind_of_ok (perform_join_ok hjoin net), Call.perform_of]

/-- Listing walks over the pages of a collection, and does nothing else. -/
theorem lists_list (client : Client) (decoder : Json.Decoder α) (path : String)
    (filter? tenant? : Option String) :
    client.Lists decoder path filter? tenant? (client.list decoder path filter? tenant?) where
  unjoined := by
    intro error hjoin net
    unfold list
    exact Call.perform_bind_of_error (perform_join_error hjoin net)
  total := fun url net => exists_walk client decoder url filter? tenant? 1 net
  perform := by
    intro url hjoin net n result hwalk
    rw [perform_list hjoin, hwalk.pagesFrom]
  arrived := by
    intro url hjoin net n result hwalk
    rw [perform_list hjoin, hwalk.pagesFrom]
    exact client.arrived_follow tenant? _ net
  fits := fun _ _ _ _ hwalk => hwalk.lt
  brief := fun _ _ _ _ _ hwalk => hwalk.le_of_pageCount_le

/-! ## One entity of a collection -/

/-- A call finds the only entity of those that were listed; it sends nothing else. Its own failures
say that there is none, or how many there are. -/
structure FindsOne (kind name : String) (list : Call (List α)) (call : Call α) : Prop where
  network : ∀ net, (call.perform net).2 = (list.perform net).2
  found : ∀ net a, (call.perform net).1 = .ok a ↔ (list.perform net).1 = .ok [a]
  missing : ∀ net kind' name', (call.perform net).1 = .error (.notFound kind' name') ↔
    kind' = kind ∧ name' = name ∧ (list.perform net).1 = .ok []
  ambiguous : ∀ net kind' name' count,
    (call.perform net).1 = .error (.ambiguous kind' name' count) ↔
      kind' = kind ∧ name' = name ∧ 2 ≤ count ∧
        ∃ found, (list.perform net).1 = .ok found ∧ found.length = count
  failed : ∀ net error, (list.perform net).1 = .error error →
    (call.perform net).1 = .error error

end Client

/-- The failure is one of a single request: not of a look at what was found. -/
def ClientError.IsOfRequest : ClientError → Prop
  | .notFound _ _ => False
  | .ambiguous _ _ _ => False
  | _ => True

namespace Client

variable {α : Type} {client : Client} {decoder : Json.Decoder α} {url : Url}
  {filter? tenant? : Option String}

/-- What a request fails with is never what a lookup makes of its findings. -/
theorem isOfRequest_send {method : Method} {query : List (String × String)} {body : Body}
    {net : Network} {error : ClientError}
    (h : ((client.send method url query body tenant?).perform net).1 = .error error) :
    error.IsOfRequest := by
  have hsettles := client.send_settles method url query body tenant? net
  rw [h] at hsettles
  generalize hresult : (.error error : Except ClientError Reply) = result at hsettles
  cases hsettles with
  | overflow => cases hresult; trivial
  | unbuilt => cases hresult; trivial
  | @settled request n _ _ =>
    cases hscripted : net.scripted request n with
    | error failure =>
      rw [hscripted] at hresult
      cases hresult
      trivial
    | ok reply =>
      rw [hscripted, settle] at hresult
      split at hresult
      · cases hresult
      · cases hresult
        trivial

theorem isOfRequest_readPage {page : Nat} {net : Network} {error : ClientError}
    (h : client.readPage decoder url filter? tenant? page net = .error error) :
    error.IsOfRequest := by
  unfold readPage at h
  cases hsend : ((client.send .get url (pageQuery page filter?) .empty tenant?).perform net).1 with
  | error failure =>
    rw [hsend] at h
    cases h
    exact isOfRequest_send hsend
  | ok reply =>
    rw [hsend] at h
    cases hbody : reply.decode (Page.decoder decoder) with
    | error failure =>
      rw [Except.bind, received_error hbody] at h
      cases h
      trivial
    | ok body =>
      rw [Except.bind, received_ok hbody] at h
      cases h

/-- Nor is what listing fails with, so that a lookup's own failures can be told apart. -/
theorem isOfRequest_list {path : String} {net : Network} {error : ClientError}
    (h : ((client.list decoder path filter? tenant?).perform net).1 = .error error) :
    error.IsOfRequest := by
  have hlists := client.lists_list decoder path filter? tenant?
  cases hjoin : client.base.join path with
  | error failure =>
    rw [hlists.unjoined failure hjoin] at h
    cases h
    trivial
  | ok url =>
    obtain ⟨n, result, hwalk⟩ := hlists.total url net
    rw [hlists.perform url hjoin net n result hwalk] at h
    cases hwalk with
    | finished => cases h
    | broken _ hlast =>
      cases h
      exact isOfRequest_readPage hlast

/-- A lookup succeeds exactly when one entity was found. -/
theorem theOnly_ok {kind name : String} {found : List α} {a : α} :
    theOnly kind name found = .ok a ↔ found = [a] := by
  rcases found with _ | ⟨b, _ | ⟨c, found⟩⟩ <;> simp [theOnly]

/-- It reports the entity as missing exactly when none was found. -/
theorem theOnly_missing {kind name kind' name' : String} {found : List α} :
    theOnly kind name found = .error (.notFound kind' name') ↔
      kind' = kind ∧ name' = name ∧ found = [] := by
  rcases found with _ | ⟨b, _ | ⟨c, found⟩⟩ <;> simp [theOnly, eq_comm]

/-- It reports an ambiguity exactly when there were several, and how many. -/
theorem theOnly_ambiguous {kind name kind' name' : String} {count : Nat} {found : List α} :
    theOnly kind name found = .error (.ambiguous kind' name' count) ↔
      kind' = kind ∧ name' = name ∧ 2 ≤ count ∧ found.length = count := by
  rcases found with _ | ⟨b, _ | ⟨c, found⟩⟩
  · simp only [theOnly, Except.error.injEq, List.length_nil, reduceCtorEq, false_iff]
    omega
  · simp only [theOnly, List.length_cons, List.length_nil, reduceCtorEq, false_iff]
    omega
  · simp only [theOnly, Except.error.injEq, ClientError.ambiguous.injEq, List.length_cons]
    constructor
    · rintro ⟨rfl, rfl, rfl⟩
      exact ⟨rfl, rfl, by omega, rfl⟩
    · rintro ⟨rfl, rfl, -, rfl⟩
      exact ⟨rfl, rfl, rfl⟩

/-- What is made of the entities that were listed. -/
theorem findsOne_theOnly {kind name path : String} :
    FindsOne kind name (client.list decoder path filter? tenant?)
      (do
        let found ← client.list decoder path filter? tenant?
        Call.ofExcept id (theOnly kind name found)) := by
  have hperform : ∀ net, ((do
      let found ← client.list decoder path filter? tenant?
      Call.ofExcept id (theOnly kind name found) : Call α).perform net) =
      (((client.list decoder path filter? tenant?).perform net).1.bind (theOnly kind name),
        ((client.list decoder path filter? tenant?).perform net).2) := by
    intro net
    cases hlist : (client.list decoder path filter? tenant?).perform net with
    | mk result net' =>
      cases result with
      | error error => rw [Call.perform_bind_of_error hlist]; rfl
      | ok found => rw [Call.perform_bind_of_ok hlist, Call.perform_ofExcept_id]; rfl
  refine ⟨?_, ?_, ?_, ?_, ?_⟩
  · intro net
    rw [hperform]
  · intro net a
    rw [hperform]
    cases hlist : ((client.list decoder path filter? tenant?).perform net).1 with
    | error error => simp [Except.bind]
    | ok found => simp [Except.bind, theOnly_ok]
  · intro net kind' name'
    rw [hperform]
    cases hlist : ((client.list decoder path filter? tenant?).perform net).1 with
    | error error =>
      -- Listing never fails as a lookup does, so this failure cannot be one of the list.
      have hrequest := isOfRequest_list hlist
      simp only [Except.bind, Except.error.injEq, reduceCtorEq, and_false, iff_false]
      rintro rfl
      exact hrequest
    | ok found => simp [Except.bind, theOnly_missing]
  · intro net kind' name' count
    rw [hperform]
    cases hlist : ((client.list decoder path filter? tenant?).perform net).1 with
    | error error =>
      have hrequest := isOfRequest_list hlist
      simp only [Except.bind, Except.error.injEq, reduceCtorEq, false_and, exists_false, and_false,
        iff_false]
      rintro rfl
      exact hrequest
    | ok found => simp [Except.bind, theOnly_ambiguous]
  · intro net error herror
    rw [hperform, herror]
    rfl

/-- **Collections.** A collection is read from its first page to the first one that tells of no
later one, all of them in order and each of them once; what is read are the entities of all these
pages, and nothing if one of them fails. The only entity with a value in a field is found among the
entities of all pages, wherever it and others like it stand. -/
theorem collections_are_read_whole (client : Client) (decoder : Json.Decoder α) (path : String)
    (tenant? : Option String) :
    (∀ filter?, client.Lists decoder path filter? tenant?
      (client.list decoder path filter? tenant?)) ∧
    (∀ kind field value, FindsOne kind value
      (client.list decoder path (some (field ++ "==" ++ value)) tenant?)
      (client.findOne decoder kind path field value tenant?)) ∧
    ∀ kind name, FindsOne kind name
      (client.list decoder path (some ("name==" ++ name)) tenant?)
      (client.getByName decoder kind path name tenant?) :=
  ⟨fun filter? => client.lists_list decoder path filter? tenant?,
    fun _ _ _ => findsOne_theOnly, fun _ _ => findsOne_theOnly⟩

/-! ## A sample -/

/-- A page of two, with one organization on it. -/
def samplePage (id : String) : Json :=
  .object
    [("pageCount", .number (.natural 2)),
      ("values", .array [.object [("id", .string id), ("name", .string "n")]])]

/-- A service with two organizations of one name, one on each page. -/
def twoPages : Network :=
  answering [{ body := (samplePage "u").write }, { body := (samplePage "v").write }]

/-- Both pages are read, and what they hold is one list; so the name is found to be ambiguous. -/
theorem second_page_is_read_too :
    ∃ url n found, (sample "t" 60).base.join orgsPath = .ok url ∧
      Walk (sample "t" 60) Org.decoder url (some "name==n") none 1 twoPages n (.ok found) ∧
      found.map (·.id) = ["u", "v"] ∧
      (((sample "t" 60).getByName Org.decoder "organization" orgsPath "n").perform twoPages).1 =
        .error (.ambiguous "organization" "n" 2) ∧
      log (((sample "t" 60).getByName Org.decoder "organization" orgsPath "n").perform twoPages).2 =
        [(.get, "http://h/cloudapi/1.0.0/orgs?page=1&pageSize=128&filter=name%3D%3Dn"),
          (.get, "http://h/cloudapi/1.0.0/orgs?page=2&pageSize=128&filter=name%3D%3Dn")] := by
  obtain ⟨hlists, -, hfinds⟩ :=
    collections_are_read_whole (sample "t" 60) Org.decoder orgsPath none
  have hjoin : ((sample "t" 60).base.join orgsPath).toOption.isSome = true := by decide +kernel
  cases hurl : (sample "t" 60).base.join orgsPath with
  | error error =>
    rw [hurl] at hjoin
    cases hjoin
  | ok url =>
    obtain ⟨n, result, hwalk⟩ := (hlists (some "name==n")).total url twoPages
    have hperform := (hlists (some "name==n")).perform url hurl _ _ _ hwalk
    have hids : (((sample "t" 60).list Org.decoder orgsPath (some "name==n")).perform
        twoPages).1.toOption.map (·.map (·.id)) = some ["u", "v"] := by decide +kernel
    rw [hperform] at hids
    cases result with
    | error error => cases hids
    | ok found =>
      have hfound : found.map (·.id) = ["u", "v"] := Option.some.inj hids
      have hlength : found.length = 2 := by simpa using congrArg List.length hfound
      refine ⟨url, n, found, rfl, hwalk, hfound, ?_, by decide +kernel⟩
      exact ((hfinds "organization" "n").ambiguous twoPages _ _ _).2
        ⟨rfl, rfl, by decide, found, congrArg Prod.fst hperform, hlength⟩

end Client

end CloudTenancy
