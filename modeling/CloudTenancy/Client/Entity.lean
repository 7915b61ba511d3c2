import CloudTenancy.Client.Basic

/-!
CloudTenancy.Client.Entity — reading and changing the entities of the service.

* `Client.get`, `Client.list`, `Client.findOne`, `Client.getByName` — reading.
* `Client.waitForTask` — waiting for a task that a reply points to.
* `Client.create`, `Client.update`, `Client.delete` — changing. A change that is accepted and goes
  on as a task is waited for, and the entity is then read again.

Main statement: lists and waits end because every reply uses up an answer.
-/

namespace CloudTenancy.Client

variable {α : Type}

def join (client : Client) (path : String) : Call Url :=
  .ofExcept .url (client.base.join path)

/-! ## Reading -/

def get (client : Client) (decoder : Json.Decoder α) (path : String)
    (tenant? : Option String := none) : Call α := do
  let url ← client.join path
  let reply ← client.send .get url [] .empty tenant?
  Call.decode decoder reply

def pageSize : Nat := 128

/-- What is asked of a collection: the number of a page, its size, and a filter. -/
def pageQuery (page : Nat) (filter? : Option String) : List (String × String) :=
  [("page", toString page), ("pageSize", toString pageSize)] ++
    filter?.toList.map fun filter => ("filter", filter)

/-- The entities of a collection from a page on. The last page is the one whose number reaches the
number of pages that its reply tells. -/
def pagesFrom (client : Client) (decoder : Json.Decoder α) (url : Url) (filter? : Option String)
    (tenant? : Option String) (page : Nat) (net : Network) :
    Except ClientError (List α) × Network :=
  match _hsend : (client.send .get url (pageQuery page filter?) .empty tenant?).perform net with
  | (.error error, net') => (.error error, net')
  | (.ok reply, net') =>
    match reply.decode (Page.decoder decoder) with
    | .error error => (.error (.http error), net')
    | .ok body =>
      if body.pageCount ≤ page then (.ok body.values, net')
      else
        match client.pagesFrom decoder url filter? tenant? (page + 1) net' with
        | (.error error, net'') => (.error error, net'')
        | (.ok more, net'') => (.ok (body.values ++ more), net'')
termination_by net.answers.length
decreasing_by exact (send_ok _hsend).2

def list (client : Client) (decoder : Json.Decoder α) (path : String) (filter? : Option String)
    (tenant? : Option String := none) : Call (List α) := do
  let url ← client.join path
  Call.of (client.pagesFrom decoder url filter? tenant? 1)

def equals (field value : String) : String := field ++ "==" ++ value

/-- The only entity found, named by what was looked for. -/
def theOnly (kind name : String) : List α → Except ClientError α
  | [] => .error (.notFound kind name)
  | [found] => .ok found
  | found => .error (.ambiguous kind name found.length)

/-- The only entity of a collection with a value in a field. -/
def findOne (client : Client) (decoder : Json.Decoder α) (kind path field value : String)
    (tenant? : Option String := none) : Call α := do
  let found ← client.list decoder path (some (equals field value)) tenant?
  Call.ofExcept id (theOnly kind value found)

def getByName (client : Client) (decoder : Json.Decoder α) (kind path name : String)
    (tenant? : Option String := none) : Call α :=
  client.findOne decoder kind path "name" name tenant?

/-! ## Tasks -/

def taskResult (task : Task) : Except ClientError Task :=
  if task.isSuccess then .ok task else .error (.task task.id task.failureMessage)

/-- Looks at a task until it has come to its end, with a pause after each look. -/
def poll (client : Client) (url : Url) (tenant? : Option String) (net : Network) :
    Except ClientError Task × Network :=
  match _hsend : (client.send .get url [] .empty tenant?).perform net with
  | (.error error, net') => (.error error, net')
  | (.ok reply, net') =>
    match reply.decode Task.decoder with
    | .error error => (.error (.http error), net')
    | .ok task =>
      if task.isFinished then (taskResult task, net')
      else client.poll url tenant? (net'.wait client.pollInterval)
termination_by net.answers.length
decreasing_by exact (send_ok _hsend).2

/-- Where the task is that a reply points to. -/
def taskLocation (reply : Reply) : Except ClientError String :=
  match reply.header? "location" with
  | some location => .ok location
  | none => .error (.task "" "accepted without a task location")

def waitForTask (client : Client) (reply : Reply) (tenant? : Option String) : Call Task := do
  let location ← Call.ofExcept id (taskLocation reply)
  let url ← client.join location
  Call.of (client.poll url tenant?)

def taskOwner (task : Task) : Except ClientError EntityRef :=
  match task.owner? with
  | some owner => .ok owner
  | none => .error (.task task.id "task has no owner")

/-! ## Changing -/

def trimSlashes (path : String) : String :=
  String.ofList (path.toList.reverse.dropWhile (· = '/')).reverse

def memberPath (collection id : String) : String := collection ++ "/" ++ id

def create (client : Client) (decoder : Json.Decoder α) (path : String) (body : Json)
    (tenant? : Option String := none) : Call α := do
  let url ← client.join path
  let reply ← client.send .post url [] (.json body) tenant?
  if reply.status = .accepted then
    let task ← client.waitForTask reply tenant?
    let owner ← Call.ofExcept id (taskOwner task)
    client.get decoder (memberPath (trimSlashes path) owner.id) tenant?
  else
    Call.decode decoder reply

def update (client : Client) (decoder : Json.Decoder α) (path : String) (body : Json)
    (tenant? : Option String := none) : Call α := do
  let url ← client.join path
  let reply ← client.send .put url [] (.json body) tenant?
  if reply.status = .accepted then
    let _ ← client.waitForTask reply tenant?
    client.get decoder path tenant?
  else
    Call.decode decoder reply

def delete (client : Client) (path : String) (query : List (String × String))
    (tenant? : Option String := none) : Call Unit := do
  let url ← client.join path
  let reply ← client.send .delete url query .empty tenant?
  if reply.status = .accepted then
    let _ ← client.waitForTask reply tenant?
  return ()

end CloudTenancy.Client
