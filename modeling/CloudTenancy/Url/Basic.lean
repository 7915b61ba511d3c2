import CloudTenancy.Url.Address

/-!
CloudTenancy.Url.Basic — absolute URLs.

* `Host` — a domain name or a numeric address.
* `Authority` — user info, host and port.
* `Path` — segments behind slashes, or a text without a root.
* `Url` — all parts, in their normalized form.
* `Url.text` — the URL as text.
* `Scheme` — the kinds of schemes, `Scheme.defaultPort?` the ports that are left out.

Parts are kept percent-encoded. Main statement: the parts of a path without slashes are the
segments, so that `Url.directory` only ever adds an empty segment at the end.
-/

namespace CloudTenancy

/-! ## Parts -/

inductive Host
  | domain (name : String)
  | ipv4 (address : Nat)
  | ipv6 (pieces : List Nat)
  deriving DecidableEq, Repr

def Host.text : Host → String
  | domain name => name
  | ipv4 address => Ipv4.render address
  | ipv6 pieces => "[" ++ Ipv6.render pieces ++ "]"

/-- What stands behind the two slashes. A password is never empty. -/
structure Authority where
  username : String := ""
  password? : Option String := none
  host : Host
  port? : Option Nat := none
  deriving DecidableEq, Repr

namespace Authority

/-- The user info with its at sign, nothing if there is none. -/
def userinfo (a : Authority) : String :=
  match a.password? with
  | some password => a.username ++ ":" ++ password ++ "@"
  | none => if a.username.isEmpty then "" else a.username ++ "@"

def portText (a : Authority) : String :=
  match a.port? with
  | some port => ":" ++ toString port
  | none => ""

def text (a : Authority) : String := a.userinfo ++ a.host.text ++ a.portText

def anonymous (a : Authority) : Authority := { a with username := "", password? := none }

end Authority

/-- A path: segments, each behind a slash, or a text without a root. -/
inductive Path
  | segments (parts : List String)
  | rootless (text : String)
  deriving DecidableEq, Repr

def Path.text : Path → String
  | segments parts => String.join (parts.map ("/" ++ ·))
  | rootless text => text

structure Url where
  scheme : String
  authority? : Option Authority := none
  path : Path
  query? : Option String := none
  fragment? : Option String := none
  deriving DecidableEq, Repr

/-! ## Schemes -/

inductive Scheme
  /-- Local files. -/
  | file
  /-- Schemes with a host and a default port. -/
  | special (port : Nat)
  | other
  deriving DecidableEq, Repr

namespace Scheme

def ofName : String → Scheme
  | "http" => special 80
  | "ws" => special 80
  | "https" => special 443
  | "wss" => special 443
  | "ftp" => special 21
  | "file" => file
  | _ => other

/-- Backslashes count as slashes, and hosts are domain names. -/
def isSpecial : Scheme → Bool
  | other => false
  | _ => true

def defaultPort? : Scheme → Option Nat
  | special port => some port
  | _ => none

end Scheme

namespace Url

/-! ## Text -/

/-- The scheme, the authority and the path. Two slashes at the start of a path would look like an
authority, so `/.` stands in front of them if there is none. -/
def frontText (u : Url) : String :=
  let front := match u.authority? with
    | some a => "//" ++ a.text
    | none => match u.path with
      | .segments ("" :: _ :: _) => "/."
      | _ => ""
  u.scheme ++ ":" ++ front ++ u.path.text

def queryText (u : Url) : String := (u.query?.map ("?" ++ ·)).getD ""

def fragmentText (u : Url) : String := (u.fragment?.map ("#" ++ ·)).getD ""

def text (u : Url) : String := u.frontText ++ u.queryText ++ u.fragmentText

def hostText? (u : Url) : Option String :=
  u.authority?.bind fun a => match a.host with
    | .domain "" => none
    | host => some host.text

/-! ## Changes -/

def anonymous (u : Url) : Url := { u with authority? := u.authority?.map Authority.anonymous }

def withoutFragment (u : Url) : Url := { u with fragment? := none }

def directory (u : Url) : Url :=
  match u.path with
  | .segments parts =>
    if parts.getLast? = some "" then u else { u with path := .segments (parts ++ [""]) }
  | .rootless _ => u

def appendQuery (u : Url) (items : String) : Url :=
  let query := match u.query? with
    | none => items
    | some "" => items
    | some query => if items.isEmpty then query else query ++ "&" ++ items
  { u with query? := if query.isEmpty then none else some query }

/-- Only the path changes, and only by an empty segment. -/
theorem directory_eq (u : Url) :
    u.directory = u ∨ ∃ parts, u.path = .segments parts ∧
      u.directory = { u with path := .segments (parts ++ [""]) } := by
  unfold directory
  split
  · rename_i parts hp
    split
    · exact Or.inl rfl
    · exact Or.inr ⟨parts, hp, rfl⟩
  · exact Or.inl rfl

end Url

end CloudTenancy
