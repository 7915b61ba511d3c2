import CloudTenancy.Url.Basic
import CloudTenancy.Url.Percent
import CloudTenancy.Url.Domain

/-!
CloudTenancy.Url.Parser — reading URLs, absolute or relative to a base.

* `UrlError` — why a text is no URL, `UrlError.message` the wording.
* `Host.parse` — a host as it stands in a URL.
* `Authority.parse` — user info, host and port.
* `Path.extend` — segments added to a path, dot segments resolved.
* `Url.parse`, `Url.join` — whole URLs.

Blanks and control characters around the text, and tabs and line ends in it, are dropped first.

Main statement: joining a relative path keeps scheme and authority of the base.
-/

namespace CloudTenancy

/-! ## Failures -/

inductive UrlError
  | emptyHost
  | invalidDomain
  | invalidPort
  | invalidIpv4
  | invalidIpv6
  | invalidHostCharacter
  | noBase
  | rootlessBase
  deriving DecidableEq, Repr

def UrlError.message : UrlError → String
  | emptyHost => "empty host"
  | invalidDomain => "invalid international domain name"
  | invalidPort => "invalid port number"
  | invalidIpv4 => "invalid IPv4 address"
  | invalidIpv6 => "invalid IPv6 address"
  | invalidHostCharacter => "invalid domain character"
  | noBase => "relative URL without a base"
  | rootlessBase => "relative URL with a cannot-be-a-base base"

/-! ## Preparation -/

/-- Control characters and the space. -/
def isOuterBlank (c : Char) : Bool := c.toNat ≤ 0x20

/-- Tabs and line ends, which are dropped everywhere. -/
def isDropped (c : Char) : Bool := c == '\t' || c == '\n' || c == '\r'

def significant (s : String) : List Char :=
  let inner := ((s.toList.dropWhile isOuterBlank).reverse.dropWhile isOuterBlank).reverse
  inner.filter (!isDropped ·)

/-- A slash, or a backslash where it counts as one. -/
def isSlash (scheme : Scheme) (c : Char) : Bool := c == '/' || (scheme.isSpecial && c == '\\')

def endsAuthority (scheme : Scheme) (c : Char) : Bool := isSlash scheme c || c == '?' || c == '#'

/-! ## Hosts -/

namespace Host

/-- Characters that no host may hold. -/
def isForbidden (c : Char) : Bool :=
  ['\x00', '\t', '\n', '\r', ' ', '#', '/', ':', '<', '>', '?', '@', '[', '\\', ']', '^',
    '|'].contains c

def parseBracketed (cs : List Char) : Except UrlError Host :=
  match cs.getLast? with
  | some ']' =>
    match Ipv6.parse? cs.dropLast with
    | some pieces => .ok (.ipv6 pieces)
    | none => .error .invalidIpv6
  | _ => .error .invalidIpv6

/-- The host of a special URL: percent-decoded, in ASCII, and a number if it ends in one. -/
def parseDomain (cs : List Char) : Except UrlError Host :=
  match (Percent.decodeText? cs).bind fun s => Domain.toAscii? s.toList with
  | none => .error .invalidDomain
  | some [] => .error .emptyHost
  | some name =>
    if Ipv4.endsInNumber name then
      match Ipv4.parse? name with
      | some address => .ok (.ipv4 address)
      | none => .error .invalidIpv4
    else .ok (.domain (String.ofList name))

/-- The host of a URL that is not special is kept, with control characters encoded. -/
def parseUninterpreted (cs : List Char) : Except UrlError Host :=
  if cs.any isForbidden then .error .invalidHostCharacter
  else .ok (.domain (String.ofList (Percent.encode Percent.controlSet cs)))

def parse (scheme : Scheme) (cs : List Char) : Except UrlError Host :=
  match cs with
  | '[' :: rest => parseBracketed rest
  | _ => if scheme.isSpecial then parseDomain cs else parseUninterpreted cs

end Host

/-! ## Authorities -/

/-- The characters of a host, up to a colon outside brackets, and the rest. -/
def spanHost (inBrackets : Bool) : List Char → List Char × List Char
  | [] => ([], [])
  | c :: cs =>
    if c = ':' ∧ !inBrackets then ([], c :: cs)
    else
      let inBrackets := if c = '[' then true else if c = ']' then false else inBrackets
      let (host, rest) := spanHost inBrackets cs
      (c :: host, rest)

/-- A port number. The default port of the scheme is left out, as is a port without digits. -/
def parsePort (scheme : Scheme) (cs : List Char) : Except UrlError (Option Nat) :=
  if !cs.all Char.isDigit then .error .invalidPort
  else
    match Ipv4.ofDigits? 10 0 cs with
    | none => .error .invalidPort
    | some port =>
      if 65535 < port then .error .invalidPort
      else if cs.isEmpty ∨ scheme.defaultPort? = some port then .ok none
      else .ok (some port)

namespace Authority

/-- User info: the part up to the last at sign, and the rest. -/
def splitUserinfo (cs : List Char) : Option (List Char × List Char) :=
  if cs.contains '@' then
    let host := (cs.reverse.takeWhile (· ≠ '@')).reverse
    some (cs.take (cs.length - host.length - 1), host)
  else none

/-- Name and password, encoded. An empty password counts as none. -/
def parseUserinfo (cs : List Char) : String × Option String :=
  let encode := fun cs => String.ofList (Percent.encode Percent.userinfoSet cs)
  let password := (cs.dropWhile (· ≠ ':')).drop 1
  (encode (cs.takeWhile (· ≠ ':')), if password.isEmpty then none else some (encode password))

def parseHost (scheme : Scheme) (cs : List Char) : Except UrlError (Host × Option Nat) := do
  let (host, rest) := spanHost false cs
  if host.isEmpty ∧ (scheme.isSpecial ∨ !rest.isEmpty) then throw .emptyHost
  let host ← Host.parse scheme host
  let port? ← parsePort scheme (rest.drop 1)
  return (host, port?)

/-- The text between the slashes in front and the path. User info needs a host behind it. -/
def parse (scheme : Scheme) (cs : List Char) : Except UrlError Authority := do
  match splitUserinfo cs with
  | none =>
    let (host, port?) ← parseHost scheme cs
    return { host, port? }
  | some ([], rest) =>
    if rest.isEmpty ∧ scheme.isSpecial then throw .emptyHost
    let (host, port?) ← parseHost scheme rest
    return { host, port? }
  | some (userinfo, rest) =>
    let (username, password?) := parseUserinfo userinfo
    let (host, port?) ← parseHost scheme rest
    if rest.isEmpty ∧ (!username.isEmpty ∨ password?.isSome) then throw .emptyHost
    return { username, password?, host, port? }

end Authority

/-! ## Paths -/

namespace Path

/-- A dot, plain or encoded, at the front of a segment, and the rest. -/
def dropDot : List Char → Option (List Char)
  | '.' :: cs => some cs
  | '%' :: '2' :: 'e' :: cs => some cs
  | '%' :: '2' :: 'E' :: cs => some cs
  | _ => none

def isSingleDot (segment : List Char) : Bool := dropDot segment == some []

def isDoubleDot (segment : List Char) : Bool := (dropDot segment).bind dropDot == some []

def encodeSegment (segment : List Char) : String :=
  String.ofList (Percent.encode Percent.pathSet segment)

/-- One more segment. A double dot takes the last one away; a dot segment at the end of the path
leaves an empty segment. -/
def push (parts : List String) (segment : List Char) (isLast : Bool) : List String :=
  if isDoubleDot segment then parts.dropLast ++ if isLast then [""] else []
  else if isSingleDot segment then parts ++ if isLast then [""] else []
  else parts ++ [encodeSegment segment]

def pushAll (parts : List String) : List (List Char) → List String
  | [] => parts
  | [segment] => push parts segment true
  | segment :: rest => pushAll (push parts segment false) rest

def splitSegments (scheme : Scheme) : List Char → List (List Char)
  | [] => [[]]
  | c :: cs =>
    if isSlash scheme c then [] :: splitSegments scheme cs
    else match splitSegments scheme cs with
      | [] => [[c]]
      | segment :: rest => (c :: segment) :: rest

/-- A path with the segments of a text behind it. -/
def extend (scheme : Scheme) (parts : List String) (cs : List Char) : Path :=
  .segments (pushAll parts (splitSegments scheme cs))

/-- The path behind an authority. That of a special URL has at least one segment. -/
def parse (scheme : Scheme) (cs : List Char) : Path :=
  match cs with
  | [] => .segments (if scheme.isSpecial then [""] else [])
  | c :: rest => extend scheme [] (if isSlash scheme c then rest else c :: rest)

def parts : Path → List String
  | segments parts => parts
  | rootless _ => []

end Path

/-! ## URLs -/

/-- Query and fragment, from the mark of one of them on. -/
def parseQueryFragment (scheme : Scheme) (cs : List Char) : Option String × Option String :=
  let querySet := if scheme.isSpecial then Percent.specialQuerySet else Percent.querySet
  let encode := fun set cs => String.ofList (Percent.encode set cs)
  let query := cs.takeWhile (· ≠ '#')
  let fragment := cs.dropWhile (· ≠ '#')
  (if query.isEmpty then none else some (encode querySet (query.drop 1)),
    if fragment.isEmpty then none else some (encode Percent.fragmentSet (fragment.drop 1)))

/-- The text in front of a query or a fragment, and the rest. -/
def spanPath (cs : List Char) : List Char × List Char :=
  cs.span fun c => c ≠ '?' && c ≠ '#'

/-- The name in front of the first colon, in lower case, if it can be a scheme. -/
def splitScheme (cs : List Char) : Option (String × List Char) :=
  let name := cs.takeWhile (· ≠ ':')
  let isSchemeCharacter := fun (c : Char) => c.isAlphanum || c == '+' || c == '-' || c == '.'
  if name.length < cs.length ∧ name.head?.any Char.isAlpha ∧ name.all isSchemeCharacter then
    some (String.ofList (name.map Char.toLower), cs.drop (name.length + 1))
  else none

namespace Url

def withPath (scheme : String) (authority? : Option Authority) (path : List Char → Path)
    (cs : List Char) : Url :=
  let (front, rest) := spanPath cs
  let (query?, fragment?) := parseQueryFragment (.ofName scheme) rest
  { scheme, authority?, path := path front, query?, fragment? }

def parseAuthority (scheme : String) (cs : List Char) : Except UrlError Url := do
  let kind := Scheme.ofName scheme
  let (authority, rest) := cs.span fun c => !endsAuthority kind c
  let authority ← Authority.parse kind authority
  return withPath scheme (some authority) (Path.parse kind) rest

/-- The part behind `file:`. The host is optional, and the local host counts as none. -/
def parseFile (cs : List Char) : Except UrlError Url := do
  let isSlash := isSlash .file
  match cs with
  | a :: b :: rest =>
    if isSlash a ∧ isSlash b then
      let (name, rest) := rest.span fun c => !endsAuthority .file c
      let host ← if name.isEmpty then pure (.domain "") else Host.parse .file name
      let host := if host = .domain "localhost" then .domain "" else host
      return withPath "file" (some { host }) (Path.parse .file) rest
    else return withPath "file" (some { host := .domain "" }) (Path.parse .file) cs
  | _ => return withPath "file" (some { host := .domain "" }) (Path.parse .file) cs

/-- A reference without a scheme, relative to a base with segments. -/
def relative (base : Url) (cs : List Char) : Except UrlError Url :=
  let kind := Scheme.ofName base.scheme
  let parts := base.path.parts
  match cs with
  | [] => .ok { base with fragment? := none }
  | '?' :: _ =>
    let (query?, fragment?) := parseQueryFragment kind cs
    .ok { base with query?, fragment? }
  | '#' :: _ => .ok { base with fragment? := (parseQueryFragment kind cs).2 }
  | c :: rest =>
    if isSlash kind c then
      match rest with
      | d :: after =>
        if isSlash kind d then
          -- exactly two slashes when both are plain, else all there are
          let plain := c == '/' && d == '/'
          parseAuthority base.scheme (if plain then after else after.dropWhile (isSlash kind))
        else .ok (withPath base.scheme base.authority? (Path.extend kind []) rest)
      | [] => .ok (withPath base.scheme base.authority? (Path.extend kind []) rest)
    else .ok (withPath base.scheme base.authority? (Path.extend kind parts.dropLast) cs)

/-- The part behind the colon of a scheme. -/
def parseWithScheme (base? : Option Url) (scheme : String) (cs : List Char) :
    Except UrlError Url :=
  match Scheme.ofName scheme with
  | .file => parseFile cs
  | .special port =>
    let slashes := cs.takeWhile (isSlash (.special port))
    match base? with
    | some base =>
      if slashes.length < 2 ∧ base.scheme = scheme then relative base cs
      else parseAuthority scheme (cs.drop slashes.length)
    | none => parseAuthority scheme (cs.drop slashes.length)
  | .other =>
    match cs with
    | '/' :: '/' :: rest => parseAuthority scheme rest
    | '/' :: rest => .ok (withPath scheme none (Path.extend .other []) rest)
    | _ =>
      .ok (withPath scheme none
        (fun front => .rootless (String.ofList (Percent.encode Percent.controlSet front))) cs)

/-- A URL, relative to a base if there is one. -/
def parseWith (base? : Option Url) (s : String) : Except UrlError Url :=
  let cs := significant s
  match splitScheme cs with
  | some (scheme, rest) => parseWithScheme base? scheme rest
  | none =>
    match base? with
    | none => .error .noBase
    | some base =>
      match base.path with
      | .segments _ => relative base cs
      | .rootless _ =>
        if cs.head? = some '#' then relative base cs else .error .rootlessBase

def parse (s : String) : Except UrlError Url := parseWith none s

def join (base : Url) (reference : String) : Except UrlError Url := parseWith (some base) reference

/-- A reference that is a relative path keeps scheme and authority of the base. -/
theorem relative_keeps_authority {base u : Url} {c : Char} {cs : List Char}
    (h : relative base (c :: cs) = .ok u) (hslash : isSlash (.ofName base.scheme) c = false) :
    u.scheme = base.scheme ∧ u.authority? = base.authority? := by
  unfold relative at h
  split at h
  · rename_i heq
    simp at heq
  · simp only [Except.ok.injEq] at h
    subst h
    exact ⟨rfl, rfl⟩
  · simp only [Except.ok.injEq] at h
    subst h
    exact ⟨rfl, rfl⟩
  · rename_i heq
    simp only [List.cons.injEq] at heq
    obtain ⟨rfl, rfl⟩ := heq
    simp only [hslash, Bool.false_eq_true, if_false, Except.ok.injEq] at h
    subst h
    exact ⟨rfl, rfl⟩

end Url

end CloudTenancy
