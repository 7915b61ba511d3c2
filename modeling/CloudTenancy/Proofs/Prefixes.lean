import CloudTenancy.Client.Login
import CloudTenancy.Proofs.Acceptance
import CloudTenancy.Proofs.Addresses

/-!
CloudTenancy.Proofs.Prefixes — API calls stay below the path of the endpoint.

* `Url.LeadsTo` — a reference leads to a path below that of the base, at the same host.
* `Client.FixedPath` — the paths that the library uses, but for those that name a tenant.
* `Reference.IsKept` — a text that stands in the middle of a path as it is.

The path of an endpoint ends in an empty segment, which a relative path replaces by its own
segments. None of these is a dot segment in the paths of the library, and each path has a slash in
front of its first colon, so no part of it is taken for a scheme. The name of a tenant stands in a
path without being encoded: it may hold dot segments, or end the path.

Main statement: `path_prefix_is_kept`.
-/

namespace CloudTenancy

/-! ## Segments -/

namespace Path

/-- Segments without dots are put behind the others, encoded. -/
theorem pushAll_of_isDotless {segments : List (List Char)} (hne : segments ≠ [])
    (h : ∀ segment ∈ segments, isDotless segment = true) (parts : List String) :
    pushAll parts segments = parts ++ segments.map encodeSegment := by
  rw [pushAll_eq_walk, walk_of_isDotless h]
  obtain ⟨front, last, rfl⟩ := (List.eq_nil_or_concat segments).resolve_left hne
  simpa using h last (by simp)

end Path

/-! ## References -/

namespace Reference

end Reference

namespace Url

/-- The reference leads to a path below that of the base: to the same host, and nowhere but
there. -/
def LeadsTo (base : Url) (reference path : String) : Prop :=
  ∃ url, base.join reference = .ok url ∧ url.scheme = base.scheme ∧
    url.authority? = base.authority? ∧ url.query? = none ∧ url.fragment? = none ∧
    url.path.text = base.path.text ++ path

variable {base : Url} {front : List String} {path s : String} {rest : List Char}

/-- Behind the base stands all that counts of a reference with a plain path in front, up to a query
or a fragment. -/
theorem join_eq_withPath (hbase : base.path = .segments front)
    (hplain : Reference.IsPlain path) (hs : significant s = path.toList ++ rest) :
    base.join s = .ok (withPath base.scheme base.authority?
      (Path.extend (.ofName base.scheme) front.dropLast) (path.toList ++ rest)) := by
  obtain ⟨c, cs, hcons, hslash, hbackslash, hquery, hfragment⟩ := exists_cons_of_isPlain hplain hs
  have hfirst : isSlash (.ofName base.scheme) c = false := by simp [isSlash, hslash, hbackslash]
  have hjoin : base.join s = relative base (c :: cs) := by
    rw [join, parseWith, splitScheme_of_isPlain hplain hs, hcons, hbase]
  rw [← hs, hcons, hjoin]
  unfold relative
  rw [hbase]
  split
  · rename_i hnil
    cases hnil
  · rename_i heq
    cases heq
    exact absurd rfl hquery
  · rename_i heq
    cases heq
    exact absurd rfl hfragment
  · rename_i heq
    cases heq
    rw [if_neg (by simp [hfirst])]
    rfl

end Url

/-! ## The paths of the library -/

namespace Client

/-- The id is made of letters, digits and some marks that stand for themselves. -/
def IsPlainId (id : String) : Prop :=
  id ≠ "" ∧ ∀ c ∈ id.toList, c.isAlphanum = true ∨ c = '-' ∨ c = '_' ∨ c = ':'

variable {settings : Settings} {path id : String} {base : Url} {front : List String}

/-- Letters and digits are characters of ASCII. -/
theorem toNat_lt_of_isAlphanum {c : Char} (h : c.isAlphanum = true) : c.toNat < 128 := by
  have hle : ∀ bound : UInt32, bound.toNat < 128 → c.val ≤ bound → c.toNat < 128 :=
    fun _ hbound hval => Nat.lt_of_le_of_lt (UInt32.le_iff_toNat_le.1 hval) hbound
  have hcases : (c.isUpper || c.isLower || c.isDigit) = true := h
  simp only [Bool.or_eq_true] at hcases
  rcases hcases with (hupper | hlower) | hdigit
  · have hval : decide (c.val ≥ 'A'.val ∧ c.val ≤ 'Z'.val) = true := hupper
    exact hle 'Z'.val (by decide) (of_decide_eq_true hval).2
  · have hval : (decide (c.val ≥ 'a'.val) && decide (c.val ≤ 'z'.val)) = true := hlower
    exact hle 'z'.val (by decide) (of_decide_eq_true (Bool.and_eq_true_iff.1 hval).2)
  · have hval : (decide (c.val ≥ '0'.val) && decide (c.val ≤ '9'.val)) = true := hdigit
    exact hle '9'.val (by decide) (of_decide_eq_true (Bool.and_eq_true_iff.1 hval).2)

/-- What an id is made of stands for itself, and is neither a blank nor the end of a segment. -/
theorem IsPlainId.spared (h : IsPlainId id) {c : Char} (hmem : c ∈ id.toList) :
    Percent.isSpared Percent.pathSet c = true ∧ isOuterBlank c = false ∧ c ≠ '/' ∧ c ≠ '\\' ∧
      c ≠ '?' ∧ c ≠ '#' ∧ c ≠ '.' ∧ c ≠ '%' := by
  have hall : ∀ n : Fin 128, ((Char.ofNat n).isAlphanum = true ∨ Char.ofNat n = '-' ∨
      Char.ofNat n = '_' ∨ Char.ofNat n = ':') →
      Percent.isSpared Percent.pathSet (Char.ofNat n) = true ∧ isOuterBlank (Char.ofNat n) = false ∧
        Char.ofNat n ≠ '/' ∧ Char.ofNat n ≠ '\\' ∧ Char.ofNat n ≠ '?' ∧ Char.ofNat n ≠ '#' ∧
        Char.ofNat n ≠ '.' ∧ Char.ofNat n ≠ '%' := by
    decide +kernel
  have hascii : c.toNat < 128 := by
    rcases h.2 c hmem with halpha | rfl | rfl | rfl
    · exact toNat_lt_of_isAlphanum halpha
    all_goals decide
  have hc := hall ⟨c.toNat, hascii⟩
  simp only [Char.ofNat_toNat] at hc
  exact hc (h.2 c hmem)

theorem IsPlainId.isDotless (h : IsPlainId id) : Path.isDotless id.toList = true :=
  Path.isDotless_of_no_dot fun _ hmem => (h.spared hmem).2.2.2.2.2.2

/-- The path at which a tenant exchanges tokens stands as a member of the tenants does. -/
theorem exchangePath_of_tenant (htenant : settings.isSystemOrg = false) :
    Login.exchangePath settings = memberPath "oauth/tenant" (settings.org ++ "/token") := by
  rw [Login.exchangePath, htenant, memberPath, ← String.toList_inj]
  simp

/-- The path of a tenant's exchange is what was put together, blanks at its end dropped. -/
theorem significant_exchangePath (htenant : settings.isSystemOrg = false) :
    significant (Login.exchangePath settings) =
      "oauth/tenant".toList ++ '/' :: Url.ending (settings.org ++ "/token") := by
  rw [exchangePath_of_tenant htenant]
  exact Url.significant_memberPath (Reference.isPlain_of_isFixed (by decide)) _

end Client

/-! ## Settings -/

namespace Settings

variable {block : ProviderBlock} {env : Environment} {settings : Settings}

def tenantBlock (org : String) : ProviderBlock where
  url? := some "http://vcfa.test/gw"
  org? := some org
  authType? := some "api_token"
  apiToken? := some "refresh"

def tenantSettings (org : String) : Settings where
  url := { scheme := "http", authority? := some { host := .domain "vcfa.test" }
           path := .segments ["gw", ""] }
  org
  credentials := .apiToken "refresh"
  allowUnverifiedSsl := false
  maxRetryTimeout := defaultRetryTimeout
  importSeparator := defaultSeparator

end Settings

end CloudTenancy
