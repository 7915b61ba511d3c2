import CloudTenancy.Proofs.Escapes
import CloudTenancy.Proofs.Prefixes
import CloudTenancy.Proofs.Stripping
import CloudTenancy.Proofs.Tenants
import Mathlib.Data.List.Flatten

/-!
CloudTenancy.Proofs.TenantEndpoints — the addresses at which tenants exchange their tokens.

* `Url.AddressesTenant` — an address that is that of a tenant: below the base, and the name of the
  tenant is one segment of it.
* `Client.IsTenantName` — a text that stands as one segment and is read back as it is.
* `Path.Trails` — what segments make of the path in front of them.

The name of a tenant is written into the path of the exchange as it is. There it may be cut at its
slashes, lose its dot segments, end the path, lose tabs and line ends, and be encoded. Whatever
becomes of it, the segment in front of the last one is made of a part of the name, and is read back
as at most that part. So it is read back as the name only if it is made of the whole name and the
name has no escapes.

Main statement: `exchange_addresses_tenant`.
-/

namespace CloudTenancy

/-! ## Segments of a path -/

namespace Path

variable {kind : Scheme} {cs segment : List Char} {segments more : List (List Char)}
  {parts reached : List String}

theorem sublist_of_mem_splitSegments (h : segment ∈ splitSegments kind cs) :
    segment.Sublist cs := by
  induction cs generalizing segment with
  | nil =>
    rw [List.mem_singleton.1 h]
  | cons c cs ih =>
    rw [splitSegments] at h
    split at h
    · rcases List.mem_cons.1 h with rfl | h
      · exact List.nil_sublist _
      · exact (ih h).cons c
    · cases hsplit : splitSegments kind cs with
      | nil => exact absurd hsplit (splitSegments_ne_nil kind cs)
      | cons first rest =>
        rw [hsplit] at h ih
        rcases List.mem_cons.1 h with rfl | h
        · exact (ih List.mem_cons_self).cons_cons c
        · exact (ih (List.mem_cons_of_mem first h)).cons c

/-- No segment holds a slash. -/
theorem not_slash_of_mem_splitSegments (h : segment ∈ splitSegments kind cs) :
    ∀ c ∈ segment, isSlash kind c = false := by
  induction cs generalizing segment with
  | nil =>
    rw [List.mem_singleton.1 h]
    simp
  | cons c cs ih =>
    rw [splitSegments] at h
    split at h
    · rcases List.mem_cons.1 h with rfl | h
      · simp
      · exact ih h
    · rename_i hslash
      cases hsplit : splitSegments kind cs with
      | nil => exact absurd hsplit (splitSegments_ne_nil kind cs)
      | cons first rest =>
        rw [hsplit] at h ih
        rcases List.mem_cons.1 h with rfl | h
        · intro d hmem
          rcases List.mem_cons.1 hmem with rfl | hmem
          · simpa using hslash
          · exact ih List.mem_cons_self d hmem
        · exact ih (List.mem_cons_of_mem first h)

/-- What segments make of a path: some of its parts are taken away at the end, and some of the
segments are put there. -/
def Trails (segments : List (List Char)) (parts reached : List String) : Prop :=
  ∃ (front : List String) (kept : List (List Char)), front <+: parts ∧
    reached = front ++ kept.map encodeSegment ∧
    ∀ segment ∈ kept, segment ∈ segments ∧ isDotless segment = true

theorem Trails.refl (segments : List (List Char)) (parts : List String) :
    Trails segments parts parts :=
  ⟨parts, [], List.prefix_rfl, by simp, by simp⟩

/-- One more segment goes one part back, leaves the path as it is, or is put at its end. -/
theorem Trails.push (h : Trails segments parts reached) (hmem : segment ∈ segments) :
    Trails segments parts (push reached segment false) := by
  obtain ⟨front, kept, hfront, rfl, hkept⟩ := h
  cases hdouble : isDoubleDot segment with
  | true =>
    have hback : Path.push (front ++ kept.map encodeSegment) segment false =
        (front ++ kept.map encodeSegment).dropLast := by simp [Path.push, hdouble]
    rw [hback]
    rcases List.eq_nil_or_concat kept with rfl | ⟨others, last, rfl⟩
    · exact ⟨front.dropLast, [], (List.dropLast_prefix front).trans hfront, by simp, by simp⟩
    · refine ⟨front, others, hfront, by simp, ?_⟩
      intro other hother
      exact hkept other (by simp [hother])
  | false =>
    cases hsingle : isSingleDot segment with
    | true => exact ⟨front, kept, hfront, by simp [Path.push, hdouble, hsingle], hkept⟩
    | false =>
      have hdotless : isDotless segment = true := by simp [isDotless, hdouble, hsingle]
      rw [push_of_isDotless hdotless]
      refine ⟨front, kept ++ [segment], hfront, by simp, ?_⟩
      intro other hother
      rcases List.mem_append.1 hother with hother | hother
      · exact hkept other hother
      · rw [List.mem_singleton.1 hother]
        exact ⟨hmem, hdotless⟩

/-- So do more of them, one after the other. -/
theorem Trails.walk (h : Trails segments parts reached)
    (hmore : ∀ segment ∈ more, segment ∈ segments) :
    Trails segments parts (walk reached more) := by
  induction more generalizing reached with
  | nil => exact h
  | cons segment more ih =>
    exact ih (h.push (hmore segment List.mem_cons_self))
      fun other hother => hmore other (List.mem_cons_of_mem segment hother)

/-- A part that is new at the end is one of the segments. -/
theorem Trails.exists_last {name : String} (h : Trails segments parts (parts ++ [name])) :
    ∃ segment ∈ segments, isDotless segment = true ∧ name = encodeSegment segment := by
  obtain ⟨front, kept, hfront, heq, hkept⟩ := h
  rcases List.eq_nil_or_concat kept with rfl | ⟨others, last, rfl⟩
  · have hlength := congrArg List.length heq
    have hle := hfront.length_le
    simp at hlength
    omega
  · obtain ⟨hmem, hdotless⟩ := hkept last (by simp)
    rw [List.concat_eq_append, List.map_append, ← List.append_assoc] at heq
    exact ⟨last, hmem, hdotless, (List.append_inj' heq rfl).2 |> List.singleton_inj.1⟩

end Path

/-! ## Names that stand as one segment -/

/-- The address is that of a tenant: it leads below the base, to a path in which the name of the
tenant is one segment, and has nothing behind this path. -/
structure Url.AddressesTenant (base : Url) (name : String) (url : Url) : Prop where
  query : url.query? = none
  fragment : url.fragment? = none
  path : ∃ front segment, base.path = .segments (front ++ [""]) ∧
    url.path = .segments (front ++ ["oauth", "tenant", segment, "token"]) ∧
    Percent.decodeText? segment.toList = some name

namespace Client

/-- The text stands as one segment of a path and is read back as it is: it is no dot segment, none
of its characters is dropped or ends the segment, and nothing in it is an escape. -/
structure IsTenantName (name : String) : Prop where
  undropped : ∀ c ∈ name.toList, isDropped c = false
  unmarked : ∀ c ∈ name.toList, c ≠ '/' ∧ c ≠ '\\' ∧ c ≠ '?' ∧ c ≠ '#'
  unescaped : Percent.hasEscape name.toList = false
  dotless : name ≠ "." ∧ name ≠ ".."

variable {name : String} {segment : List Char}

/-- A dot at the front of a text without escapes is a plain one. -/
theorem eq_of_dropDot {rest : List Char} (h : Percent.hasEscape segment = false)
    (hdrop : Path.dropDot segment = some rest) : segment = '.' :: rest := by
  unfold Path.dropDot at hdrop
  split at hdrop
  · cases hdrop
    rfl
  · simp [Percent.hasEscape, Percent.startsHex, Percent.headHex, Percent.hexValue?] at h
  · simp [Percent.hasEscape, Percent.startsHex, Percent.headHex, Percent.hexValue?] at h
  · cases hdrop

/-- Without escapes a dot segment is made of plain dots. -/
theorem isDotless_of_unescaped (h : Percent.hasEscape segment = false) (hone : segment ≠ ['.'])
    (htwo : segment ≠ ['.', '.']) : Path.isDotless segment = true := by
  have hsingle : Path.isSingleDot segment = false := by
    rw [Path.isSingleDot, beq_eq_false_iff_ne]
    exact fun hdrop => hone (eq_of_dropDot h hdrop)
  have hdouble : Path.isDoubleDot segment = false := by
    rw [Path.isDoubleDot, beq_eq_false_iff_ne]
    intro hdrop
    obtain ⟨rest, hfirst, hsecond⟩ := Option.bind_eq_some_iff.1 hdrop
    have hsegment := eq_of_dropDot h hfirst
    have hrest : Percent.hasEscape rest = false := by
      rw [hsegment, Percent.hasEscape, Bool.or_eq_false_iff] at h
      exact h.2
    exact htwo (by rw [hsegment, eq_of_dropDot hrest hsecond])
  simp [Path.isDotless, hsingle, hdouble]

/-- What is read back as a name from a segment that is made of a part of the name is made of the
whole name, and the name has no escapes. -/
theorem eq_of_decodeText? (hpart : segment.Sublist name.toList)
    (h : Percent.decodeText? (Path.encodeSegment segment).toList = some name) :
    segment = name.toList ∧ Percent.hasEscape name.toList = false := by
  have hbytes : Percent.decode segment = Utf8.encode name := by
    rw [Utf8.encode_of_decode? h, Path.encodeSegment, String.toList_ofList, Percent.decode_encode]
  have hsub : (Utf8.encode (String.ofList segment)).Sublist (Utf8.encode name) := by
    rw [Utf8.encode_eq_flatMap, Utf8.encode_eq_flatMap, String.toList_ofList]
    exact hpart.flatMap _
  have hle := Percent.length_decode_le segment
  rw [hbytes] at hle
  have htext : String.ofList segment = name := Utf8.encode_injective (hsub.eq_of_length_le hle)
  have hsegment : segment = name.toList := by rw [← htext, String.toList_ofList]
  refine ⟨hsegment, ?_⟩
  rw [hsegment] at hbytes
  exact Percent.decode_eq_iff.1 (by rw [hbytes, String.ofList_toList])

/-- A name without escapes is read back as it is. -/
theorem decodeText?_encodeSegment (h : Percent.hasEscape name.toList = false) :
    Percent.decodeText? (Path.encodeSegment name.toList).toList = some name := by
  rw [Percent.decodeText?, Path.encodeSegment, String.toList_ofList, Percent.decode_encode,
    Percent.decode_eq_iff.2 h, String.ofList_toList, Utf8.decode?_encode]

/-! ## The exchange of a tenant -/

variable {settings : Settings} {base url : Url} {front : List String}

/-- The characters of a name that count in a reference. -/
def counted (name : String) : List Char := name.toList.filter (!isDropped ·)

theorem ending_token (name : String) :
    Url.ending (name ++ "/token") = counted name ++ '/' :: "token".toList := by
  have hlast : ∀ c ∈ (name ++ "/token").toList.getLast?, isOuterBlank c = false := by
    simp [isOuterBlank]
  rw [Url.ending, Text.dropEnd_eq_self hlast, String.toList_append, List.filter_append, counted]
  rfl

/-- Where a tenant exchanges its tokens, whatever its name. -/
theorem join_exchangePath (hbase : base.path = .segments (front ++ [""]))
    (htenant : settings.isSystemOrg = false) :
    base.join (Login.exchangePath settings) =
      .ok (Url.withPath base.scheme base.authority? (Path.extend (.ofName base.scheme) front)
        ("oauth/tenant".toList ++ '/' :: (counted settings.org ++ '/' :: "token".toList))) := by
  have hsignificant := significant_exchangePath htenant
  rw [ending_token] at hsignificant
  have hjoin := Url.join_eq_withPath hbase (Reference.isPlain_of_isFixed (by decide)) hsignificant
  rwa [List.dropLast_concat] at hjoin

/-- The segments of the name are walked behind those of the exchange. -/
theorem extend_exchange (kind : Scheme) (front : List String) (cs : List Char) :
    Path.extend kind front ("oauth/tenant".toList ++ '/' :: (cs ++ '/' :: "token".toList)) =
      .segments (Path.walk (front ++ ["oauth", "tenant"]) (Path.splitSegments kind cs) ++
        ["token"]) := by
  have hfront : Path.splitSegments kind "oauth/tenant".toList =
      ["oauth".toList, "tenant".toList] := by
    rw [Path.splitSegments_of_no_backslash kind (by decide)]
    rfl
  have hlast : Path.splitSegments kind "token".toList = ["token".toList] := by
    rw [Path.splitSegments_of_no_backslash kind (by decide)]
    rfl
  have hwalk :
      Path.walk front ["oauth".toList, "tenant".toList] = front ++ ["oauth", "tenant"] := by
    rw [Path.walk_of_isDotless (by decide)]
    rfl
  rw [Path.extend, Path.splitSegments_append, Path.splitSegments_append, hfront, hlast,
    ← List.append_assoc, Path.pushAll_append, Path.walk_append, hwalk,
    Path.push_of_isDotless (by decide)]
  rfl

/-- A tenant name stands as one segment of the address. -/
theorem join_of_isTenantName (hbase : base.path = .segments (front ++ [""]))
    (htenant : settings.isSystemOrg = false) (hname : IsTenantName settings.org) :
    base.join (Login.exchangePath settings) =
      .ok { scheme := base.scheme, authority? := base.authority?
            path := .segments (front ++
              ["oauth", "tenant", Path.encodeSegment settings.org.toList, "token"]) } := by
  have hcounted : counted settings.org = settings.org.toList := by
    rw [counted, List.filter_eq_self]
    intro c hmem
    rw [hname.undropped c hmem]
    rfl
  have hmark : ∀ c ∈ "oauth/tenant".toList ++ '/' :: (settings.org.toList ++ '/' :: "token".toList),
      c ≠ '?' ∧ c ≠ '#' := by
    have hstart : ∀ c ∈ "oauth/tenant".toList, c ≠ '?' ∧ c ≠ '#' := by simp
    have hend : ∀ c ∈ '/' :: "token".toList, c ≠ '?' ∧ c ≠ '#' := by simp
    intro c hmem
    rcases List.mem_append.1 hmem with hmem | hmem
    · exact hstart c hmem
    · rcases List.mem_cons.1 hmem with rfl | hmem
      · decide
      · exact (List.mem_append.1 hmem).elim (fun hhere => (hname.unmarked c hhere).2.2) (hend c)
  have hsegments : Path.splitSegments (.ofName base.scheme) settings.org.toList =
      [settings.org.toList] := by
    refine Path.splitSegments_of_no_slash fun c hmem => ?_
    obtain ⟨hslash, hbackslash, -⟩ := hname.unmarked c hmem
    simp [isSlash, hslash, hbackslash]
  have hdotless : Path.isDotless settings.org.toList = true :=
    isDotless_of_unescaped hname.unescaped
      (fun h => hname.dotless.1 (String.toList_inj.1 h))
      (fun h => hname.dotless.2 (String.toList_inj.1 h))
  rw [join_exchangePath hbase htenant, hcounted, Url.withPath_of_no_mark hmark, extend_exchange,
    hsegments, Path.walk_of_isDotless (by simpa using hdotless)]
  simp

/-- Only a tenant name stands as one segment and is read back as it is. -/
theorem isTenantName_of_addresses (hweb : Url.IsWeb base.scheme)
    (hbase : base.path = .segments (front ++ [""])) (htenant : settings.isSystemOrg = false)
    (hjoin : base.join (Login.exchangePath settings) = .ok url)
    (h : base.AddressesTenant settings.org url) : IsTenantName settings.org := by
  obtain ⟨hquery, hfragment, front', segment, hfront, hpath, hdecode⟩ := h
  obtain rfl : front' = front := by
    rw [hbase] at hfront
    simpa using hfront.symm
  rw [join_exchangePath hbase htenant] at hjoin
  cases hjoin
  have hmark := Url.no_mark_of_withPath hquery hfragment
  rw [Url.withPath_of_no_mark hmark, extend_exchange] at hpath
  -- The segments of the name have put exactly one part behind those of the exchange.
  have hwalk : Path.walk (front' ++ ["oauth", "tenant"])
      (Path.splitSegments (.ofName base.scheme) (counted settings.org)) =
        front' ++ ["oauth", "tenant"] ++ [segment] := by
    have hparts := Path.segments.inj hpath
    rw [show front' ++ ["oauth", "tenant", segment, "token"] =
      front' ++ ["oauth", "tenant"] ++ [segment] ++ ["token"] by simp] at hparts
    exact List.append_cancel_right hparts
  have htrails := (Path.Trails.refl
    (Path.splitSegments (.ofName base.scheme) (counted settings.org))
    (front' ++ ["oauth", "tenant"])).walk fun _ hmem => hmem
  rw [hwalk] at htrails
  obtain ⟨part, hmem, hdotless, rfl⟩ := htrails.exists_last
  have hpart : part.Sublist (counted settings.org) := Path.sublist_of_mem_splitSegments hmem
  obtain ⟨hwhole, hescape⟩ := eq_of_decodeText? (hpart.trans List.filter_sublist) hdecode
  rw [hwhole] at hpart hmem hdotless
  have hcounted : counted settings.org = settings.org.toList := List.filter_sublist.antisymm hpart
  rw [hcounted] at hmem hmark
  refine ⟨?_, ?_, hescape, ?_, ?_⟩
  · intro c hc
    rw [← hcounted, counted, List.mem_filter] at hc
    simpa using hc.2
  · intro c hc
    obtain ⟨port, hkind⟩ := hweb.exists_port
    have hslash := Path.not_slash_of_mem_splitSegments hmem c hc
    simp only [isSlash, hkind, Scheme.isSpecial, Bool.true_and, Bool.or_eq_false_iff,
      beq_eq_false_iff_ne] at hslash
    exact ⟨hslash.1, hslash.2, hmark c (by simp [hc])⟩
  · intro hdot
    rw [hdot] at hdotless
    exact absurd hdotless (by decide)
  · intro hdots
    rw [hdots] at hdotless
    exact absurd hdotless (by decide)

/-- The System organization exchanges its tokens elsewhere. -/
theorem join_providerPath (hbase : base.path = .segments (front ++ [""])) :
    base.join "oauth/provider/token" =
      .ok { scheme := base.scheme, authority? := base.authority?
            path := .segments (front ++ ["oauth", "provider", "token"]) } := by
  have hplain : Reference.IsPlain "oauth/provider/token" :=
    Reference.isPlain_of_isFixed (by decide)
  have hmark : ∀ c ∈ "oauth/provider/token".toList ++ [], c ≠ '?' ∧ c ≠ '#' := by simp
  have hsegments : ∀ kind, Path.splitSegments kind "oauth/provider/token".toList =
      ["oauth".toList, "provider".toList, "token".toList] := by
    intro kind
    rw [Path.splitSegments_of_no_backslash kind (by decide)]
    rfl
  rw [Url.join_eq_withPath hbase hplain
      (by rw [Url.significant_of_isPlain hplain, List.append_nil]),
    Url.withPath_of_no_mark hmark, List.append_nil, List.dropLast_concat, Path.extend, hsegments,
    Path.pushAll_of_isDotless (by decide) (by decide)]
  rfl

end Client

namespace Url.AddressesTenant

variable {base url : Url} {name other : String}

/-- An address is that of one tenant only. -/
theorem name_eq (h : base.AddressesTenant name url) (h' : base.AddressesTenant other url) :
    name = other := by
  obtain ⟨-, -, front, segment, hfront, hpath, hdecode⟩ := h
  obtain ⟨-, -, front', segment', hfront', hpath', hdecode'⟩ := h'
  rw [hfront] at hfront'
  rw [hpath] at hpath'
  obtain rfl : front = front' := by simpa using hfront'
  obtain rfl : segment = segment' := by simpa using hpath'
  exact Option.some.inj (hdecode.symm.trans hdecode')

/-- The address of a tenant is not where the System organization exchanges its tokens. -/
theorem path_ne {provider : Url} (h : base.AddressesTenant name url)
    (hprovider : base.join "oauth/provider/token" = .ok provider) : url.path ≠ provider.path := by
  obtain ⟨-, -, front, segment, hfront, hpath, -⟩ := h
  rw [Client.join_providerPath hfront] at hprovider
  cases hprovider
  rw [hpath]
  simp

/-- The user info of an address does not matter. -/
theorem address (h : base.AddressesTenant name url) :
    base.AddressesTenant name (Request.address url) := by
  unfold Request.address
  split
  · exact ⟨h.query, h.fragment, h.path⟩
  · exact h

end Url.AddressesTenant

/-! ## Logins of a tenant -/

namespace Settings

variable {settings : Settings} {P : Request → Prop}

/-- A login without a user name sends what it posts for an exchange. -/
theorem sends_connect_of_exchange (htype : settings.credentials.authType ≠ .integrated)
    (h : ∀ url request body, settings.url.join (Login.exchangePath settings) = .ok url →
      Request.make .post url [("accept", "application/json")] body = .ok request → P request) :
    (Client.connect settings).Sends P := by
  have hrefresh : ∀ token clientId?, (Login.refresh settings token clientId?).Sends P :=
    fun token clientId? =>
      .bind (Login.sends_post fun url request => h url request _) fun _ => .ofExcept _ _
  have hintegrated : ∀ user password, settings.credentials = .integrated user password →
      (Login.integrated settings user password).Sends P := by
    intro user password hcredentials
    rw [hcredentials] at htype
    exact absurd rfl htype
  exact .bind (Login.sends_token_of_flows hintegrated hrefresh) fun _ => .pure _

/-- **A tenant exchanges its tokens at its own address**, exactly if its name stands as one segment
of a path and is read back as it is. Then all that a login posts goes there, and not to where the
System organization exchanges its tokens, and no two such tenants of a service share an address. -/
theorem exchange_addresses_tenant (block : ProviderBlock) (env : Environment)
    (settings : Settings) (hresolve : resolve block env = .ok settings)
    (htenant : settings.isSystemOrg = false) :
    ((∃ url, settings.url.join (Login.exchangePath settings) = .ok url ∧
        settings.url.AddressesTenant settings.org url) ↔ Client.IsTenantName settings.org) ∧
    (Client.IsTenantName settings.org →
      (settings.credentials.authType ≠ .integrated →
        (Client.connect settings).Sends fun request =>
          settings.url.AddressesTenant settings.org request.url ∧
            ∀ provider, settings.url.join "oauth/provider/token" = .ok provider →
              request.url.path ≠ provider.path) ∧
      ∀ other : Settings, other.url = settings.url → other.isSystemOrg = false →
        Client.IsTenantName other.org →
        other.url.join (Login.exchangePath other) =
          settings.url.join (Login.exchangePath settings) →
        other.org = settings.org) := by
  have hfollow := hresolve ▸ outcome_resolve block env
  obtain ⟨hweb, -⟩ := hfollow.of_ok.1.url_isWeb
  obtain ⟨raw, -, hparse⟩ := hfollow.of_ok.1.url
  obtain ⟨front, hbase⟩ := Endpoint.exists_path_of_parse hparse
  -- This is needed of the tenant itself and of another one that would share its address.
  have haddresses : ∀ other : Settings, other.url = settings.url → other.isSystemOrg = false →
      Client.IsTenantName other.org → ∀ url,
      settings.url.join (Login.exchangePath other) = .ok url →
      settings.url.AddressesTenant other.org url := by
    intro other hother hsystem hname url hjoin
    rw [Client.join_of_isTenantName hbase hsystem hname] at hjoin
    cases hjoin
    exact ⟨rfl, rfl, front, _, hbase, rfl, Client.decodeText?_encodeSegment hname.unescaped⟩
  refine ⟨⟨?_, ?_⟩, ?_⟩
  · rintro ⟨url, hjoin, haddress⟩
    exact Client.isTenantName_of_addresses hweb hbase htenant hjoin haddress
  · intro hname
    have hjoin := Client.join_of_isTenantName hbase htenant hname
    exact ⟨_, hjoin, haddresses settings rfl htenant hname _ hjoin⟩
  · intro hname
    refine ⟨?_, ?_⟩
    · intro htype
      refine sends_connect_of_exchange htype fun url request body hjoin hmake => ?_
      have haddress := (haddresses settings rfl htenant hname url hjoin).address
      rw [(Request.make_ok hmake).2.1]
      exact ⟨haddress, fun provider hprovider => haddress.path_ne hprovider⟩
    · intro other hother hsystem hothername hshared
      have hjoin := Client.join_of_isTenantName hbase htenant hname
      rw [hother, hjoin] at hshared
      exact (haddresses other hother hsystem hothername _ hshared).name_eq
        (haddresses settings rfl htenant hname _ hjoin)

/-- A name with a blank, with a letter outside ASCII and with a percent sign. -/
theorem exchange_addresses_tenant_of_company :
    resolve (tenantBlock "Söhne 100%") .empty = .ok (tenantSettings "Söhne 100%") ∧
    (tenantSettings "Söhne 100%").isSystemOrg = false ∧ Client.IsTenantName "Söhne 100%" ∧
    ∃ url, (tenantSettings "Söhne 100%").url.join
        (Login.exchangePath (tenantSettings "Söhne 100%")) = .ok url ∧
      (tenantSettings "Söhne 100%").url.AddressesTenant "Söhne 100%" url := by
  have hresolve : resolve (tenantBlock "Söhne 100%") .empty =
      .ok (tenantSettings "Söhne 100%") := rfl
  have htenant : (tenantSettings "Söhne 100%").isSystemOrg = false := by decide
  have hname : Client.IsTenantName "Söhne 100%" :=
    ⟨by simp [isDropped], by simp, by decide, by decide⟩
  exact ⟨hresolve, htenant, hname,
    (exchange_addresses_tenant _ _ _ hresolve htenant).1.2 hname⟩

/-- A tenant whose name leads two segments back shows its refresh token where the System
organization exchanges tokens. -/
theorem dots_lead_tenant_to_provider :
    ∃ settings, resolve (tenantBlock "acme/../../provider") .empty = .ok settings ∧
      settings.isSystemOrg = false ∧ settings.credentials.authType = .apiToken ∧
      settings.url.join (Login.exchangePath settings) =
        settings.url.join "oauth/provider/token" ∧
      ((Client.connect settings).perform {}).2.arrived.map (·.url.text) =
        ["http://vcfa.test/gw/oauth/provider/token"] := by
  have hbase : (tenantSettings "acme/../../provider").url.path = .segments (["gw"] ++ [""]) := rfl
  refine ⟨tenantSettings "acme/../../provider", rfl, by decide, rfl, ?_, by decide +kernel⟩
  rw [Client.join_exchangePath hbase (by decide), Client.join_providerPath hbase]
  rfl

end Settings

end CloudTenancy
