import CloudTenancy.Proofs.Acceptance
import CloudTenancy.Proofs.Addresses
import CloudTenancy.Proofs.HostNames

/-!
CloudTenancy.Proofs.Stripping — what is stripped off an address, and what is left.

* `Endpoint.exists_ending` — an address is what is left of it with slashes behind it, or with `/api`
  and slashes.
* `Endpoint.KeepsHost` — what is left holds more than slashes behind the colon.
* `Path.text_prefix_of_parse` — a path without its end is the front of the whole path.

The end is taken off the text before the text is read. Then blanks in front of the end are at the
end of the text, where they do not count. No host ends in a blank, and no dot segment does, so
neither the authority nor the front of the path changes, unless all that is left behind the colon
are slashes: then the end was the host.

Main statement: `Settings.endpoint_keeps_host`.
-/

namespace CloudTenancy

/-! ## Text without its end -/

namespace Endpoint

/-- An address is what is left of it with an end of slashes and the characters of `/api` behind
it. -/
theorem exists_ending (raw : String) :
    ∃ ending, Text.trimChars raw.toList = trimmed raw ++ ending ∧
      (∀ c ∈ ending, c ∈ optionalEnd) ∧ ∀ c ∈ ending.head?, c = '/' := by
  obtain ⟨slashes, hwhole, hall⟩ :=
    Text.exists_append_of_dropEnd (· = '/') (Text.trimChars raw.toList)
  have hslashes : ∀ c ∈ slashes, c = '/' := fun c hmem => of_decide_eq_true (hall c hmem)
  rw [trimmed]
  generalize ((Text.trimChars raw.toList).reverse.dropWhile (· = '/')).reverse = front at hwhole ⊢
  split
  · rename_i hsuffix
    obtain ⟨rest, rfl⟩ := List.isSuffixOf_iff_suffix.1 hsuffix
    refine ⟨optionalEnd ++ slashes, ?_, ?_, ?_⟩
    · rw [hwhole, List.length_append, Nat.add_sub_cancel, List.take_left, List.append_assoc]
    · intro c hmem
      rcases List.mem_append.1 hmem with hend | hslash
      · exact hend
      · rw [hslashes c hslash]
        decide
    · simp [optionalEnd]
  · refine ⟨slashes, hwhole, ?_, ?_⟩
    · intro c hmem
      rw [hslashes c hmem]
      decide
    · exact fun c hhead => hslashes c (List.mem_of_head? hhead)

/-- What is left of the address behind the colon of the scheme holds more than slashes. -/
def KeepsHost (raw : String) : Prop :=
  ∃ scheme rest, splitScheme (significant (String.ofList (trimmed raw))) = some (scheme, rest) ∧
    ∃ c ∈ rest, isSlash (.ofName scheme) c = false

end Endpoint

/-- With an end behind a text, the blanks in between count. -/
theorem exists_significant_append {cs ending : List Char}
    (h : ∀ c ∈ ending, isOuterBlank c = false) :
    ∃ gap, (∀ c ∈ gap, isOuterBlank c = true) ∧ (ending = [] → gap = []) ∧
      significant (String.ofList (cs ++ ending)) =
        significant (String.ofList cs) ++ (gap ++ ending) := by
  cases hending : ending with
  | nil => exact ⟨[], by simp, fun _ => rfl, by simp⟩
  | cons first rest =>
    rw [← hending]
    obtain ⟨blanks, hinner, hblanks⟩ :=
      Text.exists_append_of_dropEnd isOuterBlank (cs.dropWhile isOuterBlank)
    have hstart : (cs ++ ending).dropWhile isOuterBlank = cs.dropWhile isOuterBlank ++ ending := by
      rw [List.dropWhile_append, Url.dropWhile_of_not_blank h]
      split
      · rename_i hempty
        rw [List.isEmpty_iff.1 hempty, List.nil_append]
      · rfl
    -- The end holds no blank, so nothing in front of it is trimmed.
    have hend : ((cs.dropWhile isOuterBlank ++ ending).reverse.dropWhile isOuterBlank).reverse =
        cs.dropWhile isOuterBlank ++ ending := by
      refine Text.dropEnd_eq_self fun c hlast => ?_
      have hne : ending ≠ [] := by
        rw [hending]
        exact List.cons_ne_nil first rest
      rw [List.getLast?_append, List.getLast?_eq_some_getLast hne, Option.some_or] at hlast
      obtain rfl := Option.mem_some.1 hlast
      exact h _ (List.getLast_mem hne)
    have hkept : ending.filter (!isDropped ·) = ending := by
      refine List.filter_eq_self.2 fun c hmem => ?_
      rw [Url.isDropped_of_not_blank (h c hmem)]
      rfl
    refine ⟨blanks.filter (!isDropped ·), ?_, ?_, ?_⟩
    · exact fun c hmem => hblanks c (List.mem_filter.1 hmem).1
    · intro hnil
      rw [hnil] at hending
      cases hending
    · rw [significant, significant, String.toList_ofList, String.toList_ofList, hstart, hend,
        List.filter_append, hkept, ← List.append_assoc, ← List.filter_append, ← hinner]

/-- What stands behind the colon of the scheme does not matter for the scheme. -/
theorem exists_splitScheme_of_append {cs rest behind : List Char} {scheme : String}
    (h : splitScheme (cs ++ rest) = some (scheme, behind)) (hcolon : ':' ∉ rest) :
    ∃ front, splitScheme cs = some (scheme, front) ∧ behind = front ++ rest := by
  have hrest : rest.takeWhile (· ≠ ':') = rest := by
    refine List.takeWhile_eq_self_iff.2 fun c hmem => ?_
    simpa using fun heq : c = ':' => hcolon (heq ▸ hmem)
  unfold splitScheme at h ⊢
  rw [List.takeWhile_append, hrest] at h
  by_cases hlength : (cs.takeWhile (· ≠ ':')).length = cs.length
  · -- Without a colon in front there is none at all.
    rw [if_pos hlength, if_neg (by simp)] at h
    cases h
  · have hle := (List.takeWhile_prefix (l := cs) (· ≠ ':')).length_le
    rw [if_neg hlength] at h
    dsimp only at h ⊢
    split at h
    · rename_i hscheme
      cases h
      refine ⟨_, if_pos ⟨Nat.lt_of_le_of_ne hle hlength, hscheme.2⟩, ?_⟩
      rw [List.drop_append_of_le_length (Nat.lt_of_le_of_ne hle hlength)]
    · cases h

/-! ## Paths without their end -/

namespace Path

variable {kind : Scheme} {parts : List String} {last gap : List Char}

theorem not_blank_of_dropDot {cs rest : List Char} (h : dropDot cs = some rest) :
    ∃ dot, cs = dot ++ rest ∧ ∀ c ∈ dot, isOuterBlank c = false := by
  unfold dropDot at h
  split at h
  · cases h
    exact ⟨['.'], rfl, by simp [isOuterBlank]⟩
  · cases h
    exact ⟨['%', '2', 'e'], rfl, by simp [isOuterBlank]⟩
  · cases h
    exact ⟨['%', '2', 'E'], rfl, by simp [isOuterBlank]⟩
  · cases h

/-- No dot segment holds a blank. -/
theorem isDotless_of_blank {segment : List Char} {c : Char} (hmem : c ∈ segment)
    (h : isOuterBlank c = true) : isDotless segment = true := by
  have habsurd : ∀ {dots : List Char}, c ∈ dots → ¬∀ d ∈ dots, isOuterBlank d = false := by
    intro dots hdots hall
    rw [hall c hdots] at h
    cases h
  have hsingle : isSingleDot segment = false := by
    refine Bool.eq_false_iff.2 fun hdot => ?_
    obtain ⟨dot, rfl, hall⟩ := not_blank_of_dropDot (eq_of_beq hdot)
    rw [List.append_nil] at hmem
    exact habsurd hmem hall
  have hdouble : isDoubleDot segment = false := by
    refine Bool.eq_false_iff.2 fun hdots => ?_
    obtain ⟨rest, hfirst, hsecond⟩ := Option.bind_eq_some_iff.1 (eq_of_beq hdots)
    obtain ⟨dot, rfl, hall⟩ := not_blank_of_dropDot hfirst
    obtain ⟨dot', rfl, hall'⟩ := not_blank_of_dropDot hsecond
    rw [List.append_nil, List.mem_append] at hmem
    exact hmem.elim (habsurd · hall) (habsurd · hall')
  rw [isDotless, hsingle, hdouble]
  rfl

theorem chars_dropLast_prefix (parts : List String) (more : List Char) :
    chars (parts.dropLast ++ [""]) <+: chars parts ++ '/' :: more := by
  rcases List.eq_nil_or_concat parts with rfl | ⟨front, part, rfl⟩
  · exact ⟨more, rfl⟩
  · rw [List.concat_eq_append, List.dropLast_concat, chars_append, chars_append, List.append_assoc]
    exact (List.prefix_append_right_inj _).2 ⟨part.toList ++ '/' :: more, by simp [chars]⟩

/-- The last segment leaves what it leaves with blanks and more behind it, but for those. -/
theorem push_prefix (more : List Char) (hgap : ∀ c ∈ gap, isOuterBlank c = true) :
    chars (push parts last true) <+: chars (push parts (last ++ gap) false) ++ '/' :: more := by
  have hempty : ∀ (front : List String) (rest : List Char),
      chars (front ++ [""]) <+: chars front ++ '/' :: rest := by
    intro front rest
    rw [chars_append]
    exact (List.prefix_append_right_inj _).2 ⟨rest, rfl⟩
  cases hcut : gap with
  | nil =>
    rw [List.append_nil, push, push]
    split
    · show chars (parts.dropLast ++ [""]) <+: chars (parts.dropLast ++ []) ++ '/' :: more
      rw [List.append_nil]
      exact hempty _ _
    · split
      · show chars (parts ++ [""]) <+: chars (parts ++ []) ++ '/' :: more
        rw [List.append_nil]
        exact hempty _ _
      · exact List.prefix_append _ _
  | cons c rest =>
    have hc : isOuterBlank c = true := hgap c (by rw [hcut]; exact List.mem_cons_self)
    -- With a blank behind it the segment is no dot segment, even where it is one without.
    have hdotless : isDotless (last ++ c :: rest) = true :=
      isDotless_of_blank (List.mem_append_right _ List.mem_cons_self) hc
    have hsegment : chars [encodeSegment (last ++ c :: rest)] =
        chars [encodeSegment last] ++ Percent.encode Percent.pathSet (c :: rest) := by
      simp [chars, encodeSegment, Percent.encode_append]
    rw [push_of_isDotless hdotless, chars_append, List.append_assoc, hsegment, push]
    split
    · exact chars_dropLast_prefix parts _
    · split
      · exact hempty parts _
      · rw [chars_append]
        refine (List.prefix_append_right_inj _).2 ?_
        rw [List.append_assoc]
        exact List.prefix_append _ _

/-- Blanks at the end of a text are at the end of its last segment. -/
theorem exists_splitSegments_append (hgap : ∀ c ∈ gap, isOuterBlank c = true) (cs : List Char) :
    ∃ front last, splitSegments kind cs = front ++ [last] ∧
      splitSegments kind (cs ++ gap) = front ++ [last ++ gap] := by
  induction cs with
  | nil =>
    refine ⟨[], [], rfl, splitSegments_of_no_slash fun c hmem => ?_⟩
    have hne : c ≠ '/' ∧ c ≠ '\\' :=
      ⟨ne_of_isOuterBlank (hgap c hmem) (by decide), ne_of_isOuterBlank (hgap c hmem) (by decide)⟩
    simp [isSlash, hne.1, hne.2]
  | cons c cs ih =>
    obtain ⟨front, last, hcs, hcut⟩ := ih
    rw [List.cons_append, splitSegments, splitSegments, hcs, hcut]
    split
    · exact ⟨[] :: front, last, rfl, rfl⟩
    · cases front with
      | nil => exact ⟨[], c :: last, rfl, rfl⟩
      | cons first front => exact ⟨(c :: first) :: front, last, rfl, rfl⟩

/-- An end without dots adds its segments to the path. -/
theorem pushAll_ending {ending : List Char} (h : ∀ c ∈ ending, c ≠ '.' ∧ c ≠ '%')
    (parts : List String) (segments : List (List Char)) :
    ∃ more, chars (pushAll parts (segments ++ splitSegments kind ending)) =
      chars (walk parts segments) ++ '/' :: more := by
  have hdotless : ∀ segment ∈ splitSegments kind ending, isDotless segment = true :=
    fun segment hsegment =>
      isDotless_of_no_dot fun c hmem => h c (mem_of_mem_splitSegments hsegment c hmem)
  obtain ⟨front, last, hsplit⟩ :=
    (List.eq_nil_or_concat (splitSegments kind ending)).resolve_left (splitSegments_ne_nil kind _)
  have hlast : (segments ++ splitSegments kind ending).getLast?.any isDotless = true := by
    rw [hsplit] at hdotless ⊢
    simpa using hdotless last (by simp)
  rw [pushAll_eq_walk hlast, walk_append, walk_of_isDotless hdotless, chars_append]
  cases hcons : splitSegments kind ending with
  | nil => exact absurd hcons (splitSegments_ne_nil kind ending)
  | cons segment rest => exact ⟨_, rfl⟩

/-- **A path without its end is the front of the whole path.** -/
theorem text_prefix_of_parse {cs ending : List Char} (hkind : kind.isSpecial = true)
    (hgap : ∀ c ∈ gap, isOuterBlank c = true) (hending : ∀ c ∈ ending, c ≠ '.' ∧ c ≠ '%')
    (hcs : cs = [] ∧ gap = [] ∨ ∃ c rest, cs = c :: rest ∧ isSlash kind c = true) :
    (Path.parse kind cs).text.toList <+:
      (Path.parse kind (cs ++ (gap ++ '/' :: ending))).text.toList := by
  rcases hcs with ⟨rfl, rfl⟩ | ⟨c, rest, rfl, hslash⟩
  · have hempty : Path.parse kind [] = .segments [""] := by simp [Path.parse, hkind]
    have hwhole : Path.parse kind ([] ++ ([] ++ '/' :: ending)) =
        .segments (pushAll [] (splitSegments kind ending)) := rfl
    rw [hempty, hwhole, toList_text_segments, toList_text_segments]
    obtain ⟨more, hmore⟩ := @pushAll_ending kind ending hending [] []
    rw [List.nil_append] at hmore
    exact ⟨more, hmore.symm⟩
  · obtain ⟨front, last, hrest, hcut⟩ := @exists_splitSegments_append kind gap hgap rest
    have hpart : Path.parse kind (c :: rest) = .segments (pushAll [] (front ++ [last])) := by
      rw [Path.parse, if_pos hslash, extend, hrest]
    have hwhole : Path.parse kind (c :: rest ++ (gap ++ '/' :: ending)) =
        .segments (pushAll [] (front ++ [last ++ gap] ++ splitSegments kind ending)) := by
      rw [List.cons_append, Path.parse, if_pos hslash, extend, ← List.append_assoc,
        splitSegments_append, hcut]
    obtain ⟨more, hmore⟩ := @pushAll_ending kind ending hending [] (front ++ [last ++ gap])
    rw [hpart, hwhole, toList_text_segments, toList_text_segments, pushAll_append]
    rw [hmore, walk_append]
    exact push_prefix more hgap

end Path

/-! ## Addresses without their end -/

namespace Url

/-- Without query and fragment there is no mark of them. -/
theorem no_mark_of_withPath {scheme : String} {authority? : Option Authority}
    {path : List Char → Path} {cs : List Char}
    (hquery : (withPath scheme authority? path cs).query? = none)
    (hfragment : (withPath scheme authority? path cs).fragment? = none) :
    ∀ c ∈ cs, c ≠ '?' ∧ c ≠ '#' := by
  rw [withPath, spanPath, List.span_eq_takeWhile_dropWhile] at hquery hfragment
  have hempty : ∀ {ds : List Char} {text : String},
      (if ds.isEmpty then none else some text) = none → ds = [] := by
    intro ds text h
    cases ds with
    | nil => rfl
    | cons d ds => cases h
  have hrest : cs.dropWhile (fun c => c ≠ '?' && c ≠ '#') = [] := by
    rw [← List.takeWhile_append_dropWhile (p := (· ≠ '#')) (l := cs.dropWhile _), hempty hquery,
      hempty hfragment]
    rfl
  intro c hmem
  simpa using List.dropWhile_eq_nil_iff.1 hrest c hmem

theorem withPath_of_no_mark {scheme : String} {authority? : Option Authority}
    {path : List Char → Path} {cs : List Char} (h : ∀ c ∈ cs, c ≠ '?' ∧ c ≠ '#') :
    withPath scheme authority? path cs = { scheme, authority?, path := path cs } := by
  rw [withPath, spanPath_of_no_mark h]
  rfl

variable {s scheme : String} {rest : List Char}

/-- A web address with nothing but slashes behind the colon has no host. -/
theorem parse_of_slashes (hsplit : splitScheme (significant s) = some (scheme, rest))
    (hweb : IsWeb scheme) (h : ∀ c ∈ rest, isSlash (.ofName scheme) c = true) :
    Url.parse s = .error .emptyHost := by
  obtain ⟨port, hport⟩ := hweb.exists_port
  have hnil : rest.dropWhile (isSlash (.ofName scheme)) = [] := List.dropWhile_eq_nil_iff.2 h
  rw [parse_of_web hsplit hweb, hnil, parseAuthority_eq, hport]
  rfl

/-- A web address is read from its authority and from what follows that. -/
theorem parse_of_authority {authority : Authority} {cs : List Char}
    (hsplit : splitScheme (significant s) = some (scheme, rest)) (hweb : IsWeb scheme)
    (hrest : rest.dropWhile (isSlash (.ofName scheme)) = cs)
    (hauthority : Authority.parse (.ofName scheme)
      (cs.takeWhile (!endsAuthority (.ofName scheme) ·)) = .ok authority)
    (hmark : ∀ c ∈ cs.dropWhile (!endsAuthority (.ofName scheme) ·), c ≠ '?' ∧ c ≠ '#') :
    Url.parse s = .ok
      { scheme, authority? := some authority
        path := Path.parse (.ofName scheme)
          (cs.dropWhile (!endsAuthority (.ofName scheme) ·)) } := by
  rw [parse_of_web hsplit hweb, hrest, parseAuthority_eq, hauthority, ← withPath_of_no_mark hmark]
  rfl

end Url

namespace Endpoint

variable {raw : String} {u : Url}

/-- The address has an end behind what is left of it. Blanks in front of the end do not count in
what is left. -/
theorem exists_parts (hparse : Url.parse (Text.trim raw) = .ok u) (hweb : Url.IsWeb u.scheme) :
    ∃ gap ending rest authority, (∀ c ∈ gap, isOuterBlank c = true) ∧ (ending = [] → gap = []) ∧
      (∀ c ∈ ending, c ∈ optionalEnd) ∧ (∀ c ∈ ending.head?, c = '/') ∧
      Text.trim raw = String.ofList (trimmed raw ++ ending) ∧
      splitScheme (significant (String.ofList (trimmed raw))) = some (u.scheme, rest) ∧
      Authority.parse (.ofName u.scheme)
        (((rest ++ (gap ++ ending)).dropWhile (isSlash (.ofName u.scheme))).takeWhile
          (!endsAuthority (.ofName u.scheme) ·)) = .ok authority ∧
      u = Url.withPath u.scheme (some authority) (Path.parse (.ofName u.scheme))
        (((rest ++ (gap ++ ending)).dropWhile (isSlash (.ofName u.scheme))).dropWhile
          (!endsAuthority (.ofName u.scheme) ·)) := by
  obtain ⟨ending, htrim, hchars, hhead⟩ := exists_ending raw
  have htext : Text.trim raw = String.ofList (trimmed raw ++ ending) := by rw [Text.trim, htrim]
  have hvisible : ∀ c ∈ ending, isOuterBlank c = false ∧ c ≠ ':' := by
    have hall : ∀ c ∈ optionalEnd, (!isOuterBlank c && c != ':') = true :=
      List.all_eq_true.1 (by decide)
    exact fun c hmem => by simpa using hall c (hchars c hmem)
  obtain ⟨gap, hgap, hempty, hsignificant⟩ :=
    @exists_significant_append (trimmed raw) ending fun c hmem => (hvisible c hmem).1
  obtain ⟨behind, authority, hsplit, hauthority, hu⟩ := Url.exists_of_parse_web hparse hweb
  rw [htext, hsignificant] at hsplit
  have hcolon : ':' ∉ gap ++ ending := by
    intro hmem
    rcases List.mem_append.1 hmem with hhere | hthere
    · exact absurd (hgap _ hhere) (by decide)
    · exact (hvisible _ hthere).2 rfl
  obtain ⟨rest, hfront, rfl⟩ := exists_splitScheme_of_append hsplit hcolon
  exact ⟨gap, ending, rest, authority, hgap, hempty, hchars, hhead, htext, hfront, hauthority, hu⟩

/-- If only slashes are left behind the colon, the host is lost. -/
theorem parse_of_not_keepsHost (hparse : Url.parse (Text.trim raw) = .ok u)
    (hweb : Url.IsWeb u.scheme) (h : ¬KeepsHost raw) :
    parse raw = .error (.malformed .emptyHost) := by
  obtain ⟨-, -, rest, -, -, -, -, -, -, hsplit, -⟩ := exists_parts hparse hweb
  have hall : ∀ c ∈ rest, isSlash (.ofName u.scheme) c = true := by
    intro c hmem
    exact eq_true_of_ne_false fun hslash => h ⟨u.scheme, rest, hsplit, c, hmem, hslash⟩
  unfold parse
  rw [Url.parse_of_slashes hsplit hweb hall]

/-- An authority ends at the same place without what follows it, and so does the path, but for
blanks. -/
theorem exists_cut {kind : Scheme} {front gap behind : List Char} {authority : Authority}
    (hkind : kind.isSpecial = true) (hgap : ∀ c ∈ gap, isOuterBlank c = true)
    (h : Authority.parse kind
      ((front ++ (gap ++ '/' :: behind)).takeWhile (!endsAuthority kind ·)) = .ok authority) :
    Authority.parse kind (front.takeWhile (!endsAuthority kind ·)) = .ok authority ∧
      (front ++ (gap ++ '/' :: behind)).dropWhile (!endsAuthority kind ·) =
        front.dropWhile (!endsAuthority kind ·) ++ (gap ++ '/' :: behind) ∧
      (front.dropWhile (!endsAuthority kind ·) = [] → gap = []) := by
  have hcut := List.takeWhile_append_dropWhile (p := (!endsAuthority kind ·)) (l := front)
  cases hrest : front.dropWhile (!endsAuthority kind ·) with
  | cons mark rest =>
    have hlength : (front.takeWhile (!endsAuthority kind ·)).length ≠ front.length := by
      have hsum := congrArg List.length hcut
      rw [List.length_append, hrest, List.length_cons] at hsum
      omega
    rw [List.takeWhile_append, if_neg hlength] at h
    refine ⟨h, ?_, fun hnil => nomatch hnil⟩
    rw [List.dropWhile_append, hrest]
    rfl
  | nil =>
    have hfront : front.takeWhile (!endsAuthority kind ·) = front := by
      rwa [hrest, List.append_nil] at hcut
    have hnoEnd : ∀ c ∈ gap, (!endsAuthority kind c) = true := by
      intro c hmem
      have hne : ∀ {d : Char}, isOuterBlank d = false → c ≠ d := ne_of_isOuterBlank (hgap c hmem)
      have hslash : c ≠ '/' := hne (by decide)
      have hbackslash : c ≠ '\\' := hne (by decide)
      have hquery : c ≠ '?' := hne (by decide)
      have hfragment : c ≠ '#' := hne (by decide)
      simp [endsAuthority, isSlash, hslash, hbackslash, hquery, hfragment]
    have hstop : (!endsAuthority kind '/') = false := by simp [endsAuthority, isSlash]
    rw [List.takeWhile_append, if_pos (by rw [hfront]), List.takeWhile_append_of_pos hnoEnd,
      List.takeWhile_cons, hstop] at h
    -- The authority does not end in a blank, so there are none in front of the end.
    have hnil : gap = [] := by
      cases hlast : gap.getLast? with
      | none => exact List.getLast?_eq_none_iff.1 hlast
      | some c =>
        have hend : (front ++ (gap ++ [])).getLast? = some c := by
          rw [List.append_nil, List.getLast?_append, hlast]
          rfl
        have hblank := hgap c (List.mem_of_getLast? hlast)
        rw [Authority.not_blank_of_parse hkind h c hend] at hblank
        cases hblank
    subst hnil
    refine ⟨by simpa [hfront] using h, ?_, fun _ => rfl⟩
    rw [List.dropWhile_append, hrest]
    simp [hstop]

/-- Nothing but the path changes by the stripping, and the path is only cut. -/
theorem exists_stripped (hparse : Url.parse (Text.trim raw) = .ok u) (hweb : Url.IsWeb u.scheme)
    (hquery : u.query? = none) (hfragment : u.fragment? = none) (h : KeepsHost raw) :
    ∃ stripped, Url.parse (String.ofList (trimmed raw)) = .ok stripped ∧
      stripped.scheme = u.scheme ∧ stripped.authority? = u.authority? ∧
      stripped.query? = none ∧ stripped.fragment? = none ∧
      stripped.path.text.toList <+: u.path.text.toList := by
  obtain ⟨gap, ending, rest, authority, hgap, hempty, hchars, hhead, htext, hsplit, hauthority,
    hu⟩ := exists_parts hparse hweb
  cases hending : ending with
  | nil =>
    rw [hending, List.append_nil] at htext
    rw [htext] at hparse
    exact ⟨u, hparse, rfl, rfl, hquery, hfragment, List.prefix_rfl⟩
  | cons slash behind =>
    obtain rfl : slash = '/' := hhead slash (by rw [hending]; rfl)
    obtain ⟨port, hport⟩ := hweb.exists_port
    have hspecial : (Scheme.ofName u.scheme).isSpecial = true := by rw [hport]; rfl
    obtain ⟨scheme, other, hsplit', c, hmem, hslash⟩ := h
    cases hsplit.symm.trans hsplit'
    -- Something is left behind the slashes, so the authority is read from the same place.
    have hfront : rest.dropWhile (isSlash (.ofName u.scheme)) ≠ [] := by
      intro hnil
      rw [List.dropWhile_eq_nil_iff.1 hnil c hmem] at hslash
      cases hslash
    rw [List.dropWhile_append, if_neg (by simpa using hfront), hending] at hauthority hu
    obtain ⟨hcut, hdrop, hgapEmpty⟩ := exists_cut hspecial hgap hauthority
    rw [hdrop] at hu
    have hmark := Url.no_mark_of_withPath (hu ▸ hquery) (hu ▸ hfragment)
    have hu' := hu.trans (Url.withPath_of_no_mark hmark)
    have hstripped := Url.parse_of_authority hsplit hweb rfl hcut fun c hmem =>
      hmark c (List.mem_append_left _ hmem)
    refine ⟨_, hstripped, rfl, by rw [hu'], rfl, rfl, ?_⟩
    rw [hu']
    -- Only the path is shorter now, by the end and the gap in front of it.
    refine Path.text_prefix_of_parse hspecial hgap ?_ ?_
    · have hall : ∀ c ∈ optionalEnd, (c != '.' && c != '%') = true := List.all_eq_true.1 (by decide)
      intro c hmem
      simpa using hall c (hchars c (by rw [hending]; exact List.mem_cons_of_mem _ hmem))
    · have hhead := List.head?_dropWhile_not (!endsAuthority (.ofName u.scheme) ·)
        (rest.dropWhile (isSlash (.ofName u.scheme)))
      generalize (rest.dropWhile (isSlash (.ofName u.scheme))).dropWhile
        (!endsAuthority (.ofName u.scheme) ·) = path at hhead hgapEmpty hmark ⊢
      cases path with
      | nil => exact .inl ⟨rfl, hgapEmpty rfl⟩
      | cons d rest =>
        obtain ⟨hne, hne'⟩ := hmark d List.mem_cons_self
        exact .inr ⟨d, rest, rfl, by simpa [endsAuthority, hne, hne'] using hhead⟩

end Endpoint

/-! ## Settings -/

namespace Settings

/-- **The host is kept.** An address without query and fragment is accepted with all that is right
about the other settings, and nothing but the front of its path is left of it, with its scheme, user
info, host and port, unless only slashes are left behind the colon: then it is refused. -/
theorem endpoint_keeps_host (raw : String) (u : Url) (hparse : Url.parse (Text.trim raw) = .ok u)
    (hweb : Url.IsWeb u.scheme) (hquery : u.query? = none) (hfragment : u.fragment? = none) :
    (Endpoint.KeepsHost raw →
      ∃ stripped, Url.parse (String.ofList (Endpoint.trimmed raw)) = .ok stripped ∧
        stripped.path.text.toList <+: u.path.text.toList ∧
        ∀ block env, effective block env .url = some raw →
          (∀ requirement ∈ requirements block env, requirement ≠ .given .url →
            requirement ≠ .endpoint → requirement.Met block env) →
          ∃ settings, resolve block env = .ok settings ∧ settings.url = stripped.directory ∧
            settings.url.scheme = u.scheme ∧ settings.url.authority? = u.authority?) ∧
    (¬Endpoint.KeepsHost raw → Endpoint.parse raw = .error (.malformed .emptyHost)) := by
  refine ⟨fun h => ?_, Endpoint.parse_of_not_keepsHost hparse hweb⟩
  obtain ⟨stripped, hstripped, hscheme, hauthority, -, -, hpath⟩ :=
    Endpoint.exists_stripped hparse hweb hquery hfragment h
  have hendpoint : Endpoint.parse raw = .ok stripped.directory :=
    Endpoint.parse_eq_ok_iff.2 ⟨stripped, hstripped, by rwa [hscheme], rfl⟩
  refine ⟨stripped, hstripped, hpath, fun block env hraw hothers => ?_⟩
  have houtcome := outcome_resolve block env
  have hall : ∀ requirement ∈ requirements block env, requirement.Met block env := by
    intro requirement hmem
    -- The two requirements on the address are met by what was found; the others are assumed.
    by_cases hgiven : requirement = .given .url
    · subst hgiven
      refine ⟨raw, hraw, ?_⟩
      rintro rfl
      have hnone : Url.parse (Text.trim "") = .error .noBase := rfl
      rw [hnone] at hparse
      cases hparse
    · by_cases haddress : requirement = .endpoint
      · subst haddress
        exact ⟨raw, _, hraw, hendpoint⟩
      · exact hothers requirement hmem hgiven haddress
  obtain ⟨settings, hsettings⟩ := houtcome.exists_ok_iff.2 hall
  rw [hsettings] at houtcome
  obtain ⟨other, hother, hurl⟩ := houtcome.of_ok.1.url
  cases hraw.symm.trans hother
  have hsame : settings.url = stripped.directory := Except.ok.inj (hurl.symm.trans hendpoint)
  refine ⟨settings, hsettings, hsame, ?_⟩
  rw [hsame, ← hscheme, ← hauthority]
  rcases stripped.directory_eq with hdirectory | ⟨parts, -, hdirectory⟩ <;> rw [hdirectory] <;>
    exact ⟨rfl, rfl⟩

/-! ## Samples -/

def administratorBlock (address : String) : ProviderBlock where
  url? := some address
  user? := some "admin"
  password? := some "secret"

/-- Only the address of the administrator's service may be at fault. -/
theorem administrator_meets (address : String) (h : address ≠ "") :
    ∀ requirement ∈ requirements (administratorBlock address) .empty, requirement ≠ .endpoint →
      requirement.Met (administratorBlock address) .empty := by
  have hlist : requirements (administratorBlock address) .empty =
      [.given .url, .endpoint, .authType, .given .user, .given .password, .certificates,
        .retryTimeout, .separator] := rfl
  intro requirement hmem hne
  rw [hlist] at hmem
  simp only [List.mem_cons, List.not_mem_nil, or_false] at hmem
  rcases hmem with rfl | rfl | rfl | rfl | rfl | rfl | rfl | rfl
  · exact ⟨address, rfl, h⟩
  · exact absurd rfl hne
  · exact fun _ hname => nomatch hname
  · exact ⟨"admin", rfl, by decide⟩
  · exact ⟨"secret", rfl, by decide⟩
  · exact fun _ _ htext => nomatch htext
  · exact ⟨fun _ hseconds => (nomatch hseconds), fun _ _ htext => nomatch htext⟩
  · exact fun _ htext => nomatch htext

/-- An address behind a gateway, with user info, a port, and an end. -/
def gatewayAddress : String := "https://me@gw.example.com:8443/vcfa/api/"

def gatewayUrl : Url where
  scheme := "https"
  authority? := some { username := "me", host := .domain "gw.example.com", port? := some 8443 }
  path := .segments ["vcfa", "api", ""]

theorem endpoint_keeps_host_of_gateway :
    Url.parse (Text.trim gatewayAddress) = .ok gatewayUrl ∧ Url.IsWeb gatewayUrl.scheme ∧
    gatewayUrl.query? = none ∧ gatewayUrl.fragment? = none ∧ Endpoint.KeepsHost gatewayAddress ∧
    ∃ (stripped : Url) (settings : Settings),
      stripped.path.text.toList <+: gatewayUrl.path.text.toList ∧
      resolve (administratorBlock gatewayAddress) .empty = .ok settings ∧
      settings.url = stripped.directory ∧ settings.url.scheme = gatewayUrl.scheme ∧
      settings.url.authority? = gatewayUrl.authority? := by
  have hparse : Url.parse (Text.trim gatewayAddress) = .ok gatewayUrl := by decide +kernel
  have hkeeps : Endpoint.KeepsHost gatewayAddress :=
    ⟨"https", "//me@gw.example.com:8443/vcfa".toList, by decide +kernel, 'm', by decide, rfl⟩
  obtain ⟨stripped, -, hpath, hsettings⟩ :=
    (endpoint_keeps_host gatewayAddress gatewayUrl hparse (.inr rfl) rfl rfl).1 hkeeps
  obtain ⟨settings, hresolve, hurl, hsame⟩ :=
    hsettings (administratorBlock gatewayAddress) .empty rfl fun requirement hmem _ haddress =>
      administrator_meets _ (by decide) requirement hmem haddress
  exact ⟨hparse, .inr rfl, rfl, rfl, hkeeps, stripped, settings, hpath, hresolve, hurl, hsame⟩

/-- A host named `api` is taken for the end of the address, and lost. -/
theorem host_named_api_is_lost :
    ∃ u, Url.parse (Text.trim "http://api") = .ok u ∧ Url.IsWeb u.scheme ∧ u.query? = none ∧
      u.fragment? = none ∧
      (∀ requirement ∈ requirements (administratorBlock "http://api") .empty,
        requirement ≠ .endpoint → requirement.Met (administratorBlock "http://api") .empty) ∧
      resolve (administratorBlock "http://api") .empty =
        .error (.invalidUrl "http://api" (.malformed .emptyHost)) :=
  ⟨{ scheme := "http", authority? := some { host := .domain "api" }, path := .segments [""] },
    rfl, .inl rfl, rfl, rfl, administrator_meets _ (by decide), rfl⟩

end Settings

end CloudTenancy
