import CloudTenancy.Client.Entity
import Mathlib.Data.List.TakeDrop
import Mathlib.Data.List.TakeWhile

/-!
CloudTenancy.Proofs.Addresses — where the addresses of entities lead.

* `Url.ending` — the characters that count of a text behind another one.
* `Path.walk` — a path with segments behind it, none of which is the last one.
* `Reference.IsPlain` — a relative path that is resolved segment by segment.
* `Reference.isFixed` — such a path that stands in an address as it is.
* `Reference.IsSegment` — a text that stands as one segment behind a slash.
* `Client.Addresses` — a request of a session for a path of the service.

A reference is cut at its slashes, and dot segments are resolved one after the other. So behind a
slash a text without slashes adds one segment to the path of what stands in front, unless it is a
dot segment or ends the path early.

Main statements: `Url.join_memberPath` and `Client.Addresses.path_eq`.
-/

namespace CloudTenancy

/-! ## The characters that count -/

namespace Url

/-- The characters that count of a text behind another one: blanks at the end are dropped, and tabs
and line ends everywhere. -/
def ending (s : String) : List Char :=
  ((s.toList.reverse.dropWhile isOuterBlank).reverse).filter (!isDropped ·)

theorem isDropped_of_not_blank {c : Char} (h : isOuterBlank c = false) : isDropped c = false := by
  simp only [isOuterBlank, decide_eq_false_iff_not, Nat.not_le] at h
  simp only [isDropped, Bool.or_eq_false_iff, beq_eq_false_iff_ne]
  refine ⟨⟨?_, ?_⟩, ?_⟩ <;> rintro rfl <;> exact absurd h (by decide)

theorem dropWhile_of_not_blank {cs : List Char} (h : ∀ c ∈ cs, isOuterBlank c = false) :
    cs.dropWhile isOuterBlank = cs := by
  cases cs with
  | nil => rfl
  | cons c cs => simp [h c List.mem_cons_self]

/-- A text without blanks counts as it is, and what stands behind it by its ending. -/
theorem significant_append {front : String} (hne : front.toList ≠ [])
    (h : ∀ c ∈ front.toList, isOuterBlank c = false) (s : String) :
    significant (front ++ s) = front.toList ++ ending s := by
  -- Neither end of the blanks to be dropped reaches into the text in front.
  have hstart : (front.toList ++ s.toList).dropWhile isOuterBlank = front.toList ++ s.toList := by
    cases hfront : front.toList with
    | nil => exact absurd hfront hne
    | cons c cs =>
      have hc := h c (by rw [hfront]; exact List.mem_cons_self)
      rw [List.cons_append, List.dropWhile_cons, hc]
      rfl
  have hreverse : (s.toList.reverse ++ front.toList.reverse).dropWhile isOuterBlank =
      s.toList.reverse.dropWhile isOuterBlank ++ front.toList.reverse := by
    have hfront : front.toList.reverse.dropWhile isOuterBlank = front.toList.reverse :=
      dropWhile_of_not_blank fun c hmem => h c (List.mem_reverse.1 hmem)
    rw [List.dropWhile_append, hfront]
    split
    · rename_i hempty
      rw [List.isEmpty_iff.1 hempty, List.nil_append]
    · rfl
  have hfilter : front.toList.filter (!isDropped ·) = front.toList := by
    refine List.filter_eq_self.2 fun c hmem => ?_
    rw [isDropped_of_not_blank (h c hmem)]
    rfl
  rw [significant, String.toList_append, hstart, List.reverse_append, hreverse,
    List.reverse_append, List.reverse_reverse, List.filter_append, hfilter, ending]

end Url

/-! ## Segments -/

namespace Path

/-- A path with segments behind it, none of which is the last one. -/
def walk (parts : List String) (segments : List (List Char)) : List String :=
  segments.foldl (fun parts segment => push parts segment false) parts

/-- There is always a segment, if only an empty one. -/
theorem splitSegments_ne_nil (kind : Scheme) (cs : List Char) : splitSegments kind cs ≠ [] := by
  cases cs with
  | nil => simp [splitSegments]
  | cons c cs =>
    rw [splitSegments]
    split
    · simp
    · split <;> simp

/-- A text is cut at a slash. -/
theorem splitSegments_append (kind : Scheme) (front cs : List Char) :
    splitSegments kind (front ++ '/' :: cs) =
      splitSegments kind front ++ splitSegments kind cs := by
  induction front with
  | nil => simp [splitSegments, isSlash]
  | cons c front ih =>
    rw [List.cons_append, splitSegments, splitSegments, ih]
    split
    · rfl
    · cases hfront : splitSegments kind front with
      | nil => exact absurd hfront (splitSegments_ne_nil kind front)
      | cons segment rest => rfl

/-- A text without slashes is one segment. -/
theorem splitSegments_of_no_slash {kind : Scheme} {cs : List Char}
    (h : ∀ c ∈ cs, isSlash kind c = false) : splitSegments kind cs = [cs] := by
  induction cs with
  | nil => rfl
  | cons c cs ih =>
    rw [splitSegments, h c List.mem_cons_self,
      ih fun d hmem => h d (List.mem_cons_of_mem c hmem)]
    rfl

/-- Splitting takes no character from elsewhere. -/
theorem mem_of_mem_splitSegments {kind : Scheme} {cs segment : List Char}
    (h : segment ∈ splitSegments kind cs) : ∀ c ∈ segment, c ∈ cs := by
  induction cs generalizing segment with
  | nil =>
    rw [List.mem_singleton.1 h]
    exact fun c hmem => hmem
  | cons d cs ih =>
    rw [splitSegments] at h
    split at h
    · rcases List.mem_cons.1 h with rfl | h
      · simp
      · exact fun c hmem => List.mem_cons_of_mem d (ih h c hmem)
    · cases hsplit : splitSegments kind cs with
      | nil => exact absurd hsplit (splitSegments_ne_nil kind cs)
      | cons first rest =>
        rw [hsplit] at h ih
        rcases List.mem_cons.1 h with rfl | h
        · exact fun c hmem => List.mem_cons.2 ((List.mem_cons.1 hmem).imp_right
            (ih List.mem_cons_self c))
        · exact fun c hmem => List.mem_cons_of_mem d (ih (List.mem_cons_of_mem first h) c hmem)

/-- Only the last segment decides how the path ends; those in front of it are walked. -/
theorem pushAll_append (parts : List String) (segments : List (List Char)) (last : List Char) :
    pushAll parts (segments ++ [last]) = push (walk parts segments) last true := by
  induction segments generalizing parts with
  | nil => rfl
  | cons segment segments ih =>
    have hne : segments ++ [last] ≠ [] := by simp
    cases hrest : segments ++ [last] with
    | nil => exact absurd hrest hne
    | cons next rest =>
      rw [List.cons_append, hrest, pushAll, ← hrest, ih]
      · rfl
      · simp

def isDotless (segment : List Char) : Bool := !isSingleDot segment && !isDoubleDot segment

/-- A segment that is no dot segment is added to the path. -/
theorem push_of_isDotless {segment : List Char} (h : isDotless segment = true)
    (parts : List String) (isLast : Bool) :
    push parts segment isLast = parts ++ [encodeSegment segment] := by
  simp only [isDotless, Bool.and_eq_true, Bool.not_eq_true'] at h
  rw [push, h.1, h.2]
  rfl

/-- A segment without dots, plain or encoded, is no dot segment. -/
theorem isDotless_of_no_dot {segment : List Char} (h : ∀ c ∈ segment, c ≠ '.' ∧ c ≠ '%') :
    isDotless segment = true := by
  have hdrop : dropDot segment = none := by
    unfold dropDot
    split <;> simp_all
  simp [isDotless, isSingleDot, isDoubleDot, hdrop]

theorem walk_append (parts : List String) (front rest : List (List Char)) :
    walk parts (front ++ rest) = walk (walk parts front) rest := by
  rw [walk, List.foldl_append]
  rfl

/-- Segments that are no dot segments are added to the path. -/
theorem walk_of_isDotless {segments : List (List Char)}
    (h : ∀ segment ∈ segments, isDotless segment = true) (parts : List String) :
    walk parts segments = parts ++ segments.map encodeSegment := by
  induction segments generalizing parts with
  | nil => simp [walk]
  | cons segment segments ih =>
    have hrest := ih fun other hmem => h other (List.mem_cons_of_mem segment hmem)
    rw [walk, List.foldl_cons, push_of_isDotless (h segment List.mem_cons_self)]
    exact (hrest _).trans (by simp)

/-- The last segment is added as the others are, unless it is a dot segment. -/
theorem pushAll_eq_walk {segments : List (List Char)}
    (h : segments.getLast?.any isDotless = true) (parts : List String) :
    pushAll parts segments = walk parts segments := by
  cases hlast : segments.getLast? with
  | none =>
    rw [hlast] at h
    cases h
  | some last =>
    rw [hlast] at h
    obtain ⟨front, rfl⟩ := List.getLast?_eq_some_iff.1 hlast
    have hwalk : walk parts (front ++ [last]) = push (walk parts front) last false :=
      walk_append parts front [last]
    rw [pushAll_append, hwalk, push_of_isDotless h, push_of_isDotless h]

/-- Percent-encoding never empties a segment. -/
theorem encodeSegment_ne_empty {segment : List Char} (h : segment ≠ []) :
    encodeSegment segment ≠ "" := by
  intro hempty
  have hbytes : Utf8.encode (String.ofList segment) = [] := by
    have hnil : Percent.encode Percent.pathSet segment = [] := String.ofList_injective hempty
    refine List.eq_nil_iff_forall_not_mem.2 fun b hmem => ?_
    have hbyte := List.flatMap_eq_nil_iff.1 hnil b hmem
    unfold Percent.encodeIn at hbyte
    split at hbyte <;> cases hbyte
  have htext : String.ofList segment = "" := Utf8.encode_injective hbytes
  exact h (String.ofList_injective htext)

/-- Without a backslash the special schemes split as the others do. -/
theorem splitSegments_of_no_backslash (kind : Scheme) {cs : List Char} (h : '\\' ∉ cs) :
    splitSegments kind cs = splitSegments .other cs := by
  induction cs with
  | nil => rfl
  | cons c cs ih =>
    rw [List.mem_cons, not_or] at h
    have hslash : isSlash kind c = isSlash .other c := by
      simp [isSlash, Ne.symm h.1, Scheme.isSpecial]
    rw [splitSegments, splitSegments, hslash, ih h.2]

end Path

/-! ## References -/

/-- The name in front of a colon is no scheme if there is a slash in it. -/
theorem splitScheme_of_slash {front : List Char} (h : ':' ∉ front) (cs : List Char) :
    splitScheme (front ++ '/' :: cs) = none := by
  have hname : (front ++ '/' :: cs).takeWhile (· ≠ ':') =
      front ++ '/' :: cs.takeWhile (· ≠ ':') := by
    rw [List.takeWhile_append_of_pos, List.takeWhile_cons]
    · rfl
    · intro c hmem
      simpa using fun heq : c = ':' => h (heq ▸ hmem)
  unfold splitScheme
  rw [if_neg]
  rintro ⟨-, -, hall⟩
  rw [hname, List.all_append, List.all_cons] at hall
  simp at hall

namespace Reference

/-- The end of a scheme, of a segment or of a path. -/
def isMark (c : Char) : Bool := [':', '/', '\\', '?', '#'].contains c

theorem ne_of_not_isMark {c : Char} (h : isMark c = false) :
    c ≠ ':' ∧ c ≠ '/' ∧ c ≠ '\\' ∧ c ≠ '?' ∧ c ≠ '#' := by
  refine ⟨?_, ?_, ?_, ?_, ?_⟩ <;> rintro rfl <;> cases h

/-- A relative path that is resolved segment by segment. -/
structure IsPlain (path : String) : Prop where
  visible : ∀ c ∈ path.toList, isOuterBlank c = false
  unmarked : ∀ c ∈ path.toList, c ≠ '/' → isMark c = false
  slash : '/' ∈ path.toList
  relative : path.toList.head? ≠ some '/'
  /-- The last segment is no dot segment. -/
  dotless : (Path.splitSegments .other path.toList).getLast?.any Path.isDotless = true

theorem IsPlain.ne {path : String} (h : IsPlain path) {c : Char} (hmem : c ∈ path.toList) :
    c ≠ ':' ∧ c ≠ '\\' ∧ c ≠ '?' ∧ c ≠ '#' := by
  by_cases hslash : c = '/'
  · subst hslash
    decide
  · obtain ⟨hcolon, -, hbackslash, hquery, hfragment⟩ := ne_of_not_isMark (h.unmarked c hmem hslash)
    exact ⟨hcolon, hbackslash, hquery, hfragment⟩

/-- The text is a plain path without dot segments, and all its characters stand for themselves. -/
def isFixed (path : String) : Bool :=
  let cs := path.toList
  cs.all (fun c =>
      !isOuterBlank c && (c == '/' || !isMark c) && Percent.isSpared Percent.pathSet c) &&
    cs.contains '/' && cs.head? != some '/' && (Path.splitSegments .other cs).all Path.isDotless

section

variable {path : String}

/-- No segment of a fixed path is a dot segment. -/
theorem dotless_of_isFixed (h : isFixed path = true) :
    ∀ segment ∈ Path.splitSegments .other path.toList, Path.isDotless segment = true := by
  simp only [isFixed, Bool.and_eq_true] at h
  exact List.all_eq_true.1 h.2

/-- A fixed path is plain, so that a reference made of it is cut nowhere. -/
theorem isPlain_of_isFixed (h : isFixed path = true) : IsPlain path := by
  have hdotless := dotless_of_isFixed h
  simp only [isFixed, Bool.and_eq_true, List.all_eq_true] at h
  obtain ⟨⟨⟨hall, hslash⟩, hrelative⟩, -⟩ := h
  refine ⟨?_, ?_, by simpa using hslash, by simpa using hrelative, ?_⟩
  · intro c hmem
    simpa using (hall c hmem).1.1
  · intro c hmem hne
    simpa [hne] using (hall c hmem).1.2
  · obtain ⟨front, last, hcut⟩ :=
      (List.eq_nil_or_concat (Path.splitSegments .other path.toList)).resolve_left
        (Path.splitSegments_ne_nil _ _)
    rw [hcut] at hdotless ⊢
    simpa using hdotless last (by simp)

end

/-- What counts of the text stands as one segment behind a slash: it is not empty and no dot
segment, and holds neither slashes nor the mark of a query or a fragment. -/
structure IsSegment (s : String) : Prop where
  nonempty : Url.ending s ≠ []
  unmarked : ∀ c ∈ Url.ending s, c ≠ ':' → isMark c = false
  dotless : Path.isDotless (Url.ending s) = true

/-- What stands for one segment holds no mark that ends a segment, the path or the query. -/
theorem IsSegment.ne {s : String} (h : IsSegment s) {c : Char} (hmem : c ∈ Url.ending s) :
    c ≠ '/' ∧ c ≠ '\\' ∧ c ≠ '?' ∧ c ≠ '#' := by
  by_cases hcolon : c = ':'
  · subst hcolon
    decide
  · exact (ne_of_not_isMark (h.unmarked c hmem hcolon)).2

theorem IsSegment.ne_empty {s : String} (h : IsSegment s) : s ≠ "" := by
  rintro rfl
  exact h.nonempty rfl

def segment (s : String) : String := Path.encodeSegment (Url.ending s)

theorem IsSegment.segment_ne_empty {s : String} (h : IsSegment s) : segment s ≠ "" :=
  Path.encodeSegment_ne_empty h.nonempty

end Reference

namespace Url

theorem spanPath_of_no_mark {cs : List Char} (h : ∀ c ∈ cs, c ≠ '?' ∧ c ≠ '#') :
    spanPath cs = (cs, []) := by
  have hall : ∀ c ∈ cs, (c ≠ '?' && c ≠ '#') = true := by
    intro c hmem
    simpa using h c hmem
  rw [spanPath, List.span_eq_takeWhile_dropWhile, List.takeWhile_eq_self_iff.2 hall,
    List.dropWhile_eq_nil_iff.2 hall]

/-- A relative path is resolved against the directory of the base. -/
theorem join_of_relative {base : Url} {s : String} (hscheme : splitScheme (significant s) = none)
    (hne : significant s ≠ [])
    (hfirst : (significant s).head?.any (isSlash (.ofName base.scheme)) = false)
    (hmark : ∀ c ∈ significant s, c ≠ '?' ∧ c ≠ '#') :
    base.join s =
      match base.path with
      | .segments parts => .ok
        { scheme := base.scheme, authority? := base.authority?
          path := Path.extend (.ofName base.scheme) parts.dropLast (significant s) }
      | .rootless _ => .error .rootlessBase := by
  rw [join, parseWith, hscheme]
  cases hcs : significant s with
  | nil => exact absurd hcs hne
  | cons c cs =>
    rw [hcs] at hfirst hmark
    obtain ⟨hquery, hfragment⟩ := hmark c List.mem_cons_self
    cases hpath : base.path with
    | rootless text =>
      dsimp only
      rw [if_neg (by simpa using hfragment)]
    | segments parts =>
      have hslash : isSlash (.ofName base.scheme) c = false := hfirst
      dsimp only
      -- Neither a query nor a fragment stands first, so the reference is a relative path.
      unfold relative
      split
      · rename_i hnil
        cases hnil
      · rename_i heq
        cases heq
        exact absurd rfl hquery
      · rename_i heq
        cases heq
        exact absurd rfl hfragment
      · rename_i heq
        cases heq
        rw [if_neg (by simp [hslash]), withPath, spanPath_of_no_mark hmark, hpath]
        rfl

/-- No part of a plain path is taken for a scheme. -/
theorem splitScheme_of_isPlain {path s : String} {rest : List Char}
    (hplain : Reference.IsPlain path) (hs : significant s = path.toList ++ rest) :
    splitScheme (significant s) = none := by
  obtain ⟨front, behind, hcut⟩ := List.append_of_mem hplain.slash
  have hcolon : ':' ∉ front := by
    intro hmem
    exact (hplain.ne (c := ':') (by rw [hcut]; exact List.mem_append_left _ hmem)).1 rfl
  rw [hs, hcut, List.append_assoc]
  exact splitScheme_of_slash hcolon _

/-- A plain path starts with a character of a segment. -/
theorem exists_cons_of_isPlain {path s : String} {rest : List Char}
    (hplain : Reference.IsPlain path) (hs : significant s = path.toList ++ rest) :
    ∃ c cs, significant s = c :: cs ∧ c ≠ '/' ∧ c ≠ '\\' ∧ c ≠ '?' ∧ c ≠ '#' := by
  cases hcs : path.toList with
  | nil =>
    have hslash := hplain.slash
    rw [hcs] at hslash
    cases hslash
  | cons c cs =>
    have hrelative := hplain.relative
    rw [hcs] at hrelative
    have hne := (hplain.ne (c := c) (by rw [hcs]; exact List.mem_cons_self)).2
    exact ⟨c, cs ++ rest, by rw [hs, hcs, List.cons_append], by simpa using hrelative, hne⟩

/-- A plain path, with more behind it, is resolved against the directory of the base. -/
theorem join_of_isPlain {base : Url} {path s : String} {rest : List Char}
    (hplain : Reference.IsPlain path) (hs : significant s = path.toList ++ rest)
    (hrest : ∀ c ∈ rest, c ≠ '?' ∧ c ≠ '#') :
    base.join s =
      match base.path with
      | .segments parts => .ok
        { scheme := base.scheme, authority? := base.authority?
          path := Path.extend (.ofName base.scheme) parts.dropLast (path.toList ++ rest) }
      | .rootless _ => .error .rootlessBase := by
  obtain ⟨c, cs, hcons, hslash, hbackslash, -⟩ := exists_cons_of_isPlain hplain hs
  rw [← hs]
  refine join_of_relative (splitScheme_of_isPlain hplain hs) ?_ ?_ ?_
  · rw [hcons]
    exact List.cons_ne_nil c cs
  · rw [hcons]
    simp [isSlash, hslash, hbackslash]
  · intro d hmem
    rw [hs] at hmem
    rcases List.mem_append.1 hmem with hhere | hthere
    · exact (hplain.ne hhere).2.2
    · exact hrest d hthere

/-- In the address of a member the identifier follows the collection, blanks at its end dropped. -/
theorem significant_memberPath {collection : String} (hplain : Reference.IsPlain collection)
    (id : String) :
    significant (Client.memberPath collection id) = collection.toList ++ '/' :: ending id := by
  have hfront : ∀ c ∈ (collection ++ "/").toList, isOuterBlank c = false := by
    intro c hmem
    rw [String.toList_append, List.mem_append] at hmem
    rcases hmem with hmem | hmem
    · exact hplain.visible c hmem
    · rw [List.mem_singleton.1 hmem]
      decide
  rw [Client.memberPath, significant_append (by simp) hfront, String.toList_append,
    List.append_assoc]
  rfl

/-- A plain path is taken as it is written. -/
theorem significant_of_isPlain {path : String} (hplain : Reference.IsPlain path) :
    significant path = path.toList := by
  have hne : path.toList ≠ [] := List.ne_nil_of_mem hplain.slash
  have hsignificant := significant_append hne hplain.visible ""
  rwa [String.append_empty, show ending "" = [] from rfl, List.append_nil] at hsignificant

/-- Behind a plain path and a slash, a segment is added to the path. -/
theorem pushAll_member (kind : Scheme) (parts : List String) {collection id : String}
    (hplain : Reference.IsPlain collection) (hid : Reference.IsSegment id) :
    Path.pushAll parts (Path.splitSegments kind (collection.toList ++ '/' :: ending id)) =
      Path.pushAll parts (Path.splitSegments kind collection.toList) ++ [Reference.segment id] := by
  have hsegment : Path.splitSegments kind (ending id) = [ending id] := by
    refine Path.splitSegments_of_no_slash fun c hmem => ?_
    obtain ⟨hslash, hbackslash, -⟩ := hid.ne hmem
    simp [isSlash, hslash, hbackslash]
  have hlast : (Path.splitSegments kind collection.toList).getLast?.any Path.isDotless = true := by
    rw [Path.splitSegments_of_no_backslash kind fun hmem => (hplain.ne hmem).2.1 rfl]
    exact hplain.dotless
  rw [Path.splitSegments_append, hsegment, Path.pushAll_append, Path.push_of_isDotless hid.dotless,
    Path.pushAll_eq_walk hlast, Reference.segment]

/-- **Addresses of entities.** The address of an entity is that of its collection with one segment
more, its id. -/
theorem join_memberPath {base url : Url} {collection id : String}
    (hplain : Reference.IsPlain collection) (hid : Reference.IsSegment id)
    (h : base.join (Client.memberPath collection id) = .ok url) :
    ∃ parent parts, base.join collection = .ok parent ∧ parent.path = .segments parts ∧
      url = { parent with path := .segments (parts ++ [Reference.segment id]) } := by
  have hmember := @join_of_isPlain base collection (Client.memberPath collection id)
    ('/' :: ending id) hplain (significant_memberPath hplain id) (by
      rintro c (_ | ⟨_, hmem⟩)
      · decide
      · exact (hid.ne hmem).2.2)
  have hcollection := @join_of_isPlain base collection collection [] hplain
    (by rw [significant_of_isPlain hplain, List.append_nil]) (by simp)
  rw [h] at hmember
  cases hpath : base.path with
  | rootless text =>
    rw [hpath] at hmember
    cases hmember
  | segments parts =>
    rw [hpath] at hmember hcollection
    cases hmember
    refine ⟨_, _, hcollection, rfl, ?_⟩
    rw [List.append_nil, Path.extend, pushAll_member _ _ hplain hid]

end Url

/-! ## Requests for entities -/

/-- The request is one of a session for a path of the service. -/
def Client.Addresses (client : Client) (path : String) (request : Request) : Prop :=
  ∃ url query body tenant?, client.base.join path = .ok url ∧
    client.request request.method url query body tenant? = .ok request

/-- A query changes nothing about the path. -/
theorem Client.path_of_request {client : Client} {method : Method} {url : Url}
    {query : List (String × String)} {body : Body} {tenant? : Option String} {request : Request}
    (h : client.request method url query body tenant? = .ok request) :
    request.url.path = url.path := by
  obtain ⟨-, hurl, -⟩ := Request.make_ok h
  rw [hurl, Request.address]
  split <;> split <;> rfl

/-- The request for an entity goes to a segment below its collection. -/
theorem Client.Addresses.path_eq {client : Client} {collection id : String} {request : Request}
    (h : client.Addresses (memberPath collection id) request)
    (hplain : Reference.IsPlain collection) (hid : Reference.IsSegment id) :
    ∃ parent parts, client.base.join collection = .ok parent ∧ parent.path = .segments parts ∧
      request.url.path = .segments (parts ++ [Reference.segment id]) := by
  obtain ⟨url, query, body, tenant?, hjoin, hbuilt⟩ := h
  obtain ⟨parent, parts, hparent, hparts, rfl⟩ := Url.join_memberPath hplain hid hjoin
  exact ⟨parent, parts, hparent, hparts, path_of_request hbuilt⟩

theorem Client.isPlain_orgsPath : Reference.IsPlain orgsPath :=
  Reference.isPlain_of_isFixed (by decide)

theorem Client.isPlain_usersPath : Reference.IsPlain usersPath :=
  Reference.isPlain_of_isFixed (by decide)

end CloudTenancy
