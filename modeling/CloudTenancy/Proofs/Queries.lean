import CloudTenancy.Client.Entity
import CloudTenancy.Proofs.Addresses
import CloudTenancy.Proofs.WrittenRecords

/-!
CloudTenancy.Proofs.Queries — what the query of a request says.

* `Form.item`, `Form.items` — names and values, as the bytes that a query stands for.
* `Request.parameter?` — what a request says under a name.

Neither an ampersand nor an equals sign is left in a name or in a value once they are written, so
the pieces of a query are the pairs that were put into it.

Main statements: `items_pairs`, and that a request for a page of a collection says, byte by byte,
the filter that it was made with.
-/

namespace CloudTenancy

/-! ## Reading queries -/

namespace Form

/-- A piece of a query, as name and value. The first equals sign stands between them. -/
def item (piece : List Char) : Bytes × Bytes :=
  (read (piece.takeWhile (· ≠ '=')), read ((piece.dropWhile (· ≠ '=')).drop 1))

def items (query : List Char) : List (Bytes × Bytes) := (query.splitOn '&').map item

/-- A pair that was encoded is decoded to its name and value. -/
theorem item_pair (name value : String) :
    item (pair (name, value)) = (Utf8.encode name, Utf8.encode value) := by
  have hname : ∀ c ∈ encode name, decide (c ≠ '=') = true := by
    intro c hmem
    refine decide_eq_true ?_
    rintro rfl
    exact equals_not_mem_encode name hmem
  have htake : (pair (name, value)).takeWhile (· ≠ '=') = encode name := by
    rw [pair, List.takeWhile_append_of_pos hname]
    simp
  have hdrop : (pair (name, value)).dropWhile (· ≠ '=') = '=' :: encode value := by
    rw [pair, List.dropWhile_append_of_pos hname]
    simp
  rw [item, htake, hdrop, List.drop_one, List.tail_cons, read_encode, read_encode]

/-- The pairs of a query are read back. -/
theorem items_pairs {entries : List (String × String)} (h : entries ≠ []) :
    items (pairs entries) =
      entries.map fun entry => (Utf8.encode entry.1, Utf8.encode entry.2) := by
  have hpieces : (pairs entries).splitOn '&' = entries.map pair := by
    refine List.splitOn_intercalate '&' ?_ (by simpa using h)
    intro piece hpiece
    obtain ⟨entry, -, rfl⟩ := List.mem_map.1 hpiece
    exact ampersand_not_mem_pair entry.1 entry.2
  rw [items, hpieces, List.map_map]
  exact List.map_congr_left fun entry _ => item_pair entry.1 entry.2

theorem pairs_ne_nil {entries : List (String × String)} (h : entries ≠ []) :
    pairs entries ≠ [] := by
  cases entries with
  | nil => exact absurd rfl h
  | cons entry rest =>
    cases rest with
    | nil => simp [pairs, pair, List.intercalate]
    | cons next rest => simp [pairs_cons, pair]

end Form

/-! ## Queries of requests -/

/-- What a request says under a name of its query, the first time. -/
def Request.parameter? (request : Request) (name : String) : Option Bytes :=
  ((Form.items (request.url.query?.getD "").toList).find? fun item =>
    item.1 = Utf8.encode name).map (·.2)

/-- An address made of a plain path has no query. -/
theorem Url.query?_of_join {base url : Url} {path : String} (hplain : Reference.IsPlain path)
    (h : base.join path = .ok url) : url.query? = none := by
  have hjoin := @join_of_isPlain base path path [] hplain
    (by rw [significant_of_isPlain hplain, List.append_nil]) (by simp)
  rw [h] at hjoin
  cases hpath : base.path with
  | rootless text =>
    rw [hpath] at hjoin
    cases hjoin
  | segments parts =>
    rw [hpath] at hjoin
    cases hjoin
    rfl

namespace Client

variable {client : Client} {method : Method} {url : Url} {body : Body} {tenant? : Option String}
  {request : Request}

/-- The query of a request is what it was made with, if the address has none of its own. -/
theorem query?_of_request {query : List (String × String)} (hurl : url.query? = none)
    (hquery : query ≠ []) (h : client.request method url query body tenant? = .ok request) :
    request.url.query? = some (String.ofList (Form.pairs query)) := by
  obtain ⟨-, haddress, -⟩ := Request.make_ok h
  have hasked : query.isEmpty = false := by simpa using hquery
  have hitems : (String.ofList (Form.pairs query)).isEmpty = false := by
    simpa using Form.pairs_ne_nil hquery
  have hwhole : ∀ target : Url, (Request.address target).query? = target.query? := by
    intro target
    unfold Request.address
    split <;> rfl
  rw [haddress, hwhole]
  simp [hasked, Url.appendQuery, hurl, hitems]

/-- The filter reaches the service as it was written, whatever characters it holds. -/
theorem filter_of_request {page : Nat} {filter : String} (hurl : url.query? = none)
    (h : client.request method url (pageQuery page (some filter)) body tenant? = .ok request) :
    request.parameter? "filter" = some (Utf8.encode filter) := by
  have hquery : pageQuery page (some filter) ≠ [] := by simp [pageQuery]
  rw [Request.parameter?, query?_of_request hurl hquery h, Option.getD_some, String.toList_ofList,
    Form.items_pairs hquery]
  have hpage : ¬ Utf8.encode "page" = Utf8.encode "filter" := by decide
  have hsize : ¬ Utf8.encode "pageSize" = Utf8.encode "filter" := by decide
  simp [pageQuery, List.find?, hpage, hsize]

end Client

end CloudTenancy
