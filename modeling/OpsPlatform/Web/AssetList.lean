/-
The list of assets in the browser (`buildAssetsQuery` and `listAssets` in
`web/src/api/cmdb.ts`, the paging in `web/src/lib/assets.ts`, the filters in
`web/src/features/cmdb/AssetsPage.tsx`), and what the server answers to it.
-/
import OpsPlatform.Cmdb.AssetList
import OpsPlatform.Lib.Batches
import OpsPlatform.Lib.Grouping
import OpsPlatform.Lib.JsText
import OpsPlatform.Lib.Run
import OpsPlatform.Web.Guacamole
import Mathlib.Data.List.Dedup

namespace OpsPlatform.Web.AssetList

open Lib Lib.Utf8 Lib.UrlQuery Lib.Positional
open Cmdb Cmdb.AssetList

/-! ### The request -/

/-- `ListAssetsOptions`; a field that is `undefined` is `none`, and a number is an integer that is
printed exactly. -/
structure ListAssetsOptions where
  accountID : Option String := none
  criticality : Option String := none
  env : Option String := none
  isVPCProxy : Option Bool := none
  limit : Option Int := none
  offset : Option Int := none
  owner : Option String := none
  query : Option String := none
  region : Option String := none
  source : Option String := none
  status : Option String := none
  type : Option String := none

/-- `if (value) params.set(name, value)`. -/
def setText (name : String) (value : Option String) : List (Bytes × Bytes) :=
  match value with
  | some s => if s = "" then [] else [(ascii name.toList, text s)]
  | none => []

/-- `if (value !== undefined) params.set(name, String(value))`. -/
def setString (name : String) (value : Option String) : List (Bytes × Bytes) :=
  value.toList.map fun s => (ascii name.toList, text s)

/-- The parameters of `buildAssetsQuery`. -/
def assetsParams (options : ListAssetsOptions) : List (Bytes × Bytes) :=
  setText "type" options.type ++ setText "env" options.env ++ setText "status" options.status ++
    setText "source" options.source ++ setText "region" options.region ++
    setText "account_id" options.accountID ++ setText "owner" options.owner ++
    setText "criticality" options.criticality ++ setText "q" options.query ++
    setString "is_vpc_proxy" (options.isVPCProxy.map toString) ++
    setString "limit" (options.limit.map toString) ++
    setString "offset" (options.offset.map toString)

/-- `buildAssetsQuery`. -/
def buildAssetsQuery (options : ListAssetsOptions) : Bytes := searchParams (assetsParams options)

/-- The path that `listAssets` fetches. -/
def assetsPath (options : ListAssetsOptions) : Bytes :=
  let params := buildAssetsQuery options
  if params ≠ [] then ascii "/api/v1/cmdb/assets?".toList ++ params
  else ascii "/api/v1/cmdb/assets".toList

/-- The query of a request, as the server's `URL.RawQuery` has it. -/
def rawQuery (path : Bytes) : Bytes := (cut 63 path).2

/-! ### The assets that are asked for -/

/-- A filter that is not set, or is empty, selects everything. -/
def selects (filter : Option String) (column : String) : Bool :=
  filter.getD "" == "" || column == filter.getD ""

/-- The asset meets all filters. -/
def shown (coll : Collation) (options : ListAssetsOptions) (a : AssetRow) : Bool :=
  a.live && selects options.type a.type && selects options.env a.env &&
    selects options.status a.status && selects options.source a.source &&
    selects options.region a.region && selects options.accountID a.accountId &&
    selects options.owner a.owner && selects options.criticality a.criticality &&
    options.isVPCProxy.all (a.isVpcProxy == ·) &&
    (options.query.getD "" == "" || found coll searched (options.query.getD "") a)

/-- The texts of the filters. -/
def ListAssetsOptions.texts (options : ListAssetsOptions) : List String :=
  [options.type, options.env, options.status, options.source, options.region, options.accountID,
    options.owner, options.criticality, options.query].filterMap id

/-- The limit that the server takes. -/
def ListAssetsOptions.pageSize (options : ListAssetsOptions) : ℕ :=
  match options.limit with
  | some n => if n ≤ 0 ∨ 500 < n then 50 else n.toNat
  | none => 50

/-- The offset that the server takes. -/
def ListAssetsOptions.start (options : ListAssetsOptions) : ℕ := (options.offset.getD 0).toNat

/-- The rows of the page. -/
def page (coll : Collation) (order : Order) (db : Db) (options : ListAssetsOptions) :
    List AssetRow :=
  ((order.sort (db.cmdbAsset.filter (shown coll options))).drop options.start).take
    options.pageSize

/-! ### The query of the server -/

section

variable {pairs : List (Bytes × Bytes)} {key : Bytes}

/-- Parameters without a value may as well be missing. -/
lemma valuesGet_filter (h : (pairs.map Prod.fst).Nodup) :
    valuesGet (pairs.filter fun p => p.2 ≠ []) key = valuesGet pairs key := by
  induction pairs with
  | nil => rfl
  | cons p pairs ih =>
    obtain ⟨hp, hpairs⟩ := List.nodup_cons.mp h
    by_cases hkey : p.1 = key
    · by_cases hvalue : p.2 = []
      · have hnone : valuesGet pairs key = [] := by
          rw [valuesGet, List.find?_eq_none.mpr]
          · rfl
          · intro q hq hhit
            exact hp (List.mem_map.mpr ⟨q, hq, (beq_iff_eq.mp hhit).trans hkey.symm⟩)
        rw [List.filter_cons_of_neg (by simpa using hvalue), ih hpairs, hnone]
        simp [valuesGet, hkey, hvalue]
      · rw [List.filter_cons_of_pos (by simpa using hvalue)]
        simp [valuesGet, hkey]
    · have hmiss : (p.1 == key) = false := beq_eq_false_iff_ne.mpr hkey
      have hrest : ∀ l, valuesGet (p :: l) key = valuesGet l key := by
        intro l
        simp [valuesGet, hmiss]
      rw [List.filter_cons]
      split <;> simp only [hrest, ih hpairs]

end

/-- All parameters, with an empty value for those that are not sent. -/
def allParams (options : ListAssetsOptions) : List (Bytes × Bytes) :=
  [(ascii "type".toList, text (options.type.getD "")),
    (ascii "env".toList, text (options.env.getD "")),
    (ascii "status".toList, text (options.status.getD "")),
    (ascii "source".toList, text (options.source.getD "")),
    (ascii "region".toList, text (options.region.getD "")),
    (ascii "account_id".toList, text (options.accountID.getD "")),
    (ascii "owner".toList, text (options.owner.getD "")),
    (ascii "criticality".toList, text (options.criticality.getD "")),
    (ascii "q".toList, text (options.query.getD "")),
    (ascii "is_vpc_proxy".toList, text ((options.isVPCProxy.map toString).getD "")),
    (ascii "limit".toList, text ((options.limit.map toString).getD "")),
    (ascii "offset".toList, text ((options.offset.map toString).getD ""))]

lemma text_eq_nil_iff {s : String} : text s = [] ↔ s = "" := encode_eq_nil_iff

lemma setText_eq (name : String) (value : Option String) : setText name value =
    [(ascii name.toList, text (value.getD ""))].filter fun p => p.2 ≠ [] := by
  cases value with
  | none => rfl
  | some s => by_cases hs : s = "" <;> simp [setText, text_eq_nil_iff, hs]

lemma setString_eq (name : String) {value : Option String} (h : ∀ s ∈ value, s ≠ "") :
    setString name value =
      [(ascii name.toList, text (value.getD ""))].filter fun p => p.2 ≠ [] := by
  cases value with
  | none => rfl
  | some s => simp [setString, text_eq_nil_iff, h s rfl]

/-- The names of the parameters are different ones. -/
lemma nodup_allParams (options : ListAssetsOptions) :
    ((allParams options).map Prod.fst).Nodup := by
  simp only [allParams, List.map_cons, List.map_nil]
  decide

lemma toList_toString (n : Int) : (toString n).toList =
    if 0 ≤ n then Nat.toDigits 10 n.toNat else '-' :: Nat.toDigits 10 (-n).toNat := by
  rw [Int.toString_eq_repr, Int.repr_eq_if]
  split <;> simp

lemma toString_int_ne_empty (n : Int) : toString n ≠ "" := by
  rw [← String.toList_inj.ne, toList_toString]
  split <;> simp [Nat.toDigits_ne_nil]

lemma assetsParams_eq (options : ListAssetsOptions) :
    assetsParams options = (allParams options).filter fun p => p.2 ≠ [] := by
  have hbool : ∀ s ∈ options.isVPCProxy.map toString, s ≠ "" := by
    rcases options.isVPCProxy with _ | _ | _
    · simp
    all_goals
      intro s hs
      obtain rfl := Option.some.inj hs
      decide
  have hint : ∀ value : Option Int, ∀ s ∈ value.map toString, s ≠ "" := by
    intro value s hs
    obtain ⟨n, -, rfl⟩ := Option.mem_map.mp hs
    exact toString_int_ne_empty n
  simp only [assetsParams, setText_eq, setString_eq _ hbool, setString_eq _ (hint _),
    ← List.filter_append]
  rfl

/-- The server reads the value of each parameter that the browser has set. -/
lemma valuesGet_assetsPath (options : ListAssetsOptions) (key : Bytes) :
    valuesGet (parseQuery (rawQuery (assetsPath options))) key =
      valuesGet (allParams options) key := by
  have hquery : rawQuery (assetsPath options) = buildAssetsQuery options := by
    rw [rawQuery, assetsPath]
    split
    · have hsplit : ascii "/api/v1/cmdb/assets?".toList ++ buildAssetsQuery options =
          ascii "/api/v1/cmdb/assets".toList ++ 63 :: buildAssetsQuery options := by
        have hpath : ascii "/api/v1/cmdb/assets?".toList =
          ascii "/api/v1/cmdb/assets".toList ++ [63] := by decide
        rw [hpath, List.append_assoc, List.singleton_append]
      rw [hsplit, cut_append (by decide)]
    · next hnil =>
      rw [cut_of_not_mem (by decide), not_not.mp hnil]
  rw [hquery, buildAssetsQuery, searchParams_eq_join, Escaping.parseQuery_join, assetsParams_eq,
    valuesGet_filter (nodup_allParams options)]

lemma readIsVPCProxy_toString (value : Option Bool) :
    readIsVPCProxy (text ((value.map toString).getD "")) = value := by
  rcases value with _ | _ | _
  all_goals
    rw [readIsVPCProxy, text, runes_encode]
    decide

lemma atoi_toString {n : Int} (h : -(2 ^ 63) ≤ n ∧ n < 2 ^ 63) :
    Strconv.atoi (latin1 (text (toString n))) = some n := by
  have hdigits : ∀ m, ∀ c ∈ Nat.toDigits 10 m, c.toNat < 128 := by
    intro m c hc
    have := (Strconv.toNat_of_isDigit (Strconv.isDigit_toDigits hc)).2
    omega
  have hread : ∀ cs : List Char, (∀ c ∈ cs, c.toNat < 128) → latin1 (encode cs) = cs :=
    fun cs hcs => by rw [encode_eq_ascii hcs, latin1_ascii hcs]
  rw [text, toList_toString]
  split
  · next hn =>
    rw [hread _ (hdigits _), Strconv.atoi_toDigits (by omega), Int.toNat_of_nonneg hn]
  · rw [hread _ (List.forall_mem_cons.mpr ⟨by decide, hdigits _⟩),
      Strconv.atoi_neg_toDigits (by omega)]
    congr 1
    omega

lemma atoiValue_toString {value : Option Int} (h : ∀ n ∈ value, -(2 ^ 63) ≤ n ∧ n < 2 ^ 63) :
    Strconv.atoiValue (latin1 (text ((value.map toString).getD ""))) = value.getD 0 := by
  cases value with
  | none => decide
  | some n => exact Strconv.atoiValue_of_atoi (atoi_toString (h n rfl))

/-- The query that the handler makes of the request. -/
def sentQuery (options : ListAssetsOptions) : ListAssetsQuery where
  type := text (options.type.getD "")
  env := text (options.env.getD "")
  status := text (options.status.getD "")
  source := text (options.source.getD "")
  region := text (options.region.getD "")
  accountID := text (options.accountID.getD "")
  owner := text (options.owner.getD "")
  criticality := text (options.criticality.getD "")
  query := text (options.query.getD "")
  isVPCProxy := options.isVPCProxy
  limit := options.limit.getD 0
  offset := options.offset.getD 0

/-- The numbers of a request fit into an `int`, and no text has a zero byte. -/
structure Sendable (options : ListAssetsOptions) : Prop where
  limit : ∀ n ∈ options.limit, -(2 ^ 63) ≤ n ∧ n < 2 ^ 63
  offset : ∀ n ∈ options.offset, -(2 ^ 63) ≤ n ∧ n < 2 ^ 63
  texts : ∀ t ∈ options.texts, Char.ofNat 0 ∉ t.toList

section

variable {coll : Collation} {options : ListAssetsOptions}

/-- Every filter passes from the browser to the arguments of the statement unchanged. -/
lemma handler_listAssets (h : Sendable options) (order : Order) (counted listed : Db) :
    Handler.listAssets coll order counted listed (rawQuery (assetsPath options)) =
      (Cmdb.AssetList.listAssets coll order counted listed (sentQuery options)).mapError
        fun e => ⟨500, e, none⟩ := by
  have hlimit := atoiValue_toString h.limit
  have hoffset := atoiValue_toString h.offset
  have hproxy := readIsVPCProxy_toString options.isVPCProxy
  rw [Handler.listAssets, sentQuery]
  simp only [valuesGet_assetsPath]
  rw [← hlimit, ← hoffset]
  conv_rhs => rw [← hproxy]
  rfl

lemma not_mem_getD {value : Option String} (h : ∀ t ∈ value, Char.ofNat 0 ∉ t.toList) :
    Char.ofNat 0 ∉ (value.getD "").toList := by
  cases value with
  | none => exact List.not_mem_nil
  | some t => exact h t rfl

variable (coll) in
/-- The conditions that are sent are those of the filters. -/
lemma conjunction_sentQuery (h : Sendable options) :
    ∃ p, conjunction (satisfies coll) (filters (sentQuery options)) = some p ∧
      ∀ a, (a.live && p a) = shown coll options a := by
  have htext : ∀ value, value ∈ [options.type, options.env, options.status, options.source,
      options.region, options.accountID, options.owner, options.criticality, options.query] →
      Char.ofNat 0 ∉ (value.getD "").toList := by
    intro value hvalue
    refine not_mem_getD fun t ht => h.texts t ?_
    exact List.mem_filterMap.mpr ⟨value, hvalue, ht⟩
  have heq : ∀ c value, value ∈ [options.type, options.env, options.status, options.source,
      options.region, options.accountID, options.owner, options.criticality, options.query] →
      conjunction (satisfies coll) (eqFilter c (text (value.getD ""))) =
        some fun a => value.getD "" == "" || c.value a == some (value.getD "") :=
    fun c value hvalue => conjunction_eqFilter c (htext value hvalue)
  have hproxy : conjunction (satisfies coll)
      (options.isVPCProxy.toList.map fun b => (.isVPCProxy, .bool b)) =
        some fun a => options.isVPCProxy.all (a.isVpcProxy == ·) := by
    cases options.isVPCProxy <;> simp [conjunction, satisfies]
  have hsearch : conjunction (satisfies coll)
      (if text (options.query.getD "") = [] then []
        else [(.ilike searched,
          .text (ascii ['%'] ++ text (options.query.getD "") ++ ascii ['%']))]) =
        some fun a => options.query.getD "" == "" ||
          found coll searched (options.query.getD "") a := by
    by_cases hq : options.query.getD "" = ""
    · rw [if_pos (text_eq_nil_iff.mpr hq)]
      simp [conjunction, hq]
    · have hne : (options.query.getD "" == "") = false := beq_eq_false_iff_ne.mpr hq
      rw [if_neg (mt text_eq_nil_iff.mp hq), text,
        conjunction_search (htext options.query (by simp))]
      simp [hne]
  refine ⟨_, conjunction_append (conjunction_append (conjunction_append (conjunction_append
    (conjunction_append (conjunction_append (conjunction_append (conjunction_append
    (conjunction_append (heq .type _ ?_) (heq .env _ ?_)) (heq .status _ ?_)) (heq .source _ ?_))
    (heq .region _ ?_)) (heq .accountId _ ?_)) (heq .owner _ ?_)) (heq .criticality _ ?_))
    hproxy) hsearch, ?_⟩
  all_goals try simp only [List.mem_cons, true_or, or_true]
  intro a
  simp [shown, selects, Column.value, Bool.and_assoc]

/-- The search, for a text without special characters. -/
lemma shown_search {q : String} (hq : options.query = some q)
    (hplain : ∀ c ∈ q.toList, Like.Plain (coll.lower c)) (a : AssetRow) :
    shown coll options a = true ↔ shown coll { options with query := none } a = true ∧
      ∃ c ∈ searched, ∃ u ∈ c.value a,
        q.toList.map coll.lower <:+: u.toList.map coll.lower := by
  rw [← found_iff hplain]
  have hfound : q = "" → found coll searched q a = true := by
    rintro rfl
    exact (found_iff hplain).mpr ⟨.name, by decide, a.name, rfl, List.nil_infix⟩
  have hor : (q = "" ∨ found coll searched q a = true) ↔ found coll searched q a = true :=
    or_iff_right_of_imp hfound
  simp [shown, hq, hor]

lemma listAssets_answer (h : Sendable options) (order : Order) (counted listed : Db) :
    Handler.listAssets coll order counted listed (rawQuery (assetsPath options)) =
      (((page coll order listed options).mapM scanAsset).mapError fun e => ⟨500, e, none⟩).map
        fun items => { items, total := (counted.cmdbAsset.filter (shown coll options)).length
                       limit := options.pageSize, offset := options.start } := by
  obtain ⟨p, hp, hshown⟩ := conjunction_sentQuery coll h
  have hlimit : (if (sentQuery options).limit ≤ 0 ∨ 500 < (sentQuery options).limit then 50
      else (sentQuery options).limit) = options.pageSize := by
    rw [ListAssetsOptions.pageSize, sentQuery]
    cases options.limit with
    | none => rfl
    | some n =>
      dsimp only [Option.getD_some]
      split
      · rfl
      · next hn =>
        rw [not_or] at hn
        exact (Int.toNat_of_nonneg (by omega)).symm
  have hoffset : (if (sentQuery options).offset < 0 then 0 else (sentQuery options).offset) =
      options.start := by
    show (if options.offset.getD 0 < 0 then 0 else options.offset.getD 0) = _
    rw [ListAssetsOptions.start]
    split <;> omega
  rw [handler_listAssets h, listAssets_eq order counted listed _ hp]
  simp only [hlimit, hoffset, hshown, Int.toNat_natCast]
  rw [page]
  cases (((order.sort (listed.cmdbAsset.filter fun a => shown coll options a)).drop
    options.start).take options.pageSize).mapM scanAsset <;> rfl

/-- **A list shows the assets that its filters ask for**: every text of the form passes through
the query of the URL and the arguments of the statement unchanged, whatever characters it has, and
the page holds the newest of the matching assets from the offset on.  The total is that of all
that match, at the time of the first statement.  A search without special characters asks for the
assets that have it in a column, without regard to case. -/
theorem listAssets_shown (h : Sendable options) (order : Order) (counted listed : Db) :
    Handler.listAssets coll order counted listed (rawQuery (assetsPath options)) =
        (((page coll order listed options).mapM scanAsset).mapError fun e => ⟨500, e, none⟩).map
          (fun items => { items, total := (counted.cmdbAsset.filter (shown coll options)).length
                          limit := options.pageSize, offset := options.start }) ∧
      ∀ q, options.query = some q → (∀ c ∈ q.toList, Like.Plain (coll.lower c)) → ∀ a,
        shown coll options a = true ↔ shown coll { options with query := none } a = true ∧
          ∃ c ∈ searched, ∃ u ∈ c.value a,
            q.toList.map coll.lower <:+: u.toList.map coll.lower :=
  ⟨listAssets_answer h order counted listed, fun _ hq hplain a => shown_search hq hplain a⟩

end

/-- The newest asset first, and else the order of the table. -/
def newestFirst : Order where
  sort l := l.insertionSort fun a b => b.updatedAt ≤ a.updatedAt
  perm l := List.perm_insertionSort _ l
  sorted l :=
    have : Std.Total fun a b : AssetRow => b.updatedAt ≤ a.updatedAt :=
      ⟨fun a b => le_total b.updatedAt a.updatedAt⟩
    have : IsTrans AssetRow fun a b => b.updatedAt ≤ a.updatedAt :=
      ⟨fun _ _ _ hab hbc => le_trans hbc hab⟩
    List.pairwise_insertionSort _ l

def simpleCase : Collation where
  lower := Text.lowerChar
  lower_special c hc := by
    simp only [List.mem_cons, List.not_mem_nil, or_false] at hc
    rcases hc with rfl | rfl | rfl <;> rfl

/-- Two assets, one of an environment that has to be escaped in a query. -/
def sampleDb : Db where
  cmdbAsset := [{ id := Uuid.replicate 1, type := "vm", name := "db-1", env := "a&b=%" },
    { id := Uuid.replicate 2, type := "vm", name := "db-2", updatedAt := 1 }]

theorem listAssets_shown_sampleDb :
    (Handler.listAssets simpleCase newestFirst sampleDb sampleDb (rawQuery (assetsPath
        { env := some "a&b=%", query := some "DB-", offset := some (-3) }))).map
      (fun result => (result.total, result.offset)) = .ok (1, 0) := by
  rw [(listAssets_shown ⟨by simp, by simp, by decide⟩ _ _ _).1]
  decide +kernel

/-! ### The pages -/

/-- `AssetFilters`. -/
structure AssetFilters where
  env : String := ""
  includeBastions : Bool := false
  query : String := ""
  region : String := ""
  source : String := ""
  status : String := ""
  type : String := ""

/-- `compact`. -/
def compact (value : String) : Option String :=
  if JsText.trim value = "" then none else some (JsText.trim value)

def pageSize : ℕ := 25

/-- `buildAssetListOptions`. -/
def buildAssetListOptions (filters : AssetFilters) (offset : ℕ) : ListAssetsOptions where
  env := compact filters.env
  isVPCProxy := if filters.includeBastions then none else some false
  limit := some pageSize
  offset := some offset
  query := compact filters.query
  region := compact filters.region
  source := compact filters.source
  status := compact filters.status
  type := compact filters.type

/-- `previousAssetOffset`. -/
def previousAssetOffset (offset limit : ℕ) : ℕ := offset - limit

/-- `nextAssetOffset`. -/
def nextAssetOffset (offset limit total : ℕ) : ℕ :=
  if limit ≤ 0 then offset
  else if total ≤ offset + limit then offset
  else offset + limit

inductive Click where
  | previous
  | next

/-- What a click makes of the offset, given the total of the list. -/
def click (total offset : ℕ) : Click → ℕ
  | .previous => previousAssetOffset offset pageSize
  | .next => nextAssetOffset offset pageSize total

def AssetFilters.texts (filters : AssetFilters) : List String :=
  [filters.env, filters.query, filters.region, filters.source, filters.status, filters.type]

/-- The offset of a page of the list, or of its start. -/
def OnPage (total offset : ℕ) : Prop := ∃ k, offset = pageSize * k ∧ (k = 0 ∨ pageSize * k < total)

section

variable {coll : Collation} {filters : AssetFilters} {total : ℕ}

lemma onPage_click {offset : ℕ} (h : OnPage total offset) (c : Click) :
    OnPage total (click total offset c) := by
  obtain ⟨k, rfl, hk⟩ := h
  cases c with
  | previous =>
    refine ⟨k - 1, ?_, ?_⟩
    · rw [click, previousAssetOffset, Nat.mul_sub, Nat.mul_one]
    · rcases hk with rfl | hk
      · exact Or.inl rfl
      · exact Or.inr (Nat.lt_of_le_of_lt (Nat.mul_le_mul_left _ (Nat.sub_le k 1)) hk)
  | next =>
    rw [click, nextAssetOffset, if_neg (by decide)]
    split
    · exact ⟨k, rfl, hk⟩
    · next hlt => exact ⟨k + 1, rfl, Or.inr (Nat.lt_of_not_le hlt)⟩

/-- Every page is reached from the first one. -/
lemma run_next {k : ℕ} (h : k = 0 ∨ pageSize * k < total) :
    Run.run (click total) 0 (List.replicate k .next) = pageSize * k := by
  induction k with
  | zero => rfl
  | succ k ih =>
    have hlt : pageSize * (k + 1) < total := h.resolve_left (Nat.succ_ne_zero k)
    have hprev : k = 0 ∨ pageSize * k < total :=
      Or.inr (Nat.lt_of_le_of_lt (Nat.mul_le_mul_left _ (Nat.le_succ k)) hlt)
    rw [List.replicate_succ', Run.run_append, ih hprev, Run.run_cons, Run.run_nil, click,
      nextAssetOffset, if_neg (by decide)]
    exact if_neg (Nat.not_le.mpr hlt)

lemma not_mem_compact {value : String} (h : Char.ofNat 0 ∉ value.toList) :
    ∀ t ∈ compact value, Char.ofNat 0 ∉ t.toList := by
  intro t ht
  obtain ⟨-, ht⟩ := Option.ite_none_left_eq_some.mp ht
  obtain rfl := Option.some.inj ht
  rw [JsText.trim, String.toList_ofList]
  exact fun hmem => h ((JsText.trimBy_sublist _ _).subset hmem)

lemma sendable_buildAssetListOptions {offset : ℕ} (hoffset : offset < 2 ^ 63)
    (htexts : ∀ t ∈ filters.texts, Char.ofNat 0 ∉ t.toList) :
    Sendable (buildAssetListOptions filters offset) where
  limit n hn := by
    obtain rfl := Option.some.inj hn
    decide
  offset n hn := by
    obtain rfl := Option.some.inj hn
    omega
  texts t ht := by
    obtain ⟨value, hvalue, hsome⟩ := List.mem_filterMap.mp ht
    have hcompact : ∀ text ∈ filters.texts, value = compact text → Char.ofNat 0 ∉ t.toList :=
      fun text htext heq => not_mem_compact (htexts text htext) t (heq ▸ hsome)
    simp only [buildAssetListOptions, List.mem_cons, List.not_mem_nil, or_false] at hvalue
    rcases hvalue with rfl | rfl | rfl | rfl | rfl | rfl | rfl | rfl | rfl
    · exact hcompact filters.type (by simp [AssetFilters.texts]) rfl
    · exact hcompact filters.env (by simp [AssetFilters.texts]) rfl
    · exact hcompact filters.status (by simp [AssetFilters.texts]) rfl
    · exact hcompact filters.source (by simp [AssetFilters.texts]) rfl
    · exact hcompact filters.region (by simp [AssetFilters.texts]) rfl
    · cases hsome
    · cases hsome
    · cases hsome
    · exact hcompact filters.query (by simp [AssetFilters.texts]) rfl

/-- What the rows of a page are scanned into. -/
def scanned (rows : List AssetRow) : List Asset := rows.filterMap fun a => (scanAsset a).toOption

lemma row_of_scanAsset {row : AssetRow} {a : Asset} (h : scanAsset row = .ok a) : a.row = row := by
  simp only [scanAsset, Except.bind_eq_ok] at h
  obtain ⟨systemTags, -, labels, -, h⟩ := h
  exact (Except.ok.inj h).symm ▸ rfl

lemma mapM_scanAsset {rows : List AssetRow} (h : ∀ a ∈ rows, ∃ b, scanAsset a = .ok b) :
    rows.mapM scanAsset = .ok (scanned rows) ∧ (scanned rows).map (·.row) = rows := by
  induction rows with
  | nil => exact ⟨rfl, rfl⟩
  | cons a rows ih =>
    obtain ⟨b, hb⟩ := h a List.mem_cons_self
    obtain ⟨hrows, hmap⟩ := ih fun a' ha' => h a' (List.mem_cons_of_mem a ha')
    have hcons : scanned (a :: rows) = b :: scanned rows := by
      rw [scanned, List.filterMap_cons, hb]
      rfl
    rw [hcons, List.mapM_cons, hb, hrows, List.map_cons, hmap, row_of_scanAsset hb]
    exact ⟨rfl, rfl⟩

lemma mapM_page {db : Db} (hscan : ∀ a ∈ db.cmdbAsset, ∃ b, scanAsset a = .ok b) (order : Order)
    (options : ListAssetsOptions) :
    (page coll order db options).mapM scanAsset = .ok (scanned (page coll order db options)) ∧
      (scanned (page coll order db options)).map (·.row) = page coll order db options := by
  refine mapM_scanAsset fun a ha => hscan a ?_
  refine List.mem_of_mem_filter (p := shown coll options) ?_
  exact (order.perm _).mem_iff.mp (List.mem_of_mem_drop (List.mem_of_mem_take ha))

/-- The answer to a page, when the tags of all assets are read. -/
lemma listAssets_page {offset : ℕ} {db : Db} (hoffset : offset < 2 ^ 63)
    (htexts : ∀ t ∈ filters.texts, Char.ofNat 0 ∉ t.toList)
    (hscan : ∀ a ∈ db.cmdbAsset, ∃ b, scanAsset a = .ok b) (order : Order) :
    Handler.listAssets coll order db db
        (rawQuery (assetsPath (buildAssetListOptions filters offset))) =
      .ok { items := scanned (page coll order db (buildAssetListOptions filters offset))
            total := (db.cmdbAsset.filter (shown coll (buildAssetListOptions filters 0))).length
            limit := pageSize, offset } := by
  rw [listAssets_answer (sendable_buildAssetListOptions hoffset htexts),
    (mapM_page hscan order _).1]
  rfl

/-- The sorted list of any order, by its keys. -/
lemma map_updatedAt_sort (order : Order) (rows : List AssetRow) :
    (order.sort rows).map (·.updatedAt) = (rows.map (·.updatedAt)).insertionSort (· ≥ ·) := by
  refine List.Perm.eq_of_pairwise' (r := (· ≥ ·)) ?_ (List.pairwise_insertionSort _ _) ?_
  · exact List.pairwise_map.mpr (order.sorted rows)
  · exact ((order.perm rows).map _).trans (List.perm_insertionSort _ _).symm

/-- Rows that were updated at different times have one order. -/
lemma sort_eq (order order' : Order) {rows : List AssetRow}
    (h : (rows.map (·.updatedAt)).Nodup) : order.sort rows = order'.sort rows := by
  refine List.Perm.eq_of_pairwise ?_ (order.sorted rows) (order'.sorted rows)
    ((order.perm rows).trans (order'.perm rows).symm)
  intro a b ha hb hle hge
  exact List.inj_on_of_nodup_map h ((order.perm rows).mem_iff.mp ha)
    ((order'.perm rows).mem_iff.mp hb) (le_antisymm hge hle)

variable (coll filters) in
/-- **The pages of a list**: with a table that does not change and whose tags can be read, and
filters without zero bytes, the clicks lead to the multiples of the page size below the total, and
to all of them.  The server answers each with its page, and the pages together have the times of the
matching assets, newest first, whatever the order among assets of the same time was in each answer.
Without such assets, each matching asset is on one page. -/
theorem pages_show_all (htexts : ∀ t ∈ filters.texts, Char.ofNat 0 ∉ t.toList) (db : Db)
    (hsize : db.cmdbAsset.length < 2 ^ 63) (hscan : ∀ a ∈ db.cmdbAsset, ∃ b, scanAsset a = .ok b)
    (orders : ℕ → Order) :
    let rows := db.cmdbAsset.filter (shown coll (buildAssetListOptions filters 0))
    (∀ offset, OnPage rows.length offset ↔
        ∃ clicks, Run.run (click rows.length) 0 clicks = offset) ∧
      ∃ pages : ℕ → List Asset,
        (∀ k, k = 0 ∨ pageSize * k < rows.length →
          Handler.listAssets coll (orders k) db db
              (rawQuery (assetsPath (buildAssetListOptions filters (pageSize * k)))) =
            .ok { items := pages k, total := rows.length, limit := pageSize
                  offset := (pageSize * k : ℕ) }) ∧
        let all := (List.range ((rows.length + pageSize - 1) / pageSize)).flatMap pages
        all.map (·.row.updatedAt) = (rows.map (·.updatedAt)).insertionSort (· ≥ ·) ∧
          ((rows.map (·.updatedAt)).Nodup → (all.map (·.row)).Perm rows) := by
  intro rows
  refine ⟨fun offset => ⟨?_, ?_⟩, fun k =>
    scanned (page coll (orders k) db (buildAssetListOptions filters (pageSize * k))), ?_, ?_⟩
  · rintro ⟨k, rfl, hk⟩
    exact ⟨_, run_next hk⟩
  · rintro ⟨clicks, rfl⟩
    exact Run.invariant (I := OnPage rows.length) (fun _ c h => onPage_click h c)
      ⟨0, rfl, Or.inl rfl⟩ clicks
  · intro k hk
    have hlt : pageSize * k < 2 ^ 63 := by
      have hle : rows.length ≤ db.cmdbAsset.length := List.length_filter_le _ _
      rcases hk with rfl | hk <;> omega
    exact listAssets_page hlt htexts hscan (orders k)
  · have hlists : ((List.range ((rows.length + pageSize - 1) / pageSize)).flatMap fun k =>
        scanned (page coll (orders k) db (buildAssetListOptions filters (pageSize * k)))).map
          (·.row) = (List.range ((rows.length + pageSize - 1) / pageSize)).flatMap fun k =>
            (((orders k).sort rows).drop (pageSize * k)).take pageSize := by
      rw [List.map_flatMap]
      congr 1
      funext k
      exact (mapM_page hscan (orders k) _).2
    have hkeys : ((rows.map (·.updatedAt)).insertionSort (· ≥ ·)).length = rows.length := by
      rw [List.length_insertionSort, List.length_map]
    constructor
    · have hrow : ∀ l : List Asset,
          l.map (·.row.updatedAt) = (l.map (·.row)).map (·.updatedAt) := fun l => by
        rw [List.map_map]
        rfl
      rw [hrow, hlists, ← hkeys]
      exact flatMap_pages (by decide) fun k => map_updatedAt_sort (orders k) rows
    · intro hnodup
      have hlength : rows.length = ((orders 0).sort rows).length :=
        ((orders 0).perm rows).length_eq.symm
      rw [hlists]
      simp only [fun k => sort_eq (orders k) (orders 0) hnodup]
      rw [hlength]
      refine List.Perm.trans (List.Perm.of_eq ?_) ((orders 0).perm rows)
      exact flatten_batches (by decide) _

end

lemma scanAsset_sampleDb : ∀ a ∈ sampleDb.cmdbAsset, ∃ b, scanAsset a = .ok b := by
  intro a ha
  simp only [sampleDb, List.mem_cons, List.not_mem_nil, or_false] at ha
  rcases ha with rfl | rfl <;> exact ⟨_, rfl⟩

/-- Thirty assets, each with a time of its own. -/
def thirtyAssets : Db where
  cmdbAsset := (List.range 30).map fun i =>
    { id := ⟨Fin.ofNat 16 (i / 16) :: Fin.ofNat 16 i :: List.replicate 30 0, rfl⟩, type := "vm"
      name := "db", updatedAt := i }

theorem pages_show_all_thirtyAssets :
    ∃ pages : ℕ → List Asset,
      Handler.listAssets simpleCase newestFirst thirtyAssets thirtyAssets
          (rawQuery (assetsPath (buildAssetListOptions {} 0))) =
        .ok { items := pages 0, total := 30, limit := 25, offset := 0 } ∧
      Handler.listAssets simpleCase newestFirst thirtyAssets thirtyAssets
          (rawQuery (assetsPath (buildAssetListOptions {} 25))) =
        .ok { items := pages 1, total := 30, limit := 25, offset := 25 } ∧
      ((pages 0 ++ pages 1).map (·.row)).Perm thirtyAssets.cmdbAsset := by
  have hscan : ∀ a ∈ thirtyAssets.cmdbAsset, ∃ b, scanAsset a = .ok b := by
    intro a ha
    obtain ⟨i, -, rfl⟩ := List.mem_map.mp ha
    exact ⟨_, rfl⟩
  obtain ⟨-, pages, hpages, -, hperm⟩ := pages_show_all simpleCase {}
    (by decide) thirtyAssets (by decide) hscan fun _ => newestFirst
  have hrows : thirtyAssets.cmdbAsset.filter (shown simpleCase (buildAssetListOptions {} 0)) =
      thirtyAssets.cmdbAsset := List.filter_eq_self.mpr (by decide +kernel)
  have htotal : thirtyAssets.cmdbAsset.length = 30 := rfl
  have htimes : (thirtyAssets.cmdbAsset.map (·.updatedAt)).Nodup := by decide +kernel
  rw [hrows, htotal] at hpages hperm
  refine ⟨pages, hpages 0 (Or.inl rfl), hpages 1 (Or.inr (by decide)), ?_⟩
  simpa [List.range_succ, pageSize] using hperm htimes

/-! ### The options of a filter -/

/-- The filters that offer their values. -/
inductive Facet where
  | env
  | type
  | status
  | source
  | region

def Facet.column : Facet → Column
  | .env => .env
  | .type => .type
  | .status => .status
  | .source => .source
  | .region => .region

def Facet.values (facets : AssetFacets) : Facet → List String
  | .env => facets.envs
  | .type => facets.types
  | .status => facets.statuses
  | .source => facets.sources
  | .region => facets.regions

/-- `updateFilter` with a value of the filter. -/
def Facet.choose (filters : AssetFilters) (v : String) : Facet → AssetFilters
  | .env => { filters with env := v }
  | .type => { filters with type := v }
  | .status => { filters with status := v }
  | .source => { filters with source := v }
  | .region => { filters with region := v }

/-- The value of the column of a filter; none of them is `NULL`. -/
def Facet.valueOf (facet : Facet) (a : AssetRow) : String := (facet.column.value a).getD ""

section

variable (coll : Collation) (filters : AssetFilters) (db : Db)

/-- The assets that the first page with a value of a filter counts. -/
def chosen (facet : Facet) (v : String) : List AssetRow :=
  db.cmdbAsset.filter (shown coll (buildAssetListOptions (facet.choose filters v) 0))

variable {coll filters db} {facet : Facet} {v : String} {sort : List String → List String}

lemma values_eq (sort : List String → List String) :
    facet.values (listAssetFacets sort db) = loadFacet sort db facet.column := by
  cases facet <;> rfl

lemma mem_loadFacet (hsort : ∀ l, (sort l).Perm l) :
    v ∈ loadFacet sort db facet.column ↔
      v ≠ "" ∧ ∃ a ∈ db.cmdbAsset, a.live = true ∧ facet.valueOf a = v := by
  have hvalue : ∀ a, facet.column.value a = some (facet.valueOf a) := by
    cases facet <;> exact fun _ => rfl
  rw [loadFacet, (hsort _).mem_iff, List.mem_dedup]
  simp only [List.mem_filter, List.mem_filterMap, hvalue, Option.some.injEq, decide_eq_true_eq]
  constructor
  · rintro ⟨⟨a, ⟨ha, hlive⟩, hv⟩, hne⟩
    exact ⟨hne, a, ha, hlive, hv⟩
  · rintro ⟨hne, a, ha, hlive, hv⟩
    exact ⟨⟨a, ⟨ha, hlive⟩, hv⟩, hne⟩

/-- A filter adds its own condition to the others. -/
lemma shown_choose (a : AssetRow) :
    shown coll (buildAssetListOptions (facet.choose filters v) 0) a =
      (shown coll (buildAssetListOptions (facet.choose filters "") 0) a &&
        selects (compact v) (facet.valueOf a)) := by
  have hempty : ∀ c : String, selects (compact "") c = true := fun _ => rfl
  cases facet <;>
    simp [shown, buildAssetListOptions, Facet.choose, Facet.valueOf, Facet.column, Column.value,
      hempty] <;> grind

lemma chosen_eq (hclean : JsText.trim v = v) (hne : v ≠ "") :
    chosen coll filters db facet v =
      (chosen coll filters db facet "").filter fun a => facet.valueOf a = v := by
  rw [chosen, chosen, List.filter_filter]
  refine List.filter_congr fun a _ => ?_
  have hselects : selects (compact v) (facet.valueOf a) = decide (facet.valueOf a = v) := by
    have hfalse : (v == "") = false := beq_eq_false_iff_ne.mpr hne
    rw [compact, hclean, if_neg hne]
    simp [selects, hfalse, Bool.beq_eq_decide_eq]
  rw [shown_choose, hselects, Bool.and_comm]

lemma live_of_shown {options : ListAssetsOptions} {a : AssetRow}
    (h : shown coll options a = true) : a.live = true := by
  cases hlive : a.live with
  | true => rfl
  | false => simp [shown, hlive] at h

lemma mem_texts_choose {t : String} (h : t ∈ (facet.choose filters v).texts) :
    t = v ∨ t ∈ filters.texts := by
  cases facet <;> simp [Facet.choose, AssetFilters.texts] at h ⊢ <;> grind

lemma nodup_loadFacet (hsort : ∀ l, (sort l).Perm l) (c : Column) :
    (loadFacet sort db c).Nodup := by
  rw [loadFacet, (hsort _).nodup_iff]
  exact List.nodup_dedup _

/-- Every asset has one of the values of a filter, or none. -/
lemma length_chosen (hsort : ∀ l, (sort l).Perm l)
    (hclean : ∀ v ∈ loadFacet sort db facet.column, JsText.trim v = v) :
    (chosen coll filters db facet "").length =
      ((loadFacet sort db facet.column).map fun v =>
          (chosen coll filters db facet v).length).sum +
        ((chosen coll filters db facet "").filter fun a => facet.valueOf a = "").length := by
  have hnil : "" ∉ loadFacet sort db facet.column := fun h => ((mem_loadFacet hsort).mp h).1 rfl
  have hall : ∀ a ∈ chosen coll filters db facet "",
      facet.valueOf a ∈ "" :: loadFacet sort db facet.column := by
    intro a ha
    obtain ⟨hmem, hshown⟩ := List.mem_filter.mp ha
    by_cases hempty : facet.valueOf a = ""
    · rw [hempty]
      exact List.mem_cons_self
    · refine List.mem_cons_of_mem _ ((mem_loadFacet hsort).mpr ⟨hempty, a, hmem, ?_, rfl⟩)
      exact live_of_shown hshown
  have hlength := (Grouping.perm_flatMap_filter
    (List.nodup_cons.mpr ⟨hnil, nodup_loadFacet hsort _⟩) hall).length_eq
  have hchosen : ((loadFacet sort db facet.column).map fun v =>
      (chosen coll filters db facet v).length) = (loadFacet sort db facet.column).map fun v =>
        ((chosen coll filters db facet "").filter fun a => facet.valueOf a = v).length := by
    refine List.map_congr_left fun v hv => ?_
    rw [← chosen_eq (hclean v hv) ((mem_loadFacet hsort).mp hv).1]
  rw [hchosen, Nat.add_comm, ← hlength, List.flatMap_cons, List.length_append,
    List.length_flatMap]

variable (coll filters facet) in
/-- **The options of a filter split the list**: each is the value of some asset, and the totals
that the server answers with for the options add up to the total without the filter, less the
assets whose column is empty, whatever the other filters are.  The page trims the value before it
sends it, which is why the values must not have outer white space; neither they nor the filters may
have zero bytes, and the tags must be readable. -/
theorem facets_split (hsort : ∀ l, (sort l).Perm l)
    (hclean : ∀ v ∈ facet.values (listAssetFacets sort db), JsText.trim v = v)
    (htexts : ∀ t ∈ filters.texts, Char.ofNat 0 ∉ t.toList)
    (hvalues : ∀ v ∈ facet.values (listAssetFacets sort db), Char.ofNat 0 ∉ v.toList)
    (hscan : ∀ a ∈ db.cmdbAsset, ∃ b, scanAsset a = .ok b) (order : Order) :
    let values := facet.values (listAssetFacets sort db)
    let total := fun v => (chosen coll filters db facet v).length
    (∀ v, v = "" ∨ v ∈ values →
        (Handler.listAssets coll order db db (rawQuery (assetsPath
          (buildAssetListOptions (facet.choose filters v) 0)))).map (·.total) = .ok (total v)) ∧
      values.Nodup ∧
      (∀ v ∈ values, ∃ a ∈ db.cmdbAsset, a.live = true ∧ facet.valueOf a = v) ∧
      total "" = (values.map total).sum +
        ((chosen coll filters db facet "").filter fun a => facet.valueOf a = "").length := by
  intro values total
  have heq : values = loadFacet sort db facet.column := values_eq sort
  refine ⟨?_, heq ▸ nodup_loadFacet hsort _, fun v hv => ?_, ?_⟩
  · intro v hv
    have hv : Char.ofNat 0 ∉ v.toList := by
      rcases hv with rfl | hv
      · exact List.not_mem_nil
      · exact hvalues v hv
    have hchoose : ∀ t ∈ (facet.choose filters v).texts, Char.ofNat 0 ∉ t.toList :=
      fun t ht => (mem_texts_choose ht).elim (· ▸ hv) (htexts t)
    rw [listAssets_page (by decide) hchoose hscan order]
    rfl
  · rw [heq] at hv
    exact ((mem_loadFacet hsort).mp hv).2
  · rw [heq]
    exact length_chosen hsort fun v hv => hclean v ((values_eq sort).symm ▸ hv)

theorem facets_split_sampleDb :
    (chosen simpleCase {} sampleDb .env "").length =
      (["a&b=%", "default"].map fun v => (chosen simpleCase {} sampleDb .env v).length).sum := by
  exact (facets_split simpleCase {} .env (fun l => List.Perm.refl (id l))
    (by decide +kernel) (by decide) (by decide +kernel)
    scanAsset_sampleDb newestFirst).2.2.2

end

end OpsPlatform.Web.AssetList
