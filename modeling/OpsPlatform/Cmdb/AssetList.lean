/-
The list of assets (`ListAssets` in `internal/cmdb/repository.go` and `internal/cmdb/handler.go`)
and the values that its filters offer (`ListAssetFacets`).

The `WHERE` clause has a condition for each filter that is set, with a placeholder for its
argument.  A list is two statements in no transaction: one counts, the other reads a page.
-/
import OpsPlatform.Cmdb.Asset
import OpsPlatform.Iam.Middleware
import OpsPlatform.Lib.Like
import OpsPlatform.Lib.Positional
import OpsPlatform.Lib.Strconv
import OpsPlatform.Lib.UrlValues

namespace OpsPlatform.Cmdb.AssetList

open Lib Lib.Text Lib.Utf8 Lib.UrlQuery Lib.Positional
open Lib.Like (tokens matchTokens)

/-! ### The rows -/

/-- `Asset`: the columns of a row, and its tags as maps.  A `nil` map is empty. -/
structure Asset where
  row : AssetRow
  systemTags : JsonMap
  labels : JsonMap
  tags : JsonMap

/-- What `json.Unmarshal` calls a value in its errors. -/
def jsonKind : Json → String
  | .null => "null"
  | .bool _ => "bool"
  | .num _ => "number"
  | .str _ => "string"
  | .arr _ => "array"
  | .obj _ => "object"

/-- `json.Unmarshal` into a `map[string]any`. -/
def scanTags : Json → Except String JsonMap
  | .null => .ok []
  | .obj fields => .ok fields
  | j => .error ("json: cannot unmarshal " ++ jsonKind j ++
      " into Go value of type map[string]interface \x7b\x7d")

/-- `mergeTagMaps`: a label wins over a system tag of its name. -/
def mergeTagMaps (system labels : JsonMap) : JsonMap :=
  labels.foldl (fun m kv => Assoc.set kv.1 kv.2 m) system

/-- `scanAsset`. -/
def scanAsset (row : AssetRow) : Except String Asset := do
  let systemTags ← scanTags row.systemTags
  let labels ← scanTags row.labels
  .ok { row, systemTags, labels, tags := mergeTagMaps systemTags labels }

/-! ### The conditions -/

/-- `ListAssetsQuery`. -/
structure ListAssetsQuery where
  type : Bytes := []
  env : Bytes := []
  status : Bytes := []
  source : Bytes := []
  region : Bytes := []
  accountID : Bytes := []
  owner : Bytes := []
  criticality : Bytes := []
  query : Bytes := []
  isVPCProxy : Option Bool := none
  limit : Int := 0
  offset : Int := 0

/-- The columns of text that the conditions name. -/
inductive Column where
  | type
  | env
  | status
  | source
  | region
  | accountId
  | owner
  | criticality
  | name
  | externalId
  | publicIp
  | privateIp
  | privateDns
deriving DecidableEq

/-- The value of a column; `external_id` may be `NULL`. -/
def Column.value : Column → AssetRow → Option String
  | .type, a => some a.type
  | .env, a => some a.env
  | .status, a => some a.status
  | .source, a => some a.source
  | .region, a => some a.region
  | .accountId, a => some a.accountId
  | .owner, a => some a.owner
  | .criticality, a => some a.criticality
  | .name, a => some a.name
  | .externalId, a => a.externalId
  | .publicIp, a => some a.publicIp
  | .privateIp, a => some a.privateIp
  | .privateDns, a => some a.privateDns

inductive Condition where
  /-- `column = $n` -/
  | eq (c : Column)
  /-- `is_vpc_proxy = $n` -/
  | isVPCProxy
  /-- `(column ILIKE $n OR ..)` -/
  | ilike (cs : List Column)

inductive Arg where
  | text (s : Bytes)
  | bool (b : Bool)
  | int (n : Int)

/-- The characters of a text parameter: the server refuses what is not UTF-8, and zero bytes. -/
def decodeText (s : Bytes) : Option (List Char) :=
  if toValid s = s ∧ Char.ofNat 0 ∉ runes s then some (runes s) else none

/-- The `lower` of the server's collation, which keeps the special characters of `LIKE`. -/
structure Collation where
  lower : Char → Char
  lower_special : ∀ c ∈ ['%', '_', '\\'], lower c = c

variable (coll : Collation)

/-- `column ILIKE pattern` for one of the columns, given the tokens of the pattern. -/
def anyMatches (cs : List Column) (ts : List Like.Token) (a : AssetRow) : Bool :=
  cs.any fun c => (c.value a).any fun t => matchTokens ts (t.toList.map coll.lower)

def satisfies : Condition → Arg → Option (AssetRow → Bool)
  | .eq c, .text s => (decodeText s).map fun t a => c.value a == some (String.ofList t)
  | .isVPCProxy, .bool b => some fun a => a.isVpcProxy == b
  | .ilike cs, .text s => do
    let t ← decodeText s
    let ts ← tokens (t.map coll.lower)
    some (anyMatches coll cs ts)
  | _, _ => none

/-- A searched column has a part that the text, as a pattern, matches. -/
def found (cs : List Column) (text : String) (a : AssetRow) : Bool :=
  cs.any fun c => (c.value a).any fun t =>
    Like.like (('%' :: text.toList ++ ['%']).map coll.lower) (t.toList.map coll.lower) == some true

/-! ### `ListAssets` -/

/-- `addEq`. -/
def addEq (c : Column) (value : Bytes) (st : Statement Condition Arg) : Statement Condition Arg :=
  if value = [] then st else st.add (.eq c) (.text value)

/-- The columns of the search. -/
def searched : List Column :=
  [.name, .externalId, .publicIp, .privateIp, .privateDns, .region, .accountId, .owner]

/-- The `WHERE` clause after `deleted_at IS NULL`, with its arguments. -/
def assetStatement (q : ListAssetsQuery) : Statement Condition Arg :=
  let st := addEq .type q.type {}
  let st := addEq .env q.env st
  let st := addEq .status q.status st
  let st := addEq .source q.source st
  let st := addEq .region q.region st
  let st := addEq .accountId q.accountID st
  let st := addEq .owner q.owner st
  let st := addEq .criticality q.criticality st
  let st :=
    match q.isVPCProxy with
    | none => st
    | some b => st.add .isVPCProxy (.bool b)
  if q.query = [] then st
  else st.add (.ilike searched) (.text (ascii ['%'] ++ q.query ++ ascii ['%']))

/-- The rows that a statement selects: it needs an argument for each of its placeholders, and
`others` are those outside the conditions. -/
def selectAssets (db : Db) (conds : List (Condition × ℕ)) (args : List Arg) (others : List ℕ) :
    Except String (List AssetRow) :=
  if args.length ≠ parameters (conds.map Prod.snd ++ others) then
    .error "wrong number of parameters"
  else
    match meaning (satisfies coll) args conds with
    | none => .error "invalid parameter"
    | some p => .ok (db.cmdbAsset.filter fun a => a.live && p a)

/-- The arguments of `LIMIT` and `OFFSET`. -/
def pageArgs (args : List Arg) (limitAt offsetAt : ℕ) : Except String (ℕ × ℕ) :=
  match bound args limitAt, bound args offsetAt with
  | some (.int limit), some (.int offset) =>
    if 0 ≤ limit ∧ 0 ≤ offset then .ok (limit.toNat, offset.toNat)
    else .error "LIMIT and OFFSET must not be negative"
  | _, _ => .error "invalid parameter"

/-- `ORDER BY updated_at DESC`: what was updated at the same time comes in any order. -/
structure Order where
  sort : List AssetRow → List AssetRow
  perm : ∀ l, (sort l).Perm l
  sorted : ∀ l, (sort l).Pairwise fun a b => b.updatedAt ≤ a.updatedAt

/-- `ListAssetsResult`. -/
structure ListAssetsResult where
  items : List Asset
  total : ℕ
  limit : Int
  offset : Int

/-- `ListAssets`: the rows are counted in `counted`, and the page is read from `listed`. -/
def listAssets (order : Order) (counted listed : Db) (q : ListAssetsQuery) :
    Except String ListAssetsResult := do
  let limit := if q.limit ≤ 0 ∨ 500 < q.limit then 50 else q.limit
  let offset := if q.offset < 0 then 0 else q.offset
  let st := assetStatement q
  let matching ← selectAssets coll counted st.conds st.args []
  let args := st.args ++ [.int limit, .int offset]
  let rows ← selectAssets coll listed st.conds args [st.index, st.index + 1]
  let (take, drop) ← pageArgs args st.index (st.index + 1)
  let items ← (((order.sort rows).drop drop).take take).mapM scanAsset
  .ok { items, total := matching.length, limit, offset }

/-- The parameter `is_vpc_proxy`. -/
def readIsVPCProxy (raw : Bytes) : Option Bool :=
  let lowered := toLower (String.ofList (runes raw))
  if lowered = "true" ∨ lowered = "1" ∨ lowered = "yes" then some true
  else if lowered = "false" ∨ lowered = "0" ∨ lowered = "no" then some false
  else none

/-- `ListAssets` of the handler, for the query of its URL. -/
def Handler.listAssets (order : Order) (counted listed : Db) (rawQuery : Bytes) :
    Except HttpError ListAssetsResult :=
  let q := parseQuery rawQuery
  let get := fun name : String => valuesGet q (ascii name.toList)
  (AssetList.listAssets coll order counted listed
    { type := get "type", env := get "env", status := get "status", source := get "source"
      region := get "region", accountID := get "account_id", owner := get "owner"
      criticality := get "criticality", query := get "q"
      isVPCProxy := readIsVPCProxy (get "is_vpc_proxy")
      limit := Strconv.atoiValue (latin1 (get "limit"))
      offset := Strconv.atoiValue (latin1 (get "offset")) }).mapError fun e => ⟨500, e, none⟩

/-! ### `ListAssetFacets` -/

/-- `AssetFacets`. -/
structure AssetFacets where
  envs : List String
  types : List String
  statuses : List String
  sources : List String
  regions : List String

/-- The distinct values of a column, sorted by the collation of the server. -/
def loadFacet (sort : List String → List String) (db : Db) (c : Column) : List String :=
  sort (((db.cmdbAsset.filter (·.live)).filterMap c.value).filter (· ≠ "")).dedup

/-- `ListAssetFacets`. -/
def listAssetFacets (sort : List String → List String) (db : Db) : AssetFacets where
  envs := loadFacet sort db .env
  types := loadFacet sort db .type
  statuses := loadFacet sort db .status
  sources := loadFacet sort db .source
  regions := loadFacet sort db .region

/-! ### The statement -/

/-- The equality of a filter that is set. -/
def eqFilter (c : Column) (value : Bytes) : List (Condition × Arg) :=
  if value = [] then [] else [(.eq c, .text value)]

/-- The conditions of a query with their arguments. -/
def filters (q : ListAssetsQuery) : List (Condition × Arg) :=
  eqFilter .type q.type ++ eqFilter .env q.env ++ eqFilter .status q.status ++
    eqFilter .source q.source ++ eqFilter .region q.region ++ eqFilter .accountId q.accountID ++
    eqFilter .owner q.owner ++ eqFilter .criticality q.criticality ++
    q.isVPCProxy.toList.map (fun b => (.isVPCProxy, .bool b)) ++
    if q.query = [] then []
    else [(.ilike searched, .text (ascii ['%'] ++ q.query ++ ascii ['%']))]

section

variable {coll} {l l' : List (Condition × Arg)} {a : AssetRow}

lemma addEq_ofList (c : Column) (value : Bytes) (l : List (Condition × Arg)) :
    addEq c value (.ofList l) = .ofList (l ++ eqFilter c value) := by
  rw [addEq, eqFilter]
  split
  · rw [List.append_nil]
  · exact ofList_add l _ _

lemma assetStatement_eq (q : ListAssetsQuery) : assetStatement q = .ofList (filters q) := by
  have hnil : ({} : Statement Condition Arg) = .ofList [] := rfl
  simp only [assetStatement, hnil, addEq_ofList, List.nil_append]
  rw [filters]
  generalize eqFilter .type q.type ++ eqFilter .env q.env ++ eqFilter .status q.status ++
    eqFilter .source q.source ++ eqFilter .region q.region ++ eqFilter .accountId q.accountID ++
    eqFilter .owner q.owner ++ eqFilter .criticality q.criticality = l
  cases q.isVPCProxy <;> split <;> simp [ofList_add]

lemma decodeText_encode {cs : List Char} (h : Char.ofNat 0 ∉ cs) :
    decodeText (encode cs) = some cs := by
  rw [decodeText, toValid_of_valid ⟨cs, rfl⟩, runes_encode, if_pos ⟨rfl, h⟩]

lemma encode_eq_nil_iff {t : String} : encode t.toList = [] ↔ t = "" := by
  rw [← runes_eq_nil_iff, runes_encode, String.toList_eq_nil_iff]

/-- A filter of text that is empty says nothing. -/
lemma conjunction_eqFilter (c : Column) {t : String} (h : Char.ofNat 0 ∉ t.toList) :
    conjunction (satisfies coll) (eqFilter c (encode t.toList)) =
      some fun a => t == "" || c.value a == some t := by
  rw [eqFilter]
  by_cases ht : t = ""
  · rw [if_pos (encode_eq_nil_iff.mpr ht)]
    simp [conjunction, ht]
  · have hne : (t == "") = false := beq_eq_false_iff_ne.mpr ht
    rw [if_neg (mt encode_eq_nil_iff.mp ht)]
    simp [conjunction, satisfies, decodeText_encode h, hne]

/-- Every text is a pattern between its two `%`. -/
lemma conjunction_search {t : String} (h : Char.ofNat 0 ∉ t.toList) (cs : List Column) :
    conjunction (satisfies coll)
        [(.ilike cs, .text (ascii ['%'] ++ encode t.toList ++ ascii ['%']))] =
      some fun a => found coll cs t a := by
  have hpattern : ascii ['%'] ++ encode t.toList ++ ascii ['%'] =
      encode ('%' :: t.toList ++ ['%']) := by
    have hpercent : ascii ['%'] = encode ['%'] := (encode_of_ascii (by decide)).symm
    rw [hpercent, ← encode_append, ← encode_append, List.singleton_append]
  have hnul : Char.ofNat 0 ∉ '%' :: t.toList ++ ['%'] := by
    rw [List.mem_append, List.mem_cons, List.mem_singleton, not_or, not_or]
    exact ⟨⟨by decide, h⟩, by decide⟩
  have hlower : (('%' :: t.toList ++ ['%']).map coll.lower) =
      ('%' :: t.toList.map coll.lower) ++ ['%'] := by
    simp [coll.lower_special '%' (by decide)]
  obtain ⟨ts, hts⟩ := Like.exists_tokens_append (c := '%') (by decide)
    ('%' :: t.toList.map coll.lower)
  have hsat : satisfies coll (.ilike cs) (.text (encode ('%' :: t.toList ++ ['%']))) =
      some (anyMatches coll cs ts) := by
    rw [satisfies, decodeText_encode hnul, Option.bind_eq_bind, Option.bind_some, hlower, hts]
    rfl
  have hfound : ∀ a, anyMatches coll cs ts a = found coll cs t a := by
    intro a
    simp only [anyMatches, found, Like.like, hlower, hts, Option.map_some]
    congr 1
    funext c
    cases c.value a with
    | none => rfl
    | some u => simp
  rw [hpattern, conjunction, hsat]
  simp [conjunction, hfound]

/-- A text without special characters is searched for as it is, without regard to case. -/
lemma found_iff {cs : List Column} {t : String}
    (h : ∀ c ∈ t.toList, Like.Plain (coll.lower c)) :
    found coll cs t a = true ↔ ∃ c ∈ cs, ∃ u ∈ c.value a,
      t.toList.map coll.lower <:+: u.toList.map coll.lower := by
  have hlower : (('%' :: t.toList ++ ['%']).map coll.lower) =
      '%' :: t.toList.map coll.lower ++ ['%'] := by
    simp [coll.lower_special '%' (by decide)]
  have hplain : ∀ c ∈ t.toList.map coll.lower, Like.Plain c := by
    intro c hc
    obtain ⟨d, hd, rfl⟩ := List.mem_map.mp hc
    exact h d hd
  simp only [found, hlower, List.any_eq_true, Option.any_eq_true, beq_iff_eq,
    Like.like_between_plain hplain]
  rfl

lemma selectAssets_ofList {p : AssetRow → Bool} (hp : conjunction (satisfies coll) l = some p)
    (db : Db) (after : List Arg) (others : List ℕ)
    (h : max l.length (parameters others) = l.length + after.length) :
    selectAssets coll db (Statement.ofList l).conds ((Statement.ofList l).args ++ after) others =
      .ok (db.cmdbAsset.filter fun a => a.live && p a) := by
  have hlength : (Statement.ofList l).args.length = l.length := by
    rw [ofList_args, List.length_map]
  have hcount : ¬ ((Statement.ofList l).args ++ after).length ≠
      parameters ((Statement.ofList l).conds.map Prod.snd ++ others) := by
    rw [parameters_append, parameters_ofList, List.length_append, hlength, h]
    exact not_not_intro rfl
  rw [selectAssets, if_neg hcount, meaning_ofList, hp]

lemma pageArgs_ofList {limit offset : Int} (hlimit : 0 ≤ limit) (hoffset : 0 ≤ offset) :
    pageArgs ((Statement.ofList l).args ++ [.int limit, .int offset]) (Statement.ofList l).index
      ((Statement.ofList l).index + 1) = .ok (limit.toNat, offset.toNat) := by
  have hindex : (Statement.ofList l).index = (Statement.ofList l).args.length + 1 := by
    rw [ofList_index, ofList_args, List.length_map]
  have hsecond : bound ((Statement.ofList l).args ++ [.int limit, .int offset])
      ((Statement.ofList l).args.length + 1 + 1) = some (.int offset) := by
    have h := bound_append ((Statement.ofList l).args ++ [.int limit]) [] (.int offset)
    rwa [List.append_assoc, List.length_append] at h
  rw [pageArgs, hindex, bound_append, hsecond]
  exact if_pos ⟨hlimit, hoffset⟩

/-- The statements of a list get the arguments that their placeholders ask for. -/
lemma listAssets_eq (order : Order) (counted listed : Db) (q : ListAssetsQuery)
    {p : AssetRow → Bool} (hp : conjunction (satisfies coll) (filters q) = some p) :
    listAssets coll order counted listed q =
      let limit := if q.limit ≤ 0 ∨ 500 < q.limit then 50 else q.limit
      let offset := if q.offset < 0 then 0 else q.offset
      (((order.sort (listed.cmdbAsset.filter fun a => a.live && p a)).drop offset.toNat).take
        limit.toNat).mapM scanAsset >>= fun items =>
          .ok { items, total := (counted.cmdbAsset.filter fun a => a.live && p a).length
                limit, offset } := by
  have hlimit : 0 ≤ if q.limit ≤ 0 ∨ 500 < q.limit then 50 else q.limit := by
    split <;> omega
  have hoffset : 0 ≤ if q.offset < 0 then 0 else q.offset := by
    split <;> omega
  have hcount := selectAssets_ofList hp counted [] [] (by simp [parameters])
  rw [List.append_nil] at hcount
  have hindex : (Statement.ofList (filters q)).index = (filters q).length + 1 := ofList_index _
  have hpage := selectAssets_ofList hp listed
    [.int (if q.limit ≤ 0 ∨ 500 < q.limit then 50 else q.limit),
      .int (if q.offset < 0 then 0 else q.offset)]
    [(Statement.ofList (filters q)).index, (Statement.ofList (filters q)).index + 1]
    (by simp [parameters, hindex]; omega)
  simp only [listAssets, assetStatement_eq, hcount, hpage, pageArgs_ofList hlimit hoffset, bind,
    Except.bind]

end

end OpsPlatform.Cmdb.AssetList
