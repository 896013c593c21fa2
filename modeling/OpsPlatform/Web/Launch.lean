/-
The tree of assets on the sessions page and in the list of assets (`buildAssetTree` in
`web/src/lib/launch.ts`).

Strings are those of JavaScript, as sequences of code units.  `localeCompare` is a parameter; the
comparator of the VPCs is total only on keys that are different, which is all that a sort of the
keys of a `Map` asks.
-/
import Mathlib.Algebra.Ring.Nat
import OpsPlatform.Lib.Grouping
import OpsPlatform.Lib.Utf16

namespace OpsPlatform.Web.Launch

open Lib Lib.Utf16 Lib.Grouping

/-- The fields of `Asset` that place it in the tree. -/
structure Asset where
  id : JsString
  env : Option JsString := none
  vpcId : Option JsString := none
  isVpcProxy : Option Bool := none
deriving DecidableEq

structure AssetTreeVPC where
  vpcKey : JsString
  vpcLabel : JsString
  bastions : List Asset
  members : List Asset
  count : ℕ

structure AssetTreeEnv where
  envName : JsString
  total : ℕ
  vpcs : List AssetTreeVPC

def noVpcKey : JsString := utf16 "__no_vpc__".toList

/-- `text || fallback`: `undefined` and the empty string are falsy. -/
def orElse (text : Option JsString) (fallback : JsString) : JsString :=
  match text with
  | none => fallback
  | some s => if s = [] then fallback else s

/-- `assetEnvKey`. -/
def assetEnvKey (asset : Asset) : JsString := orElse asset.env (utf16 "default".toList)

def assetVpcKey (asset : Asset) : JsString := orElse asset.vpcId noVpcKey

/-- The assets of a VPC. -/
structure Bucket where
  bastions : List Asset := []
  members : List Asset := []

def Bucket.push (bucket : Bucket) (asset : Asset) : Bucket :=
  if asset.isVpcProxy = some true then { bucket with bastions := bucket.bastions ++ [asset] }
  else { bucket with members := bucket.members ++ [asset] }

/-- `Map<string, { bastions, members }>`, in the order in which its keys were set. -/
abbrev Vpcs := List (JsString × Bucket)

/-- What the loop does with `vpcs` for one asset. -/
def placeInEnv (vpcs : Vpcs) (asset : Asset) : Vpcs :=
  let bucket := (get (assetVpcKey asset) vpcs).getD {}
  Assoc.set (assetVpcKey asset) (bucket.push asset) vpcs

/-- One iteration of the loop over the assets. -/
def placeAsset (envs : List (JsString × Vpcs)) (asset : Asset) : List (JsString × Vpcs) :=
  let vpcs := (get (assetEnvKey asset) envs).getD []
  Assoc.set (assetEnvKey asset) (placeInEnv vpcs asset) envs

/-- The comparator of the VPCs. -/
def compareVpcs (localeCompare : JsString → JsString → Int) (a b : JsString) : Int :=
  if a = noVpcKey then 1 else if b = noVpcKey then -1 else localeCompare a b

def vpcEntry (vpcs : Vpcs) (vpcKey : JsString) : AssetTreeVPC :=
  let bucket := (get vpcKey vpcs).getD {}
  { vpcKey, vpcLabel := if vpcKey = noVpcKey then utf16 "No VPC".toList else vpcKey
    bastions := bucket.bastions, members := bucket.members
    count := bucket.bastions.length + bucket.members.length }

def envEntry (localeCompare : JsString → JsString → Int) (envs : List (JsString × Vpcs))
    (envName : JsString) : AssetTreeEnv :=
  let vpcs := (get envName envs).getD []
  let keys := (vpcs.map Prod.fst).insertionSort fun a b => compareVpcs localeCompare a b ≤ 0
  let vpcEntries := keys.map (vpcEntry vpcs)
  { envName, total := vpcEntries.foldl (fun sum vpc => sum + vpc.count) 0, vpcs := vpcEntries }

/-- `buildAssetTree`. -/
def buildAssetTree (localeCompare : JsString → JsString → Int) (assets : List Asset) :
    List AssetTreeEnv :=
  let envs := assets.foldl placeAsset []
  ((envs.map Prod.fst).insertionSort le).map (envEntry localeCompare envs)

/-! ### One VPC -/

def Asset.isBastion (a : Asset) : Bool := a.isVpcProxy = some true

/-- The assets are pushed in their order. -/
lemma foldl_push (bucket : Bucket) (l : List Asset) :
    l.foldl Bucket.push bucket =
      { bastions := bucket.bastions ++ l.filter Asset.isBastion
        members := bucket.members ++ l.filter fun a => !a.isBastion } := by
  induction l generalizing bucket with
  | nil => simp
  | cons a l ih =>
    rw [List.foldl_cons, ih, Bucket.push]
    by_cases ha : a.isVpcProxy = some true <;> simp [Asset.isBastion, ha]

/-- The `Map` of the VPCs of some assets. -/
lemma foldl_placeInEnv (l : List Asset) :
    l.foldl placeInEnv [] = group assetVpcKey Bucket.push {} l := rfl

lemma vpcEntry_placed {l : List Asset} {vpcKey : JsString} (h : vpcKey ∈ l.map assetVpcKey) :
    (vpcEntry (l.foldl placeInEnv []) vpcKey).bastions =
        (l.filter (assetVpcKey · = vpcKey)).filter Asset.isBastion ∧
      (vpcEntry (l.foldl placeInEnv []) vpcKey).members =
        (l.filter (assetVpcKey · = vpcKey)).filter fun a => !a.isBastion := by
  rw [foldl_placeInEnv, vpcEntry, get_group, if_pos h, Option.getD_some, foldl_push]
  exact ⟨rfl, rfl⟩

/-! ### One environment -/

section

variable (localeCompare : JsString → JsString → Int)

/-- The keys of the VPCs of some assets, in the order of the tree. -/
def sortedVpcs (l : List Asset) : List JsString :=
  ((l.foldl placeInEnv []).map Prod.fst).insertionSort fun a b => compareVpcs localeCompare a b ≤ 0

lemma mem_sortedVpcs {l : List Asset} {vpcKey : JsString} :
    vpcKey ∈ sortedVpcs localeCompare l ↔ vpcKey ∈ l.map assetVpcKey := by
  rw [sortedVpcs, List.mem_insertionSort, foldl_placeInEnv, mem_keys_group]

lemma nodup_sortedVpcs (l : List Asset) : (sortedVpcs localeCompare l).Nodup :=
  (List.perm_insertionSort _ _).nodup_iff.mpr (nodup_keys_group l)

/-- What the tree has for the assets of one environment. -/
def envOf (envName : JsString) (l : List Asset) : AssetTreeEnv :=
  let vpcEntries := (sortedVpcs localeCompare l).map (vpcEntry (l.foldl placeInEnv []))
  { envName, total := vpcEntries.foldl (fun sum vpc => sum + vpc.count) 0, vpcs := vpcEntries }

lemma envEntry_placed {assets : List Asset} {envName : JsString}
    (h : envName ∈ assets.map assetEnvKey) :
    envEntry localeCompare (assets.foldl placeAsset []) envName =
      envOf localeCompare envName (assets.filter (assetEnvKey · = envName)) := by
  have hget : get envName (assets.foldl placeAsset []) =
      some ((assets.filter (assetEnvKey · = envName)).foldl placeInEnv []) := by
    have hgroup : assets.foldl placeAsset [] = group assetEnvKey placeInEnv [] assets := rfl
    rw [hgroup, get_group, if_pos h]
  rw [envEntry, hget]
  rfl

/-- The assets of an environment are those of its VPCs. -/
lemma perm_envOf (envName : JsString) (l : List Asset) :
    ((envOf localeCompare envName l).vpcs.flatMap fun vpc => vpc.bastions ++ vpc.members).Perm
      l := by
  rw [envOf, List.flatMap_map]
  have hbuckets : ((sortedVpcs localeCompare l).flatMap fun vpcKey =>
      (vpcEntry (l.foldl placeInEnv []) vpcKey).bastions ++
        (vpcEntry (l.foldl placeInEnv []) vpcKey).members).Perm
      ((sortedVpcs localeCompare l).flatMap fun vpcKey => l.filter (assetVpcKey · = vpcKey)) := by
    refine List.Perm.flatMap_left _ fun vpcKey hmem => ?_
    obtain ⟨hbastions, hmembers⟩ := vpcEntry_placed ((mem_sortedVpcs localeCompare).mp hmem)
    rw [hbastions, hmembers]
    exact List.filter_append_perm _ _
  refine hbuckets.trans (perm_flatMap_filter (nodup_sortedVpcs localeCompare l) fun a ha => ?_)
  exact (mem_sortedVpcs localeCompare).mpr (List.mem_map_of_mem ha)

lemma foldl_count (n : ℕ) (vpcs : List AssetTreeVPC) :
    vpcs.foldl (fun sum vpc => sum + vpc.count) n = n + (vpcs.map AssetTreeVPC.count).sum := by
  induction vpcs generalizing n with
  | nil => rfl
  | cons vpc vpcs ih => rw [List.foldl_cons, ih, List.map_cons, List.sum_cons, Nat.add_assoc]

lemma total_envOf (envName : JsString) (l : List Asset) :
    (envOf localeCompare envName l).total =
      ((envOf localeCompare envName l).vpcs.map AssetTreeVPC.count).sum := by
  rw [envOf, foldl_count, Nat.zero_add]

lemma count_of_mem {envName : JsString} {l : List Asset} {vpc : AssetTreeVPC}
    (h : vpc ∈ (envOf localeCompare envName l).vpcs) :
    vpc.count = vpc.bastions.length + vpc.members.length := by
  obtain ⟨vpcKey, -, rfl⟩ := List.mem_map.mp h
  rfl

/-- The total of an environment is the number of its assets. -/
lemma total_eq_length (envName : JsString) (l : List Asset) :
    (envOf localeCompare envName l).total = l.length := by
  rw [total_envOf, ← (perm_envOf localeCompare envName l).length_eq, List.length_flatMap]
  refine congrArg List.sum (List.map_congr_left fun vpc hvpc => ?_)
  rw [count_of_mem localeCompare hvpc, List.length_append]

end

/-! ### The order of the VPCs -/

/-- `localeCompare` is a consistent comparator: the sign of what it gives is a total preorder. -/
structure Consistent (localeCompare : JsString → JsString → Int) : Prop where
  total : ∀ a b, localeCompare a b ≤ 0 ∨ localeCompare b a ≤ 0
  trans : ∀ a b c, localeCompare a b ≤ 0 → localeCompare b c ≤ 0 → localeCompare a c ≤ 0

/-- The order of the keys: the one of the assets without a VPC is the last. -/
def VpcLE (localeCompare : JsString → JsString → Int) (a b : JsString) : Prop :=
  b = noVpcKey ∨ a ≠ noVpcKey ∧ localeCompare a b ≤ 0

instance (localeCompare : JsString → JsString → Int) : DecidableRel (VpcLE localeCompare) :=
  fun _ _ => inferInstanceAs (Decidable (_ ∨ _))

section

variable {localeCompare : JsString → JsString → Int}

lemma compareVpcs_le_iff {a b : JsString} (h : a ≠ b) :
    compareVpcs localeCompare a b ≤ 0 ↔ VpcLE localeCompare a b := by
  rw [compareVpcs, VpcLE]
  by_cases ha : a = noVpcKey
  · have hb : b ≠ noVpcKey := fun hb => h (ha.trans hb.symm)
    simp [ha, hb]
  · by_cases hb : b = noVpcKey <;> simp [ha, hb]

lemma Consistent.pairwise_sortedVpcs (h : Consistent localeCompare) (l : List Asset) :
    (sortedVpcs localeCompare l).Pairwise (VpcLE localeCompare) := by
  have htotal : Std.Total (VpcLE localeCompare) := by
    refine ⟨fun a b => ?_⟩
    have := h.total a b
    unfold VpcLE
    tauto
  have htrans : IsTrans JsString (VpcLE localeCompare) := by
    refine ⟨fun a b c hab hbc => ?_⟩
    have := h.trans a b c
    unfold VpcLE at *
    rcases hbc with hc | ⟨hb, hbc⟩
    · exact Or.inl hc
    · obtain ⟨ha, hab⟩ := hab.resolve_left hb
      exact Or.inr ⟨ha, this hab hbc⟩
  rw [sortedVpcs, foldl_placeInEnv,
    insertionSort_congr (nodup_keys_group l) fun a b hab => compareVpcs_le_iff hab]
  exact List.pairwise_insertionSort _ _

/-- Nothing comes after the VPC of the assets without one. -/
lemma Consistent.eq_nil_of_noVpc (h : Consistent localeCompare) {l : List Asset}
    {before after : List JsString}
    (hkeys : sortedVpcs localeCompare l = before ++ noVpcKey :: after) : after = [] := by
  have hpair := h.pairwise_sortedVpcs l
  have hnodup := nodup_sortedVpcs localeCompare l
  rw [hkeys] at hpair hnodup
  have hafter := (List.pairwise_append.mp hpair).2.1
  have hnot := (List.nodup_cons.mp (List.nodup_append.mp hnodup).2.1).1
  rw [List.eq_nil_iff_forall_not_mem]
  intro b hb
  rcases List.rel_of_pairwise_cons hafter hb with rfl | ⟨hne, -⟩
  · exact hnot hb
  · exact hne rfl

end

/-! ### The tree -/

/-- The asset belongs to the VPC of the environment. -/
def Asset.inVpc (envName vpcKey : JsString) (a : Asset) : Bool :=
  assetEnvKey a = envName && assetVpcKey a = vpcKey

/-- The tree is a partition of the assets. -/
structure IsPartition (assets : List Asset) (tree : List AssetTreeEnv) : Prop where
  /-- every asset is in the tree once -/
  once : (tree.flatMap fun env => env.vpcs.flatMap fun vpc => vpc.bastions ++ vpc.members).Perm
    assets
  bastions : ∀ env ∈ tree, ∀ vpc ∈ env.vpcs, vpc.bastions =
    assets.filter fun a => a.inVpc env.envName vpc.vpcKey && a.isBastion
  members : ∀ env ∈ tree, ∀ vpc ∈ env.vpcs, vpc.members =
    assets.filter fun a => a.inVpc env.envName vpc.vpcKey && !a.isBastion
  placed : ∀ a ∈ assets, ∃ env ∈ tree, ∃ vpc ∈ env.vpcs,
    env.envName = assetEnvKey a ∧ vpc.vpcKey = assetVpcKey a
  count : ∀ env ∈ tree, ∀ vpc ∈ env.vpcs, vpc.count = vpc.bastions.length + vpc.members.length
  total : ∀ env ∈ tree, env.total = (env.vpcs.map AssetTreeVPC.count).sum
  totals : (tree.map AssetTreeEnv.total).sum = assets.length
  envNames : (tree.map AssetTreeEnv.envName).Pairwise lt
  vpcKeys : ∀ env ∈ tree, (env.vpcs.map AssetTreeVPC.vpcKey).Nodup
  noVpcLast : ∀ env ∈ tree, ∀ before after,
    env.vpcs.map AssetTreeVPC.vpcKey = before ++ noVpcKey :: after → after = []

section

variable (localeCompare : JsString → JsString → Int) (assets : List Asset)

/-- The environments in the order of the tree. -/
def sortedEnvs : List JsString := ((assets.foldl placeAsset []).map Prod.fst).insertionSort le

lemma mem_sortedEnvs {envName : JsString} :
    envName ∈ sortedEnvs assets ↔ envName ∈ assets.map assetEnvKey := by
  have hgroup : assets.foldl placeAsset [] = group assetEnvKey placeInEnv [] assets := rfl
  rw [sortedEnvs, List.mem_insertionSort, hgroup, mem_keys_group]

lemma nodup_sortedEnvs : (sortedEnvs assets).Nodup :=
  (List.perm_insertionSort _ _).nodup_iff.mpr (nodup_keys_group assets)

lemma pairwise_sortedEnvs : (sortedEnvs assets).Pairwise lt := by
  have hle : (sortedEnvs assets).Pairwise le := List.pairwise_insertionSort _ _
  exact (hle.and (nodup_sortedEnvs assets)).imp fun (h : le _ _ ∧ _ ≠ _) => lt_of_le h.1 h.2

/-- The tree has an entry for each environment, made of the assets of this environment. -/
lemma buildAssetTree_eq : buildAssetTree localeCompare assets =
    (sortedEnvs assets).map fun envName =>
      envOf localeCompare envName (assets.filter (assetEnvKey · = envName)) := by
  refine List.map_congr_left fun envName h => ?_
  exact envEntry_placed localeCompare ((mem_sortedEnvs assets).mp h)

lemma perm_buildAssetTree :
    ((buildAssetTree localeCompare assets).flatMap fun env =>
      env.vpcs.flatMap fun vpc => vpc.bastions ++ vpc.members).Perm assets := by
  rw [buildAssetTree_eq, List.flatMap_map]
  have henvs := List.Perm.flatMap_left (sortedEnvs assets) fun envName _ =>
    perm_envOf localeCompare envName (assets.filter (assetEnvKey · = envName))
  refine henvs.trans (perm_flatMap_filter (nodup_sortedEnvs assets) fun a ha => ?_)
  exact (mem_sortedEnvs assets).mpr (List.mem_map_of_mem ha)

lemma totals_buildAssetTree :
    ((buildAssetTree localeCompare assets).map AssetTreeEnv.total).sum = assets.length := by
  have henvs := perm_flatMap_filter (nodup_sortedEnvs assets) fun a ha =>
    (mem_sortedEnvs assets).mpr (List.mem_map_of_mem ha)
  rw [buildAssetTree_eq, List.map_map, ← henvs.length_eq, List.length_flatMap]
  refine congrArg List.sum (List.map_congr_left fun envName _ => ?_)
  exact total_eq_length localeCompare envName _

end

/-- **The tree is a partition.**  For a consistent `localeCompare` and any list of assets,
`buildAssetTree` places every element of the list once, in the environment and the VPC that it
names and under the bastions exactly when it is one, in the order of the list; the counts and
totals are those of the assets, the names of the environments increase strictly, the keys of the
VPCs of an environment are distinct, and the VPC of the assets without one is the last. -/
theorem buildAssetTree_partition {localeCompare : JsString → JsString → Int}
    (h : Consistent localeCompare) (assets : List Asset) :
    IsPartition assets (buildAssetTree localeCompare assets) := by
  have hentry : ∀ env ∈ buildAssetTree localeCompare assets, ∃ envName,
      env = envOf localeCompare envName (assets.filter (assetEnvKey · = envName)) := by
    intro env henv
    rw [buildAssetTree_eq] at henv
    obtain ⟨envName, -, rfl⟩ := List.mem_map.mp henv
    exact ⟨envName, rfl⟩
  have hkeys : ∀ envName l, (envOf localeCompare envName l).vpcs.map AssetTreeVPC.vpcKey =
      sortedVpcs localeCompare l := by
    intro envName l
    rw [envOf, List.map_map]
    exact List.map_id _
  -- the filters by environment, by VPC and by kind are one filter
  have hbucket : ∀ env ∈ buildAssetTree localeCompare assets, ∀ vpc ∈ env.vpcs,
      vpc.bastions = (assets.filter fun a => a.inVpc env.envName vpc.vpcKey && a.isBastion) ∧
        vpc.members = assets.filter fun a => a.inVpc env.envName vpc.vpcKey && !a.isBastion := by
    intro env henv vpc hvpc
    obtain ⟨envName, rfl⟩ := hentry env henv
    obtain ⟨vpcKey, hmem, rfl⟩ := List.mem_map.mp hvpc
    obtain ⟨hbastions, hmembers⟩ := vpcEntry_placed ((mem_sortedVpcs localeCompare).mp hmem)
    rw [hbastions, hmembers]
    simp only [List.filter_filter]
    constructor <;>
    · refine List.filter_congr fun a _ => ?_
      simp only [Asset.inVpc, envOf, vpcEntry]
      ac_rfl
  refine
    { once := perm_buildAssetTree localeCompare assets
      bastions := fun env henv vpc hvpc => (hbucket env henv vpc hvpc).1
      members := fun env henv vpc hvpc => (hbucket env henv vpc hvpc).2
      placed := ?_
      count := ?_
      total := ?_
      totals := totals_buildAssetTree localeCompare assets
      envNames := ?_
      vpcKeys := ?_
      noVpcLast := ?_ }
  · intro a ha
    have hplaced : a ∈ (buildAssetTree localeCompare assets).flatMap fun env =>
        env.vpcs.flatMap fun vpc => vpc.bastions ++ vpc.members :=
      (perm_buildAssetTree localeCompare assets).mem_iff.mpr ha
    obtain ⟨env, henv, hplaced⟩ := List.mem_flatMap.mp hplaced
    obtain ⟨vpc, hvpc, hplaced⟩ := List.mem_flatMap.mp hplaced
    have hin : a.inVpc env.envName vpc.vpcKey = true := by
      rw [(hbucket env henv vpc hvpc).1, (hbucket env henv vpc hvpc).2] at hplaced
      rcases List.mem_append.mp hplaced with hmem | hmem <;>
        exact (Bool.and_eq_true_iff.mp (List.mem_filter.mp hmem).2).1
    rw [Asset.inVpc, Bool.and_eq_true_iff, decide_eq_true_iff, decide_eq_true_iff] at hin
    exact ⟨env, henv, vpc, hvpc, hin.1.symm, hin.2.symm⟩
  · intro env henv vpc hvpc
    obtain ⟨envName, rfl⟩ := hentry env henv
    exact count_of_mem localeCompare hvpc
  · intro env henv
    obtain ⟨envName, rfl⟩ := hentry env henv
    exact total_envOf localeCompare envName _
  · rw [buildAssetTree_eq, List.map_map]
    have hnames : ((sortedEnvs assets).map (AssetTreeEnv.envName ∘ fun envName =>
        envOf localeCompare envName (assets.filter (assetEnvKey · = envName)))) =
          sortedEnvs assets := List.map_id _
    rw [hnames]
    exact pairwise_sortedEnvs assets
  · intro env henv
    obtain ⟨envName, rfl⟩ := hentry env henv
    rw [hkeys]
    exact nodup_sortedVpcs localeCompare _
  · intro env henv before after hsplit
    obtain ⟨envName, rfl⟩ := hentry env henv
    rw [hkeys] at hsplit
    exact h.eq_nil_of_noVpc hsplit

/-- `localeCompare` of a locale that goes by code units. -/
def byUnits (a b : JsString) : Int := if le a b then (if a = b then 0 else -1) else 1

lemma consistent_byUnits : Consistent byUnits := by
  have hle : ∀ a b, byUnits a b ≤ 0 ↔ le a b := by
    intro a b
    rw [byUnits]
    split_ifs <;> simp_all
  refine ⟨fun a b => ?_, fun a b c => ?_⟩
  · rw [hle, hle]
    exact le_total (units a) (units b)
  · rw [hle, hle, hle]
    exact le_trans

/-- Two assets of `prod`, the first without a VPC, and one without an environment. -/
def sampleAssets : List Asset :=
  [{ id := utf16 "a1".toList, env := some (utf16 "prod".toList) },
   { id := utf16 "a2".toList, env := some (utf16 "prod".toList)
     vpcId := some (utf16 "vpc-1".toList), isVpcProxy := some true },
   { id := utf16 "a3".toList }]

theorem buildAssetTree_partition_sampleAssets :
    (buildAssetTree byUnits sampleAssets).map (fun env => (env.total, env.vpcs.map (·.vpcKey))) =
        [(1, [noVpcKey]), (2, [utf16 "vpc-1".toList, noVpcKey])] ∧
      IsPartition sampleAssets (buildAssetTree byUnits sampleAssets) :=
  ⟨by decide +kernel, buildAssetTree_partition consistent_byUnits sampleAssets⟩

end OpsPlatform.Web.Launch
