/-
What a sync leaves in `cmdb_asset`: a mirror of what AWS has listed, next to rows that it does not
touch.

An item is stored under the key of the unique index for clouds.  A row mirrors an item when its
columns are what the item says of them; refreshing it by the item then changes nothing but the
time.
-/
import OpsPlatform.AwsSync.Resources
import OpsPlatform.Cmdb.AwsCuration

namespace OpsPlatform.AwsSync

open Lib Lib.Table Lib.Text Cmdb

/-! ### Rows under the unique indexes -/

/-- The two rows have a key of a unique index in common. -/
def Conflicts (a b : AssetRow) : Prop :=
  b.id ≠ a.id ∧ ((a.cloudKey.isSome = true ∧ b.cloudKey = a.cloudKey) ∨
    (a.vpcProxyKey.isSome = true ∧ b.vpcProxyKey = a.vpcProxyKey))

lemma Conflicts.symm {a b : AssetRow} (h : Conflicts a b) : Conflicts b a := by
  obtain ⟨hid, ⟨hsome, heq⟩ | ⟨hsome, heq⟩⟩ := h
  · exact ⟨Ne.symm hid, .inl ⟨heq ▸ hsome, heq.symm⟩⟩
  · exact ⟨Ne.symm hid, .inr ⟨heq ▸ hsome, heq.symm⟩⟩

lemma violatesIndex_iff {assets : List AssetRow} {a : AssetRow} :
    violatesIndex assets a = true ↔ ∃ b ∈ assets, Conflicts a b := by
  simp [violatesIndex, Conflicts]

/-- The rows of a table that its keys and unique indexes admit. -/
structure Indexed (assets : List AssetRow) : Prop where
  ids : (assets.map (·.id)).Nodup
  clear : ∀ a ∈ assets, ∀ b ∈ assets, ¬ Conflicts a b

section

variable {assets : List AssetRow} {a b new : AssetRow}

/-- A key of the index for clouds is that of one row. -/
lemma Indexed.eq_of_cloudKey (h : Indexed assets) (ha : a ∈ assets) (hb : b ∈ assets)
    (hsome : a.cloudKey.isSome = true) (heq : b.cloudKey = a.cloudKey) : b = a := by
  by_contra hne
  have hid : b.id ≠ a.id := fun hid => hne (List.inj_on_of_nodup_map h.ids hb ha hid)
  exact h.clear a ha b hb ⟨hid, .inl ⟨hsome, heq⟩⟩

lemma Indexed.append (h : Indexed assets) (hid : ∀ b ∈ assets, b.id ≠ new.id)
    (hnew : ∀ b ∈ assets, ¬ Conflicts new b) : Indexed (assets ++ [new]) where
  ids := nodup_map_append h.ids hid
  clear := by
    intro b hb c hc
    rcases List.mem_append.mp hb with hold | hb <;> rcases List.mem_append.mp hc with hold' | hc
    · exact h.clear b hold c hold'
    · rw [List.mem_singleton.mp hc]
      exact fun hconflict => hnew b hold hconflict.symm
    · rw [List.mem_singleton.mp hb]
      exact hnew c hold'
    · rw [List.mem_singleton.mp hb, List.mem_singleton.mp hc]
      exact fun hconflict => hconflict.1 rfl

/-- The one row with a key is replaced by one that the indexes admit. -/
lemma Indexed.update (h : Indexed assets) (ha : a ∈ assets) {p : AssetRow → Bool}
    {f : AssetRow → AssetRow} (hp : p a = true) (hone : ∀ b ∈ assets, p b = true → b = a)
    (hid : ∀ b, (f b).id = b.id) (hclear : ∀ b ∈ assets, ¬ Conflicts (f a) b) :
    Indexed (updateWhere p f assets) where
  ids := by
    rw [map_updateWhere (f := f) (g := AssetRow.id) (fun b _ => hid b)]
    exact h.ids
  clear := by
    intro b hb c hc
    rw [mem_updateWhere_of_unique ha hp hone] at hb hc
    rcases hb with rfl | ⟨hb, -⟩ <;> rcases hc with rfl | ⟨hc, -⟩
    · exact fun hconflict => hconflict.1 rfl
    · exact hclear c hc
    · exact fun hconflict => hclear b hb hconflict.symm
    · exact h.clear b hb c hc

end

/-! ### Items and rows -/

/-- `UpsertAsset` accepts the item. -/
def Accepted (item : AssetUpsert) : Prop :=
  trimSpace item.externalID ≠ "" ∧ trimSpace item.assetType ≠ ""

/-- The key under which an item is stored. -/
def itemKey (item : AssetUpsert) : Option (List String) :=
  if item.externalID = "" then none
  else some [sourceID, trimSpace item.accountID, trimSpace item.region, item.assetType,
    item.externalID]

/-- The row, written at another time. -/
def touched (t : Time) (r : AssetRow) : AssetRow := { r with updatedAt := t }

/-- The row is live and has what AWS reports of the item.  A family of operating systems that is
not known leaves the one of the row. -/
structure Mirrors (r : AssetRow) (item : AssetUpsert) : Prop where
  name : r.name = if trimSpace item.name = "" then item.externalID else item.name
  status : r.status =
    if trimSpace item.status = "" then "active" else toLower (trimSpace item.status)
  env : r.env = if trimSpace item.env = "" then "default" else item.env
  externalArn : r.externalArn = if item.externalARN = "" then none else some item.externalARN
  publicIp : r.publicIp = trimSpace item.publicIP
  privateIp : r.privateIp = trimSpace item.privateIP
  privateDns : r.privateDns = trimSpace item.privateDNS
  zone : r.zone = trimSpace item.zone
  instanceType : r.instanceType = trimSpace item.instanceType
  osImage : r.osImage = trimSpace item.osImage
  vpcId : r.vpcId = trimSpace item.vpcID
  subnetId : r.subnetId = trimSpace item.subnetID
  keyName : r.keyName = trimSpace item.keyName
  amiName : r.amiName = trimSpace item.amiName
  amiOwnerId : r.amiOwnerId = trimSpace item.amiOwnerID
  osFamily : trimSpace item.osFamily ≠ "" → r.osFamily = trimSpace item.osFamily
  systemTags : r.systemTags = .obj (item.systemTags.getD [])
  live : r.deletedAt = none

section

variable {r : AssetRow} {item : AssetUpsert} {t : Time} {id : Uuid}

lemma cloudKey_observed : (observedAsset t id item.withDefaults).cloudKey = itemKey item := by
  have hsource : sourceID ≠ "manual" := by decide
  by_cases hext : item.externalID = ""
  · simp [AssetRow.cloudKey, observedAsset, AssetUpsert.withDefaults, itemKey, hext]
  · simp [AssetRow.cloudKey, AssetRow.live, observedAsset, AssetUpsert.withDefaults, itemKey, hext,
      hsource]

lemma isSome_itemKey (h : Accepted item) : (itemKey item).isSome = true := by
  have hext : item.externalID ≠ "" := by
    intro hempty
    exact h.1 (by rw [hempty]; decide)
  rw [itemKey, if_neg hext]
  rfl

lemma osFamily_observed :
    (observedAsset t id item.withDefaults).osFamily = trimSpace item.osFamily := by
  simp only [observedAsset, AssetUpsert.withDefaults]

/-- A new row mirrors its item. -/
lemma mirrors_observed : Mirrors (observedAsset t id item.withDefaults) item := by
  have hactive : toLower (trimSpace "active") = "active" := by decide +kernel
  constructor
  case status =>
    simp only [observedAsset, AssetUpsert.withDefaults]
    split
    · exact hactive
    · rfl
  case externalArn =>
    simp only [observedAsset, AssetUpsert.withDefaults]
    rfl
  case osFamily => exact fun _ => osFamily_observed
  all_goals simp only [observedAsset, AssetUpsert.withDefaults, Option.getD_some]

/-- So does a row that was refreshed by it. -/
lemma mirrors_refresh :
    Mirrors (refreshAsset t (observedAsset t id item.withDefaults) r) item := by
  have hnew : Mirrors (observedAsset t id item.withDefaults) item := mirrors_observed
  constructor
  case osFamily =>
    intro hos
    simp only [refreshAsset, hnew.osFamily hos, if_neg hos]
  case live => simp only [refreshAsset]
  all_goals
    simp only [refreshAsset, hnew.name, hnew.status, hnew.env, hnew.externalArn, hnew.publicIp,
      hnew.privateIp, hnew.privateDns, hnew.zone, hnew.instanceType, hnew.osImage, hnew.vpcId,
      hnew.subnetId, hnew.keyName, hnew.amiName, hnew.amiOwnerId, hnew.systemTags]

lemma Mirrors.touched (h : Mirrors r item) (t : Time) : Mirrors (touched t r) item :=
  { h with }

end

/-! ### A statement -/

/-- The item is stored in the rows of `db'`, and only the row with its key has changed. -/
structure StoredItem (item : AssetUpsert) (db db' : Db) : Prop where
  accepted : Accepted item
  mirrored : ∃ r ∈ db'.cmdbAsset, r.cloudKey = itemKey item ∧ Mirrors r item
  kept : ∀ r : AssetRow, r.cloudKey ≠ itemKey item → (r ∈ db'.cmdbAsset ↔ r ∈ db.cmdbAsset)
  indexed : Indexed db'.cmdbAsset

section

variable {db db' : Db} {now : Time} {newId : Uuid} {item : AssetUpsert}

lemma accepted_of_upsertAsset (h : upsertAsset db now newId item = .ok db') : Accepted item := by
  rw [upsertAsset, Except.ite_error_eq_ok, Except.ite_error_eq_ok] at h
  exact ⟨h.1, h.2.1⟩

lemma storedItem_upsertAsset (h : Indexed db.cmdbAsset)
    (hok : upsertAsset db now newId item = .ok db') : StoredItem item db db' := by
  have haccepted := accepted_of_upsertAsset hok
  have hsome := isSome_itemKey haccepted
  have hkey : (observedAsset now newId item.withDefaults).cloudKey = itemKey item :=
    cloudKey_observed
  rw [upsertAsset, if_neg haccepted.1, if_neg haccepted.2, storeObserved] at hok
  split at hok
  · next hnone =>
    -- no row has the key
    rw [Except.ite_error_eq_ok] at hok
    obtain ⟨hfresh, hok⟩ := hok
    obtain rfl := Except.ok.inj hok
    have hother : ∀ b ∈ db.cmdbAsset, b.cloudKey ≠ itemKey item := by
      intro b hb heq
      exact List.find?_eq_none.mp hnone b hb (beq_iff_eq.mpr (heq.trans hkey.symm))
    refine ⟨haccepted, ⟨_, List.mem_append_right _ (List.mem_singleton_self _), hkey,
      mirrors_observed⟩, fun r hr => ?_, h.append (fun b hb hid => ?_) fun b hb hconflict => ?_⟩
    · rw [List.mem_append, List.mem_singleton]
      exact or_iff_left fun heq => hr (heq ▸ hkey)
    · exact hfresh (List.any_eq_true.mpr ⟨b, hb, beq_iff_eq.mpr hid⟩)
    · obtain ⟨-, ⟨-, heq⟩ | ⟨hproxy, -⟩⟩ := hconflict
      · exact hother b hb (heq.trans hkey)
      · cases hproxy
  · next a hfind =>
    rw [Except.ite_error_eq_ok] at hok
    obtain ⟨hadmitted, hok⟩ := hok
    obtain rfl := Except.ok.inj hok
    have ha := List.mem_of_find?_eq_some hfind
    have hconflict := List.find?_some hfind
    have hakey : a.cloudKey = itemKey item := (beq_iff_eq.mp hconflict).trans hkey
    have hone : ∀ b ∈ db.cmdbAsset, (b.cloudKey ==
        (observedAsset now newId item.withDefaults).cloudKey) = true → b = a := by
      intro b hb hhit
      refine h.eq_of_cloudKey ha hb (hakey ▸ hsome) ?_
      exact (beq_iff_eq.mp hhit).trans (hkey.trans hakey.symm)
    obtain ⟨k, hk⟩ := Option.isSome_iff_exists.mp hsome
    have hrefreshed : (refreshAsset now (observedAsset now newId item.withDefaults) a).cloudKey =
        itemKey item :=
      (cloudKey_refreshAsset now _ (cloudKey_eq_some (hakey.trans hk)).2).trans hakey
    refine ⟨haccepted, ⟨_, (mem_updateWhere_of_unique ha hconflict hone).mpr (.inl rfl),
      hrefreshed, mirrors_refresh⟩, fun r hr => ?_, h.update ha hconflict hone
      (id_refreshAsset now _) ?_⟩
    · rw [mem_updateWhere_of_unique ha hconflict hone]
      constructor
      · rintro (rfl | ⟨hmem, -⟩)
        · exact absurd hrefreshed hr
        · exact hmem
      · intro hmem
        exact .inr ⟨hmem, fun heq => hr (heq ▸ hakey)⟩
    · intro b hb hb'
      exact hadmitted (violatesIndex_iff.mpr ⟨b, hb, hb'⟩)

end

/-! ### The loop -/

/-- What a loop over the items has done so far. -/
structure Mirrored (db : Db) (items : List AssetUpsert) (s : Progress) : Prop where
  indexed : Indexed s.db.cmdbAsset
  total : s.count + s.errs.length = items.length
  kept : ∀ r : AssetRow, (∀ item ∈ items, r.cloudKey ≠ itemKey item) →
    (r ∈ s.db.cmdbAsset ↔ r ∈ db.cmdbAsset)
  accepted : s.errs = [] → ∀ item ∈ items, Accepted item
  /-- the last item of a key is the one that is mirrored -/
  mirrored : s.errs = [] → ∀ before item after, items = before ++ item :: after →
    (∀ other ∈ after, itemKey other ≠ itemKey item) →
    ∃ r ∈ s.db.cmdbAsset, r.cloudKey = itemKey item ∧ Mirrors r item

section

variable {env : Statements} {db : Db} {items : List AssetUpsert} {item : AssetUpsert}
  {s : Progress}

lemma exec_eq_ok {step : ℕ} {db' : Db} (h : env.exec step db item = .ok db') :
    upsertAsset db (env.now step) (env.newId step) item = .ok db' := by
  rw [Statements.exec] at h
  split at h
  · cases h
  · exact h

lemma Mirrored.init (h : Indexed db.cmdbAsset) : Mirrored db [] { db } where
  indexed := h
  total := rfl
  kept := fun _ _ => Iff.rfl
  accepted := by simp
  mirrored := by simp

/-- **The step lemma.** -/
lemma Mirrored.upsert (h : Mirrored db items s) (item : AssetUpsert) :
    Mirrored db (items ++ [item]) (s.upsert env item) := by
  rw [Progress.upsert]
  split
  · next e he =>
    refine ⟨h.indexed, ?_, fun r hr => h.kept r fun i hi => hr i (List.mem_append_left _ hi),
      ?_, ?_⟩
    · rw [List.length_append, List.length_append, ← Nat.add_assoc, h.total]
      rfl
    · simp
    · simp
  · next db' hok =>
    have hstored := storedItem_upsertAsset h.indexed (exec_eq_ok hok)
    refine ⟨hstored.indexed, ?_, fun r hr => ?_, fun herrs i hi => ?_,
      fun herrs before i after hsplit hlast => ?_⟩
    · rw [List.length_append, ← h.total]
      exact Nat.add_right_comm _ _ _
    · have hitem := hr item (List.mem_append_right _ (List.mem_singleton_self _))
      rw [hstored.kept r hitem]
      exact h.kept r fun i hi => hr i (List.mem_append_left _ hi)
    · rcases List.mem_append.mp hi with hi | hi
      · exact h.accepted herrs i hi
      · rw [List.mem_singleton.mp hi]
        exact hstored.accepted
    · rcases List.eq_nil_or_concat after with rfl | ⟨after, last, rfl⟩
      · obtain ⟨-, rfl⟩ := List.append_singleton_inj.mp hsplit
        exact hstored.mirrored
      · -- an earlier item, whose row the last one does not touch
        rw [List.concat_eq_append, ← List.cons_append, ← List.append_assoc] at hsplit
        obtain ⟨hitems, rfl⟩ := List.append_singleton_inj.mp hsplit
        rw [List.concat_eq_append] at hlast
        obtain ⟨r, hr, hkey, hmirrors⟩ := h.mirrored herrs before i after hitems fun other ho =>
          hlast other (List.mem_append_left _ ho)
        have hne : r.cloudKey ≠ itemKey item :=
          hkey ▸ (hlast item (List.mem_append_right _ (List.mem_singleton_self _))).symm
        exact ⟨r, (hstored.kept r hne).mpr hr, hkey, hmirrors⟩

end

/-! ### A second sync -/

/-- Each item has its row. -/
structure Settled (items : List AssetUpsert) (db : Db) : Prop where
  indexed : Indexed db.cmdbAsset
  rows : ∀ item ∈ items, Accepted item ∧
    ∃ r ∈ db.cmdbAsset, r.cloudKey = itemKey item ∧ Mirrors r item

section

variable {env : Statements} {db : Db} {items : List AssetUpsert} {item : AssetUpsert}

def hourly : Statements where
  now := fun n => 3600 + n
  newId := fun n => Uuid.replicate (Fin.ofNat 16 n)

end

/-! ### Images -/

/-- The image has the id. -/
def HasId (id : String) (img : Image) : Prop := stringValue img.imageId = id ∧ id ≠ ""

/-- The images are those of the ids of a batch, where `f` is what AWS knows. -/
structure Lists (f : String → Option AmiMetadata) (batch : List String)
    (images : List (Option Image)) : Prop where
  sound : ∀ img id, some img ∈ images → HasId id img →
    id ∈ batch ∧ f id = some ⟨stringValue img.name, stringValue img.ownerId⟩
  complete : ∀ id ∈ batch, f id ≠ none → ∃ img, some img ∈ images ∧ HasId id img

section

variable {f : String → Option AmiMetadata} {describe : DescribeImages} {id : String}
  {images : List (Option Image)} {result : List (String × AmiMetadata)} {batch : List String}
  {s : ImageLookup}

lemma lookup_addImage_of_hasId {img : Image} (h : HasId id img) :
    (addImage result (some img)).lookup id =
      some ⟨stringValue img.name, stringValue img.ownerId⟩ := by
  obtain ⟨rfl, hne⟩ := h
  rw [addImage, if_neg hne, Assoc.lookup_set, if_pos rfl]

lemma lookup_addImage_of_not {image : Option Image} (h : ∀ img ∈ image, ¬ HasId id img) :
    (addImage result image).lookup id = result.lookup id := by
  rcases image with _ | img
  · rfl
  · rw [addImage]
    split
    · rfl
    · next hne =>
      refine (Assoc.lookup_set _ _ _ _).trans (if_neg fun hid => ?_)
      exact h img rfl ⟨hid.symm, hid ▸ hne⟩

lemma lookup_images_of_not (h : ∀ img, some img ∈ images → ¬ HasId id img) :
    (images.foldl addImage result).lookup id = result.lookup id := by
  induction images generalizing result with
  | nil => rfl
  | cons image images ih =>
    rw [List.foldl_cons, ih fun img hmem => h img (List.mem_cons_of_mem _ hmem)]
    exact lookup_addImage_of_not fun img himg => h img (himg ▸ List.mem_cons_self)

/-- An image among the answers is found, as AWS knows it. -/
lemma lookup_images_of_mem (hsound : ∀ img, some img ∈ images → HasId id img →
      f id = some ⟨stringValue img.name, stringValue img.ownerId⟩)
    (h : ∃ img, some img ∈ images ∧ HasId id img) :
    (images.foldl addImage result).lookup id = f id := by
  induction images generalizing result with
  | nil => simp at h
  | cons image images ih =>
    have htail := fun img hmem => hsound img (List.mem_cons_of_mem image hmem)
    rw [List.foldl_cons]
    by_cases hrest : ∃ img, some img ∈ images ∧ HasId id img
    · exact ih htail hrest
    · -- the head is the last image with the id
      push Not at hrest
      obtain ⟨img, hmem, hid⟩ := h
      obtain rfl : some img = image :=
        (List.mem_cons.mp hmem).resolve_right fun hmem => hrest img hmem hid
      rw [lookup_images_of_not hrest, lookup_addImage_of_hasId hid]
      exact (hsound img List.mem_cons_self hid).symm

/-- What a batch with the id leaves, when nothing was known of it. -/
lemma lookup_batch_of_mem (hlists : ∀ images, describe batch = .ok images →
      Lists f batch images) (h : id ∈ batch) (hnone : s.result.lookup id = none) :
    (s.batch describe batch).result.lookup id =
      match describe batch with
      | .error _ => none
      | .ok _ => f id := by
  cases hok : describe batch with
  | error e =>
    rw [ImageLookup.batch, hok]
    exact hnone
  | ok images =>
    have hlist := hlists images hok
    rw [ImageLookup.batch, hok]
    by_cases hknown : ∃ img, some img ∈ images ∧ HasId id img
    · exact lookup_images_of_mem (fun img hmem hid => (hlist.sound img id hmem hid).2) hknown
    · have hunknown : f id = none := by
        by_contra hne
        exact hknown (hlist.complete id h hne)
      push Not at hknown
      exact (lookup_images_of_not hknown).trans (hnone.trans hunknown.symm)

/-- A batch without the id leaves what is known of it. -/
lemma lookup_batch_of_not_mem (hlists : ∀ images, describe batch = .ok images →
      Lists f batch images) (h : id ∉ batch) :
    (s.batch describe batch).result.lookup id = s.result.lookup id := by
  rw [ImageLookup.batch]
  split
  · rfl
  · next images hok =>
    exact lookup_images_of_not fun img hmem hid => h ((hlists images hok).sound img id hmem hid).1

lemma lookup_batches_of_not_mem {bs : List (List String)} (hbs : ∀ batch ∈ bs, batch ≠ [])
    (hlists : ∀ batch images, batch ≠ [] → describe batch = .ok images → Lists f batch images)
    (h : ∀ batch ∈ bs, id ∉ batch) :
    (bs.foldl (ImageLookup.batch describe) s).result.lookup id = s.result.lookup id := by
  induction bs generalizing s with
  | nil => rfl
  | cons batch bs ih =>
    rw [List.foldl_cons, ih (fun b hb => hbs b (List.mem_cons_of_mem _ hb))
      fun b hb => h b (List.mem_cons_of_mem _ hb)]
    have hne := hbs batch List.mem_cons_self
    exact lookup_batch_of_not_mem (fun images => hlists batch images hne)
      (h batch List.mem_cons_self)

/-- Every batch is asked for, whatever the answers are. -/
lemma requests_batches (bs : List (List String)) :
    (bs.foldl (ImageLookup.batch describe) s).requests = s.requests ++ bs := by
  induction bs generalizing s with
  | nil => exact (List.append_nil _).symm
  | cons batch bs ih =>
    have hbatch : (s.batch describe batch).requests = s.requests ++ [batch] := by
      rw [ImageLookup.batch]
      split <;> rfl
    rw [List.foldl_cons, ih, hbatch, List.append_assoc, List.singleton_append]

/-- What is known of an id in the end depends on its own batch only. -/
lemma lookup_lookupEC2Images {all : List String} (hall : all.Nodup)
    (hlists : ∀ batch images, batch ≠ [] → describe batch = .ok images → Lists f batch images)
    (hbatch : batch ∈ batches batchSize all) (hid : id ∈ batch) :
    (lookupEC2Images describe all).result.lookup id =
      match describe batch with
      | .error _ => none
      | .ok _ => f id := by
  have hflat : (batches batchSize all).flatten = all := flatten_batches (by decide) all
  have hne : ∀ b ∈ batches batchSize all, b ≠ [] :=
    fun b hb => ne_nil_of_mem_batches (by decide) hb
  have hstart : lookupEC2Images describe all =
      (batches batchSize all).foldl (ImageLookup.batch describe) {} := rfl
  obtain ⟨before, after, hsplit⟩ := List.append_of_mem hbatch
  rw [hsplit] at hflat hne hstart
  rw [← hflat, List.flatten_append, List.flatten_cons, List.nodup_append, List.nodup_append] at hall
  obtain ⟨-, ⟨-, -, hafter⟩, hbefore⟩ := hall
  rw [hstart, List.foldl_append, List.foldl_cons,
    lookup_batches_of_not_mem (fun b hb => hne b (by simp [hb])) hlists]
  · refine lookup_batch_of_mem (fun images => hlists batch images (hne batch (by simp))) hid ?_
    rw [lookup_batches_of_not_mem (fun b hb => hne b (by simp [hb])) hlists]
    · rfl
    · intro b hb hmem
      exact hbefore id (List.mem_flatten.mpr ⟨b, hb, hmem⟩) id (List.mem_append_left _ hid) rfl
  · intro b hb hmem
    exact hafter id hid id (List.mem_flatten.mpr ⟨b, hb, hmem⟩) rfl

/-- An instance without an image gets to know of none. -/
lemma lookup_lookupEC2Images_of_not_mem {all : List String} (h : id ∉ all)
    (hlists : ∀ batch images, batch ≠ [] → describe batch = .ok images → Lists f batch images) :
    (lookupEC2Images describe all).result.lookup id = none := by
  refine (lookup_batches_of_not_mem (fun b hb => ne_nil_of_mem_batches (by decide) hb)
    hlists fun b hb hmem => h ?_).trans rfl
  have hflat : (batches batchSize all).flatten = all := flatten_batches (by decide) all
  rw [← hflat]
  exact List.mem_flatten.mpr ⟨b, hb, hmem⟩

end

namespace Ec2Answer

section

variable {answer : Ec2Answer} {f : String → Option AmiMetadata}

lemma nodup_imageIDs : answer.imageIDs.Nodup := List.nodup_dedup _

lemma mem_imageIDs {i : Ec2Instance} (hi : i ∈ answer.pending) (hne : stringValue i.imageId ≠ "") :
    stringValue i.imageId ∈ answer.imageIDs := by
  rw [imageIDs, List.mem_dedup, List.mem_filter]
  exact ⟨List.mem_map.mpr ⟨i, hi, rfl⟩, by simpa using hne⟩

lemma empty_not_mem_imageIDs : "" ∉ answer.imageIDs := by
  rw [imageIDs, List.mem_dedup, List.mem_filter]
  simp

lemma requests_eq : answer.requests = batches batchSize (answer.order answer.imageIDs) :=
  requests_batches _

/-- Every id is in a batch, on which alone it depends what is known of it. -/
lemma exists_request {id : String} (hid : id ∈ answer.imageIDs)
    (hlists : ∀ batch images, batch ≠ [] → answer.describeImages batch = .ok images →
      Lists f batch images) :
    ∃ batch ∈ answer.requests, id ∈ batch ∧ answer.images.lookup id =
        match answer.describeImages batch with
        | .error _ => none
        | .ok _ => f id := by
  have hperm := answer.order_perm answer.imageIDs
  have hflat : (batches batchSize (answer.order answer.imageIDs)).flatten =
      answer.order answer.imageIDs := flatten_batches (by decide) _
  obtain ⟨batch, hbatch, hmem⟩ := List.mem_flatten.mp (hflat ▸ hperm.mem_iff.mpr hid)
  exact ⟨batch, requests_eq ▸ hbatch, hmem,
    lookup_lookupEC2Images (hperm.nodup_iff.mpr nodup_imageIDs) hlists hbatch hmem⟩

/-- When no request fails, every instance gets to know what AWS knows of its image. -/
lemma lookup_images {i : Ec2Instance} (hi : i ∈ answer.pending)
    (hlists : ∀ batch images, batch ≠ [] → answer.describeImages batch = .ok images →
      Lists f batch images)
    (hok : ∀ batch, batch ≠ [] → ∃ images, answer.describeImages batch = .ok images) :
    answer.images.lookup (stringValue i.imageId) =
      if stringValue i.imageId = "" then none else f (stringValue i.imageId) := by
  split
  · next hempty =>
    rw [hempty]
    refine lookup_lookupEC2Images_of_not_mem (fun hmem => ?_) hlists
    exact empty_not_mem_imageIDs ((answer.order_perm _).mem_iff.mp hmem)
  · next hne =>
    obtain ⟨batch, hbatch, hmem, hlookup⟩ := exists_request (mem_imageIDs hi hne) hlists
    obtain ⟨images, himages⟩ := hok batch (List.ne_nil_of_mem hmem)
    rw [hlookup, himages]

end

end Ec2Answer

lemma ec2Item_congr {p : Place} {images images' : List (String × AmiMetadata)} {i : Ec2Instance}
    (h : images.lookup (stringValue i.imageId) = images'.lookup (stringValue i.imageId)) :
    ec2Item p images i = ec2Item p images' i := by
  simp only [ec2Item, h]

/-- **The images of a sync.**  Each image is asked for once, in batches of one to a hundred ids,
as few as there can be.  What an instance gets to know of its image is what AWS knows, or nothing
when the request for its batch has failed; so that, when none fails, the order in which the map of
the ids is ranged over makes no difference to the sync. -/
theorem images_by_batch (env : Statements) (p : Place) (answer : Ec2Answer) (db : Db)
    (f : String → Option AmiMetadata)
    (hlists : ∀ batch images, batch ≠ [] → answer.describeImages batch = .ok images →
      Lists f batch images) :
    (answer.requests.flatten.Perm answer.imageIDs ∧ answer.imageIDs.Nodup ∧
        answer.requests.length = (answer.imageIDs.length + 99) / 100 ∧
        ∀ batch ∈ answer.requests, batch ≠ [] ∧ batch.length ≤ 100) ∧
      (∀ id ∈ answer.imageIDs, ∃ batch ∈ answer.requests, id ∈ batch ∧ answer.images.lookup id =
        match answer.describeImages batch with
        | .error _ => none
        | .ok _ => f id) ∧
      ((∀ batch, batch ≠ [] → ∃ images, answer.describeImages batch = .ok images) →
        ∀ (order : List String → List String) (hperm : ∀ ids, (order ids).Perm ids),
          syncEC2Instances env p { answer with order := order, order_perm := hperm } db =
            syncEC2Instances env p answer db) := by
  have hperm := answer.order_perm answer.imageIDs
  have hflat : answer.requests.flatten = answer.order answer.imageIDs := by
    rw [Ec2Answer.requests_eq]
    exact flatten_batches (by decide) _
  refine ⟨⟨hflat ▸ hperm, Ec2Answer.nodup_imageIDs, ?_, fun batch hbatch => ?_⟩,
    fun id hid => Ec2Answer.exists_request hid hlists, fun hok order hperm' => ?_⟩
  · rw [Ec2Answer.requests_eq, length_batches, hperm.length_eq]
    rfl
  · rw [Ec2Answer.requests_eq] at hbatch
    exact ⟨ne_nil_of_mem_batches (by decide) hbatch, length_le_of_mem_batches hbatch⟩
  · have hitems : Ec2Answer.items { answer with order := order, order_perm := hperm' } p =
        answer.items p := by
      refine List.map_congr_left fun i hi => ec2Item_congr ?_
      have hi' : i ∈ answer.pending := hi
      rw [Ec2Answer.lookup_images hi hlists hok, Ec2Answer.lookup_images hi' hlists hok]
    rw [syncEC2Instances, syncEC2Instances, hitems]

/-- The id of one of many images. -/
def imageName (n : ℕ) : String := String.ofList (List.replicate (n + 1) 'a')

/-- The image of an id. -/
def sampleImage (id : String) : Image := ⟨some id, some "ubuntu-22.04", some "099720109477"⟩

/-- A hundred and one instances, each of an image of its own, of which AWS knows all. -/
def manyInstances : Ec2Answer where
  listing.pages := [[(List.range 101).map fun n =>
    some { instanceId := some "i", imageId := some (imageName n) }]]
  describeImages := fun ids => .ok (ids.map fun id => some (sampleImage id))
  order := id
  order_perm := fun _ => .refl _

lemma imageName_ne (n : ℕ) : imageName n ≠ "" := by
  intro hempty
  have hlist := congrArg String.toList hempty
  rw [imageName, String.toList_ofList] at hlist
  cases hlist

lemma imageIDs_manyInstances : manyInstances.imageIDs = (List.range 101).map imageName := by
  have hinj : Function.Injective imageName := by
    intro n m h
    have hlist := congrArg (·.toList.length) h
    simpa [imageName] using hlist
  have hpending : manyInstances.pending.map (fun i => stringValue i.imageId) =
      (List.range 101).map imageName := rfl
  rw [Ec2Answer.imageIDs, hpending, List.filter_eq_self.mpr, List.dedup_eq_self.mpr]
  · exact List.nodup_range.map hinj
  · intro id hid
    obtain ⟨n, -, rfl⟩ := List.mem_map.mp hid
    simpa using imageName_ne n

/-- There are two requests; every image is found, and the order of the map does not matter. -/
theorem images_by_batch_manyInstances :
    manyInstances.requests.length = 2 ∧
      (∀ n < 101, manyInstances.images.lookup (imageName n) =
        some ⟨"ubuntu-22.04", "099720109477"⟩) ∧
      syncEC2Instances hourly ⟨"111", "eu-west-1"⟩
          { manyInstances with order := List.reverse, order_perm := List.reverse_perm } {} =
        syncEC2Instances hourly ⟨"111", "eu-west-1"⟩ manyInstances {} := by
  have hlists : ∀ batch images, batch ≠ [] → manyInstances.describeImages batch = .ok images →
      Lists (fun id => if id = "" then none else some ⟨"ubuntu-22.04", "099720109477"⟩) batch
        images := by
    rintro batch images - himages
    obtain rfl := Except.ok.inj himages
    refine ⟨fun img id hmem hid => ?_, fun id hid hne => ?_⟩
    · obtain ⟨id', hid', heq⟩ := List.mem_map.mp hmem
      obtain rfl := Option.some.inj heq
      obtain ⟨rfl, hne⟩ := hid
      exact ⟨hid', if_neg hne⟩
    · exact ⟨_, List.mem_map.mpr ⟨id, hid, rfl⟩, rfl, fun hempty => hne (if_pos hempty)⟩
  obtain ⟨⟨-, -, hlength, -⟩, hlookup, horder⟩ :=
    images_by_batch hourly ⟨"111", "eu-west-1"⟩ manyInstances {} _ hlists
  refine ⟨?_, fun n hn => ?_, horder (fun batch _ => ⟨_, rfl⟩) List.reverse List.reverse_perm⟩
  · rw [hlength, imageIDs_manyInstances, List.length_map, List.length_range]
  · have hmem : imageName n ∈ manyInstances.imageIDs := by
      rw [imageIDs_manyInstances]
      exact List.mem_map_of_mem (List.mem_range.mpr hn)
    obtain ⟨batch, -, -, h⟩ := hlookup _ hmem
    exact h.trans (if_neg (imageName_ne n))

end OpsPlatform.AwsSync
