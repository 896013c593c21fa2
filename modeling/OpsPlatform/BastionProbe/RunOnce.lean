/-
The probe of all bastion-enabled assets (`RunOnce` and `probeTarget` in
`internal/bastionprobe/service.go`).

Past the list of targets the probes are independent of each other.  The list itself is all or
nothing: `ListBastionProbeTargets` propagates the error of a connection that does not resolve,
so that a broken proxy is visible (ADR-0006), and then there is nothing to probe.
-/
import OpsPlatform.BastionProbe.FailClosed

namespace OpsPlatform.BastionProbe

open Lib Lib.Text Cmdb

/-- `probeTarget`.  `collect` stands for what follows on the open connection: the commands or
queries, and the snapshot that is written. -/
def probeTarget (env : Env) (collect : BastionProbeTarget → Except String Unit)
    (t : BastionProbeTarget) : Net Unit :=
  let protocol := toLower (trimSpace t.protocol)
  if protocol = "" ∨ protocol = "ssh" then do
    dialSSH env t
    Traced.ofExcept (collect t)
  else if protocol = "postgres" then do
    dialPostgres env t
    Traced.ofExcept (collect t)
  else Traced.ofExcept (.error ("unsupported protocol: " ++ t.protocol))

/-- The loop that starts a goroutine for each target, from round `i` on.  `ctxErr i` is the
error of the context in round `i`, once it is done. -/
def startProbes (ctxErr : ℕ → Option String) (i : ℕ) :
    List BastionProbeTarget → List BastionProbeTarget × Except String Unit
  | [] => ([], .ok ())
  | t :: targets =>
    match ctxErr i with
    | some e => ([], .error e)
    | none =>
      let rest := startProbes ctxErr (i + 1) targets
      (t :: rest.1, rest.2)

/-- What a run did: the targets whose goroutine it started, and what it returned. -/
structure ProbeRun where
  started : List BastionProbeTarget
  result : Except String Unit

/-- The error of a goroutine. -/
def probeError (env : Env) (collect : BastionProbeTarget → Except String Unit)
    (t : BastionProbeTarget) : Option String :=
  match (probeTarget env collect t).result with
  | .error e => some ("asset=" ++ t.assetID ++ " host=" ++ t.host ++ ": " ++ e)
  | .ok () => none

/-- `errors.Join`, one error at a time. -/
def joinErrors : List String → Except String Unit
  | [] => .ok ()
  | errors => .error ("\n".intercalate errors)

/-- `RunOnce`.  `finished` is the order in which the goroutines come to an end. -/
def runOnce (env : Env) (collect : BastionProbeTarget → Except String Unit)
    (finished : List BastionProbeTarget → List BastionProbeTarget) (ctxErr : ℕ → Option String)
    (limit : Int) : ProbeRun :=
  match listBastionProbeTargets env.db env.decrypt limit with
  | .error e => ⟨[], .error e⟩
  | .ok targets =>
    if targets.length = 0 then ⟨[], .ok ()⟩
    else
      match startProbes ctxErr 0 targets with
      | (started, .error e) => ⟨started, .error e⟩
      | (started, .ok ()) =>
        ⟨started, joinErrors ((finished started).filterMap (probeError env collect))⟩

/-! ### The batch -/

/-- The live assets with a bastion-enabled connection, those that were updated last first. -/
def enabledConnections (db : Db) : List (AssetRow × ConnectionRow) :=
  (db.cmdbAssetConnection.flatMap fun c =>
    (db.cmdbAsset.filter fun a => a.id == c.assetId && a.live && c.bastionEnabled).map
      fun a => (a, c)).insertionSort fun x y => y.1.updatedAt ≤ x.1.updatedAt

/-- The limit of a batch; one that is out of range is replaced. -/
def batchLimit (limit : Int) : ℕ := if 1 ≤ limit ∧ limit ≤ 1000 then limit.toNat else 200

/-- What `GetBastionProbeTarget` returns for the asset of a connection. -/
def resolve (env : Env) (x : AssetRow × ConnectionRow) : Except String BastionProbeTarget :=
  getBastionProbeTarget env.db env.decrypt x.1.id.toText

/-- A batch in which a connection that does not resolve drops itself only. -/
def BatchIsolated (env : Env) (limit : Int) : Prop :=
  listBastionProbeTargets env.db env.decrypt limit =
    .ok (((enabledConnections env.db).take limit.toNat).filterMap fun x =>
      (resolve env x).toOption)

/-- A batch of which either all targets are probed or none: all when each connection resolves,
and none, with the error of the first that does not, otherwise. -/
structure AllOrNone (env : Env) (limit : Int) : Prop where
  all : ∀ targets,
    ((enabledConnections env.db).take (batchLimit limit)).map (resolve env) = targets.map .ok →
    listBastionProbeTargets env.db env.decrypt limit = .ok targets ∧
      ∀ collect finished ctxErr, (∀ i, ctxErr i = none) →
        (runOnce env collect finished ctxErr limit).started = targets
  none : ∀ before x after e,
    (enabledConnections env.db).take (batchLimit limit) = before ++ x :: after →
    (∀ y ∈ before, ∃ target, resolve env y = .ok target) → resolve env x = .error e →
    listBastionProbeTargets env.db env.decrypt limit = .error e ∧
      ∀ collect finished ctxErr, runOnce env collect finished ctxErr limit = ⟨[], .error e⟩

/-- A connection of the list is the one that is found for its asset. -/
lemma connectionOf_of_mem {db : Db} (hassets : (db.cmdbAsset.map (·.id)).Nodup)
    (hconnections : (db.cmdbAssetConnection.map (·.assetId)).Nodup) {x : AssetRow × ConnectionRow}
    (hx : x ∈ enabledConnections db) : connectionOf db x.1.id = some x := by
  obtain ⟨a, c⟩ := x
  rw [enabledConnections, List.mem_insertionSort, List.mem_flatMap] at hx
  obtain ⟨c', hc, hx⟩ := hx
  obtain ⟨a', ha, hpair⟩ := List.mem_map.mp hx
  obtain ⟨rfl, rfl⟩ := Prod.mk.inj hpair
  obtain ⟨ha, hcond⟩ := List.mem_filter.mp ha
  simp only [Bool.and_eq_true, beq_iff_eq] at hcond
  obtain ⟨⟨hid, hlive⟩, -⟩ := hcond
  have hasset : db.cmdbAsset.find? (fun a => a.id == a'.id && a.live) = some a' := by
    refine Table.find?_eq_of_nodup hassets ha (by simp [hlive]) ?_
    intro b _ hb
    simp only [Bool.and_eq_true, beq_iff_eq] at hb
    exact hb.1
  have hconnection : db.cmdbAssetConnection.find? (·.assetId == a'.id) = some c' := by
    refine Table.find?_eq_of_nodup hconnections hc (by simp [hid]) ?_
    intro d _ hd
    rw [← hid]
    exact eq_of_beq hd
  rw [connectionOf, hasset]
  simp [hconnection]

/-- The list loader and the single loader decode a connection in the same way. -/
lemma resolve_eq {env : Env} (hassets : (env.db.cmdbAsset.map (·.id)).Nodup)
    (hconnections : (env.db.cmdbAssetConnection.map (·.assetId)).Nodup)
    {x : AssetRow × ConnectionRow} (hx : x ∈ enabledConnections env.db) :
    resolve env x = targetOfRow env.db env.decrypt x.1 x.2 := by
  obtain ⟨a, c⟩ := x
  exact getBastionProbeTarget_eq (Uuid.parse_toText a.id)
    (connectionOf_of_mem hassets hconnections hx)

lemma listBastionProbeTargets_eq (db : Db) (decrypt : String → Except String String)
    (limit : Int) :
    listBastionProbeTargets db decrypt limit =
      ((enabledConnections db).take (batchLimit limit)).mapM fun x =>
        targetOfRow db decrypt x.1 x.2 := by
  have hlimit : (if limit ≤ 0 ∨ 1000 < limit then 200 else limit).toNat = batchLimit limit := by
    rw [batchLimit]
    split
    · rw [if_neg (by omega)]
      rfl
    · rw [if_pos (by omega)]
  rw [← hlimit]
  rfl

/-- A context that is not done stops no probe. -/
lemma startProbes_eq {ctxErr : ℕ → Option String} (h : ∀ i, ctxErr i = none) (i : ℕ)
    (targets : List BastionProbeTarget) : startProbes ctxErr i targets = (targets, .ok ()) := by
  induction targets generalizing i with
  | nil => rfl
  | cons t targets ih => simp [startProbes, h, ih]

/-- **A batch of probes is all or nothing.**  When each of the first connections resolves, the
targets are what the single loader returns for them, and a run whose context is not done probes
them all; when one does not, its error is the error of the batch, and nothing is probed. -/
theorem allOrNone_of_keys {env : Env} (hassets : (env.db.cmdbAsset.map (·.id)).Nodup)
    (hconnections : (env.db.cmdbAssetConnection.map (·.assetId)).Nodup) (limit : Int) :
    AllOrNone env limit := by
  refine ⟨?_, ?_⟩
  · intro targets htargets
    have hlist : listBastionProbeTargets env.db env.decrypt limit = .ok targets := by
      rw [listBastionProbeTargets_eq]
      refine Except.mapM_of_map_eq ?_
      rw [← htargets]
      refine List.map_congr_left fun x hx => ?_
      rw [resolve_eq hassets hconnections (List.mem_of_mem_take hx)]
    refine ⟨hlist, ?_⟩
    intro collect finished ctxErr hctx
    rw [runOnce, hlist]
    dsimp only
    split
    · next hempty => exact (List.length_eq_zero_iff.mp hempty).symm
    · rw [startProbes_eq hctx]
  · intro before x after e hsplit hbefore hx
    -- up to the first row that fails the list and the single reads agree
    have hrow : ∀ y ∈ before ++ x :: after,
        resolve env y = targetOfRow env.db env.decrypt y.1 y.2 := by
      intro y hy
      rw [← hsplit] at hy
      exact resolve_eq hassets hconnections (List.mem_of_mem_take hy)
    have hlist : listBastionProbeTargets env.db env.decrypt limit = .error e := by
      rw [listBastionProbeTargets_eq, hsplit]
      refine Except.mapM_of_first_error ?_ ?_
      · intro y hy
        rw [← hrow y (List.mem_append_left _ hy)]
        exact hbefore y hy
      · rw [← hrow x (by simp)]
        exact hx
    refine ⟨hlist, ?_⟩
    intro collect finished ctxErr
    rw [runOnce, hlist]

/-- The asset `44444444-..` keeps a proxy that was deleted, next to the one of `sampleEnv`. -/
def danglingEnv : Env :=
  { sampleEnv with
    db := { sampleEnv.db with
            cmdbAsset := sampleEnv.db.cmdbAsset ++
              [{ id := Uuid.replicate 4, type := "vm", name := "db-2", updatedAt := 1 }]
            cmdbSshProxy := sampleEnv.db.cmdbSshProxy ++
              [{ id := Uuid.replicate 5, name := "vpc-proxy-old", host := "10.0.0.2",
                 username := "gw", deletedAt := some 0 }]
            cmdbAssetConnection := sampleEnv.db.cmdbAssetConnection ++
              [{ id := Uuid.replicate 6, assetId := Uuid.replicate 4, host := "10.0.0.8",
                 username := "root", proxyId := some (Uuid.replicate 5) }] } }

/-- The error that `danglingEnv` gives. -/
def danglingError : String :=
  "resolve proxy " ++ (Uuid.replicate 5).toText ++ " for asset " ++ (Uuid.replicate 4).toText ++
    ": ssh proxy not found"

/-- One deleted proxy, and the connection that resolves is not probed either. -/
theorem dangling_proxy_stops_batch :
    ¬ BatchIsolated danglingEnv 2 ∧
    (∃ target, getBastionProbeTarget danglingEnv.db danglingEnv.decrypt (Uuid.replicate 1).toText =
      .ok target) ∧
    ∀ collect finished ctxErr,
      runOnce danglingEnv collect finished ctxErr 2 = ⟨[], .error danglingError⟩ := by
  have hlist : listBastionProbeTargets danglingEnv.db danglingEnv.decrypt 2 =
      .error danglingError := rfl
  refine ⟨?_, ⟨_, rfl⟩, ?_⟩
  · intro h
    rw [BatchIsolated, hlist] at h
    cases h
  · intro collect finished ctxErr
    rw [runOnce, hlist]

/-- Both sides at once: nothing of `danglingEnv` is probed, and all of `sampleEnv` is. -/
theorem allOrNone_dangling_sample :
    AllOrNone danglingEnv 2 ∧ ∃ target, ∀ collect finished,
      (runOnce sampleEnv collect finished (fun _ => none) 5000).started = [target] := by
  obtain ⟨target, htarget⟩ : ∃ target, resolve sampleEnv
      ({ id := Uuid.replicate 1, type := "vm", name := "db-1" }, sampleConnection) =
        .ok target := ⟨_, rfl⟩
  refine ⟨allOrNone_of_keys (by decide) (by decide) 2, target, ?_⟩
  intro collect finished
  refine ((allOrNone_of_keys (by decide) (by decide) 5000).all [target] ?_).2 collect finished _
    fun _ => rfl
  show [resolve sampleEnv _] = [.ok target]
  rw [htarget]

end OpsPlatform.BastionProbe
