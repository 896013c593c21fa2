/-
`Promote` and `Demote` (`internal/cmdb/vpcproxy_service.go`) as sequences of database calls, any of
which can fail.

Each statement says whether it goes to the database or to the transaction.  `Commit` puts the copy
of the transaction into the database; a request that returns before that leaves the transaction to
the deferred `Rollback`.  When no call fails, the requests are `promote` and `demote`.
-/
import OpsPlatform.Cmdb.VpcProxy
import OpsPlatform.Lib.Transaction

namespace OpsPlatform.Cmdb

open Lib Lib.Table Lib.Transaction SshProxy

/-- The database calls of the two requests. -/
inductive DbCall where
  | getAsset
  | findPromoted
  | beginTx
  | markAsset
  | findProxy
  | writeProxy
  | ownConnection
  | findPeers
  | peerConnection (peer : Uuid)
  | clearRoutes
  | retireProxy
  | commit
  | refresh

abbrev DbDriver := Driver DbCall String

abbrev DbRequest := Request String Db

/-! ### `Promote` -/

/-- `upsertProxyForAsset`, with the statement that looks for the row and the one that writes it. -/
def upsertProxyTx (d : DbDriver) (now : Time) (newProxyId : Uuid) (a : AssetRow)
    (username authType : String) : DbRequest SshProxyRow := do
  let existing ← d.query .findProxy .tx fun db =>
    .ok (firstBy proxyOrder (fun p => p.sourceAssetId == some a.id) db.cmdbSshProxy)
  match existing with
  | some existing =>
    d.exec .writeProxy .tx fun db =>
      updateProxy db existing.id false (proxyOfAsset now a username authType)
  | none =>
    d.exec .writeProxy .tx fun db =>
      insertProxy db (proxyOfAsset now a username authType
        { id := newProxyId, name := "", host := "", username := "", sourceAssetId := some a.id,
          createdAt := now })

/-- `ensureProxyAssetConnection`. -/
def ensureConnectionTx (d : DbDriver) (now : Time) (newId : Uuid → Uuid) (a : AssetRow)
    (username authType : String) : DbRequest Unit :=
  d.exec .ownConnection .tx fun db =>
    .ok ({ db with
           cmdbAssetConnection := ensureProxyAssetConnection now newId a username authType
             db.cmdbAssetConnection }, ())

/-- `propagateProxyToVPCPeers`, one statement for each peer. -/
def propagateTx (d : DbDriver) (now : Time) (newId : Uuid → Uuid) (vpcID : String)
    (sourceAssetId proxyId : Uuid) : DbRequest Unit := do
  let peers ← d.query .findPeers .tx fun db => .ok (peers db.cmdbAsset vpcID sourceAssetId)
  forM peers fun a =>
    d.exec (.peerConnection a.id) .tx fun db =>
      .ok ({ db with
             cmdbAssetConnection := manageConnection now newId a.id a.privateIp
               (defaultUsernameForOSFamily a.osFamily) "key" (some proxyId) (·.autoManaged)
               db.cmdbAssetConnection }, ())

/-- `UPDATE cmdb_asset SET is_vpc_proxy`. -/
def markTx (d : DbDriver) (now : Time) (id : Uuid) (isVpcProxy : Bool) : DbRequest Unit :=
  d.exec .markAsset .tx fun db =>
    .ok ({ db with cmdbAsset := setVpcProxy now id isVpcProxy db.cmdbAsset }, ())

/-- `Promote` from `BeginTx` on. -/
def promoteTx (d : DbDriver) (now : Time) (newProxyId : Uuid) (newId : Uuid → Uuid)
    (assetID : String) (a : AssetRow) (login : String × String) :
    DbRequest (AssetRow × SshProxyRow) := do
  d.beginTx .beginTx
  deferRollback do
    markTx d now a.id true
    let p ← upsertProxyTx d now newProxyId a login.1 login.2
    ensureConnectionTx d now newId a login.1 login.2
    propagateTx d now newId a.vpcId a.id p.id
    d.commit .commit
    let refreshed ← d.query .refresh .db (getAsset · assetID)
    pure (refreshed, p)

/-- `Promote`. -/
def promoteRequest (d : DbDriver) (now : Time) (newProxyId : Uuid) (newId : Uuid → Uuid)
    (assetID : String) (opts : PromoteOptions) : DbRequest (AssetRow × SshProxyRow) := do
  let a ← d.query .getAsset .db (getAsset · assetID)
  if a.publicIp = "" ∨ a.vpcId = "" then throw errAssetMissingNetwork
  else do
    let login ← Request.ofExcept (promoteLogin opts a)
    d.query .findPromoted .db (promotable · a)
    promoteTx d now newProxyId newId assetID a login

/-! ### `Demote` -/

/-- What `Demote` writes for the proxy that was found. -/
def retireProxyTx (d : DbDriver) (now : Time) : Option SshProxyRow → DbRequest Unit
  | none => pure ()
  | some p => do
    d.exec .clearRoutes .tx fun db =>
      .ok ({ db with
             cmdbAssetConnection := updateWhere (fun c => c.proxyId == some p.id && c.autoManaged)
               (fun c => { c with proxyId := none, updatedAt := now }) db.cmdbAssetConnection }, ())
    d.exec .retireProxy .tx fun db =>
      .ok ({ db with
             cmdbSshProxy := updateWhere (·.id == p.id) (fun p => { p with deletedAt := some now })
               db.cmdbSshProxy }, ())

/-- `Demote` from `BeginTx` on. -/
def demoteTx (d : DbDriver) (now : Time) (a : AssetRow) : DbRequest Unit := do
  d.beginTx .beginTx
  deferRollback do
    let found ← d.query .findProxy .tx fun db =>
      .ok (db.cmdbSshProxy.find? fun p => p.sourceAssetId == some a.id && p.live)
    retireProxyTx d now found
    markTx d now a.id false
    d.commit .commit

/-- `Demote`. -/
def demoteRequest (d : DbDriver) (now : Time) (assetID : String) : DbRequest Unit := do
  let a ← d.query .getAsset .db (getAsset · assetID)
  if a.isVpcProxy then demoteTx d now a else pure ()

/-! ### Before the commit -/

section

variable (d : DbDriver) (now : Time) (newProxyId : Uuid) (newId : Uuid → Uuid) (assetID : String)
  (opts : PromoteOptions)

lemma writesByCommit_upsertProxyTx (a : AssetRow) (username authType : String) :
    WritesByCommit (upsertProxyTx d now newProxyId a username authType) := by
  refine (writesByCommit_query _ _ _).bind fun existing => ?_
  cases existing with
  | none => exact writesByCommit_exec _ _
  | some existing => exact writesByCommit_exec _ _

lemma writesByCommit_propagateTx (vpcID : String) (sourceAssetId proxyId : Uuid) :
    WritesByCommit (propagateTx d now newId vpcID sourceAssetId proxyId) :=
  (writesByCommit_query _ _ _).bind fun peers =>
    WritesByCommit.forM (fun _ => writesByCommit_exec _ _) peers

lemma writesByCommit_promoteTx (a : AssetRow) (login : String × String) :
    WritesByCommit (promoteTx d now newProxyId newId assetID a login) := by
  refine (writesByCommit_beginTx _).bind fun _ => WritesByCommit.deferRollback ?_
  refine WritesByCommit.bind (writesByCommit_exec _ _) fun _ => ?_
  refine (writesByCommit_upsertProxyTx d now newProxyId a login.1 login.2).bind fun p => ?_
  refine WritesByCommit.bind (writesByCommit_exec _ _) fun _ => ?_
  refine (writesByCommit_propagateTx d now newId a.vpcId a.id p.id).bind fun _ => ?_
  refine (writesByCommit_commit _).bind fun _ => ?_
  exact (writesByCommit_query _ _ _).bind fun _ => writesByCommit_pure _

lemma writesByCommit_promoteRequest :
    WritesByCommit (promoteRequest d now newProxyId newId assetID opts) := by
  refine (writesByCommit_query _ _ _).bind fun a => ?_
  split
  · exact writesByCommit_throw _
  · refine (writesByCommit_ofExcept _).bind fun login => ?_
    exact (writesByCommit_query _ _ _).bind fun _ =>
      writesByCommit_promoteTx d now newProxyId newId assetID a login

lemma writesByCommit_retireProxyTx (found : Option SshProxyRow) :
    WritesByCommit (retireProxyTx d now found) := by
  cases found with
  | none => exact writesByCommit_pure ()
  | some p => exact (writesByCommit_exec _ _).bind fun _ => writesByCommit_exec _ _

lemma writesByCommit_demoteRequest : WritesByCommit (demoteRequest d now assetID) := by
  refine (writesByCommit_query _ _ _).bind fun a => ?_
  split
  · refine (writesByCommit_beginTx _).bind fun _ => WritesByCommit.deferRollback ?_
    refine (writesByCommit_query _ _ _).bind fun found => ?_
    refine (writesByCommit_retireProxyTx d now found).bind fun _ => ?_
    exact WritesByCommit.bind (writesByCommit_exec _ _) fun _ => writesByCommit_commit _
  · exact writesByCommit_pure ()

end

/-! ### Without faults -/

section

variable {d : DbDriver} {db db' : Db} {now : Time} {newProxyId : Uuid} {newId : Uuid → Uuid}
  {assetID : String} {opts : PromoteOptions} {s : Conn Db}

/-- The asset can be read again after its promotion. -/
lemma getAsset_setVpcProxy {a : AssetRow} (h : getAsset db assetID = .ok a) (isVpcProxy : Bool)
    (hassets : db'.cmdbAsset = setVpcProxy now a.id isVpcProxy db.cmdbAsset) :
    getAsset db' assetID = .ok { a with isVpcProxy, updatedAt := now } := by
  rw [getAsset, Except.bind_eq_ok] at h ⊢
  obtain ⟨id, hid, h⟩ := h
  refine ⟨id, hid, ?_⟩
  split at h
  · cases h
  · next a' hfound =>
    obtain rfl := Except.ok.inj h
    have hkey : a'.id = id := by
      have hhit := List.find?_some hfound
      simp only [Bool.and_eq_true, beq_iff_eq] at hhit
      exact hhit.1
    have hfound' : db'.cmdbAsset.find? (fun b => b.id == id && b.live) =
        some { a' with isVpcProxy, updatedAt := now } := by
      rw [hassets, setVpcProxy, find?_updateWhere, hfound, Option.map_some,
        if_pos (beq_self_eq_true a'.id)]
      exact fun _ _ => rfl
    rw [hfound']

lemma runOn_markTx (hd : ∀ call, d.fails call = none) (htx : s.tx = some db) (id : Uuid)
    (isVpcProxy : Bool) :
    (markTx d now id isVpcProxy).runOn s =
      (.ok (), { s with
                 tx := some { db with
                              cmdbAsset := setVpcProxy now id isVpcProxy db.cmdbAsset } }) :=
  runOn_exec_tx_ok (hd _) htx

lemma runOn_upsertProxyTx (hd : ∀ call, d.fails call = none) (htx : s.tx = some db) {a : AssetRow}
    {username authType : String} {p : SshProxyRow}
    (h : upsertProxyForAsset db now newProxyId a username authType = .ok (db', p)) :
    (upsertProxyTx d now newProxyId a username authType).runOn s =
      (.ok p, { s with tx := some db' }) := by
  rw [upsertProxyTx, runOn_bind_of_ok (runOn_query_tx_ok (hd _) htx)]
  rw [upsertProxyForAsset] at h
  cases hfound : firstBy proxyOrder (fun p => p.sourceAssetId == some a.id) db.cmdbSshProxy with
  | some existing =>
    rw [hfound] at h
    exact runOn_exec_tx (hd _) htx h
  | none =>
    rw [hfound] at h
    exact runOn_exec_tx (hd _) htx h

/-- The loop over the peers. -/
lemma runOn_forM_peers (hd : ∀ call, d.fails call = none)
    (write : AssetRow → List ConnectionRow → List ConnectionRow) (peers : List AssetRow) :
    ∀ (s : Conn Db) (db : Db), s.tx = some db →
      (forM peers fun a => d.exec (.peerConnection a.id) .tx fun db =>
          .ok ({ db with cmdbAssetConnection := write a db.cmdbAssetConnection }, ())).runOn s =
        (.ok (), { s with
                   tx := some { db with
                                cmdbAssetConnection := peers.foldl (fun cs a => write a cs)
                                  db.cmdbAssetConnection } }) := by
  induction peers with
  | nil =>
    intro s db htx
    obtain ⟨db₀, _, n⟩ := s
    obtain rfl := htx
    rfl
  | cons a peers ih =>
    intro s db htx
    rw [List.forM_cons, runOn_bind_of_ok (runOn_exec_tx_ok (hd _) htx)]
    exact ih { s with tx := _ } _ rfl

lemma runOn_propagateTx (hd : ∀ call, d.fails call = none) (htx : s.tx = some db) (vpcID : String)
    (sourceAssetId proxyId : Uuid) :
    (propagateTx d now newId vpcID sourceAssetId proxyId).runOn s =
      (.ok (), { s with
                 tx := some { db with
                              cmdbAssetConnection := propagateProxyToVPCPeers now newId
                                db.cmdbAsset vpcID sourceAssetId proxyId
                                db.cmdbAssetConnection } }) := by
  rw [propagateTx, runOn_bind_of_ok (runOn_query_tx_ok (hd _) htx)]
  exact runOn_forM_peers hd _ _ s db htx

/-- A promotion that succeeds is the request without faults. -/
lemma runOn_promoteRequest (hd : ∀ call, d.fails call = none)
    (h : promote db now newProxyId newId assetID opts = .ok db') :
    ∃ refreshed p, (promoteRequest d now newProxyId newId assetID opts).runOn { db } =
      (.ok (refreshed, p), { db := db', commits := 1 }) := by
  obtain ⟨a, login, db₁, p, hget, hnetwork, hlogin, hpromotable, hupsert, rfl⟩ :=
    promote_eq_ok_iff.mp h
  have hassets : db₁.cmdbAsset = setVpcProxy now a.id true db.cmdbAsset := by
    rw [upsertProxyForAsset_frame hupsert]
  have hrefresh : ∀ connections,
      getAsset { db₁ with cmdbAssetConnection := connections } assetID =
        .ok { a with isVpcProxy := true, updatedAt := now } :=
    fun _ => getAsset_setVpcProxy hget true hassets
  refine ⟨{ a with isVpcProxy := true, updatedAt := now }, p, ?_⟩
  rw [promoteRequest, runOn_bind_of_ok (runOn_query_db (hd _) hget), if_neg hnetwork, hlogin,
    runOn_bind_of_ok (runOn_ofExcept _), runOn_bind_of_ok (runOn_query_db (hd _) hpromotable),
    promoteTx, runOn_bind_of_ok (runOn_beginTx (hd _)), runOn_deferRollback,
    runOn_bind_of_ok (runOn_markTx hd rfl _ _),
    runOn_bind_of_ok (runOn_upsertProxyTx hd rfl hupsert), ensureConnectionTx,
    runOn_bind_of_ok (runOn_exec_tx_ok (hd _) rfl),
    runOn_bind_of_ok (runOn_propagateTx hd rfl _ _ _), runOn_bind_of_ok (runOn_commit (hd _) rfl),
    runOn_bind_of_ok (runOn_query_db (hd _) (hrefresh _))]
  rfl

lemma runOn_demoteRequest (hd : ∀ call, d.fails call = none) (h : demote db now assetID = .ok db') :
    ∃ commits, (demoteRequest d now assetID).runOn { db } = (.ok (), { db := db', commits }) := by
  obtain ⟨a, hget, ⟨hproxy, rfl⟩ | ⟨hproxy, rfl⟩⟩ := demote_eq_ok h
  · refine ⟨1, ?_⟩
    rw [demoteRequest, runOn_bind_of_ok (runOn_query_db (hd _) hget), if_pos hproxy, demoteTx,
      runOn_bind_of_ok (runOn_beginTx (hd _)), runOn_deferRollback,
      runOn_bind_of_ok (runOn_query_tx_ok (hd _) rfl)]
    cases hfound : db.cmdbSshProxy.find? fun p => p.sourceAssetId == some a.id && p.live with
    | none =>
      rw [retireProxyTx, runOn_bind_of_ok (runOn_pure _),
        runOn_bind_of_ok (runOn_markTx hd rfl _ _), runOn_commit (hd _) rfl]
      rfl
    | some p =>
      rw [retireProxyTx, runOn_bind]
      rw [runOn_bind_of_ok (runOn_exec_tx_ok (hd _) rfl), runOn_exec_tx_ok (hd _) rfl]
      dsimp only
      rw [runOn_bind_of_ok (runOn_markTx hd rfl _ _), runOn_commit (hd _) rfl]
      rfl
  · refine ⟨0, ?_⟩
    rw [demoteRequest, runOn_bind_of_ok (runOn_query_db (hd _) hget), if_neg (by simp [hproxy])]
    rfl

end

end OpsPlatform.Cmdb
