/-
The calls on access requests, statement by statement and interleaved.

Any number of calls run at the same time.  A step executes the next statement of one call:
statements of `ApproveRequest` belong to its transaction, the others commit by themselves.  A
statement that needs the lock of a row which another call holds does not move; an `UPDATE` or a
`SELECT .. FOR UPDATE` first looks for its row among the committed ones and, once it has the
lock, evaluates its `WHERE` clause again on what is committed by then.  Every statement may
fail; a commit that fails for the client may have happened at the server.
-/
import OpsPlatform.Bastion.Lifecycle

namespace OpsPlatform.Bastion.Interleaving

open Lib Lib.Run Lib.Text Lib.ReadCommitted

/-! ### Calls -/

/-- The arguments of `CreateRequest`, with the names that it has read first. -/
structure NewRequest where
  newId : Uuid
  input : CreateRequestInput
  userName : String
  assetName : String

/-- The arguments of `CreateGrant` for a direct grant, with the names that it has read first. -/
structure NewGrant where
  newId : Uuid
  input : CreateGrantInput
  granterID : Uuid
  userName : String
  assetName : String
  granterName : String
  direct : trimSpace input.requestID = ""

/-- The arguments of `ApproveRequest`. -/
structure Approval where
  newId : Uuid
  input : DecideRequestInput
  approverName : String

/-- A call of `RejectRequest` or `CancelRequest`. -/
inductive Decision where
  | reject (input : DecideRequestInput) (deciderName : String)
  | cancel (requestID : String) (userID : Uuid)

def Decision.requestID : Decision → String
  | reject input _ => input.requestID
  | cancel requestID _ => requestID

/-- The `WHERE` clause, apart from the id. -/
def Decision.hits : Decision → RequestRow → Bool
  | reject .., r => r.status == .pending
  | cancel _ userID, r => r.userId == userID && r.status == .pending

def Decision.assign (now : Time) : Decision → RequestRow → RequestRow
  | reject input deciderName, r => r.reject now input deciderName
  | cancel .., r => r.cancel now

inductive Call where
  | createRequest (args : NewRequest)
  | createGrant (args : NewGrant)
  | approveRequest (args : Approval)
  | decideRequest (args : Decision)

/-- What a call reads after its commit. -/
inductive ReadBack where
  | request (id : Uuid)
  | grant (id : Uuid)
  | both (requestId grantId : Uuid)

/-- The rows that a call returns. -/
abbrev Reply := Option RequestRow × Option GrantRow

/-- Where a call stands: before the statement that is named, or at its end.  `now` is the
`now()` of its transaction. -/
inductive Pc where
  | start (call : Call)
  /-- `SELECT .. FOR UPDATE` has found its row and waits for the lock -/
  | selectForUpdate (args : Approval) (now : Time) (id : Uuid)
  | insertGrant (args : Approval) (now : Time) (r : RequestRow)
  | updateRequest (args : Approval) (now : Time) (r : RequestRow) (g : GrantRow)
  /-- `UPDATE` has found its row and waits for the lock -/
  | update (args : Decision) (now : Time) (id : Uuid)
  | commit (next : ReadBack)
  | readRequest (id : Uuid) (grantId : Option Uuid)
  | readGrant (id : Uuid) (r : Option RequestRow)
  | returned (committed : Bool) (result : Except RepoError Reply)

/-- The call has committed. -/
def Pc.committed : Pc → Bool
  | readRequest .. => true
  | readGrant .. => true
  | returned committed _ => committed
  | _ => false

def ReadBack.pc : ReadBack → Pc
  | request id => .readRequest id none
  | grant id => .readGrant id none
  | both requestId grantId => .readRequest requestId (some grantId)

/-! ### States -/

structure State where
  requests : Store ℕ Uuid RequestRow
  grants : Store ℕ Uuid GrantRow
  calls : ℕ → Option Pc

/-- The committed tables. -/
def State.tables (s : State) : Tables := ⟨s.requests.rows, s.grants.rows⟩

/-- The tables before any call. -/
def ofTables (t : Tables) : State :=
  ⟨Store.ofRows t.requests, Store.ofRows t.grants, fun _ => none⟩

namespace State

variable (s : State) (n : ℕ)

def moveTo (pc : Pc) : State := { s with calls := Function.update s.calls n (some pc) }

/-- An error before the commit: the transaction is rolled back. -/
def abort (e : RepoError) : State :=
  { s with requests := s.requests.rollback n, grants := s.grants.rollback n }.moveTo n
    (.returned false (.error e))

def commit (pc : Pc) : State :=
  { s with requests := s.requests.commit RequestRow.id n,
           grants := s.grants.commit GrantRow.id n }.moveTo n pc

def writeRequest (r : RequestRow) : State :=
  { s with requests := s.requests.write RequestRow.id n r }

def writeGrant (g : GrantRow) : State := { s with grants := s.grants.write GrantRow.id n g }

/-! ### Statements -/

/-- `INSERT INTO bastion_request`: it waits for another call that inserts the same key. -/
def insertRequest (r : RequestRow) (next : Pc) : State :=
  match findRequest s.requests.rows r.id with
  | some _ => s.abort n .duplicateRequest
  | none => if s.requests.free n r.id then (s.writeRequest n r).moveTo n next else s

/-- `INSERT INTO bastion_grant`. -/
def insertGrant (g : GrantRow) (next : Pc) : State :=
  match findGrant s.grants.rows g.id with
  | some _ => s.abort n .duplicateGrant
  | none => if s.grants.free n g.id then (s.writeGrant n g).moveTo n next else s

def startCreateRequest (args : NewRequest) (now : Time) : State :=
  match requestOfInput now args.newId args.input args.userName args.assetName with
  | .error e => s.abort n e
  | .ok r => s.insertRequest n r (.commit (.request r.id))

def startCreateGrant (args : NewGrant) (now : Time) : State :=
  match grantOfInput now args.newId args.input args.granterID args.userName args.assetName
      args.granterName with
  | .error e => s.abort n e
  | .ok g => s.insertGrant n g (.commit (.grant g.id))

/-- `SELECT .. FOR UPDATE`, up to the lock. -/
def startApprove (args : Approval) (now : Time) : State :=
  match castUuid args.input.requestID with
  | .error e => s.abort n e
  | .ok id =>
    match findRequest s.requests.rows id with
    | none => s.abort n .requestNotFound
    | some _ => s.moveTo n (.selectForUpdate args now id)

/-- `SELECT .. FOR UPDATE` with the lock, and the checks of its row. -/
def selectForUpdate (args : Approval) (now : Time) (id : Uuid) : State :=
  if s.requests.free n id then
    match findRequest s.requests.rows id with
    | none => s.abort n .requestNotFound
    | some r =>
      if r.status ≠ .pending then s.abort n .requestNotPending
      else if r.userId.toText = args.input.decidedByID.toText then s.abort n .selfApprovalDenied
      else { s with requests := s.requests.lock n id }.moveTo n (.insertGrant args now r)
  else s

/-- The grant of an approval, whose expiry is counted from the clock of the program. -/
def grantOf (args : Approval) (now clock : Time) (r : RequestRow) : GrantRow :=
  { grantOfRequest now args.newId args.input args.approverName r with
    expiresAt := clock + r.requestedDurationSeconds * second }

/-- `UPDATE bastion_request .. WHERE id = $1::uuid` of the approval. -/
def updateRequest (args : Approval) (now : Time) (r : RequestRow) (g : GrantRow) : State :=
  match findRequest s.requests.rows r.id with
  | none => s.moveTo n (.commit (.both r.id g.id))
  | some r₀ =>
    (s.writeRequest n (r₀.approve now g.id args.input args.approverName)).moveTo n
      (.commit (.both r.id g.id))

/-- The `UPDATE` of a rejection or cancellation, up to the lock. -/
def startDecide (args : Decision) (now : Time) : State :=
  match castUuid args.requestID with
  | .error e => s.abort n e
  | .ok id =>
    match (findRequest s.requests.rows id).filter args.hits with
    | none => s.abort n .requestNotPending
    | some _ => s.moveTo n (.update args now id)

/-- The `UPDATE` of a rejection or cancellation, with the lock. -/
def update (args : Decision) (now : Time) (id : Uuid) : State :=
  if s.requests.free n id then
    match (findRequest s.requests.rows id).filter args.hits with
    | none => s.abort n .requestNotPending
    | some r => (s.writeRequest n (args.assign now r)).moveTo n (.commit (.request id))
  else s

/-- `GetRequest`. -/
def readRequest (id : Uuid) (grantId : Option Uuid) : State :=
  match findRequest s.requests.rows id with
  | none => s.moveTo n (.returned true (.error .requestNotFound))
  | some r =>
    match grantId with
    | none => s.moveTo n (.returned true (.ok (some r, none)))
    | some grantId => s.moveTo n (.readGrant grantId (some r))

/-- `GetGrant`. -/
def readGrant (id : Uuid) (r : Option RequestRow) : State :=
  match findGrant s.grants.rows id with
  | none => s.moveTo n (.returned true (.error .grantNotFound))
  | some g => s.moveTo n (.returned true (.ok (r, some g)))

/-- The next statement of a call succeeds, or waits. -/
def execute (now : Time) : Pc → State
  | .start (.createRequest args) => s.startCreateRequest n args now
  | .start (.createGrant args) => s.startCreateGrant n args now
  | .start (.approveRequest args) => s.startApprove n args now
  | .start (.decideRequest args) => s.startDecide n args now
  | .selectForUpdate args now id => s.selectForUpdate n args now id
  | .insertGrant args began r =>
    let g := grantOf args began now r
    s.insertGrant n g (.updateRequest args began r g)
  | .updateRequest args now r g => s.updateRequest n args now r g
  | .update args now id => s.update n args now id
  | .commit next => s.commit n next.pc
  | .readRequest id grantId => s.readRequest n id grantId
  | .readGrant id r => s.readGrant n id r
  | .returned .. => s

/-- The next statement of a call fails; `executed` says whether the server executed it. -/
def fail (message : String) (executed : Bool) : Pc → State
  | .commit _ =>
    if executed then s.commit n (.returned true (.error (.statement message)))
    else s.abort n (.statement message)
  | .readRequest .. => s.moveTo n (.returned true (.error (.statement message)))
  | .readGrant .. => s.moveTo n (.returned true (.error (.statement message)))
  | .returned .. => s
  | _ => s.abort n (.statement message)

end State

/-- How a statement ends for the client. -/
inductive Outcome where
  | done
  | failed (message : String) (executed : Bool)

/-- A step: the call `n` begins, or goes on at the time `now`. -/
inductive Label where
  | begin (n : ℕ) (call : Call)
  | exec (n : ℕ) (now : Time) (outcome : Outcome)

def Label.caller : Label → ℕ
  | begin n _ => n
  | exec n _ _ => n

def step (s : State) : Label → State
  | .begin n call =>
    match s.calls n with
    | none => s.moveTo n (.start call)
    | some _ => s
  | .exec n now outcome =>
    match s.calls n, outcome with
    | none, _ => s
    | some pc, .done => s.execute n now pc
    | some pc, .failed message executed => s.fail n message executed pc

/-! ### The tables change with a commit only -/

/-- A step of the call `n` that is not its commit. -/
structure Quiet (n : ℕ) (s s' : State) : Prop where
  tables : s'.tables = s.tables
  calls : s'.calls = s.calls ∨ ∃ pc, s'.calls = Function.update s.calls n (some pc)

section

variable (s : State) (n : ℕ)

lemma quiet_refl : Quiet n s s := ⟨rfl, Or.inl rfl⟩

lemma quiet_moveTo (pc : Pc) : Quiet n s (s.moveTo n pc) := ⟨rfl, Or.inr ⟨pc, rfl⟩⟩

lemma quiet_abort (e : RepoError) : Quiet n s (s.abort n e) := ⟨rfl, Or.inr ⟨_, rfl⟩⟩

lemma quiet_insertRequest (r : RequestRow) (next : Pc) : Quiet n s (s.insertRequest n r next) := by
  rw [State.insertRequest]
  split
  · exact quiet_abort s n _
  · split
    · exact ⟨rfl, Or.inr ⟨next, rfl⟩⟩
    · exact quiet_refl s n

lemma quiet_insertGrant (g : GrantRow) (next : Pc) : Quiet n s (s.insertGrant n g next) := by
  rw [State.insertGrant]
  split
  · exact quiet_abort s n _
  · split
    · exact ⟨rfl, Or.inr ⟨next, rfl⟩⟩
    · exact quiet_refl s n

lemma quiet_selectForUpdate (args : Approval) (now : Time) (id : Uuid) :
    Quiet n s (s.selectForUpdate n args now id) := by
  rw [State.selectForUpdate]
  split
  · split
    · exact quiet_abort s n _
    · split
      · exact quiet_abort s n _
      · split
        · exact quiet_abort s n _
        · exact ⟨rfl, Or.inr ⟨_, rfl⟩⟩
  · exact quiet_refl s n

lemma quiet_start (now : Time) (call : Call) : Quiet n s (s.execute n now (.start call)) := by
  cases call with
  | createRequest args =>
    show Quiet n s (s.startCreateRequest n args now)
    rw [State.startCreateRequest]
    split
    · exact quiet_abort s n _
    · exact quiet_insertRequest s n _ _
  | createGrant args =>
    show Quiet n s (s.startCreateGrant n args now)
    rw [State.startCreateGrant]
    split
    · exact quiet_abort s n _
    · exact quiet_insertGrant s n _ _
  | approveRequest args =>
    show Quiet n s (s.startApprove n args now)
    rw [State.startApprove]
    split
    · exact quiet_abort s n _
    · split
      · exact quiet_abort s n _
      · exact quiet_moveTo s n _
  | decideRequest args =>
    show Quiet n s (s.startDecide n args now)
    rw [State.startDecide]
    split
    · exact quiet_abort s n _
    · split
      · exact quiet_abort s n _
      · exact quiet_moveTo s n _

lemma quiet_readRequest (id : Uuid) (grantId : Option Uuid) :
    Quiet n s (s.readRequest n id grantId) := by
  rw [State.readRequest]
  split
  · exact quiet_moveTo s n _
  · split <;> exact quiet_moveTo s n _

lemma quiet_readGrant (id : Uuid) (r : Option RequestRow) : Quiet n s (s.readGrant n id r) := by
  rw [State.readGrant]
  split <;> exact quiet_moveTo s n _

lemma quiet_execute (now : Time) {pc : Pc} (hpc : ∀ next, pc ≠ .commit next) :
    Quiet n s (s.execute n now pc) := by
  cases pc with
  | start call => exact quiet_start s n now call
  | selectForUpdate args now id => exact quiet_selectForUpdate s n args now id
  | insertGrant args began r => exact quiet_insertGrant s n _ _
  | updateRequest args now r g =>
    show Quiet n s (s.updateRequest n args now r g)
    rw [State.updateRequest]
    split
    · exact quiet_moveTo s n _
    · exact ⟨rfl, Or.inr ⟨_, rfl⟩⟩
  | update args now id =>
    show Quiet n s (s.update n args now id)
    rw [State.update]
    split
    · split
      · exact quiet_abort s n _
      · exact ⟨rfl, Or.inr ⟨_, rfl⟩⟩
    · exact quiet_refl s n
  | commit next => exact absurd rfl (hpc next)
  | readRequest id grantId => exact quiet_readRequest s n id grantId
  | readGrant id r => exact quiet_readGrant s n id r
  | returned committed result => exact quiet_refl s n

lemma quiet_fail (message : String) (executed : Bool) {pc : Pc}
    (hpc : ∀ next, pc ≠ .commit next) : Quiet n s (s.fail n message executed pc) := by
  cases pc with
  | commit next => exact absurd rfl (hpc next)
  | readRequest id grantId => exact quiet_moveTo s n _
  | readGrant id r => exact quiet_moveTo s n _
  | returned committed result => exact quiet_refl s n
  | _ => exact quiet_abort s n _

lemma committed_readBack (next : ReadBack) : next.pc.committed = true := by
  cases next <;> rfl

/-- A step is the commit of its call, or it leaves the tables as they are. -/
lemma step_cases (l : Label) : Quiet l.caller s (step s l) ∨
    ∃ next pc, s.calls l.caller = some (.commit next) ∧ step s l = s.commit l.caller pc ∧
      pc.committed = true := by
  cases l with
  | begin n call =>
    left
    rw [step]
    split
    · exact quiet_moveTo s n _
    · exact quiet_refl s n
  | exec n now outcome =>
    cases hcall : s.calls n with
    | none =>
      left
      simp only [step, hcall]
      exact quiet_refl s n
    | some pc =>
      by_cases hcommit : ∃ next, pc = .commit next
      · obtain ⟨next, rfl⟩ := hcommit
        cases outcome with
        | done =>
          refine Or.inr ⟨next, next.pc, hcall, ?_, committed_readBack next⟩
          simp only [step, hcall, State.execute, Label.caller]
        | failed message executed =>
          cases executed with
          | true =>
            refine Or.inr ⟨next, .returned true (.error (.statement message)), hcall, ?_, rfl⟩
            simp only [step, hcall, State.fail, Label.caller, if_true]
          | false =>
            left
            simp only [step, hcall, State.fail]
            exact quiet_abort s n _
      · left
        have hne : ∀ next, pc ≠ .commit next := fun next heq => hcommit ⟨next, heq⟩
        cases outcome with
        | done =>
          simp only [step, hcall]
          exact quiet_execute s n now hne
        | failed message executed =>
          simp only [step, hcall]
          exact quiet_fail s n message executed hne

end

/-! ### What a call has made sure of -/

/-- The call has written nothing. -/
def NoWrites (s : State) (n : ℕ) : Prop := s.requests.pending n = [] ∧ s.grants.pending n = []

/-- The call holds the pending request `r`. -/
structure Holds (s : State) (n : ℕ) (r : RequestRow) : Prop where
  holder : s.requests.holder r.id = some n
  row : findRequest s.requests.rows r.id = some r
  pending : r.status = .pending

/-- What holds of a call before each of its statements.  Before its commit, what it has written
is a change that the committed tables still allow. -/
def PcInv (s : State) (n : ℕ) : Pc → Prop
  | .insertGrant _ _ r => NoWrites s n ∧ Holds s n r
  | .updateRequest args now r g =>
    s.requests.pending n = [] ∧ s.grants.pending n = [g] ∧ Holds s n r ∧
      findGrant s.grants.rows g.id = none ∧
      Matches (r.approve now g.id args.input args.approverName) g
  | .commit _ =>
    ∃ c : Change, c.Enabled s.tables ∧ s.requests.pending n = c.requests ∧
      s.grants.pending n = c.grants
  | _ => NoWrites s n

/-- The same for a call that may not have begun. -/
def CallInv (s : State) (n : ℕ) : Option Pc → Prop
  | none => NoWrites s n
  | some pc => PcInv s n pc

structure Inv (s : State) : Prop where
  requests : s.requests.Sound RequestRow.id
  grants : s.grants.Sound GrantRow.id
  consistent : Consistent s.tables
  calls : ∀ n, CallInv s n (s.calls n)

/-- From `s` to `s'` nothing happens to what the call has written and locked. -/
structure Undisturbed (n : ℕ) (s s' : State) : Prop where
  requests : Store.Undisturbed RequestRow.id n s.requests s'.requests
  grants : Store.Undisturbed GrantRow.id n s.grants s'.grants

section

variable {s s' : State} {n : ℕ}

lemma NoWrites.of_undisturbed (h : NoWrites s n) (hs : Undisturbed n s s') : NoWrites s' n :=
  ⟨hs.requests.pending.trans h.1, hs.grants.pending.trans h.2⟩

lemma Holds.of_undisturbed {r : RequestRow} (h : Holds s n r) (hs : Undisturbed n s s') :
    Holds s' n r :=
  ⟨hs.requests.holder _ h.holder, (hs.requests.row _ h.holder).trans h.row, h.pending⟩

/-- A call that is left alone keeps what it has made sure of. -/
lemma PcInv.of_undisturbed (hr : s.requests.Sound RequestRow.id) (hg : s.grants.Sound GrantRow.id)
    {pc : Pc} (h : PcInv s n pc) (hs : Undisturbed n s s') : PcInv s' n pc := by
  cases pc with
  | insertGrant args began r => exact ⟨h.1.of_undisturbed hs, h.2.of_undisturbed hs⟩
  | updateRequest args now r g =>
    obtain ⟨hrequests, hgrants, hholds, hfresh, hmatches⟩ := h
    have hheld : s.grants.holder g.id = some n := hg.held n g (by rw [hgrants]; simp)
    exact ⟨hs.requests.pending.trans hrequests, hs.grants.pending.trans hgrants,
      hholds.of_undisturbed hs, (hs.grants.row _ hheld).trans hfresh, hmatches⟩
  | commit next =>
    obtain ⟨c, hc, hrequests, hgrants⟩ := h
    refine ⟨c, hc.congr ?_ ?_, hs.requests.pending.trans hrequests,
      hs.grants.pending.trans hgrants⟩
    · intro r hmem
      exact hs.requests.row _ (hr.held n r (by rw [hrequests]; exact hmem))
    · intro g hmem
      exact hs.grants.row _ (hg.held n g (by rw [hgrants]; exact hmem))
  | _ => exact NoWrites.of_undisturbed h hs

/-- A step of one call keeps the invariant if it keeps it for this call and does not disturb
the others. -/
lemma Inv.of_moveTo (h : Inv s) {pc : Pc} (hcalls : s'.calls = Function.update s.calls n (some pc))
    (hr : s'.requests.Sound RequestRow.id) (hg : s'.grants.Sound GrantRow.id)
    (hother : ∀ n', n' ≠ n → Undisturbed n' s s') (hconsistent : Consistent s'.tables)
    (hpc : PcInv s' n pc) : Inv s' := by
  refine ⟨hr, hg, hconsistent, ?_⟩
  intro n'
  rw [hcalls, Function.update_apply]
  split
  · next hn =>
    rw [hn]
    exact hpc
  · next hn =>
    have hcall := h.calls n'
    cases hn' : s.calls n' with
    | none =>
      rw [hn'] at hcall
      exact NoWrites.of_undisturbed hcall (hother n' hn)
    | some pc' =>
      rw [hn'] at hcall
      exact PcInv.of_undisturbed h.requests h.grants hcall (hother n' hn)

lemma undisturbed_refl (n : ℕ) (s : State) (calls : ℕ → Option Pc) :
    Undisturbed n s { s with calls } :=
  ⟨Store.undisturbed_refl n _, Store.undisturbed_refl n _⟩

lemma Inv.moveTo (h : Inv s) {pc : Pc} (hpc : PcInv s n pc) : Inv (s.moveTo n pc) :=
  h.of_moveTo rfl h.requests h.grants (fun n' _ => undisturbed_refl n' s _) h.consistent
    (hpc.of_undisturbed h.requests h.grants (undisturbed_refl n s _))

lemma Inv.abort (h : Inv s) (n : ℕ) (e : RepoError) : Inv (s.abort n e) := by
  refine h.of_moveTo (n := n) rfl (h.requests.rollback n) (h.grants.rollback n) ?_ h.consistent ?_
  · intro n' hn
    exact ⟨Store.undisturbed_rollback hn, Store.undisturbed_rollback hn⟩
  · exact ⟨Store.pending_finish_self _ n _, Store.pending_finish_self _ n _⟩

/-- What a call has written takes effect as a change. -/
lemma tables_commit {next : ReadBack} (h : PcInv s n (.commit next)) (pc : Pc) :
    ∃ c : Change, c.Enabled s.tables ∧ (s.commit n pc).tables = c.apply s.tables := by
  obtain ⟨c, hc, hrequests, hgrants⟩ := h
  refine ⟨c, hc, ?_⟩
  show (⟨(s.requests.pending n).foldl _ _, (s.grants.pending n).foldl _ _⟩ : Tables) = _
  rw [hrequests, hgrants]
  rfl

lemma Inv.commit (h : Inv s) {next : ReadBack} (hcommit : PcInv s n (.commit next)) {pc : Pc}
    (hpc : pc.committed = true) : Inv (s.commit n pc) := by
  refine h.of_moveTo rfl (h.requests.commit n) (h.grants.commit n) ?_ ?_ ?_
  · intro n' hn
    exact ⟨h.requests.undisturbed_commit hn, h.grants.undisturbed_commit hn⟩
  · obtain ⟨c, hc, htables⟩ := tables_commit hcommit pc
    rw [htables]
    exact h.consistent.apply hc
  -- behind its commit a call has nothing left to write
  · have hnone : NoWrites (s.commit n pc) n :=
      ⟨Store.pending_finish_self _ n _, Store.pending_finish_self _ n _⟩
    cases pc with
    | readRequest id grantId => exact hnone
    | readGrant id r => exact hnone
    | returned committed result => exact hnone
    | _ => cases hpc

/-! ### The statements keep the invariant -/

lemma Inv.insertRequest (h : Inv s) (hnone : NoWrites s n) {r : RequestRow}
    (hpending : r.status = .pending) (next : ReadBack) :
    Inv (s.insertRequest n r (.commit next)) := by
  rw [State.insertRequest]
  split
  · exact h.abort n _
  · next hfresh =>
    split
    · next hfree =>
      refine h.of_moveTo rfl (h.requests.write hfree) h.grants ?_ h.consistent ?_
      · intro n' hn
        exact ⟨Store.undisturbed_write hfree hn, Store.undisturbed_refl n' _⟩
      · exact ⟨.createRequest r, ⟨hfresh, hpending⟩, Store.pending_write_self _ hnone.1 r, hnone.2⟩
    · exact h

/-- A grant is inserted, and the call goes on with it. -/
lemma Inv.insertGrant (h : Inv s) (hnone : NoWrites s n) {g : GrantRow} {next : Pc}
    (hnext : findGrant s.grants.rows g.id = none → (s.writeGrant n g).grants.pending n = [g] →
      PcInv (s.writeGrant n g) n next) : Inv (s.insertGrant n g next) := by
  rw [State.insertGrant]
  split
  · exact h.abort n _
  · next hfresh =>
    split
    · next hfree =>
      have hrequests : (s.writeGrant n g).requests.Sound RequestRow.id := h.requests
      have hgrants : (s.writeGrant n g).grants.Sound GrantRow.id := h.grants.write hfree
      refine h.of_moveTo rfl hrequests hgrants ?_ h.consistent ?_
      · intro n' hn
        exact ⟨Store.undisturbed_refl n' _, Store.undisturbed_write hfree hn⟩
      · have hwritten := Store.pending_write_self GrantRow.id hnone.2 g
        exact PcInv.of_undisturbed hrequests hgrants (hnext hfresh hwritten)
          (undisturbed_refl n _ _)
    · exact h

lemma Inv.start (h : Inv s) (hnone : NoWrites s n) (now : Time) (call : Call) :
    Inv (s.execute n now (.start call)) := by
  cases call with
  | createRequest args =>
    show Inv (s.startCreateRequest n args now)
    rw [State.startCreateRequest]
    split
    · exact h.abort n _
    · next r hr => exact h.insertRequest hnone (requestOfInput_eq_ok hr).2.2.1 _
  | createGrant args =>
    show Inv (s.startCreateGrant n args now)
    rw [State.startCreateGrant]
    split
    · exact h.abort n _
    · next g hg =>
      have hrequest : requestIDArg args.input.requestID = .ok g.requestId :=
        (grantOfInput_eq_ok hg).2.2.2.2
      rw [requestIDArg, if_neg (not_not.mpr args.direct)] at hrequest
      refine h.insertGrant hnone fun hfresh hwritten => ?_
      exact ⟨.createGrant g, ⟨hfresh, (Except.ok.inj hrequest).symm⟩, hnone.1, hwritten⟩
  | approveRequest args =>
    show Inv (s.startApprove n args now)
    rw [State.startApprove]
    split
    · exact h.abort n _
    · split
      · exact h.abort n _
      · exact h.moveTo hnone
  | decideRequest args =>
    show Inv (s.startDecide n args now)
    rw [State.startDecide]
    split
    · exact h.abort n _
    · split
      · exact h.abort n _
      · exact h.moveTo hnone

lemma Inv.selectForUpdate (h : Inv s) (hnone : NoWrites s n) (args : Approval) (now : Time)
    (id : Uuid) : Inv (s.selectForUpdate n args now id) := by
  rw [State.selectForUpdate]
  split
  · next hfree =>
    split
    · exact h.abort n _
    · next r hr =>
      split
      · exact h.abort n _
      · next hpending =>
        split
        · exact h.abort n _
        -- the lock is what keeps the row as it was read until the approval writes it
        · refine h.of_moveTo rfl (h.requests.lock hfree) h.grants ?_ h.consistent ?_
          · intro n' hn
            exact ⟨Store.undisturbed_lock hfree hn, Store.undisturbed_refl n' _⟩
          · obtain rfl : r.id = id := key_of_find hr
            refine ⟨hnone, ⟨?_, hr, not_not.mp hpending⟩⟩
            show Function.update s.requests.holder r.id (some n) r.id = some n
            exact Function.update_self _ _ _
  · exact h

/-- The grant of an approval matches the request as the approval leaves it. -/
lemma matches_grantOf (args : Approval) (now clock : Time) (r : RequestRow) :
    Matches (r.approve now (State.grantOf args now clock r).id args.input args.approverName)
      (State.grantOf args now clock r) := ⟨rfl, rfl, rfl, rfl⟩

lemma Holds.free {r : RequestRow} (h : Holds s n r) : s.requests.free n r.id = true := by
  simp [Store.free, h.holder]

lemma Inv.updateRequest (h : Inv s) {args : Approval} {now : Time} {r : RequestRow} {g : GrantRow}
    (hpc : PcInv s n (.updateRequest args now r g)) :
    Inv (s.updateRequest n args now r g) := by
  obtain ⟨hrequests, hgrants, hholds, hfresh, hmatches⟩ := hpc
  rw [State.updateRequest]
  split
  · next hnone =>
    -- the row is held, so it is there
    rw [hholds.row] at hnone
    cases hnone
  · next r₀ hr₀ =>
    rw [hholds.row] at hr₀
    obtain rfl := Option.some.inj hr₀
    have hfree : s.requests.free n
        (RequestRow.id (r.approve now g.id args.input args.approverName)) = true := hholds.free
    refine h.of_moveTo rfl (h.requests.write hfree) h.grants ?_ h.consistent ?_
    · intro n' hn
      exact ⟨Store.undisturbed_write hfree hn, Store.undisturbed_refl n' _⟩
    · exact ⟨.approve r (r.approve now g.id args.input args.approverName) g,
        ⟨hholds.row, hholds.pending, hfresh, rfl, rfl, hmatches⟩,
        Store.pending_write_self _ hrequests _, hgrants⟩

lemma pending_of_hits {args : Decision} {r : RequestRow} (h : args.hits r = true) :
    r.status = .pending := by
  cases args <;> simp_all [Decision.hits]

lemma assign_id (args : Decision) (now : Time) (r : RequestRow) :
    (args.assign now r).id = r.id := by
  cases args <;> rfl

lemma assign_status (args : Decision) (now : Time) (r : RequestRow) :
    (args.assign now r).status = .rejected ∨ (args.assign now r).status = .cancelled := by
  cases args
  · exact Or.inl rfl
  · exact Or.inr rfl

lemma Inv.update (h : Inv s) (hnone : NoWrites s n) (args : Decision) (now : Time) (id : Uuid) :
    Inv (s.update n args now id) := by
  rw [State.update]
  split
  · next hfree =>
    split
    · exact h.abort n _
    · next r hr =>
      obtain ⟨hfind, hhits⟩ := Option.filter_eq_some_iff.mp hr
      obtain rfl : r.id = id := key_of_find hfind
      -- the lock is on the key of the row that is written
      rw [← assign_id args now r] at hfree
      refine h.of_moveTo rfl (h.requests.write hfree) h.grants ?_ h.consistent ?_
      · intro n' hn
        exact ⟨Store.undisturbed_write hfree hn, Store.undisturbed_refl n' _⟩
      · exact ⟨.decide r (args.assign now r), ⟨hfind, pending_of_hits hhits,
          assign_id args now r, assign_status args now r⟩, Store.pending_write_self _ hnone.1 _,
          hnone.2⟩
  · exact h

lemma Inv.execute (h : Inv s) {pc : Pc} (hpc : PcInv s n pc) (now : Time) :
    Inv (s.execute n now pc) := by
  cases pc with
  | start call => exact h.start hpc now call
  | selectForUpdate args now id => exact h.selectForUpdate hpc args now id
  | insertGrant args began r =>
    obtain ⟨hnone, hholds⟩ := hpc
    refine h.insertGrant hnone fun hfresh hwritten => ?_
    exact ⟨hnone.1, hwritten, ⟨hholds.holder, hholds.row, hholds.pending⟩, hfresh,
      matches_grantOf args began now r⟩
  | updateRequest args now r g => exact h.updateRequest hpc
  | update args now id => exact h.update hpc args now id
  | commit next => exact h.commit hpc (committed_readBack next)
  | readRequest id grantId =>
    show Inv (s.readRequest n id grantId)
    rw [State.readRequest]
    split
    · exact h.moveTo hpc
    · split
      · exact h.moveTo hpc
      · exact h.moveTo hpc
  | readGrant id r =>
    show Inv (s.readGrant n id r)
    rw [State.readGrant]
    split
    · exact h.moveTo hpc
    · exact h.moveTo hpc
  | returned committed result => exact h

lemma Inv.fail (h : Inv s) {pc : Pc} (hpc : PcInv s n pc) (message : String) (executed : Bool) :
    Inv (s.fail n message executed pc) := by
  cases pc with
  | commit next =>
    rw [State.fail]
    split
    · exact h.commit hpc rfl
    · exact h.abort n _
  | readRequest id grantId => exact h.moveTo hpc
  | readGrant id r => exact h.moveTo hpc
  | returned committed result => exact h
  | _ => exact h.abort n _

lemma Inv.step (h : Inv s) (l : Label) : Inv (step s l) := by
  cases l with
  | begin n call =>
    have hcall := h.calls n
    rw [Interleaving.step]
    split
    · next hn =>
      rw [hn] at hcall
      exact h.moveTo hcall
    · exact h
  | exec n now outcome =>
    have hcall := h.calls n
    cases hn : s.calls n with
    | none =>
      simp only [Interleaving.step, hn]
      exact h
    | some pc =>
      rw [hn] at hcall
      cases outcome with
      | done =>
        simp only [Interleaving.step, hn]
        exact h.execute hcall now
      | failed message executed =>
        simp only [Interleaving.step, hn]
        exact h.fail hcall message executed

lemma inv_ofTables {t : Tables} (h : Consistent t) : Inv (ofTables t) :=
  ⟨Store.sound_ofRows h.requestKeys, Store.sound_ofRows h.grantKeys, h, fun _ => ⟨rfl, rfl⟩⟩

lemma inv_run {t : Tables} (h : Consistent t) (ls : List Label) :
    Inv (run Interleaving.step (ofTables t) ls) :=
  invariant (fun _ l hs => hs.step l) (inv_ofTables h) ls

/-! ### Decisions -/

/-- What a step does to the tables is nothing, or a change that they allow. -/
lemma Inv.effect (h : Inv s) (l : Label) : (Interleaving.step s l).tables = s.tables ∨
    ∃ c : Change, c.Enabled s.tables ∧ (Interleaving.step s l).tables = c.apply s.tables := by
  rcases step_cases s l with hquiet | ⟨next, pc, hcall, hstep, -⟩
  · exact Or.inl hquiet.tables
  · right
    have hpc := h.calls l.caller
    rw [hcall] at hpc
    rw [hstep]
    exact @tables_commit s l.caller next hpc pc

/-- A request that has been decided stays as it was decided. -/
lemma Inv.status_step (h : Inv s) {id : Uuid} {st : RequestStatus} (hdecided : st ≠ .pending)
    (hst : s.tables.status id = some st) (l : Label) :
    (Interleaving.step s l).tables.status id = some st := by
  rcases h.effect l with heq | ⟨c, hc, heq⟩
  · rw [heq]
    exact hst
  · rw [heq]
    exact Change.Enabled.status_apply hc hst hdecided

lemma Inv.status_run (h : Inv s) {id : Uuid} {st : RequestStatus} (hdecided : st ≠ .pending)
    (hst : s.tables.status id = some st) (ls : List Label) :
    (run Interleaving.step s ls).tables.status id = some st := by
  refine (invariant (I := fun s => Inv s ∧ s.tables.status id = some st) ?_ ⟨h, hst⟩ ls).2
  rintro s l ⟨h, hst⟩
  exact ⟨h.step l, h.status_step hdecided hst l⟩

lemma Inv.status_step_ne_none (h : Inv s) {id : Uuid} (hst : s.tables.status id ≠ none)
    (l : Label) : (Interleaving.step s l).tables.status id ≠ none := by
  rcases h.effect l with heq | ⟨c, -, heq⟩
  · rw [heq]
    exact hst
  · rw [heq]
    exact Change.status_apply_ne_none hst c

/-- One for a step in which the request `id` leaves the status `pending`. -/
def leavesPending (id : Uuid) (s : State) (_ : Label) (s' : State) : ℕ :=
  if s.tables.status id = some .pending ∧ s'.tables.status id ≠ some .pending then 1 else 0

/-- One as long as the request `id` can leave the status `pending`. -/
def undecided (id : Uuid) (s : State) : ℕ :=
  match s.tables.status id with
  | none => 1
  | some st => if st = .pending then 1 else 0

lemma undecided_le_one (id : Uuid) (s : State) : undecided id s ≤ 1 := by
  rw [undecided]
  split
  · exact le_refl 1
  · split <;> omega

/-- A step in which a request leaves the status `pending` decides it. -/
lemma leavesPending_le (h : Inv s) (id : Uuid) (l : Label) :
    leavesPending id s l (Interleaving.step s l) + undecided id (Interleaving.step s l) ≤
      0 + undecided id s := by
  have hle := undecided_le_one id (Interleaving.step s l)
  -- the request counts one while it is missing or pending, and nothing once it is decided
  cases hbefore : s.tables.status id with
  | none =>
    have hone : undecided id s = 1 := by simp only [undecided, hbefore]
    have hzero : leavesPending id s l (Interleaving.step s l) = 0 := by
      simp [leavesPending, hbefore]
    omega
  | some st =>
    by_cases hst : st = .pending
    · subst hst
      have hone : undecided id s = 1 := by simp only [undecided, hbefore, if_true]
      have hsome : s.tables.status id ≠ none := by
        rw [hbefore]
        simp
      have hstays := h.status_step_ne_none hsome l
      cases hafter : (Interleaving.step s l).tables.status id with
      | none => exact absurd hafter hstays
      | some st' =>
        by_cases hst' : st' = .pending
        · have hzero : leavesPending id s l (Interleaving.step s l) = 0 := by
            simp [leavesPending, hafter, hst']
          omega
        · have hzero : undecided id (Interleaving.step s l) = 0 := by
            simp only [undecided, hafter, if_neg hst']
          have hweight : leavesPending id s l (Interleaving.step s l) ≤ 1 := by
            rw [leavesPending]
            split <;> omega
          omega
    · have hafter := h.status_step hst hbefore l
      have hzero : leavesPending id s l (Interleaving.step s l) = 0 := by
        simp [leavesPending, hbefore, hst]
      have hzero' : undecided id (Interleaving.step s l) = 0 := by
        simp only [undecided, hafter, if_neg hst]
      omega

lemma tally_leavesPending_le (h : Inv s) (id : Uuid) (ls : List Label) :
    tally Interleaving.step (leavesPending id) s ls ≤ 1 := by
  have hrun : tally Interleaving.step (leavesPending id) s ls +
      undecided id (run Interleaving.step s ls) ≤
        tally Interleaving.step (fun _ _ _ => 0) s ls + undecided id s :=
    tally_le_of_potential (I := Inv) (fun _ l hs => hs.step l)
      (fun _ l hs => leavesPending_le hs id l) h ls
  have hfree : tally Interleaving.step (fun _ _ _ => 0) s ls = 0 := tally_zero s ls
  have hle := undecided_le_one id s
  omega

/-! ### Errors -/

/-- The call `n` has committed. -/
def State.committed (s : State) (n : ℕ) : Bool := (s.calls n).any Pc.committed

/-- After its commit a call only reads. -/
lemma committed_execute {pc : Pc} (hpc : pc.committed = true) (hcall : s.calls n = some pc)
    (now : Time) : (s.execute n now pc).committed n = true := by
  have hmove : ∀ pc' : Pc, pc'.committed = true → (s.moveTo n pc').committed n = true := by
    intro pc' hpc'
    simp [State.committed, State.moveTo, hpc']
  cases pc with
  | readRequest id grantId =>
    show (s.readRequest n id grantId).committed n = true
    rw [State.readRequest]
    split
    · exact hmove _ rfl
    · split
      · exact hmove _ rfl
      · exact hmove _ rfl
  | readGrant id r =>
    show (s.readGrant n id r).committed n = true
    rw [State.readGrant]
    split
    · exact hmove _ rfl
    · exact hmove _ rfl
  | returned committed result =>
    show (s.calls n).any Pc.committed = true
    rw [hcall]
    exact hpc
  | _ => cases hpc

lemma committed_fail {pc : Pc} (hpc : pc.committed = true) (hcall : s.calls n = some pc)
    (message : String) (executed : Bool) :
    (s.fail n message executed pc).committed n = true := by
  cases pc with
  | readRequest id grantId => simp [State.fail, State.committed, State.moveTo, Pc.committed]
  | readGrant id r => simp [State.fail, State.committed, State.moveTo, Pc.committed]
  | returned committed result =>
    show (s.calls n).any Pc.committed = true
    rw [hcall]
    exact hpc
  | _ => cases hpc

lemma committed_commit (s : State) (n : ℕ) {pc : Pc} (hpc : pc.committed = true) :
    (s.commit n pc).committed n = true := by
  simp [State.committed, State.commit, State.moveTo, hpc]

lemma calls_step_of_ne {l : Label} (hl : l.caller ≠ n) :
    (Interleaving.step s l).calls n = s.calls n := by
  rcases step_cases s l with hquiet | ⟨next, pc, -, hstep, -⟩
  · rcases hquiet.calls with hcalls | ⟨pc, hcalls⟩
    · rw [hcalls]
    · rw [hcalls, Function.update_of_ne (Ne.symm hl)]
  · rw [hstep]
    exact Function.update_of_ne (Ne.symm hl) _ _

lemma committed_step (h : s.committed n = true) (l : Label) :
    (Interleaving.step s l).committed n = true := by
  obtain ⟨pc, hcall, hpc⟩ := (Option.any_eq_true _ _).mp h
  by_cases hl : l.caller = n
  · subst hl
    cases l with
    | begin n call =>
      have hcall' : s.calls n = some pc := hcall
      simp only [Interleaving.step, hcall']
      exact h
    | exec n now outcome =>
      have hcall' : s.calls n = some pc := hcall
      cases outcome with
      | done =>
        simp only [Interleaving.step, hcall']
        exact committed_execute hpc hcall now
      | failed message executed =>
        simp only [Interleaving.step, hcall']
        exact committed_fail hpc hcall message executed
  · rw [State.committed, calls_step_of_ne hl]
    exact h

/-- A step of a call that has not committed in the end does nothing to the tables. -/
lemma tables_of_not_committed {before after : List Label} {l : Label}
    (h : (run Interleaving.step s (before ++ l :: after)).committed l.caller = false) :
    (run Interleaving.step s (before ++ [l])).tables = (run Interleaving.step s before).tables := by
  rw [run_append, run_cons] at h
  rw [run_append, run_cons, run_nil]
  rcases step_cases (run Interleaving.step s before) l with hquiet | ⟨next, pc, -, hstep, hpc⟩
  · exact hquiet.tables
  · have hcommit := committed_commit (run Interleaving.step s before) l.caller hpc
    have hcommitted := invariant (I := fun s : State => s.committed l.caller = true)
      (fun _ l' hs => committed_step hs l') hcommit after
    rw [hstep, hcommitted] at h
    cases h

end

/-- **The life of a request.**  From consistent tables, such as empty ones, and for every
schedule of calls of `CreateRequest`, `ApproveRequest`, `RejectRequest`, `CancelRequest` and
direct `CreateGrant`: a request leaves the status `pending` at most once and keeps what was
decided; it is approved exactly when one grant carries its id, and then they match; and no step
of a call that ended with an error before its commit changed the tables. -/
theorem lifecycle_safe {t : Tables} (ht : Consistent t) (ls : List Label) :
    (∀ id, tally step (leavesPending id) (ofTables t) ls ≤ 1) ∧
    (∀ before after id st, ls = before ++ after → st ≠ RequestStatus.pending →
      (run step (ofTables t) before).tables.status id = some st →
      (run step (ofTables t) ls).tables.status id = some st) ∧
    (∀ r ∈ (run step (ofTables t) ls).tables.requests,
      (r.status = .approved ↔
        (run step (ofTables t) ls).tables.grants.countP (GrantRow.isFor r.id) = 1) ∧
      (r.status = .approved →
        ∃ g ∈ (run step (ofTables t) ls).tables.grants, Matches r g)) ∧
    ∀ n e, (run step (ofTables t) ls).calls n = some (.returned false (.error e)) →
      ∀ before l after, ls = before ++ l :: after → l.caller = n →
        (run step (ofTables t) (before ++ [l])).tables = (run step (ofTables t) before).tables := by
  have hrun := inv_run ht ls
  refine ⟨fun id => tally_leavesPending_le (inv_ofTables ht) id ls, ?_, ?_, ?_⟩
  · rintro before after id st rfl hst hstatus
    rw [run_append]
    exact (inv_run ht before).status_run hst hstatus after
  · intro r hr
    refine ⟨hrun.consistent.approved_iff hr, ?_⟩
    intro happroved
    obtain ⟨g, hg, hmatches, -⟩ := hrun.consistent.approved r hr happroved
    exact ⟨g, hg, hmatches⟩
  · rintro n e hreturned before l after rfl rfl
    have hnot : (run step (ofTables t) (before ++ l :: after)).committed l.caller = false := by
      rw [State.committed, hreturned]
      rfl
    exact tables_of_not_committed hnot

/-- A request of the user `11111111-..` for the asset `22222222-..`. -/
def sampleRequest : NewRequest :=
  { newId := Uuid.replicate 5, userName := "", assetName := ""
    input := { userID := Uuid.replicate 1, assetID := (Uuid.replicate 2).toText, reason := "",
               requestedDurationSeconds := 60 } }

/-- A decision on it by the user `33333333-..`. -/
def sampleDecision : DecideRequestInput :=
  { requestID := (Uuid.replicate 5).toText, decidedByID := Uuid.replicate 3, decisionReason := "" }

def sampleApproval : Approval :=
  { newId := Uuid.replicate 6, input := sampleDecision, approverName := "" }

/-- The rejection finds the request pending and then waits for the lock of the approval, which
commits; when the rejection has the lock, the request is pending no longer. -/
def sampleSchedule : List Label :=
  [.begin 0 (.createRequest sampleRequest), .exec 0 0 .done, .exec 0 0 .done, .exec 0 0 .done,
   .begin 1 (.approveRequest sampleApproval), .begin 2 (.decideRequest (.reject sampleDecision "")),
   .exec 1 0 .done, .exec 2 0 .done, .exec 1 0 .done, .exec 2 0 .done,
   .exec 1 0 .done, .exec 1 0 .done, .exec 2 0 .done, .exec 1 0 .done, .exec 2 0 .done]

theorem lifecycle_safe_sampleSchedule :
    (run step (ofTables ⟨[], []⟩) sampleSchedule).tables.status (Uuid.replicate 5) =
      some .approved ∧
    (run step (ofTables ⟨[], []⟩) sampleSchedule).tables.grants.length = 1 ∧
    tally step (leavesPending (Uuid.replicate 5)) (ofTables ⟨[], []⟩) sampleSchedule ≤ 1 := by
  refine ⟨by decide, by decide, ?_⟩
  exact (lifecycle_safe consistent_nil sampleSchedule).1 (Uuid.replicate 5)

end OpsPlatform.Bastion.Interleaving
