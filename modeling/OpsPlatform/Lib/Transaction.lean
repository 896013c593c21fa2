/-
Requests to a database with transactions.

`db` is the database that everybody sees, `tx` the copy that the open transaction works on.  A
statement goes to the one or to the other: outside the transaction its effect is at once in the
database.  The calls of the driver can fail.

`WritesByCommit` says of a request that nothing is written before a commit.  Its rules follow the
constructs of a program; there is none for a statement outside the transaction that writes.
-/
import Mathlib.Order.Nat

namespace Lib.Transaction

/-- The database and the transaction of a request, with the number of its commits. -/
structure Conn (σ : Type) where
  db : σ
  tx : Option σ := none
  commits : ℕ := 0

/-- A program that uses the database. -/
abbrev Request (ε σ α : Type) := ExceptT ε (StateM (Conn σ)) α

/-- What a statement is sent to. -/
inductive Via where
  | db
  | tx

/-- The calls that fail, with their errors, and the error of a transaction that is over. -/
structure Driver (κ ε : Type) where
  fails : κ → Option ε
  txDone : ε

variable {κ ε σ α β : Type}

/-- What the request returns, and what it leaves. -/
def Request.runOn (x : Request ε σ α) (s : Conn σ) : Except ε α × Conn σ := x.run.run s

def Request.of (f : Conn σ → Except ε α × Conn σ) : Request ε σ α := ExceptT.mk f

namespace Driver

variable (d : Driver κ ε)

/-- The answer to a call. -/
def answer (call : κ) (x : Except ε α) : Except ε α :=
  match d.fails call with
  | some e => .error e
  | none => x

/-- `BeginTx`. -/
def beginTx (call : κ) : Request ε σ Unit :=
  Request.of fun s =>
    match d.answer call (.ok ()) with
    | .error e => (.error e, s)
    | .ok () => (.ok (), { s with tx := some s.db })

/-- A statement that writes.  In the transaction an error ends it. -/
def exec (call : κ) (via : Via) (f : σ → Except ε (σ × α)) : Request ε σ α :=
  Request.of fun s =>
    match via, s.tx with
    | .db, _ =>
      match d.answer call (f s.db) with
      | .error e => (.error e, s)
      | .ok (db, x) => (.ok x, { s with db })
    | .tx, none => (.error d.txDone, s)
    | .tx, some copy =>
      match d.answer call (f copy) with
      | .error e => (.error e, { s with tx := none })
      | .ok (copy, x) => (.ok x, { s with tx := some copy })

/-- A statement that reads. -/
def query (call : κ) (via : Via) (f : σ → Except ε α) : Request ε σ α :=
  d.exec call via fun db => (f db).map fun x => (db, x)

/-- `Commit`. -/
def commit (call : κ) : Request ε σ Unit :=
  Request.of fun s =>
    match s.tx with
    | none => (.error d.txDone, s)
    | some copy =>
      match d.answer call (.ok ()) with
      | .error e => (.error e, { s with tx := none })
      | .ok () => (.ok (), { db := copy, tx := none, commits := s.commits + 1 })

end Driver

/-- The rest of a function in which `Rollback` is deferred. -/
def deferRollback (x : Request ε σ α) : Request ε σ α :=
  Request.of fun s => ((x.runOn s).1, { (x.runOn s).2 with tx := none })

/-- A result that does not depend on the database. -/
def Request.ofExcept (x : Except ε α) : Request ε σ α := Request.of fun s => (x, s)

/-! ### Runs -/

section

variable {d : Driver κ ε} {call : κ} {s : Conn σ}

@[simp] lemma runOn_of (f : Conn σ → Except ε α × Conn σ) :
    (Request.of f).runOn s = f s := rfl

@[simp] lemma runOn_pure (a : α) : (pure a : Request ε σ α).runOn s = (.ok a, s) := rfl

@[simp] lemma runOn_throw (e : ε) : (throw e : Request ε σ α).runOn s = (.error e, s) := rfl

@[simp] lemma runOn_ofExcept (x : Except ε α) :
    (Request.ofExcept x : Request ε σ α).runOn s = (x, s) := rfl

@[simp] lemma runOn_deferRollback (x : Request ε σ α) :
    (deferRollback x).runOn s = ((x.runOn s).1, { (x.runOn s).2 with tx := none }) := rfl

lemma runOn_bind (x : Request ε σ α) (f : α → Request ε σ β) :
    (x >>= f).runOn s =
      match x.runOn s with
      | (.ok a, s') => (f a).runOn s'
      | (.error e, s') => (.error e, s') := by
  simp only [Request.runOn, ExceptT.run, StateT.run, bind, ExceptT.bind, ExceptT.mk, StateT.bind,
    ExceptT.bindCont]
  rcases x s with ⟨e | a, s'⟩ <;> rfl

lemma runOn_bind_of_ok {x : Request ε σ α} {a : α} {s' : Conn σ} (h : x.runOn s = (.ok a, s'))
    (f : α → Request ε σ β) : (x >>= f).runOn s = (f a).runOn s' := by
  rw [runOn_bind, h]

lemma Driver.answer_of_none (h : d.fails call = none) (x : Except ε α) :
    d.answer call x = x := by
  rw [Driver.answer, h]

lemma runOn_beginTx (h : d.fails call = none) :
    (d.beginTx call : Request ε σ Unit).runOn s = (.ok (), { s with tx := some s.db }) := by
  rw [Driver.beginTx, runOn_of, Driver.answer_of_none h]

lemma runOn_exec_tx {f : σ → Except ε (σ × α)} {copy copy' : σ} {x : α}
    (h : d.fails call = none) (htx : s.tx = some copy) (hf : f copy = .ok (copy', x)) :
    (d.exec call .tx f).runOn s = (.ok x, { s with tx := some copy' }) := by
  rw [Driver.exec, runOn_of, htx]
  dsimp only
  rw [Driver.answer_of_none h, hf]

/-- A statement that cannot be refused. -/
lemma runOn_exec_tx_ok {f : σ → σ × α} {copy : σ} (h : d.fails call = none)
    (htx : s.tx = some copy) :
    (d.exec call .tx fun db => .ok (f db)).runOn s =
      (.ok (f copy).2, { s with tx := some (f copy).1 }) :=
  runOn_exec_tx h htx rfl

lemma runOn_query_tx_ok {f : σ → α} {copy : σ} (h : d.fails call = none)
    (htx : s.tx = some copy) :
    (d.query call .tx fun db => .ok (f db)).runOn s = (.ok (f copy), s) := by
  have hread : (Except.ok (f copy) : Except ε α).map (fun x => (copy, x)) =
      .ok (copy, f copy) := rfl
  rw [Driver.query, runOn_exec_tx h htx hread, ← htx]

lemma runOn_query_db {f : σ → Except ε α} {x : α} (h : d.fails call = none)
    (hf : f s.db = .ok x) : (d.query call .db f).runOn s = (.ok x, s) := by
  rw [Driver.query, Driver.exec, runOn_of]
  dsimp only
  rw [Driver.answer_of_none h, hf]
  rfl

lemma runOn_commit {copy : σ} (h : d.fails call = none) (htx : s.tx = some copy) :
    (d.commit call : Request ε σ Unit).runOn s =
      (.ok (), { db := copy, tx := none, commits := s.commits + 1 }) := by
  rw [Driver.commit, runOn_of, htx]
  dsimp only
  rw [Driver.answer_of_none h]

end

/-! ### Nothing before the commit -/

/-- When the request does not commit, it leaves the database as it was. -/
def WritesByCommit (x : Request ε σ α) : Prop :=
  ∀ s, s.commits ≤ (x.runOn s).2.commits ∧
    ((x.runOn s).2.commits = s.commits → (x.runOn s).2.db = s.db)

section

variable {d : Driver κ ε}

/-- What leaves the database and the count alone. -/
lemma writesByCommit_of_eq {x : Request ε σ α}
    (h : ∀ s, (x.runOn s).2.db = s.db ∧ (x.runOn s).2.commits = s.commits) : WritesByCommit x :=
  fun s => ⟨(h s).2.ge, fun _ => (h s).1⟩

lemma writesByCommit_pure (a : α) : WritesByCommit (pure a : Request ε σ α) :=
  writesByCommit_of_eq fun _ => ⟨rfl, rfl⟩

lemma writesByCommit_throw (e : ε) : WritesByCommit (throw e : Request ε σ α) :=
  writesByCommit_of_eq fun _ => ⟨rfl, rfl⟩

lemma writesByCommit_ofExcept (x : Except ε α) :
    WritesByCommit (Request.ofExcept x : Request ε σ α) :=
  writesByCommit_of_eq fun _ => ⟨rfl, rfl⟩

lemma WritesByCommit.bind {x : Request ε σ α} {f : α → Request ε σ β} (hx : WritesByCommit x)
    (hf : ∀ a, WritesByCommit (f a)) : WritesByCommit (x >>= f) := by
  intro s
  obtain ⟨hle, hdb⟩ := hx s
  rw [runOn_bind]
  rcases hrun : x.runOn s with ⟨e | a, s'⟩
  · rw [hrun] at hle hdb
    exact ⟨hle, hdb⟩
  · rw [hrun] at hle hdb
    obtain ⟨hle', hdb'⟩ := hf a s'
    refine ⟨hle.trans hle', fun heq => ?_⟩
    -- no commit in the one part and none in the other
    have hnone : s'.commits = s.commits := le_antisymm (hle'.trans_eq heq) hle
    exact (hdb' (heq.trans hnone.symm)).trans (hdb hnone)

lemma WritesByCommit.forM {f : α → Request ε σ PUnit} (h : ∀ a, WritesByCommit (f a))
    (l : List α) : WritesByCommit (forM l f) := by
  induction l with
  | nil => exact writesByCommit_pure ()
  | cons a l ih =>
    rw [List.forM_cons]
    exact (h a).bind fun _ => ih

lemma WritesByCommit.deferRollback {x : Request ε σ α} (h : WritesByCommit x) :
    WritesByCommit (Transaction.deferRollback x) := h

lemma writesByCommit_beginTx (call : κ) :
    WritesByCommit (d.beginTx call : Request ε σ Unit) := by
  refine writesByCommit_of_eq fun s => ?_
  rw [Driver.beginTx, runOn_of]
  split <;> exact ⟨rfl, rfl⟩

/-- A statement of the transaction. -/
lemma writesByCommit_exec (call : κ) (f : σ → Except ε (σ × α)) :
    WritesByCommit (d.exec call .tx f) := by
  refine writesByCommit_of_eq fun s => ?_
  rw [Driver.exec, runOn_of]
  cases s.tx with
  | none => exact ⟨rfl, rfl⟩
  | some copy =>
    dsimp only
    split <;> exact ⟨rfl, rfl⟩

lemma writesByCommit_query (call : κ) (via : Via) (f : σ → Except ε α) :
    WritesByCommit (d.query call via f) := by
  cases via with
  | tx => exact writesByCommit_exec call _
  | db =>
    refine writesByCommit_of_eq fun s => ?_
    rw [Driver.query, Driver.exec, runOn_of]
    dsimp only
    split
    · exact ⟨rfl, rfl⟩
    · next db x hanswer =>
      -- the database that a read leaves is the one it has read
      obtain rfl : db = s.db := by
        rw [Driver.answer] at hanswer
        split at hanswer
        · cases hanswer
        · cases hf : f s.db with
          | error e =>
            rw [hf] at hanswer
            cases hanswer
          | ok y =>
            rw [hf] at hanswer
            cases hanswer
            rfl
      exact ⟨rfl, rfl⟩

lemma writesByCommit_commit (call : κ) : WritesByCommit (d.commit call : Request ε σ Unit) := by
  intro s
  rw [Driver.commit, runOn_of]
  cases s.tx with
  | none => exact ⟨le_rfl, fun _ => rfl⟩
  | some copy =>
    dsimp only
    split
    · exact ⟨le_rfl, fun _ => rfl⟩
    · exact ⟨Nat.le_succ _, fun heq => absurd heq (Nat.succ_ne_self _)⟩

end

end Lib.Transaction
