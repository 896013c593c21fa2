/-
The session slots of users (`AcquireSession` in `internal/terminal/service.go`, and `ServeWS` in
`handler.go`, which takes one).

`AcquireSession` and the functions that it returns hold the mutex of the service from their first
line to their last, so each call is one step.  A returned function lives as long as its holder
likes; the state lists them all, with whether they have been called.
-/
import Mathlib.Logic.Function.Basic
import OpsPlatform.Lib.Run

namespace OpsPlatform.Terminal.Slots

open Lib Lib.Run

def maxSessionsPerUser : Int := 10

/-- `sessions` of `Service`; a user that is not in the map has zero. -/
abbrev Sessions := String → Int

/-- `AcquireSession`, without the function that it returns. -/
def acquireSession (sessions : Sessions) (userID : String) : Except String Sessions :=
  if maxSessionsPerUser ≤ sessions userID then
    .error "max concurrent terminal sessions reached"
  else .ok (Function.update sessions userID (sessions userID + 1))

/-- The function that `AcquireSession` returns for the user. -/
def release (sessions : Sessions) (userID : String) : Sessions :=
  if 0 < sessions userID then Function.update sessions userID (sessions userID - 1) else sessions

/-- A function that `AcquireSession` has returned. -/
structure Slot where
  userID : String
  released : Bool := false

structure State where
  sessions : Sessions := fun _ => 0
  /-- in the order of the calls that returned them -/
  slots : List Slot := []

/-- `NewService`. -/
def init : State := {}

inductive Label where
  | acquire (userID : String)
  /-- a call of the function of a slot -/
  | release (slot : ℕ)

namespace State

variable (s : State)

/-- The slots of the user that are acquired and not yet released. -/
def outstanding (userID : String) : ℕ :=
  s.slots.countP fun slot => slot.userID = userID && !slot.released

/-- `slot` is called. -/
def call (i : ℕ) (slot : Slot) : State :=
  { sessions := Slots.release s.sessions slot.userID
    slots := s.slots.set i { slot with released := true } }

/-- The user whose call a step is. -/
def userOf : Label → Option String
  | .acquire userID => some userID
  | .release i => s.slots[i]?.map Slot.userID

end State

def step (s : State) : Label → State
  | .acquire userID =>
    match acquireSession s.sessions userID with
    | .error _ => s
    | .ok sessions => { sessions, slots := s.slots ++ [{ userID }] }
  | .release i =>
    match s.slots[i]? with
    | none => s
    | some slot => s.call i slot

/-- A function that is called has not been called before. -/
def Once (s : State) : Label → Prop
  | .acquire _ => True
  | .release i => ∀ slot, s.slots[i]? = some slot → slot.released = false

/-! ### What a call changes -/

section

variable {s : State}

lemma acquireSession_eq_ok {sessions sessions' : Sessions} {userID : String}
    (h : acquireSession sessions userID = .ok sessions') :
    sessions userID < maxSessionsPerUser ∧
      sessions' = Function.update sessions userID (sessions userID + 1) := by
  rw [acquireSession] at h
  split at h
  · cases h
  · next hlt => exact ⟨Int.not_le.mp hlt, (Except.ok.inj h).symm⟩

lemma acquireSession_eq_error_iff {sessions : Sessions} {userID : String} :
    (∃ e, acquireSession sessions userID = .error e) ↔ maxSessionsPerUser ≤ sessions userID := by
  rw [acquireSession]
  split
  · next hle => exact ⟨fun _ => hle, fun _ => ⟨_, rfl⟩⟩
  · next hlt =>
    constructor
    · rintro ⟨e, he⟩
      cases he
    · exact fun hle => absurd hle hlt

lemma release_of_ne {sessions : Sessions} {userID u : String} (h : u ≠ userID) :
    release sessions userID u = sessions u := by
  rw [release]
  split
  · exact Function.update_of_ne h _ _
  · rfl

/-- The counter of a user changes only with a call of this user. -/
lemma sessions_step_of_ne {l : Label} {u : String} (h : s.userOf l ≠ some u) :
    (step s l).sessions u = s.sessions u := by
  cases l with
  | acquire userID =>
    have hne : u ≠ userID := by
      rintro rfl
      exact h rfl
    rw [step]
    split
    · rfl
    · next sessions hacquire =>
      rw [(acquireSession_eq_ok hacquire).2]
      exact Function.update_of_ne hne _ _
  | release i =>
    rw [step]
    split
    · rfl
    · next slot hslot =>
      refine release_of_ne fun heq => h ?_
      rw [State.userOf, hslot, heq]
      rfl

lemma outstanding_acquired (sessions : Sessions) (userID u : String) :
    State.outstanding { sessions, slots := s.slots ++ [{ userID }] } u =
      s.outstanding u + if userID = u then 1 else 0 := by
  rw [State.outstanding, List.countP_append, State.outstanding]
  by_cases h : userID = u <;> simp [h]

/-- A slot that is released was outstanding for its user. -/
lemma outstanding_call {i : ℕ} {slot : Slot} (hslot : s.slots[i]? = some slot)
    (hfirst : slot.released = false) (u : String) :
    (s.call i slot).outstanding u + (if slot.userID = u then 1 else 0) = s.outstanding u := by
  obtain ⟨hi, hget⟩ := List.getElem?_eq_some_iff.mp hslot
  have hcount : (s.call i slot).outstanding u =
      s.outstanding u - if slot.userID = u then 1 else 0 := by
    rw [State.outstanding, State.call, List.countP_set hi, hget, State.outstanding]
    simp [hfirst]
  have hle : (if slot.userID = u then 1 else 0) ≤ s.outstanding u := by
    have hone := List.boole_getElem_le_countP
      (p := fun slot : Slot => slot.userID = u && !slot.released) hi
    rw [hget] at hone
    simpa [hfirst, State.outstanding] using hone
  omega

/-- Every counter is the number of slots that are outstanding, and none exceeds the limit. -/
structure Counted (s : State) : Prop where
  counted : ∀ u, s.sessions u = s.outstanding u
  limit : ∀ u, s.sessions u ≤ maxSessionsPerUser

lemma counted_init : Counted init :=
  ⟨fun _ => rfl, fun _ => (by decide : (0 : Int) ≤ maxSessionsPerUser)⟩

lemma Counted.acquire (h : Counted s) {sessions : Sessions} {userID : String}
    (hacquire : acquireSession s.sessions userID = .ok sessions) :
    Counted { sessions, slots := s.slots ++ [{ userID }] } := by
  obtain ⟨hlt, rfl⟩ := acquireSession_eq_ok hacquire
  constructor
  · intro u
    rw [outstanding_acquired]
    by_cases hu : u = userID
    · subst hu
      simp [h.counted]
    · simp [hu, Ne.symm hu, h.counted]
  · intro u
    by_cases hu : u = userID
    · subst hu
      simp only [Function.update_self]
      omega
    · simp [hu, h.limit]

/-- A function that is called for the first time finds a counter that is positive. -/
lemma Counted.call (h : Counted s) {i : ℕ} {slot : Slot} (hslot : s.slots[i]? = some slot)
    (hfirst : slot.released = false) : Counted (s.call i slot) := by
  have hone := outstanding_call hslot hfirst slot.userID
  rw [if_pos rfl] at hone
  -- the clamp at zero is never met
  have hpos : 0 < s.sessions slot.userID := by
    rw [h.counted]
    omega
  have hsessions : (s.call i slot).sessions =
      Function.update s.sessions slot.userID (s.sessions slot.userID - 1) := if_pos hpos
  constructor
  · intro u
    have hcount := outstanding_call hslot hfirst u
    have hbefore := h.counted u
    rw [hsessions]
    by_cases hu : u = slot.userID
    · subst hu
      rw [Function.update_self]
      omega
    · rw [Function.update_of_ne hu]
      rw [if_neg (Ne.symm hu)] at hcount
      omega
  · intro u
    have hlimit := h.limit u
    rw [hsessions]
    by_cases hu : u = slot.userID
    · subst hu
      rw [Function.update_self]
      omega
    · rwa [Function.update_of_ne hu]

lemma Counted.step {l : Label} (h : Counted s) (honce : Once s l) : Counted (step s l) := by
  cases l with
  | acquire userID =>
    rw [Slots.step]
    split
    · exact h
    · next sessions hacquire => exact h.acquire hacquire
  | release i =>
    rw [Slots.step]
    split
    · exact h
    · next slot hslot => exact h.call hslot (honce slot hslot)

end

/-! ### Every order of calls -/

/-- What holds of a state between two calls. -/
structure Exact (s : State) : Prop where
  counted : ∀ u, s.sessions u = s.outstanding u
  bounded : ∀ u, 0 ≤ s.sessions u ∧ s.sessions u ≤ maxSessionsPerUser
  refused : ∀ u, (∃ e, acquireSession s.sessions u = .error e) ↔
    (s.outstanding u : Int) = maxSessionsPerUser
  apart : ∀ l u, s.userOf l ≠ some u → (step s l).sessions u = s.sessions u

lemma Counted.exact {s : State} (h : Counted s) : Exact s := by
  refine ⟨h.counted, fun u => ⟨?_, h.limit u⟩, fun u => ?_, fun l u => sessions_step_of_ne⟩
  · rw [h.counted]
    exact Int.natCast_nonneg _
  · have hcounted := h.counted u
    have hlimit := h.limit u
    rw [acquireSession_eq_error_iff]
    omega

/-- **Session slots are counted exactly.**  In every order of calls of `AcquireSession` and of the
functions that it has returned, each of these called at most once, the counter of a user is the
number of the user's slots that are acquired and not yet released, it stays between zero and the
limit, `AcquireSession` fails exactly when as many slots as the limit are outstanding, and a call
of one user leaves the counters of the others as they are. -/
theorem sessions_counted {ls : List Label} (h : Along step Once init ls) :
    Exact (run step init ls) :=
  (invariant_along (fun _ _ => Counted.step) counted_init h).exact

/-- Ten slots of one user are acquired, an eleventh is refused, and one is released. -/
def tenAndBack : List Label := List.replicate 11 (.acquire "u1") ++ [.acquire "u2", .release 3]

theorem sessions_counted_tenAndBack :
    Along step Once init tenAndBack ∧ (run step init tenAndBack).outstanding "u1" = 9 ∧
      Exact (run step init tenAndBack) := by
  have honce : Along step Once init tenAndBack := by
    refine ⟨trivial, trivial, trivial, trivial, trivial, trivial, trivial, trivial, trivial,
      trivial, trivial, trivial, ?_, trivial⟩
    intro slot hslot
    cases hslot
    rfl
  exact ⟨honce, by decide, sessions_counted honce⟩

/-! ### The requests -/

/-- A request for a terminal, as far as its slot goes. -/
inductive Request where
  | started
  /-- `AcquireSession` has returned, and the release is deferred -/
  | holding (slot : ℕ)
  | returned
deriving DecidableEq

structure Server where
  service : State := init
  requests : ℕ → Request := fun _ => .started

inductive ServeLabel where
  /-- the request comes to `AcquireSession` -/
  | acquires (r : ℕ) (userID : String)
  /-- `ServeWS` returns and runs what it has deferred -/
  | returns (r : ℕ)

/-- One step of `ServeWS`. -/
def serve (s : Server) : ServeLabel → Server
  | .acquires r userID =>
    if s.requests r = .started then
      { service := step s.service (.acquire userID)
        requests := Function.update s.requests r
          (match acquireSession s.service.sessions userID with
            | .error _ => .returned
            | .ok _ => .holding s.service.slots.length) }
    else s
  | .returns r =>
    match s.requests r with
    | .holding i =>
      { service := step s.service (.release i)
        requests := Function.update s.requests r .returned }
    | _ => s

/-- Each request holds a slot of its own that is not released. -/
structure Held (s : Server) : Prop where
  counted : Counted s.service
  unreleased : ∀ r i, s.requests r = .holding i →
    ∃ slot, s.service.slots[i]? = some slot ∧ slot.released = false
  own : ∀ r r' i, s.requests r = .holding i → s.requests r' = .holding i → r = r'

lemma held_init : Held {} :=
  ⟨counted_init, fun _ _ h => (by cases h), fun _ _ _ h => (by cases h)⟩

section

variable {s : Server}

/-- The slot of a request is in the list, below the next one. -/
lemma Held.lt_length (h : Held s) {r i : ℕ} (hr : s.requests r = .holding i) :
    i < s.service.slots.length := by
  obtain ⟨slot, hslot, -⟩ := h.unreleased r i hr
  exact (List.getElem?_eq_some_iff.mp hslot).1

/-- After `r` has returned, what holds a slot is another request that held it before. -/
lemma holding_of_returned {requests : ℕ → Request} {r r' i : ℕ}
    (h : Function.update requests r .returned r' = .holding i) :
    r' ≠ r ∧ requests r' = .holding i := by
  by_cases hr : r' = r
  · rw [hr, Function.update_self] at h
    cases h
  · rw [Function.update_of_ne hr] at h
    exact ⟨hr, h⟩

/-- A request that was refused holds nothing. -/
lemma Held.refused (h : Held s) (r : ℕ) :
    Held { s with requests := Function.update s.requests r .returned } := by
  refine ⟨h.counted, fun r' i hr' => ?_, fun r' r'' i hr' hr'' => ?_⟩
  · exact h.unreleased r' i (holding_of_returned hr').2
  · exact h.own r' r'' i (holding_of_returned hr').2 (holding_of_returned hr'').2

/-- A request that was admitted holds the newest slot. -/
lemma Held.admitted (h : Held s) {sessions : Sessions} {userID : String}
    (hacquire : acquireSession s.service.sessions userID = .ok sessions) (r : ℕ) :
    Held { service := { sessions, slots := s.service.slots ++ [{ userID }] }
           requests := Function.update s.requests r (.holding s.service.slots.length) } := by
  have hnew : ∀ {r' i}, Function.update s.requests r (.holding s.service.slots.length) r' =
      .holding i → r' = r ∧ i = s.service.slots.length ∨ s.requests r' = .holding i := by
    intro r' i hr'
    by_cases hr : r' = r
    · rw [hr, Function.update_self] at hr'
      exact Or.inl ⟨hr, (Request.holding.inj hr').symm⟩
    · rw [Function.update_of_ne hr] at hr'
      exact Or.inr hr'
  refine ⟨h.counted.acquire hacquire, fun r' i hr' => ?_, fun r' r'' i hr' hr'' => ?_⟩
  · rcases hnew hr' with ⟨-, rfl⟩ | hold
    · exact ⟨{ userID }, List.getElem?_concat_length, rfl⟩
    · obtain ⟨slot, hslot, hfirst⟩ := h.unreleased r' i hold
      exact ⟨slot, (List.getElem?_append_left (h.lt_length hold)).trans hslot, hfirst⟩
  · rcases hnew hr' with ⟨rfl, hi⟩ | hold <;> rcases hnew hr'' with ⟨rfl, hi'⟩ | hold'
    · rfl
    · exact absurd (h.lt_length hold') (by omega)
    · exact absurd (h.lt_length hold) (by omega)
    · exact h.own r' r'' i hold hold'

/-- The deferred release of a request is the first call of the function of its slot. -/
lemma Held.once (h : Held s) {r i : ℕ} (hr : s.requests r = .holding i) :
    Once s.service (.release i) := by
  intro slot hslot
  obtain ⟨slot', hslot', hfirst⟩ := h.unreleased r i hr
  rw [hslot] at hslot'
  rwa [Option.some.inj hslot']

lemma Held.returns (h : Held s) {r i : ℕ} (hr : s.requests r = .holding i) :
    Held { service := step s.service (.release i)
           requests := Function.update s.requests r .returned } := by
  obtain ⟨slot, hslot, -⟩ := h.unreleased r i hr
  have hslots : (step s.service (.release i)).slots =
      s.service.slots.set i { slot with released := true } := by
    rw [step, hslot]
    rfl
  refine ⟨h.counted.step (h.once hr), fun r' j hr' => ?_, fun r' r'' j hr' hr'' => ?_⟩
  · obtain ⟨hne, hold⟩ := holding_of_returned hr'
    have hij : i ≠ j := by
      rintro rfl
      exact hne (h.own r' r i hold hr)
    obtain ⟨slot', hslot', hfirst⟩ := h.unreleased r' j hold
    refine ⟨slot', ?_, hfirst⟩
    rw [hslots, List.getElem?_set_ne hij, hslot']
  · exact h.own r' r'' j (holding_of_returned hr').2 (holding_of_returned hr'').2

lemma Held.serve (h : Held s) (l : ServeLabel) : Held (serve s l) := by
  cases l with
  | acquires r userID =>
    rw [Slots.serve]
    split
    · rw [step]
      cases hacquire : acquireSession s.service.sessions userID with
      | error e => exact h.refused r
      | ok sessions => exact h.admitted hacquire r
    · exact h
  | returns r =>
    rw [Slots.serve]
    split
    · next i hr => exact h.returns hr
    · exact h

end

/-- The requests call each release at most once, so that the slots of the users are counted exactly
whatever order `ServeWS` takes and returns them in. -/
theorem serveWS_counted (ls : List ServeLabel) : Exact (run serve {} ls).service :=
  (invariant (fun _ l h => h.serve l) held_init ls).counted.exact

end OpsPlatform.Terminal.Slots
