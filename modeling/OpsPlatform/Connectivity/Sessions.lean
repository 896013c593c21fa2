/-
Whole runs of the ticket service: any interleaving of issues, consumptions, sessions of the
three protocols and sweeps of the collector, under a clock that does not go back.

The history records the calls of `IssueTicket` with the time they read, the successful
consumptions and the sessions that got past their ticket checks.  A token passes through three
places: it is in flight from the draw to the insertion, then in the map, then gone; while it
is in one of the first two, nothing but its issue is recorded of it.
-/
import OpsPlatform.Connectivity.Ticket
import OpsPlatform.Lib.History
import OpsPlatform.Lib.Run

namespace OpsPlatform.Connectivity

open Lib Lib.Run Lib.History

/-- What the history records. -/
inductive Event where
  | issued (token : String) (t : Ticket) (time : Time)
  | consumed (token : String) (t : Ticket) (time : Time)
  | session (p : Protocol) (assetID userID userName token : String) (time : Time)
deriving DecidableEq

def Event.token : Event → String
  | .issued token _ _ => token
  | .consumed token _ _ => token
  | .session _ _ _ _ token _ => token

/-- The event is an issue of the token. -/
def Event.issues (k : String) : Event → Bool
  | .issued token _ _ => token == k
  | _ => false

/-- The event is a successful consumption of the token. -/
def Event.consumes (k : String) : Event → Bool
  | .consumed token _ _ => token == k
  | _ => false

/-- The event is a session opened with the token. -/
def Event.opens (k : String) : Event → Bool
  | .session _ _ _ _ token _ => token == k
  | _ => false

/-- The service with the calls of `IssueTicket` that have not taken the lock yet. -/
structure State where
  svc : TicketService
  now : Time
  inFlight : String → Option TicketEntry := fun _ => none
  history : List Event := []

/-- A step of the clock, of a call, or of the collector. -/
inductive Label where
  | tick (d : ℕ)
  | draw (token : String) (t : Ticket)
  | insert (token : String)
  | consume (token : String)
  | serveWS (p : Protocol) (assetID token : String)
  | gc

/-- What a call of `ConsumeTicket` leaves in the history. -/
def consumption (s : State) (token : String) : List Event :=
  match (s.svc.consumeTicket s.now token).2 with
  | .ok t => [.consumed token t s.now]
  | .error _ => []

/-- What a call of `ServeWS` leaves in the history: it consumes a token that is not empty, and
opens a session when its checks pass. -/
def served (s : State) (p : Protocol) (assetID token : String) : List Event :=
  let opened :=
    match (serveWSChecks s.svc s.now assetID token).2 with
    | .ok t => [.session p assetID t.userID t.userName token s.now]
    | .error _ => []
  opened ++ if token = "" then [] else consumption s token

def step (s : State) : Label → State
  | .tick d => { s with now := s.now + d }
  | .draw token t =>
    { s with inFlight := fun k => if k = token then some (s.svc.draw s.now t) else s.inFlight k
             history := .issued token t s.now :: s.history }
  | .insert token =>
    match s.inFlight token with
    | none => s
    | some entry =>
      { s with svc := s.svc.insert token entry
               inFlight := fun k => if k = token then none else s.inFlight k }
  | .consume token =>
    { s with svc := (s.svc.consumeTicket s.now token).1
             history := consumption s token ++ s.history }
  | .serveWS p assetID token =>
    { s with svc := (serveWSChecks s.svc s.now assetID token).1
             history := served s p assetID token ++ s.history }
  | .gc => { s with svc := s.svc.gc s.now }

/-- A token is drawn only if it was not drawn before. -/
def Label.Fresh (s : State) : Label → Prop
  | .draw token _ => ∀ e ∈ s.history, e.issues token = false
  | _ => True

/-! ### The functions of the service -/

/-- A consumption that succeeds found an entry of the ticket that has not expired. -/
lemma consumeTicket_eq_ok {svc : TicketService} {now : Time} {token : String} {t : Ticket}
    (h : (svc.consumeTicket now token).2 = .ok t) :
    ∃ entry, svc.tickets token = some entry ∧ entry.ticket = t ∧ now ≤ entry.expiresAt := by
  rw [TicketService.consumeTicket] at h
  split at h
  · cases h
  · next entry hentry =>
    split at h
    · cases h
    · next hexp =>
      exact ⟨entry, hentry, Except.ok.inj h, not_lt.mp hexp⟩

/-- After a consumption the token is gone, and the others are as they were. -/
lemma consumeTicket_fst (svc : TicketService) (now : Time) (token : String) :
    (svc.consumeTicket now token).1 = svc.delete token := by
  rw [TicketService.consumeTicket]
  split
  · next h =>
    -- deleting a token that is not there changes nothing
    have : (fun k => if k = token then none else svc.tickets k) = svc.tickets := by
      funext k
      by_cases hk : k = token
      · rw [if_pos hk, hk, h]
      · rw [if_neg hk]
    rw [TicketService.delete, this]
  · split <;> rfl

lemma serveWSChecks_fst (svc : TicketService) (now : Time) (assetID token : String) :
    (serveWSChecks svc now assetID token).1 =
      if token = "" then svc else svc.delete token := by
  rw [serveWSChecks]
  split
  · rfl
  · rw [← consumeTicket_fst svc now token]
    split
    · next s e h => rw [h]
    · next s t h =>
      rw [h]
      split <;> rfl

/-- The checks of `ServeWS` pass for a consumed ticket of the asset of the route. -/
lemma serveWSChecks_eq_ok {svc : TicketService} {now : Time} {assetID token : String} {t : Ticket}
    (h : (serveWSChecks svc now assetID token).2 = .ok t) :
    token ≠ "" ∧ (svc.consumeTicket now token).2 = .ok t ∧ t.assetID = assetID := by
  rw [serveWSChecks] at h
  split at h
  · cases h
  · next hne =>
    split at h
    · cases h
    · next s t' hcons =>
      split at h
      · cases h
      · next hasset =>
        obtain rfl := Except.ok.inj h
        rw [hcons]
        exact ⟨hne, rfl, not_not.mp hasset⟩

/-! ### The invariant -/

/-- The token was issued for the ticket, no longer than `ttl` before `time`. -/
def IssuedFor (ttl : Int) (k : String) (t : Ticket) (time : Time) (es : List Event) : Prop :=
  ∃ time₀, .issued k t time₀ ∈ es ∧ time₀ ≤ time ∧ time ≤ time₀ + ttl

/-- What holds of an event with respect to the events before it. -/
def EventOk (ttl : Int) : Event → List Event → Prop
  | .issued k _ _, es => ∀ e ∈ es, e.token ≠ k
  | .consumed k t time, es =>
    IssuedFor ttl k t time es ∧ ∀ e ∈ es, e.consumes k = false
  | .session _ assetID userID userName k time, es =>
    IssuedFor ttl k { userID, userName, assetID } time es ∧ ∀ e ∈ es, e.opens k = false

/-- The entry is the one that the token was issued with, and nothing else has happened to the
token. -/
structure OnlyIssued (ttl : Int) (now : Time) (es : List Event) (k : String)
    (entry : TicketEntry) : Prop where
  issued : ∃ time₀, .issued k entry.ticket time₀ ∈ es ∧ entry.expiresAt = time₀ + ttl ∧
    time₀ ≤ now
  only : ∀ e ∈ es, e.token = k → e.issues k = true

structure Inv (ttl : Int) (s : State) : Prop where
  ttl_eq : s.svc.ttl = ttl
  history_ok : Throughout (EventOk ttl) s.history
  inFlight_ok : ∀ k entry, s.inFlight k = some entry →
    OnlyIssued ttl s.now s.history k entry ∧ s.svc.tickets k = none
  tickets_ok : ∀ k entry, s.svc.tickets k = some entry →
    OnlyIssued ttl s.now s.history k entry

/-- No event is recorded of a token that was never issued. -/
lemma token_ne_of_not_issued {ttl : Int} {es : List Event} (h : Throughout (EventOk ttl) es)
    {k : String} (hk : ∀ e ∈ es, e.issues k = false) : ∀ e ∈ es, e.token ≠ k := by
  have hissued : ∀ e ∈ es, ∃ e' ∈ es, e'.issues e.token = true := by
    refine h.forall_mem (Q := fun e es => ∃ e' ∈ es, e'.issues e.token = true) ?_ ?_
    · intro e es he
      cases e with
      | issued token t time => exact ⟨_, List.mem_cons_self, by simp [Event.issues, Event.token]⟩
      | consumed token t time =>
        obtain ⟨⟨time₀, hmem, -⟩, -⟩ := he
        exact ⟨_, List.mem_cons_of_mem _ hmem, by simp [Event.issues, Event.token]⟩
      | session p assetID userID userName token time =>
        obtain ⟨⟨time₀, hmem, -⟩, -⟩ := he
        exact ⟨_, List.mem_cons_of_mem _ hmem, by simp [Event.issues, Event.token]⟩
    · rintro e e' es ⟨e'', hmem, hi⟩
      exact ⟨e'', List.mem_cons_of_mem _ hmem, hi⟩
  intro e he heq
  obtain ⟨e', he', hi⟩ := hissued e he
  rw [heq, hk e' he'] at hi
  cases hi

/-- Events of other tokens and the passing of time leave a token where it is. -/
lemma OnlyIssued.mono {ttl : Int} {now now' : Time} {es es' : List Event} {k : String}
    {entry : TicketEntry} (h : OnlyIssued ttl now es k entry) (hnow : now ≤ now')
    (hes : ∀ e ∈ es', e.token ≠ k) : OnlyIssued ttl now' (es' ++ es) k entry := by
  obtain ⟨⟨time₀, hmem, hexp, htime⟩, honly⟩ := h
  refine ⟨⟨time₀, List.mem_append_right _ hmem, hexp, htime.trans hnow⟩, ?_⟩
  intro e he heq
  rcases List.mem_append.mp he with he | he
  · exact absurd heq (hes e he)
  · exact honly e he heq

/-- A token whose entry has not expired was issued in time. -/
lemma OnlyIssued.issuedFor {ttl : Int} {now : Time} {es : List Event} {k : String}
    {entry : TicketEntry} (h : OnlyIssued ttl now es k entry) (hexp : now ≤ entry.expiresAt) :
    IssuedFor ttl k entry.ticket now es := by
  obtain ⟨time₀, hmem, heq, htime⟩ := h.issued
  exact ⟨time₀, hmem, htime, heq ▸ hexp⟩

lemma OnlyIssued.not_consumed {ttl : Int} {now : Time} {es : List Event} {k : String}
    {entry : TicketEntry} (h : OnlyIssued ttl now es k entry) :
    ∀ e ∈ es, e.consumes k = false ∧ e.opens k = false := by
  intro e he
  by_cases heq : e.token = k
  · have hi := h.only e he heq
    cases e with
    | issued token t time => exact ⟨rfl, rfl⟩
    | consumed token t time => cases hi
    | session p assetID userID userName token time => cases hi
  · cases e with
    | issued token t time => exact ⟨rfl, rfl⟩
    | consumed token t time =>
      exact ⟨by simpa [Event.consumes, Event.token] using heq, rfl⟩
    | session p assetID userID userName token time =>
      exact ⟨rfl, by simpa [Event.opens, Event.token] using heq⟩

/-! ### One step -/

/-- A token leaves the map, with or without a record of its use. -/
lemma Inv.remove {ttl : Int} {s : State} (h : Inv ttl s) {k : String} {es : List Event}
    (hes : ∀ e ∈ es, e.token = k) (hok : Throughout (EventOk ttl) (es ++ s.history))
    (hflight : s.svc.tickets k = none → es = []) :
    Inv ttl { s with svc := s.svc.delete k, history := es ++ s.history } := by
  have hother : ∀ k', k' ≠ k → ∀ e ∈ es, e.token ≠ k' := by
    intro k' hne e he heq
    exact hne (heq.symm.trans (hes e he))
  refine ⟨h.ttl_eq, hok, ?_, ?_⟩
  · intro k' entry hk'
    obtain ⟨hissued, hnone⟩ := h.inFlight_ok k' entry hk'
    by_cases hk : k' = k
    · subst hk
      rw [hflight hnone]
      exact ⟨hissued, if_pos rfl⟩
    · exact ⟨hissued.mono le_rfl (hother k' hk), (if_neg hk).trans hnone⟩
  · intro k' entry hk'
    by_cases hk : k' = k
    · simp [TicketService.delete, hk] at hk'
    · simp only [TicketService.delete, if_neg hk] at hk'
      exact (h.tickets_ok k' entry hk').mono le_rfl (hother k' hk)

/-- The record of a consumption is justified. -/
lemma Inv.consumption_ok {ttl : Int} {s : State} (h : Inv ttl s) (k : String) :
    (∀ e ∈ consumption s k, e.token = k) ∧
      Throughout (EventOk ttl) (consumption s k ++ s.history) ∧
      (s.svc.tickets k = none → consumption s k = []) := by
  rw [consumption]
  split
  · next t ht =>
    obtain ⟨entry, hentry, rfl, hexp⟩ := consumeTicket_eq_ok ht
    have hissued := h.tickets_ok k entry hentry
    refine ⟨by simp [Event.token], ⟨⟨hissued.issuedFor hexp, ?_⟩, h.history_ok⟩, ?_⟩
    · exact fun e he => (hissued.not_consumed e he).1
    · intro hnone
      rw [hnone] at hentry
      cases hentry
  · exact ⟨by simp, h.history_ok, fun _ => rfl⟩

/-- So is the record of a call of `ServeWS`. -/
lemma Inv.served_ok {ttl : Int} {s : State} (h : Inv ttl s) (p : Protocol) (assetID k : String)
    (hk : k ≠ "") :
    (∀ e ∈ served s p assetID k, e.token = k) ∧
      Throughout (EventOk ttl) (served s p assetID k ++ s.history) ∧
      (s.svc.tickets k = none → served s p assetID k = []) := by
  obtain ⟨htoken, hok, hnone⟩ := h.consumption_ok k
  simp only [served, if_neg hk]
  split
  · next t ht =>
    obtain ⟨-, hcons, rfl⟩ := serveWSChecks_eq_ok ht
    obtain ⟨entry, hentry, rfl, hexp⟩ := consumeTicket_eq_ok hcons
    have hissued := h.tickets_ok k entry hentry
    -- the consumption is recorded just before the session
    have hrec : consumption s k = [.consumed k entry.ticket s.now] := by rw [consumption, hcons]
    rw [hrec] at hok ⊢
    refine ⟨by simp [Event.token], ⟨⟨?_, ?_⟩, hok⟩, ?_⟩
    · obtain ⟨time₀, hmem, htime⟩ := hissued.issuedFor hexp
      exact ⟨time₀, List.mem_cons_of_mem _ hmem, htime⟩
    · intro e he
      rcases List.mem_cons.mp he with rfl | he
      · rfl
      · exact (hissued.not_consumed e he).2
    · intro hn
      rw [hn] at hentry
      cases hentry
  · exact ⟨htoken, hok, hnone⟩

lemma step_inv {ttl : Int} {s : State} {l : Label} (h : Inv ttl s) (hl : l.Fresh s) :
    Inv ttl (step s l) := by
  cases l with
  | tick d =>
    have hnow : s.now ≤ s.now + d := Int.le_add_of_nonneg_right (Int.natCast_nonneg d)
    refine ⟨h.ttl_eq, h.history_ok, ?_, ?_⟩
    · intro k entry hk
      obtain ⟨hissued, hnone⟩ := h.inFlight_ok k entry hk
      exact ⟨hissued.mono hnow (List.forall_mem_nil _), hnone⟩
    · intro k entry hk
      exact (h.tickets_ok k entry hk).mono hnow (List.forall_mem_nil _)
  | draw token t =>
    -- the drawn token occurs nowhere in the history
    have hfresh := token_ne_of_not_issued h.history_ok hl
    have hother : ∀ k, k ≠ token → ∀ e ∈ [Event.issued token t s.now], e.token ≠ k := by
      intro k hne e he heq
      rw [List.mem_singleton.mp he] at heq
      exact hne heq.symm
    have htickets : s.svc.tickets token = none := by
      rw [Option.eq_none_iff_forall_ne_some]
      intro entry hentry
      obtain ⟨time₀, hmem, -⟩ := (h.tickets_ok token entry hentry).issued
      exact hfresh _ hmem rfl
    refine ⟨h.ttl_eq, ⟨hfresh, h.history_ok⟩, ?_, ?_⟩
    · intro k entry hk
      simp only [step] at hk
      split at hk
      · next heq =>
        obtain rfl := Option.some.inj hk
        subst heq
        refine ⟨⟨⟨s.now, List.mem_cons_self, ?_, le_rfl⟩, ?_⟩, htickets⟩
        · rw [TicketService.draw, h.ttl_eq]
        · intro e he heq
          rcases List.mem_cons.mp he with rfl | he
          · simp [Event.issues]
          · exact absurd heq (hfresh e he)
      · next hne =>
        obtain ⟨hissued, hnone⟩ := h.inFlight_ok k entry hk
        exact ⟨hissued.mono le_rfl (hother k hne), hnone⟩
    · intro k entry hk
      have hne : k ≠ token := by
        rintro rfl
        rw [show s.svc.tickets k = some entry from hk] at htickets
        cases htickets
      exact (h.tickets_ok k entry hk).mono le_rfl (hother k hne)
  | insert token =>
    simp only [step]
    split
    · exact h
    -- the ticket moves from those in flight to the map
    · next entry hentry =>
      refine ⟨h.ttl_eq, h.history_ok, ?_, ?_⟩
      · intro k entry' hk
        dsimp only at hk
        split at hk
        · cases hk
        · next hne =>
          obtain ⟨hissued, hnone⟩ := h.inFlight_ok k entry' hk
          exact ⟨hissued, (if_neg hne).trans hnone⟩
      · intro k entry' hk
        simp only [TicketService.insert] at hk
        split at hk
        · next heq =>
          obtain rfl := Option.some.inj hk
          rw [heq]
          exact (h.inFlight_ok token entry hentry).1
        · exact h.tickets_ok k entry' hk
  | consume token =>
    obtain ⟨htoken, hok, hnone⟩ := h.consumption_ok token
    simp only [step, consumeTicket_fst]
    exact h.remove htoken hok hnone
  | serveWS p assetID token =>
    simp only [step, serveWSChecks_fst]
    split
    · next hempty =>
      have hserved : served s p assetID token = [] := by
        simp [served, serveWSChecks, hempty]
      rw [hserved]
      exact h
    · next hne =>
      obtain ⟨htoken, hok, hnone⟩ := h.served_ok p assetID token hne
      exact h.remove htoken hok hnone
  | gc =>
    -- collection only removes tickets
    have hsub : ∀ k entry, (s.svc.gc s.now).tickets k = some entry →
        s.svc.tickets k = some entry := by
      intro k entry hk
      exact (Option.filter_eq_some_iff.mp hk).1
    refine ⟨h.ttl_eq, h.history_ok, ?_, fun k entry hk => h.tickets_ok k entry (hsub k entry hk)⟩
    intro k entry hk
    obtain ⟨hissued, hnone⟩ := h.inFlight_ok k entry hk
    refine ⟨hissued, ?_⟩
    simp [step, TicketService.gc, hnone]

/-! ### Every run -/

/-- The token that a step draws. -/
def Label.drawnToken : Label → Option String
  | .draw token _ => some token
  | _ => none

lemma step_issues {s : State} {l : Label} {k : String} (hl : l.drawnToken ≠ some k)
    (h : ∀ e ∈ s.history, e.issues k = false) : ∀ e ∈ (step s l).history, e.issues k = false := by
  have hconsumption : ∀ token, ∀ e ∈ consumption s token, e.issues k = false := by
    intro token e he
    rw [consumption] at he
    split at he
    · rw [List.mem_singleton.mp he]
      rfl
    · cases he
  intro e he
  cases l with
  | tick d => exact h e he
  | draw token t =>
    rcases List.mem_cons.mp he with rfl | he
    · simpa [Event.issues, Label.drawnToken] using hl
    · exact h e he
  | insert token =>
    simp only [step] at he
    split at he
    · exact h e he
    · exact h e he
  | consume token =>
    rcases List.mem_append.mp he with he | he
    · exact hconsumption token e he
    · exact h e he
  | serveWS p assetID token =>
    rcases List.mem_append.mp he with he | he
    · rcases List.mem_append.mp he with he | he
      · split at he
        · rw [List.mem_singleton.mp he]
          rfl
        · cases he
      · split at he
        · cases he
        · exact hconsumption token e he
    · exact h e he
  | gc => exact h e he

/-- Along a run whose draws are pairwise distinct, each of them is fresh. -/
lemma along_fresh {ls : List Label} (hdistinct : (ls.filterMap Label.drawnToken).Nodup) :
    ∀ {s : State}, (∀ k ∈ ls.filterMap Label.drawnToken, ∀ e ∈ s.history, e.issues k = false) →
      Along step (fun s l => l.Fresh s) s ls := by
  induction ls with
  | nil => intro s _; trivial
  | cons l ls ih =>
    intro s hs
    cases hl : l.drawnToken with
    | none =>
      rw [List.filterMap_cons_none hl] at hdistinct hs
      refine ⟨?_, ih hdistinct fun k hk => step_issues (by simp [hl]) (hs k hk)⟩
      cases l with
      | draw token t => cases hl
      | _ => trivial
    | some token =>
      rw [List.filterMap_cons_some hl] at hdistinct hs
      obtain ⟨hnotin, hdistinct⟩ := List.nodup_cons.mp hdistinct
      refine ⟨?_, ih hdistinct fun k hk => step_issues ?_ (hs k (List.mem_cons_of_mem _ hk))⟩
      · cases l with
        | draw token' t =>
          obtain rfl := Option.some.inj hl
          exact hs token' List.mem_cons_self
        | _ => trivial
      · rw [hl]
        rintro ⟨⟩
        exact hnotin hk

/-- The state in which the service starts. -/
def initial (ttl : Int) (now : Time) : State := { svc := newTicketService ttl, now }

lemma inv_initial (ttl : Int) (now : Time) : Inv (newTicketService ttl).ttl (initial ttl now) where
  ttl_eq := rfl
  history_ok := trivial
  inFlight_ok k entry hk := by cases hk
  tickets_ok k entry hk := by cases hk

section

variable {ttl : Int} {es : List Event} (h : Throughout (EventOk ttl) es) (k : String)

include h

lemma countP_issues_le_one : es.countP (·.issues k) ≤ 1 := by
  refine h.countP_le_one ?_
  intro e es he hk e' he'
  cases e with
  | issued token t time =>
    have htoken : token = k := by simpa [Event.issues] using hk
    have hne := he e' he'
    cases e' with
    | issued token' t' time' => simpa [Event.issues, htoken, Event.token] using hne
    | _ => rfl
  | _ => cases hk

lemma countP_consumes_le_one : es.countP (·.consumes k) ≤ 1 := by
  refine h.countP_le_one ?_
  intro e es he hk
  cases e with
  | consumed token t time =>
    have htoken : token = k := by simpa [Event.consumes] using hk
    rw [← htoken]
    exact he.2
  | _ => cases hk

lemma countP_opens_le_one : es.countP (·.opens k) ≤ 1 := by
  refine h.countP_le_one ?_
  intro e es he hk
  cases e with
  | session p assetID userID userName token time =>
    have htoken : token = k := by simpa [Event.opens] using hk
    rw [← htoken]
    exact he.2
  | _ => cases hk

end

/-- **Tickets are safe over whole runs.**  In every run whose drawn tokens are pairwise
distinct: a token is consumed successfully at most once, within `ttl` of its issue and with the
triple it was issued with; the collector keeps what has not expired; and every session was
preceded, within `ttl`, by the one issue of its token, which was for the user and the asset of
the session, and no other session used it. -/
theorem tickets_safe (ttl : Int) (now : Time) (ls : List Label)
    (hdistinct : (ls.filterMap Label.drawnToken).Nodup) :
    let s := run step (initial ttl now) ls
    (∀ k, s.history.countP (·.consumes k) ≤ 1) ∧
    (∀ later earlier k t time, s.history = later ++ .consumed k t time :: earlier →
      ∃ time₀, .issued k t time₀ ∈ earlier ∧ time₀ ≤ time ∧
        time ≤ time₀ + (newTicketService ttl).ttl) ∧
    (∀ k entry, s.svc.tickets k = some entry → s.now ≤ entry.expiresAt →
      (step s .gc).svc.tickets k = some entry) ∧
    (∀ later earlier p assetID userID userName k time,
      s.history = later ++ .session p assetID userID userName k time :: earlier →
      (∃ time₀, .issued k { userID, userName, assetID } time₀ ∈ earlier ∧ time₀ ≤ time ∧
        time ≤ time₀ + (newTicketService ttl).ttl) ∧
      s.history.countP (·.issues k) = 1 ∧ s.history.countP (·.opens k) = 1) := by
  intro s
  have hinv : Inv (newTicketService ttl).ttl s :=
    invariant_along (fun s l h hl => step_inv h hl) (inv_initial ttl now)
      (along_fresh hdistinct fun k _ e he => by cases he)
  have hok := hinv.history_ok
  refine ⟨countP_consumes_le_one hok, ?_, ?_, ?_⟩
  · intro later earlier k t time heq
    rw [heq] at hok
    exact hok.of_split.1
  · intro k entry hk hexp
    refine Option.filter_eq_some_iff.mpr ⟨hk, ?_⟩
    simpa using hexp
  · intro later earlier p assetID userID userName k time heq
    have hsession := hok
    rw [heq] at hsession
    obtain ⟨⟨time₀, hmem, htime⟩, -⟩ := hsession.of_split
    refine ⟨⟨time₀, hmem, htime⟩, ?_, ?_⟩
    · have hpos : 0 < s.history.countP (·.issues k) := by
        rw [List.countP_pos_iff]
        exact ⟨_, by rw [heq]; exact List.mem_append_right _ (List.mem_cons_of_mem _ hmem),
          by simp [Event.issues]⟩
      have hle := countP_issues_le_one hok k
      omega
    · have hpos : 0 < s.history.countP (·.opens k) := by
        rw [List.countP_pos_iff]
        exact ⟨_, by rw [heq]; exact List.mem_append_right _ List.mem_cons_self,
          by simp [Event.opens]⟩
      have hle := countP_opens_le_one hok k
      omega

/-- A terminal session with a ticket that is drawn, inserted and used within the minute; a
second use of the token is refused. -/
theorem tickets_safe_terminal :
    let ls : List Label := [.draw "t" ⟨"u", "User", "a"⟩, .tick 1, .insert "t",
      .serveWS .terminal "a" "t", .consume "t"]
    let s := run step (initial 0 0) ls
    s.history = [.session .terminal "a" "u" "User" "t" 1, .consumed "t" ⟨"u", "User", "a"⟩ 1,
      .issued "t" ⟨"u", "User", "a"⟩ 0] ∧
    s.history.countP (·.consumes "t") ≤ 1 :=
  ⟨by decide, (tickets_safe 0 0 _ (by decide)).1 "t"⟩

end OpsPlatform.Connectivity
