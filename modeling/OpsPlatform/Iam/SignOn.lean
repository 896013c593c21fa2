/-
Whole runs of OIDC logins: any interleaving of `OIDCLogin`, of `OIDCCallback` with any parameters,
and of changes of the configuration, under a clock that does not go back.

A login draws its state, its verifier and its expiry before it takes the lock of the store, and a
callback takes what it has consumed to the token endpoint.  The history has the logins that were
saved and the requests that were made.
-/
import OpsPlatform.Iam.OidcClient
import OpsPlatform.Lib.History
import OpsPlatform.Lib.Run
import Mathlib.Data.List.Perm.Subperm

namespace OpsPlatform.Iam.SignOn

open Lib Lib.Run Lib.History Lib.UrlQuery
open Utf8 (Bytes)

inductive Event where
  /-- a login has saved its entry; `url` is where it sends the browser -/
  | saved (p : PendingLogin) (url : Except HttpError Url) (time : Time)
  /-- a callback has sent the form to the token endpoint -/
  | exchanged (state code : Bytes) (data : OIDCStateData) (form : Values) (time : Time)

def Event.state : Event → Bytes
  | .saved p _ _ => p.state
  | .exchanged state _ _ _ _ => state

/-- The event saves the state. -/
def Event.saves (k : Bytes) : Event → Bool
  | .saved p _ _ => p.state = k
  | .exchanged .. => false

/-- The event is a request with the entry of the state. -/
def Event.exchanges (k : Bytes) : Event → Bool
  | .saved .. => false
  | .exchanged state _ _ _ _ => state = k

/-- The event saves an entry that has not expired. -/
def Event.unexpired (now : Time) : Event → Bool
  | .saved p _ _ => now ≤ p.data.expiresAt
  | .exchanged .. => false

structure State where
  store : OIDCStateStore := {}
  now : Time
  pending : List PendingLogin := []
  history : List Event := []

/-- A step of the clock or of a handler; the client is what the handler has read of the
configuration. -/
inductive Label where
  | tick (d : ℕ)
  | login (client : Except String OIDCClientConfig) (draw : LoginDraw) (next : Bytes)
  /-- a login takes the lock -/
  | save (i : ℕ)
  | callback (client : Except String OIDCClientConfig) (code state : Bytes)

section

variable (parse : String → Except String Url) (sha256 : Bytes → Bytes)

def step (s : State) : Label → State
  | .tick d => { s with now := s.now + d }
  | .login client draw next =>
    match oidcLogin client draw s.now next with
    | .error _ => s
    | .ok p => { s with pending := s.pending ++ [p] }
  | .save i =>
    match s.pending[i]? with
    | none => s
    | some p =>
      { s with store := s.store.save s.now p.state p.data, pending := s.pending.eraseIdx i
               history := .saved p (p.redirect parse sha256) s.now :: s.history }
  | .callback client code state =>
    match exchange s.store s.now client code state with
    | (store, .error _) => { s with store }
    | (store, .ok (data, form)) =>
      { s with store, history := .exchanged state code data form s.now :: s.history }

/-- The last event of a state is the login that has saved it. -/
def LastSaved (es : List Event) (k : Bytes) (data : OIDCStateData) (now : Time) : Prop :=
  ∃ p time,
    es.find? (fun e => decide (e.state = k)) = some (.saved p (p.redirect parse sha256) time) ∧
    p.state = k ∧ p.data = data ∧ time ≤ now ∧ data.expiresAt ≤ time + loginTTL

/-- What holds of an event with respect to the events before it. -/
def EventOk : Event → List Event → Prop
  | .saved .., _ => True
  | .exchanged k code data form time, es =>
    LastSaved parse sha256 es k data time ∧ time ≤ data.expiresAt ∧
      ∃ client, form = OIDCClientConfig.exchangeForm client code data.codeVerifier

structure Inv (s : State) : Prop where
  pending_ok : ∀ p ∈ s.pending, p.data.expiresAt ≤ s.now + loginTTL
  items_ok : ∀ k data, (k, data) ∈ s.store.items → LastSaved parse sha256 s.history k data s.now
  history_ok : Throughout (EventOk parse sha256) s.history

end

/-! ### The store -/

section

variable {s : OIDCStateStore} {now : Time} {k k' : Bytes} {data data' : OIDCStateData}

lemma find_items : find s.items k = some data ↔ (k, data) ∈ s.items :=
  Assoc.lookup_eq_some_iff s.distinct

lemma mem_set {m : List (Bytes × OIDCStateData)} (h : (m.map Prod.fst).Nodup) :
    (k', data') ∈ Assoc.set k data m ↔
      (k' = k ∧ data' = data) ∨ (k' ≠ k ∧ (k', data') ∈ m) := by
  rw [← Assoc.lookup_eq_some_iff (Assoc.nodup_set h), ← Assoc.lookup_eq_some_iff h,
    Assoc.lookup_set]
  by_cases hk : k' = k <;> simp [hk, eq_comm]

/-- After a save there are the new entry and the others that have not expired. -/
lemma mem_save : (k', data') ∈ (s.save now k data).items ↔
    (k' = k ∧ data' = data) ∨ (k' ≠ k ∧ (k', data') ∈ s.items ∧ now ≤ data'.expiresAt) := by
  have hset : (k', data') ∈ Assoc.set k data (s.prune now).items ↔
      (k' = k ∧ data' = data) ∨ (k' ≠ k ∧ (k', data') ∈ (s.prune now).items) :=
    mem_set (s.prune now).distinct
  rw [OIDCStateStore.save, hset, OIDCStateStore.prune, List.mem_filter]
  simp

lemma mem_delete : (k', data') ∈ (s.delete k).items ↔ (k', data') ∈ s.items ∧ k' ≠ k := by
  rw [OIDCStateStore.delete, List.mem_filter]
  simp

variable (s now k) in
/-- What a consumption does: it finds nothing, or the entry is gone afterwards and is given out
unless it had expired. -/
lemma consume_cases : (s.consume now k = (s, none) ∧ ∀ data, (k, data) ∉ s.items) ∨
    ∃ data, (k, data) ∈ s.items ∧ s.consume now k =
      (s.delete k, if now > data.expiresAt then none else some data) := by
  rw [OIDCStateStore.consume]
  split
  · next hnone =>
    refine Or.inl ⟨rfl, fun data hmem => ?_⟩
    rw [find_items.mpr hmem] at hnone
    cases hnone
  · next data hfound =>
    refine Or.inr ⟨data, find_items.mp hfound, ?_⟩
    split <;> rfl

variable (s now k) in
/-- What a callback does to the store, and when it sends a request. -/
lemma exchange_cases (client : Except String OIDCClientConfig) (code : Bytes) :
    (∃ e, exchange s now client code k = (s, .error e)) ∨
      ∃ data, (k, data) ∈ s.items ∧
        ((∃ e, exchange s now client code k = (s.delete k, .error e)) ∨
          now ≤ data.expiresAt ∧ ∃ c, exchange s now client code k =
            (s.delete k, .ok (data, OIDCClientConfig.exchangeForm c code data.codeVerifier))) := by
  rw [exchange]
  split
  · next e he => exact Or.inl ⟨e, rfl⟩
  · next c hc =>
    rcases consume_cases s now k with ⟨hconsume, -⟩ | ⟨data, hmem, hconsume⟩
    · rw [hconsume]
      exact Or.inl ⟨_, rfl⟩
    · rw [hconsume]
      refine Or.inr ⟨data, hmem, ?_⟩
      by_cases hexpired : now > data.expiresAt
      · rw [if_pos hexpired]
        exact Or.inl ⟨_, rfl⟩
      · rw [if_neg hexpired]
        exact Or.inr ⟨not_lt.mp hexpired, c, rfl⟩

end

/-! ### Steps and runs -/

section

variable {parse : String → Except String Url} {sha256 : Bytes → Bytes}
variable {s : State} {es : List Event} {k : Bytes} {data : OIDCStateData} {now now' : Time}

lemma LastSaved.later (h : LastSaved parse sha256 es k data now) (hnow : now ≤ now') :
    LastSaved parse sha256 es k data now' := by
  obtain ⟨p, time, hfind, hstate, hdata, htime, hexpires⟩ := h
  exact ⟨p, time, hfind, hstate, hdata, htime.trans hnow, hexpires⟩

/-- An event of another state leaves the last one of this state. -/
lemma LastSaved.cons {e : Event} (h : LastSaved parse sha256 es k data now) (he : e.state ≠ k) :
    LastSaved parse sha256 (e :: es) k data now := by
  obtain ⟨p, time, hfind, hrest⟩ := h
  refine ⟨p, time, ?_, hrest⟩
  rw [List.find?_cons, decide_eq_false he]
  exact hfind

/-- A login ends as soon as its time is over, whenever it is saved. -/
lemma oidcLogin_expiresAt {client : Except String OIDCClientConfig} {draw : LoginDraw}
    {next : Bytes} {p : PendingLogin} (h : oidcLogin client draw now next = .ok p) :
    p.data.expiresAt = now + loginTTL := by
  rw [oidcLogin] at h
  cases hclient : enabledClient client with
  | error e =>
    rw [hclient] at h
    cases h
  | ok c =>
    rw [hclient] at h
    obtain ⟨state, codeVerifier⟩ := draw
    rcases state with _ | state <;> rcases codeVerifier with _ | codeVerifier <;> cases h
    rfl

lemma now_le_step (l : Label) : s.now ≤ (step parse sha256 s l).now := by
  cases l with
  | tick d => exact le_add_of_nonneg_right (Int.natCast_nonneg d)
  | login client draw next =>
    rw [step]
    split <;> exact le_rfl
  | save i =>
    rw [step]
    split <;> exact le_rfl
  | callback client code state =>
    rw [step]
    split <;> exact le_rfl

lemma now_le_run (ls : List Label) : s.now ≤ (run (step parse sha256) s ls).now := by
  induction ls generalizing s with
  | nil => exact le_rfl
  | cons l ls ih => exact (now_le_step l).trans ih

/-- **The step lemma.** -/
lemma inv_step (h : Inv parse sha256 s) (l : Label) : Inv parse sha256 (step parse sha256 s l) := by
  have hnow : s.now ≤ (step parse sha256 s l).now := now_le_step l
  cases l with
  | tick d =>
    have hexpires : ∀ p ∈ s.pending, p.data.expiresAt ≤ s.now + d + loginTTL := by
      intro p hp
      exact (h.pending_ok p hp).trans (add_le_add_left hnow loginTTL)
    exact ⟨hexpires, fun k data hmem => (h.items_ok k data hmem).later hnow, h.history_ok⟩
  | login client draw next =>
    rw [step]
    split
    · exact h
    · next p hp =>
      refine ⟨fun q hq => ?_, h.items_ok, h.history_ok⟩
      rcases List.mem_append.mp hq with hq | hq
      · exact h.pending_ok q hq
      · obtain rfl := List.mem_singleton.mp hq
        exact (oidcLogin_expiresAt hp).le
  | save i =>
    rw [step]
    split
    · exact h
    · next p hp =>
      have hmem : p ∈ s.pending := List.mem_of_getElem? hp
      refine ⟨fun q hq => h.pending_ok q (List.mem_of_mem_eraseIdx hq), fun k data hmem' => ?_,
        trivial, h.history_ok⟩
      -- the entry is the new one, or one of another state
      rcases mem_save.mp hmem' with ⟨rfl, rfl⟩ | ⟨hne, hitem, -⟩
      · refine ⟨p, s.now, ?_, rfl, rfl, le_rfl, h.pending_ok p hmem⟩
        exact List.find?_cons_of_pos (decide_eq_true rfl)
      · exact (h.items_ok k data hitem).cons (Ne.symm hne)
  | callback client code state =>
    rw [step]
    rcases exchange_cases s.store s.now state client code with
      ⟨e, heq⟩ | ⟨data, hmem, ⟨e, heq⟩ | ⟨htime, c, heq⟩⟩
    · rw [heq]
      exact h
    · rw [heq]
      exact ⟨h.pending_ok, fun k d hitem => h.items_ok k d (mem_delete.mp hitem).1, h.history_ok⟩
    · rw [heq]
      refine ⟨h.pending_ok, fun k d hitem => ?_, ⟨h.items_ok state data hmem, htime, c, rfl⟩,
        h.history_ok⟩
      obtain ⟨hitem, hne⟩ := mem_delete.mp hitem
      exact (h.items_ok k d hitem).cons (Ne.symm hne)

lemma inv_init (now : Time) : Inv parse sha256 { now := now } where
  pending_ok := by simp
  items_ok := by simp
  history_ok := trivial

/-- **The run lemma.** -/
lemma inv_run (now : Time) (ls : List Label) :
    Inv parse sha256 (run (step parse sha256) { now := now } ls) :=
  invariant (I := Inv parse sha256) (fun _ l h => inv_step h l) (inv_init now) ls

/-- A state is in at most as many requests as logins. -/
lemma exchanges_le_saves (h : Throughout (EventOk parse sha256) es) (k : Bytes) :
    es.countP (Event.exchanges k) ≤ es.countP (Event.saves k) := by
  refine h.countP_le fun e es he hcloses => ?_
  cases e with
  | saved p url time => cases hcloses
  | exchanged state code data form time =>
    obtain rfl : state = k := by simpa [Event.exchanges] using hcloses
    obtain ⟨⟨p, t, hfind, hstate, -⟩, -⟩ := he
    have hkinds : (fun e : Event => e.saves state || e.exchanges state) =
        fun e => decide (e.state = state) := by
      funext e
      cases e with
      | saved p url time => exact Bool.or_false _
      | exchanged state code data form time => exact Bool.false_or _
    refine ⟨rfl, .saved p (p.redirect parse sha256) t, ?_, decide_eq_true hstate⟩
    rw [hkinds]
    exact hfind

/-- The entries that have not expired were saved by different events. -/
lemma length_le_of_lastSaved (now' : Time) {items : List (Bytes × OIDCStateData)}
    (hdistinct : (items.map Prod.fst).Nodup)
    (h : ∀ k data, (k, data) ∈ items → LastSaved parse sha256 es k data now)
    (hfresh : ∀ k data, (k, data) ∈ items → now' ≤ data.expiresAt) :
    items.length ≤ es.countP (Event.unexpired now') := by
  have hevent : ∀ k data, (k, data) ∈ items →
      ∃ e ∈ es.filter (Event.unexpired now'), e.state = k := by
    intro k data hmem
    obtain ⟨p, time, hfind, hstate, hdata, -⟩ := h k data hmem
    refine ⟨_, List.mem_filter.mpr ⟨List.mem_of_find?_eq_some hfind, ?_⟩, hstate⟩
    rw [Event.unexpired, hdata]
    exact decide_eq_true (hfresh k data hmem)
  have hsub : items.map Prod.fst ⊆ (es.filter (Event.unexpired now')).map Event.state := by
    intro k hk
    obtain ⟨⟨k, data⟩, hmem, rfl⟩ := List.mem_map.mp hk
    obtain ⟨e, he, hstate⟩ := hevent k data hmem
    exact List.mem_map.mpr ⟨e, he, hstate⟩
  calc items.length = (items.map Prod.fst).length := (List.length_map Prod.fst).symm
    _ ≤ ((es.filter (Event.unexpired now')).map Event.state).length :=
      (List.subperm_of_subset hdistinct hsub).length_le
    _ = es.countP (Event.unexpired now') := by rw [List.length_map, List.countP_eq_length_filter]

/-! ### What the identity provider is sent -/

/-- The query that a server reads in a URL: the browser keeps the fragment to itself. -/
def requestQuery (url : Bytes) : Bytes := (cut 63 (cut 35 url).1).2

/-- A parameter of the request for a URL. -/
def requestParam (url : Bytes) (key : String) : Bytes :=
  valuesGet (parseQuery (requestQuery url)) (lit key)

/-- A parameter of a posted form. -/
def formParam (form : Values) (key : String) : Bytes := valuesGet (parseQuery form.encode) (lit key)

lemma requestQuery_string {u : Url} (h : (35 : UInt8) ∉ u.rawQuery) :
    requestQuery u.string = u.rawQuery := by
  have hcut : ∀ t : Bytes, (35 : UInt8) ∉ t → (cut 35 (t ++ u.fragment)).1 = t := by
    intro t ht
    rcases u.fragment_start with hnil | hhead
    · rw [hnil, List.append_nil, cut_of_not_mem ht]
    · obtain ⟨rest, hrest⟩ := List.head?_eq_some_iff.mp hhead
      rw [hrest, cut_append ht]
  rw [requestQuery, Url.string]
  by_cases hempty : u.rawQuery = []
  · rw [if_pos hempty, List.append_nil, hcut _ u.base_clean.2, cut_of_not_mem u.base_clean.1,
      hempty]
  · rw [if_neg hempty, hcut _ (by simp [u.base_clean.2, h]), cut_append u.base_clean.1]

lemma requestQuery_withQuery (u : Url) (q : Values) :
    requestQuery (u.withQuery q).string = q.encode :=
  requestQuery_string (u := u.withQuery q)
    (queryEscaping.not_mem_join (by decide) (by decide) (by decide) _)

/-- The form of a token request, as the token endpoint reads it. -/
lemma formParam_exchangeForm (c : OIDCClientConfig) (code codeVerifier : Bytes) :
    formParam (c.exchangeForm code codeVerifier) "code" = code ∧
      formParam (c.exchangeForm code codeVerifier) "code_verifier" = codeVerifier ∧
      formParam (c.exchangeForm code codeVerifier) "client_id" = utf8 c.clientID ∧
      formParam (c.exchangeForm code codeVerifier) "redirect_uri" = utf8 c.redirectURL := by
  simp only [formParam, valuesGet_encode (distinct_exchangeForm code codeVerifier)]
  rw [OIDCClientConfig.exchangeForm]
  split <;> simp +decide [get_set]

/-- What the identity provider reads in the URL to which a login sends the browser. -/
lemma requestParam_redirect {p : PendingLogin} {u : Url} (h : p.redirect parse sha256 = .ok u) :
    p.client.isEnabled = true ∧
      requestParam u.string "state" = p.state ∧
      requestParam u.string "code_challenge" = buildCodeChallenge sha256 p.data.codeVerifier ∧
      requestParam u.string "code_challenge_method" = lit "S256" ∧
      requestParam u.string "client_id" = utf8 p.client.clientID ∧
      requestParam u.string "redirect_uri" = utf8 p.client.redirectURL := by
  rw [PendingLogin.redirect, OIDCClientConfig.buildAuthorizationURL] at h
  split at h
  · cases h
  · next henabled =>
    split at h
    · cases h
    · next v hv =>
      cases h
      have hquery := requestQuery_withQuery v (p.client.authorizationQuery v.rawQuery p.state
        (buildCodeChallenge sha256 p.data.codeVerifier))
      simp only [requestParam, hquery, get_authorizationQuery]
      exact ⟨not_not.mp henabled, by simp +decide⟩

/-- **A login that was saved is used at most once, in time, and with its own verifier.**  In every
run from the empty store each state is in at most as many token requests as logins.  What the last
login of the state has saved is in the request, before it expires, and the verifier of the request
is the one whose challenge that login has sent.  After a save there are no more entries than
logins that have not expired. -/
theorem logins_used_once (parse : String → Except String Url) (sha256 : Bytes → Bytes)
    (now : Time) (ls : List Label) :
    let s := run (step parse sha256) { now := now } ls
    (∀ k, s.history.countP (Event.exchanges k) ≤ s.history.countP (Event.saves k)) ∧
      (∀ later earlier k code data form time,
        s.history = later ++ .exchanged k code data form time :: earlier →
        ∃ p saved, earlier.find? (fun e => decide (e.state = k)) =
            some (.saved p (p.redirect parse sha256) saved) ∧ p.data = data ∧
          saved ≤ time ∧ time ≤ data.expiresAt ∧ data.expiresAt ≤ saved + loginTTL ∧
          formParam form "code" = code ∧ formParam form "code_verifier" = data.codeVerifier ∧
          ∀ u, p.redirect parse sha256 = .ok u → requestParam u.string "state" = k ∧
            requestParam u.string "code_challenge" =
              buildCodeChallenge sha256 (formParam form "code_verifier")) ∧
      ∀ k data, (s.store.save s.now k data).items.length ≤
        s.history.countP (Event.unexpired s.now) + 1 := by
  intro s
  have hinv : Inv parse sha256 s := inv_run now ls
  refine ⟨exchanges_le_saves hinv.history_ok, fun later earlier k code data form time hsplit => ?_,
    fun k data => ?_⟩
  · obtain ⟨⟨p, saved, hfind, rfl, rfl, hsaved, hexpires⟩, htime, client, rfl⟩ :=
      (hsplit ▸ hinv.history_ok).of_split
    obtain ⟨hcode, hverifier, -⟩ := formParam_exchangeForm client code p.data.codeVerifier
    refine ⟨p, saved, hfind, rfl, hsaved, htime, hexpires, hcode, hverifier, fun u hu => ?_⟩
    obtain ⟨-, hstate, hchallenge, -⟩ := requestParam_redirect hu
    exact ⟨hstate, hverifier.symm ▸ hchallenge⟩
  · -- all entries but the new one were there before
    have hold := length_le_of_lastSaved s.now (s.store.prune s.now).distinct
      (fun k data hmem => hinv.items_ok k data (List.mem_of_mem_filter hmem))
      (fun k data hmem => by simpa using (List.mem_filter.mp hmem).2)
    exact (Assoc.length_set_le _ _ _).trans (Nat.add_le_add_right hold 1)

/-! ### A login that is not disturbed -/

/-- The step neither saves the state nor consumes it. -/
def Leaves (k : Bytes) (s : State) : Label → Prop
  | .tick _ => True
  | .login .. => True
  | .save i => ∀ p ∈ s.pending[i]?, p.state ≠ k
  | .callback client code state =>
    state = k → ∃ e, oidcCallbackChecks client code state = .error e

/-- An entry is there until it is saved again, consumed or expired. -/
lemma mem_step {l : Label} (h : (k, data) ∈ s.store.items) (hl : Leaves k s l)
    (hnow : s.now ≤ data.expiresAt) : (k, data) ∈ (step parse sha256 s l).store.items := by
  cases l with
  | tick d => exact h
  | login client draw next =>
    rw [step]
    split <;> exact h
  | save i =>
    rw [step]
    split
    · exact h
    · next p hp => exact mem_save.mpr (.inr ⟨(hl p hp).symm, h, hnow⟩)
  | callback client code state =>
    rw [step]
    by_cases hk : state = k
    · obtain ⟨e, he⟩ := hl hk
      rw [exchange, he]
      exact h
    · rcases exchange_cases s.store s.now state client code with
        ⟨e, heq⟩ | ⟨data', -, ⟨e, heq⟩ | ⟨-, c, heq⟩⟩
      · rw [heq]
        exact h
      · rw [heq]
        exact mem_delete.mpr ⟨h, Ne.symm hk⟩
      · rw [heq]
        exact mem_delete.mpr ⟨h, Ne.symm hk⟩

lemma mem_run {ls : List Label} (h : (k, data) ∈ s.store.items)
    (hls : Along (step parse sha256) (Leaves k) s ls)
    (hnow : (run (step parse sha256) s ls).now ≤ data.expiresAt) :
    (k, data) ∈ (run (step parse sha256) s ls).store.items := by
  induction ls generalizing s with
  | nil => exact h
  | cons l ls ih =>
    have hbefore : s.now ≤ data.expiresAt := ((now_le_step l).trans (now_le_run ls)).trans hnow
    exact ih (mem_step h hls.1 hbefore) hls.2 hnow

/-- **A login that is not disturbed is completed.**  Whatever other logins and callbacks do in the
meantime, a callback within the time of the login, with the state that the identity provider has
read in the URL of the login and a code (neither of them empty), finds its entry, and its request
has the verifier of the challenge that the identity provider has read.  The callback reads the
settings again: the request has the client and the redirect URI of the login exactly when these have
not changed. -/
theorem login_completes (parse : String → Except String Url) (sha256 : Bytes → Bytes)
    (s : State) (i : ℕ) (p : PendingLogin) (u : Url) (ls : List Label) (client : OIDCClientConfig)
    (code : Bytes) (hp : s.pending[i]? = some p) (hu : p.redirect parse sha256 = .ok u)
    (hstate : p.state ≠ []) (hcode : code ≠ []) (hclient : client.isEnabled = true)
    (hls : Along (step parse sha256) (Leaves p.state) (step parse sha256 s (.save i)) ls)
    (hnow : (run (step parse sha256) s (.save i :: ls)).now ≤ p.data.expiresAt) :
    ∃ form, exchange (run (step parse sha256) s (.save i :: ls)).store
          (run (step parse sha256) s (.save i :: ls)).now (.ok client) code
          (requestParam u.string "state") =
        ((run (step parse sha256) s (.save i :: ls)).store.delete p.state, .ok (p.data, form)) ∧
      formParam form "code" = code ∧
      requestParam u.string "code_challenge_method" = lit "S256" ∧
      buildCodeChallenge sha256 (formParam form "code_verifier") =
        requestParam u.string "code_challenge" ∧
      (formParam form "client_id" = requestParam u.string "client_id" ↔
        client.clientID = p.client.clientID) ∧
      (formParam form "redirect_uri" = requestParam u.string "redirect_uri" ↔
        client.redirectURL = p.client.redirectURL) := by
  obtain ⟨-, hasked, hchallenge, hmethod, hid, huri⟩ := requestParam_redirect hu
  obtain ⟨hcode', hverifier, hid', huri'⟩ :=
    formParam_exchangeForm client code p.data.codeVerifier
  -- the entry is there from the save to the callback
  have hsaved : (p.state, p.data) ∈ (step parse sha256 s (.save i)).store.items := by
    rw [step, hp]
    exact mem_save.mpr (.inl ⟨rfl, rfl⟩)
  rw [run_cons] at hnow ⊢
  have hmem := mem_run hsaved hls hnow
  have hconsume : (run (step parse sha256) (step parse sha256 s (.save i)) ls).store.consume
      (run (step parse sha256) (step parse sha256 s (.save i)) ls).now p.state =
      ((run (step parse sha256) (step parse sha256 s (.save i)) ls).store.delete p.state,
        some p.data) := by
    rw [OIDCStateStore.consume, find_items.mpr hmem]
    exact if_neg (not_lt.mpr hnow)
  have hchecks : oidcCallbackChecks (.ok client) code p.state = .ok client := by
    rw [oidcCallbackChecks, enabledClient, if_pos hclient]
    exact if_neg (not_or.mpr ⟨hcode, hstate⟩)
  refine ⟨client.exchangeForm code p.data.codeVerifier, ?_, hcode', hmethod, ?_, ?_, ?_⟩
  · rw [hasked, exchange, hchecks, hconsume]
  · rw [hchallenge, hverifier]
  · rw [hid, hid', utf8_inj]
  · rw [huri, huri', utf8_inj]

/-- A login with a state of its own and the verifier that 64 random bytes give. -/
def sampleLogin : PendingLogin where
  client := { clientID := "ops", redirectURL := "https://ops.example/auth/oidc/callback"
              authorizeURL := "https://idp.example/authorize?prompt=login#top"
              scopes := defaultScopes }
  state := lit "c3RhdGU"
  data := { codeVerifier := Base64.encode ((List.range 64).map UInt8.ofNat)
            redirectAfter := "/assets", expiresAt := loginTTL }

/-- `url.Parse` of its authorization endpoint. -/
def sampleUrl : Url where
  base := lit "https://idp.example/authorize"
  rawQuery := lit "prompt=login"
  fragment := lit "#top"
  base_clean := by decide +kernel
  fragment_start := .inr (by decide +kernel)

/-- The SHA-256 digest of its verifier. -/
def sampleDigest : Bytes :=
  [194, 195, 93, 101, 167, 247, 86, 146, 211, 176, 64, 230, 71, 152, 15, 147, 96, 186, 197, 133,
    86, 196, 166, 244, 197, 198, 134, 220, 238, 164, 95, 93]

/-- The login is completed although a callback with another state comes first, and with another
redirect URI if the settings have changed. -/
theorem login_completes_sample : ∃ form,
    exchange (run (step (fun _ => .ok sampleUrl) fun _ => sampleDigest)
          { now := 0, pending := [sampleLogin] }
          [.save 0, .tick 60, .callback (.ok sampleLogin.client) (lit "x") (lit "b3RoZXI")]).store
        60 (.ok { sampleLogin.client with redirectURL := "https://new.example/cb" }) (lit "code")
        sampleLogin.state =
      ({}, .ok (sampleLogin.data, form)) ∧
    buildCodeChallenge (fun _ => sampleDigest) (formParam form "code_verifier") =
      lit "wsNdZaf3VpLTsEDmR5gPk2C6xYVWxKb0xcaG3O6kX10" ∧
    formParam form "client_id" = lit "ops" ∧
    formParam form "redirect_uri" ≠ utf8 sampleLogin.client.redirectURL := by
  have hu : sampleLogin.redirect (fun _ => .ok sampleUrl) (fun _ => sampleDigest) =
      .ok (sampleUrl.withQuery (sampleLogin.client.authorizationQuery sampleUrl.rawQuery
        sampleLogin.state (buildCodeChallenge (fun _ => sampleDigest)
          sampleLogin.data.codeVerifier))) := rfl
  obtain ⟨form, hexchange, -, -, hchallenge, hid, huri⟩ :=
    login_completes (fun _ => .ok sampleUrl) (fun _ => sampleDigest)
      { now := 0, pending := [sampleLogin] } 0 sampleLogin _
      [.tick 60, .callback (.ok sampleLogin.client) (lit "x") (lit "b3RoZXI")]
      { sampleLogin.client with redirectURL := "https://new.example/cb" }
      (lit "code") rfl hu (by decide) (by decide) (by decide)
      ⟨trivial, fun h => absurd h (by decide), trivial⟩ (by decide +kernel)
  obtain ⟨-, hasked, hsent, -, hid', huri'⟩ := requestParam_redirect hu
  refine ⟨form, ?_, ?_, ?_, ?_⟩
  · rw [← hasked]
    exact hexchange
  · rw [hchallenge, hsent]
    decide +kernel
  · rw [hid.mpr rfl, hid']
    decide
  · rw [← huri']
    exact fun h => absurd (huri.mp h) (by decide)

end

end OpsPlatform.Iam.SignOn
