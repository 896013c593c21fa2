/-
The ticket service (`internal/connectivity/ticket.go`) and the ticket handling of the three
protocols that share it (`internal/terminal`, `internal/guacproxy`, `internal/dbproxy`).

Every access to the map happens under the service's lock, so each function here is one atomic
step.  `IssueTicket` draws its token and reads the clock before it takes the lock; `draw` is
that part of it.
-/
import OpsPlatform.Iam.Middleware

namespace OpsPlatform.Connectivity

open Lib Iam

/-- `DefaultTicketTTL`. -/
def defaultTicketTTL : Int := 60 * second

/-- `Ticket`: the context that a token is bound to. -/
structure Ticket where
  userID : String
  userName : String
  assetID : String
deriving DecidableEq

/-- `ticketEntry`. -/
structure TicketEntry where
  ticket : Ticket
  expiresAt : Time
deriving DecidableEq

/-- `ErrInvalidTicket` and `ErrTicketExpired`. -/
inductive TicketError where
  | invalidTicket
  | ticketExpired
deriving DecidableEq

def TicketError.message : TicketError → String
  | .invalidTicket => "invalid ticket"
  | .ticketExpired => "ticket expired"

/-- `TicketService`. -/
structure TicketService where
  ttl : Int
  tickets : String → Option TicketEntry := fun _ => none

def newTicketService (ttl : Int) : TicketService :=
  { ttl := if ttl ≤ 0 then defaultTicketTTL else ttl }

/-- What `IssueTicket` computes before it takes the lock. -/
def TicketService.draw (s : TicketService) (now : Time) (t : Ticket) : TicketEntry :=
  { ticket := t, expiresAt := now + s.ttl }

/-- What `IssueTicket` does under the lock. -/
def TicketService.insert (s : TicketService) (token : String) (entry : TicketEntry) :
    TicketService :=
  { s with tickets := fun k => if k = token then some entry else s.tickets k }

/-- `delete(s.tickets, token)`. -/
def TicketService.delete (s : TicketService) (token : String) : TicketService :=
  { s with tickets := fun k => if k = token then none else s.tickets k }

/-- `IssueTicket`. -/
def TicketService.issueTicket (s : TicketService) (now : Time) (token : String) (t : Ticket) :
    TicketService × String × Time :=
  let entry := s.draw now t
  (s.insert token entry, token, entry.expiresAt)

/-- `ConsumeTicket`: the token is gone even when it had expired. -/
def TicketService.consumeTicket (s : TicketService) (now : Time) (token : String) :
    TicketService × Except TicketError Ticket :=
  match s.tickets token with
  | none => (s, .error .invalidTicket)
  | some entry =>
    if now > entry.expiresAt then (s.delete token, .error .ticketExpired)
    else (s.delete token, .ok entry.ticket)

/-- `gc`. -/
def TicketService.gc (s : TicketService) (now : Time) : TicketService :=
  { s with tickets := fun k => (s.tickets k).filter fun entry => !(now > entry.expiresAt) }

/-! ### The handlers of the protocols -/

/-- The packages that share the service. -/
inductive Protocol where
  | terminal
  | guacproxy
  | dbproxy
deriving DecidableEq

/-- `displayName`; only `dbproxy` falls back on the OIDC subject. -/
def Protocol.displayName (p : Protocol) (id : UserIdentity) : String :=
  if id.user.name ≠ "" then id.user.name
  else if id.user.email ≠ "" then id.user.email
  else if p = .dbproxy ∧ id.user.oidcSubject ≠ "" then id.user.oidcSubject
  else id.user.id.toText

/-- The handler `IssueTicket` of a protocol.  `rand` is the outcome of `rand.Read`: the token,
or the error's text. -/
def Protocol.issueTicket (p : Protocol) (s : TicketService) (now : Time)
    (rand : Except String String) (ctx : Option UserIdentity) (assetID : String) :
    Except HttpError (TicketService × String × Time) :=
  match ctx with
  | none => .error ⟨401, "no identity", none⟩
  | some identity =>
    if assetID = "" then .error ⟨400, "assetID required", none⟩
    else
      match rand with
      | .error message => .error ⟨500, message, none⟩
      | .ok token =>
        .ok (s.issueTicket now token
          { userID := identity.user.id.toText, userName := p.displayName identity, assetID })

/-- The ticket checks at the head of `ServeWS`, which are the same in the three protocols: the
service afterwards, and the ticket when they pass. -/
def serveWSChecks (s : TicketService) (now : Time) (assetID token : String) :
    TicketService × Except HttpError Ticket :=
  if token = "" then (s, .error ⟨401, "ticket required", none⟩)
  else
    match s.consumeTicket now token with
    | (s, .error e) => (s, .error ⟨401, e.message, none⟩)
    | (s, .ok t) =>
      if t.assetID ≠ assetID then (s, .error ⟨403, "ticket does not match asset", none⟩)
      else (s, .ok t)

end OpsPlatform.Connectivity
