/-
The URL of an RDP session (`web/src/lib/guacamole.ts`, `openRdp` in `RdpSessionPane.tsx`) and the
query that `ServeWS` (`internal/guacproxy/handler.go`) finds in it.

The ticket is put into the query of the tunnel's URL.  The tunnel appends a question mark of its
own and the connection parameters, so that the first pair of the query runs on into them.
-/
import OpsPlatform.Lib.UrlQuery

namespace OpsPlatform.Web

open Lib.Utf8 Lib.UrlQuery

/-- The UTF-8 bytes of a string. -/
def text (s : String) : Bytes := encode s.toList

/-- `window.location`, as far as it is used; the host of a page has no question mark. -/
structure Location where
  protocol : String
  host : String
  no_query : (63 : UInt8) ∉ text host

/-- `RdpConnectionParams`; numbers are given by their `String`. -/
structure RdpConnectionParams where
  dpi : String
  height : String
  ticket : String
  timezone : String
  width : String

/-- `buildRdpWebSocketURL`. -/
def buildRdpWebSocketURL (loc : Location) (assetID ticket : String) : Bytes :=
  let protocol := if loc.protocol = "https:" then "wss:" else "ws:"
  ascii protocol.toList ++ ascii "//".toList ++ text loc.host ++
    ascii "/ws/v1/cmdb/assets/".toList ++ encodeURIComponent (text assetID) ++
    ascii "/rdp?".toList ++ searchParams [(ascii "ticket".toList, text ticket)]

/-- `buildRdpConnectionParams`. -/
def buildRdpConnectionParams (params : RdpConnectionParams) : Bytes :=
  searchParams
    [(ascii "dpi".toList, text params.dpi), (ascii "height".toList, text params.height),
     (ascii "ticket".toList, text params.ticket),
     (ascii "timezone".toList, text params.timezone), (ascii "width".toList, text params.width)]

/-- The URL that `WebSocketTunnel.connect` opens. -/
def tunnelURL (url data : Bytes) : Bytes := url ++ 63 :: data

/-- `openRdp`: the URL that is opened for a session. -/
def openRdp (loc : Location) (assetID ticket dpi height timezone width : String) : Bytes :=
  tunnelURL (buildRdpWebSocketURL loc assetID ticket)
    (buildRdpConnectionParams { dpi, height, ticket, timezone, width })

/-- `r.URL.Query().Get` for a request with the URL; the query is what follows the first question
mark. -/
def queryGet (url : Bytes) (key : String) : Bytes :=
  valuesGet (parseQuery (cut 63 url).2) (ascii key.toList)

/-- The request has the values that were passed. -/
structure Receives (url : Bytes) (ticket dpi height timezone width : String) : Prop where
  ticket_eq : queryGet url "ticket" = text ticket
  width_eq : queryGet url "width" = text width
  height_eq : queryGet url "height" = text height
  dpi_eq : queryGet url "dpi" = text dpi
  timezone_eq : queryGet url "timezone" = text timezone

/-! ### The query -/

lemma rawQuery_openRdp (loc : Location) (assetID ticket dpi height timezone width : String) :
    (cut 63 (openRdp loc assetID ticket dpi height timezone width)).2 =
      formEncode (ascii "ticket".toList) ++ 61 :: (formEncode (text ticket) ++
        63 :: buildRdpConnectionParams { dpi, height, ticket, timezone, width }) := by
  have hpath : (63 : UInt8) ∉ ascii (if loc.protocol = "https:" then "wss:" else "ws:").toList ++
      ascii "//".toList ++ text loc.host ++ ascii "/ws/v1/cmdb/assets/".toList ++
      encodeURIComponent (text assetID) ++ ascii "/rdp".toList := by
    have hprotocol : (63 : UInt8) ∉
        ascii (if loc.protocol = "https:" then "wss:" else "ws:").toList := by
      split <;> decide
    have hasset : (63 : UInt8) ∉ encodeURIComponent (text assetID) := by
      intro hmem
      exact absurd (encodedByte_of_encodeURIComponent hmem) (by decide)
    simp only [List.mem_append, not_or]
    exact ⟨⟨⟨⟨⟨hprotocol, by decide⟩, loc.no_query⟩, by decide⟩, hasset⟩, by decide⟩
  have hsplit : openRdp loc assetID ticket dpi height timezone width =
      (ascii (if loc.protocol = "https:" then "wss:" else "ws:").toList ++
        ascii "//".toList ++ text loc.host ++ ascii "/ws/v1/cmdb/assets/".toList ++
        encodeURIComponent (text assetID) ++ ascii "/rdp".toList) ++
      63 :: (formEncode (ascii "ticket".toList) ++ 61 :: (formEncode (text ticket) ++
        63 :: buildRdpConnectionParams { dpi, height, ticket, timezone, width })) := by
    have hrdp : ascii "/rdp?".toList = ascii "/rdp".toList ++ [63] := by decide
    have hticket : searchParams [(ascii "ticket".toList, text ticket)] =
        formEncode (ascii "ticket".toList) ++ 61 :: formEncode (text ticket) := by
      simp [searchParams, formPair]
    simp only [openRdp, tunnelURL, buildRdpWebSocketURL, hrdp, hticket, List.append_assoc,
      List.cons_append, List.nil_append]
  rw [hsplit, cut_append hpath]

/-- The pairs that the server reads: the value of the first runs on to the end of the first
connection parameter. -/
lemma parseQuery_openRdp (loc : Location) (assetID ticket dpi height timezone width : String) :
    parseQuery (cut 63 (openRdp loc assetID ticket dpi height timezone width)).2 =
      [(ascii "ticket".toList, text ticket ++ ascii "?dpi=".toList ++ text dpi),
       (ascii "height".toList, text height), (ascii "ticket".toList, text ticket),
       (ascii "timezone".toList, text timezone), (ascii "width".toList, text width)] := by
  -- the second question mark is part of the value of the first pair
  have hfirst : readPair (formEncode (ascii "ticket".toList) ++ 61 :: (formEncode (text ticket) ++
      63 :: formPair (ascii "dpi".toList, text dpi))) =
        some (ascii "ticket".toList, text ticket ++ ascii "?dpi=".toList ++ text dpi) := by
    refine readPair_of_key ?_ ?_
    · rw [List.mem_append, List.mem_cons, not_or, not_or]
      exact ⟨not_mem_formEncode (by decide) _, by decide,
        not_mem_formPair (by decide) (by decide) _⟩
    · rw [queryUnescape_formEncode, queryUnescape_cons (by decide), formPair,
        queryUnescape_formEncode, queryUnescape_cons (by decide), queryUnescape_encoded]
      simp [ascii]
  have hnot : (38 : UInt8) ∉ formEncode (ascii "ticket".toList) ++ 61 ::
      (formEncode (text ticket) ++ 63 :: formPair (ascii "dpi".toList, text dpi)) := by
    simp only [List.mem_append, List.mem_cons, not_or]
    exact ⟨not_mem_formEncode (by decide) _, by decide, not_mem_formEncode (by decide) _, by decide,
      not_mem_formPair (by decide) (by decide) _⟩
  have hamp : ∀ pair, (38 : UInt8) ∉ formPair pair := not_mem_formPair (by decide) (by decide)
  have hquery : formEncode (ascii "ticket".toList) ++ 61 :: (formEncode (text ticket) ++
        63 :: buildRdpConnectionParams { dpi, height, ticket, timezone, width }) =
      (formEncode (ascii "ticket".toList) ++ 61 :: (formEncode (text ticket) ++
        63 :: formPair (ascii "dpi".toList, text dpi))) ++
      38 :: (formPair (ascii "height".toList, text height) ++
      38 :: (formPair (ascii "ticket".toList, text ticket) ++
      38 :: (formPair (ascii "timezone".toList, text timezone) ++
      38 :: formPair (ascii "width".toList, text width)))) := by
    simp [buildRdpConnectionParams, searchParams]
  rw [rawQuery_openRdp, hquery, parseQuery_append hnot, parseQuery_append (hamp _),
    parseQuery_append (hamp _), parseQuery_append (hamp _),
    parseQuery_of_not_mem (hamp _) (by simp [formPair]), hfirst]
  simp only [readPair_formPair, Option.toList_some, List.singleton_append]

/-- What the server finds under each of the keys. -/
lemma queryGet_openRdp (loc : Location) (assetID ticket dpi height timezone width : String)
    (key : String) : queryGet (openRdp loc assetID ticket dpi height timezone width) key =
      valuesGet [(ascii "ticket".toList, text ticket ++ ascii "?dpi=".toList ++ text dpi),
       (ascii "height".toList, text height), (ascii "ticket".toList, text ticket),
       (ascii "timezone".toList, text timezone), (ascii "width".toList, text width)]
        (ascii key.toList) := by
  rw [queryGet, parseQuery_openRdp]

lemma not_receives (loc : Location) (assetID ticket dpi height timezone width : String) :
    ¬ Receives (openRdp loc assetID ticket dpi height timezone width) ticket dpi height timezone
      width := by
  intro h
  have hticket := h.ticket_eq
  rw [queryGet_openRdp] at hticket
  have hlonger : text ticket ++ ascii "?dpi=".toList ++ text dpi = text ticket := hticket
  have hlen := congrArg List.length hlonger
  simp [ascii] at hlen

/-- **The RDP ticket does not reach the server.**  Whatever the asset, the ticket and the
parameters are, the server finds the ticket with the text of the first connection parameter
appended to it, and no value for this parameter; the other parameters arrive. -/
theorem rdp_ticket_lost (loc : Location) (assetID ticket dpi height timezone width : String) :
    let get := queryGet (openRdp loc assetID ticket dpi height timezone width)
    ¬ Receives (openRdp loc assetID ticket dpi height timezone width) ticket dpi height timezone
        width ∧
      get "ticket" = text ticket ++ ascii "?dpi=".toList ++ text dpi ∧ get "dpi" = [] ∧
      get "height" = text height ∧ get "timezone" = text timezone ∧
      get "width" = text width := by
  refine ⟨not_receives loc assetID ticket dpi height timezone width, ?_⟩
  simp only [queryGet_openRdp]
  exact ⟨rfl, rfl, rfl, rfl, rfl⟩

/-- A session on a page of `localhost`. -/
theorem rdp_ticket_lost_localhost :
    ∃ loc : Location, loc.host = "localhost" ∧
      queryGet (openRdp loc "a1" "dGlja2V0" "96" "768" "UTC" "1024") "ticket" =
        ascii "dGlja2V0?dpi=96".toList ∧
      ¬ Receives (openRdp loc "a1" "dGlja2V0" "96" "768" "UTC" "1024") "dGlja2V0" "96" "768"
        "UTC" "1024" := by
  refine ⟨⟨"http:", "localhost", by decide⟩, rfl, ?_, not_receives _ _ _ _ _ _ _⟩
  rw [queryGet_openRdp]
  decide

end OpsPlatform.Web
