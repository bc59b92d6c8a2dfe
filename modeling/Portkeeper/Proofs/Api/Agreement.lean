import Portkeeper.Client
import Portkeeper.Proofs.Api.Authority

/-!
A client and the registry that it asks understand each other: what the client wants is what the registry
is called with, and what it makes of the reply is what became of the call. Messages are taken to arrive as
they were sent; kinds travel as names in a path, and addresses as strings of JSON.
-/

set_option autoImplicit false

namespace Portkeeper
open Http Text

/-! ### Exchanges -/

section

variable [Platform]

/-- One question to the administrative interface, and the reply, over a transport that delivers each
message as it was sent. -/
def World.deliver (w : World) (c : Option Connection) (host : String) (o : Outgoing) :
    Except ClientError Reply × World :=
  match o.request host with
  | .error _ => (.error .exchange, w)
  | .ok r =>
    match w.respond .admin c r with
    | (none, w) => (.error .exchange, w)
    | (some response, w) =>
      (.ok ⟨response.status, (finishResponse r response).body⟩, w)

/-- A client moves an endpoint. -/
def World.setAddress (w : World) (c : Option Connection) (host : String) (k : Kind)
    (address : String) : Except ClientError Unit × World :=
  match w.deliver c host (Admin.set k address) with
  | (reply, w) => (reply >>= Admin.readChange, w)

/-- A client lists the endpoints. -/
def World.listEndpoints (w : World) (c : Option Connection) (host : String) :
    Except ClientError (List EndpointInfo) × World :=
  match w.deliver c host Admin.list with
  | (reply, w) => (reply >>= Admin.readListing, w)

end

namespace Admin

/-- The request for the live endpoints. -/
theorem request_list (host : String) : list.request host =
    .ok ⟨utf8Bytes "GET", ⟨none, [], some endpointsPath⟩, [(utf8Bytes "host", utf8Bytes host)],
      .whole []⟩ := by
  have huri : Uri.read (utf8Bytes "/1.0/endpoints") = .ok ⟨none, [], some endpointsPath⟩ := by
    decide +kernel
  unfold Outgoing.request list
  dsimp only
  rw [huri]
  rfl

/-- The request to move an endpoint: its name is the end of the path. -/
theorem request_set (k : Kind) (address host : String) : (set k address).request host =
    .ok ⟨utf8Bytes "PUT", ⟨none, [], some (endpointsPath ++ 47 :: utf8Bytes k.name)⟩,
      [(utf8Bytes "host", utf8Bytes host), (utf8Bytes "content-type", utf8Bytes "application/json")],
      .whole (utf8 (AddressUpdate.encode ⟨address⟩))⟩ := by
  have huri : Uri.read (utf8Bytes ("/1.0/endpoints/" ++ k.name)) =
      .ok ⟨none, [], some (endpointsPath ++ 47 :: utf8Bytes k.name)⟩ := by
    cases k <;> decide +kernel
  unfold Outgoing.request set
  dsimp only
  rw [huri]
  rfl

/-- The daemon finds in the request what the client put there. -/
theorem asks_set {k : Kind} {address host : String} {r : Request}
    (h : (set k address).request host = .ok r)
    (hlength : (utf8 (AddressUpdate.encode ⟨address⟩)).length ≤ bodyLimit) : r.Asks k address := by
  rw [request_set] at h
  cases h
  have hplain : 37 ∉ utf8Bytes k.name ∧ 47 ∉ utf8Bytes k.name := by cases k <;> decide
  have hpath : Uri.path ⟨none, [], some (endpointsPath ++ 47 :: utf8Bytes k.name)⟩ =
      endpointsPath ++ 47 :: utf8Bytes k.name := by cases k <;> decide
  have hjson : ∀ headers : Headers,
      headers.get? "content-type" = some (utf8Bytes "application/json") →
      (headers.get? "content-type" >>= MediaType.read).any MediaType.isJson = true := by
    intro headers h
    rw [h]
    decide
  exact ⟨rfl, ⟨utf8Bytes k.name, hpath, hplain.2, percentDecode_of_notMem hplain.1⟩, hjson _ rfl,
    _, rfl, hlength, AddressUpdate.decode_encode _⟩

theorem call_list {c : Option Connection} {host : String} {r : Request}
    (h : list.request host = .ok r) : Router.admin.call c r = .list := by
  rw [request_list] at h
  cases h
  rfl

/-- Neither request is one for a head only. -/
theorem head_list {host : String} {r : Request} (h : list.request host = .ok r) :
    r.hasMethod "HEAD" = false := by
  rw [request_list] at h
  cases h
  rfl

theorem head_set {k : Kind} {address host : String} {r : Request}
    (h : (set k address).request host = .ok r) : r.hasMethod "HEAD" = false := by
  rw [request_set] at h
  cases h
  rfl

/-- A reply reports success if and only if the update was a success; else it is the error's. -/
theorem readChange_updateResponse (result : Except EndpointError Unit) :
    readChange ⟨(updateResponse result).status, (updateResponse result).body⟩ =
      result.mapError fun e => .refused e.status (String.ofList e.body) := by
  cases result with
  | ok _ => rfl
  | error e =>
    have hstatus : isSuccess e.status = false := by cases e <;> rfl
    have hcheck : check ⟨e.status, utf8 e.body⟩ = .error (.refused e.status (String.ofList e.body)) := by
      rw [check, if_neg (by rw [hstatus]; decide), Reply.text, lossyString, lossyText_utf8]
    rw [updateResponse, EndpointError.response, Response.json, readChange, hcheck]
    rfl

/-- The live endpoints are read off the reply that lists them. -/
theorem readListing_listResponse (es : List EndpointInfo) :
    readListing ⟨(listResponse es).status, (listResponse es).body⟩ = .ok es := by
  have hbody : Json.decode (Json.list EndpointInfo.decode) (listResponse es).body = .ok es :=
    EndpointInfo.decode_encodeList es
  have hcheck : check ⟨(listResponse es).status, (listResponse es).body⟩ =
      .ok ⟨(listResponse es).status, (listResponse es).body⟩ := if_pos (by rfl)
  rw [readListing, hcheck]
  dsimp only [bind, Except.bind]
  rw [hbody]
  rfl

end Admin

theorem finishResponse_of_not_head {r : Request} (h : r.hasMethod "HEAD" = false)
    (response : Response) : finishResponse r response = response := by
  rw [finishResponse, h, if_neg (by decide)]

section

variable [Platform]

/-- What a client and a registry make of each other's messages. -/
structure World.Understood (w : World) (c : Option Connection) (host : String) : Prop where
  /-- To move an endpoint, the registry is called once, with that kind and with that very address, if the
  body is not too large to be read. -/
  calls : ∀ k address, (utf8 (AddressUpdate.encode ⟨address⟩)).length ≤ bodyLimit →
    ∃ r, (Admin.set k address).request host = .ok r ∧ Router.admin.call c r = .update k address ∧
      (w.setAddress c host k address).2 = (w.update k address).2
  /-- The client is told of success if and only if the call was one. -/
  learns : ∀ k address, (utf8 (AddressUpdate.encode ⟨address⟩)).length ≤ bodyLimit →
    (w.setAddress c host k address).1 =
      (w.update k address).1.mapError fun e => .refused e.status (String.ofList e.body)
  /-- The listing is that of the registry, which stays as it is. -/
  lists : w.listEndpoints c host = (.ok w.listing, w)

theorem World.setAddress_eq (w : World) (c : Option Connection) (host : String) {k : Kind}
    {address : String} {r : Request} (h : (Admin.set k address).request host = .ok r)
    (hcall : Router.admin.call c r = .update k address) : w.setAddress c host k address =
      ((w.update k address).1.mapError fun e => .refused e.status (String.ofList e.body),
        (w.update k address).2) := by
  unfold setAddress deliver respond
  rw [h]
  dsimp only
  rw [hcall]
  dsimp only [perform]
  rw [finishResponse_of_not_head (Admin.head_set h)]
  dsimp only [bind, Except.bind]
  rw [Admin.readChange_updateResponse]

/-- A client that asks the administrative interface is understood, and understands the reply, whatever is
in the address and whatever state the registry is in. -/
theorem World.understood (w : World) (c : Option Connection) (host : String) :
    w.Understood c host where
  calls k address hlength := by
    have hrequest := Admin.request_set k address host
    have hcall := (Router.call_eq_update_iff (c := c)).mpr ⟨rfl, Admin.asks_set hrequest hlength⟩
    exact ⟨_, hrequest, hcall, congrArg Prod.snd (w.setAddress_eq c host hrequest hcall)⟩
  learns k address hlength := by
    have hrequest := Admin.request_set k address host
    have hcall := (Router.call_eq_update_iff (c := c)).mpr ⟨rfl, Admin.asks_set hrequest hlength⟩
    exact congrArg Prod.fst (w.setAddress_eq c host hrequest hcall)
  lists := by
    have hrequest := Admin.request_list host
    have hcall := Admin.call_list (c := c) hrequest
    unfold listEndpoints deliver respond
    rw [hrequest]
    dsimp only
    rw [hcall]
    dsimp only [perform]
    rw [finishResponse_of_not_head (Admin.head_list hrequest)]
    dsimp only [bind, Except.bind]
    rw [Admin.readListing_listResponse]

end

/-- An address with a quote, a backslash, a control character and a letter beyond ASCII. -/
theorem World.understood_escaped : ∃ r,
    (Admin.set .metrics "\"\\\x07ü").request "localhost" = .ok r ∧
    Router.admin.call none r = .update .metrics "\"\\\x07ü" ∧
    (World.handed.setAddress none "localhost" .metrics "\"\\\x07ü").2 =
      (World.handed.update .metrics "\"\\\x07ü").2 :=
  (World.handed.understood none "localhost").calls .metrics "\"\\\x07ü" (by decide +kernel)

end Portkeeper
