import Portkeeper.Program.Daemon
import Portkeeper.Proofs.Json.Reading
import Portkeeper.Proofs.Api.Membership
import Portkeeper.Proofs.Registry.Updating

/-!
Which requests can change a registry: those that put a new address to an endpoint by its name, at one of
the two administrative interfaces, with a body that says so in JSON. Each of them is one update, and its
answer tells how that went. Nothing else that comes in on a connection changes anything.
-/

set_option autoImplicit false

namespace Portkeeper
open Http Text

/-! ### Paths and names -/

theorem kindOfSegment_eq_ok_iff {segment : List UInt8} {k : Kind} :
    kindOfSegment segment = .ok k ↔ percentDecode segment = utf8Bytes k.name := by
  unfold kindOfSegment utf8Bytes
  cases hcs : ofUtf8? (percentDecode segment) with
  | none =>
    constructor
    · intro h
      cases h
    · intro h
      rw [ofUtf8?_eq_some_iff.mpr h] at hcs
      cases hcs
  | some cs =>
    rw [ofUtf8?_eq_some_iff.mp hcs]
    dsimp only
    constructor
    · intro h
      split at h
      · rename_i k' hname
        cases h
        rw [← Kind.ofName?_eq_some_iff.mp hname, String.toList_ofList]
      · cases h
    · intro h
      obtain rfl := utf8_injective h
      rw [String.ofList_toList, Kind.ofName?_eq_some_iff.mpr rfl]

/-- The paths of single endpoints. -/
theorem Route.ofPath?_eq_endpoint_iff {path segment : List UInt8} :
    ofPath? path = some (.endpoint segment) ↔
      path = endpointsPath ++ 47 :: segment ∧ segment ≠ [] ∧ 47 ∉ segment := by
  have hsplit (segment : List UInt8) :
      endpointsPath ++ 47 :: segment = (endpointsPath ++ [47]) ++ segment := by simp
  constructor
  · intro h
    unfold ofPath? at h
    split at h
    · cases h
    · split at h
      · cases h
      · split at h
        · rename_i s hs
          split at h
          · cases h
          · rename_i hno
            cases h
            rw [not_or] at hno
            exact ⟨(eq_append_of_stripStart? hs).trans (hsplit segment).symm, hno⟩
        · cases h
  · rintro ⟨rfl, hne, hslash⟩
    have hroot : endpointsPath ++ 47 :: segment ≠ [47] := fun h => absurd (List.cons.inj h).2 (by simp)
    have hall : endpointsPath ++ 47 :: segment ≠ endpointsPath := by simp
    unfold ofPath?
    rw [if_neg hroot, if_neg hall, hsplit segment, stripStart?_append]
    dsimp only
    rw [if_neg (not_or.mpr ⟨hne, hslash⟩)]

/-- A request says in JSON which address it wants for the endpoint that it names. -/
structure Http.Request.Asks (r : Request) (k : Kind) (address : String) : Prop where
  method : r.method = utf8Bytes "PUT"
  path : ∃ segment, r.uri.path = endpointsPath ++ 47 :: segment ∧ 47 ∉ segment ∧
    percentDecode segment = utf8Bytes k.name
  json : isJsonRequest r = true
  body : ∃ bytes, r.body = .whole bytes ∧ bytes.length ≤ bodyLimit ∧
    Json.decode AddressUpdate.decode bytes = .ok ⟨address⟩

theorem readUpdate_eq_ok_iff {r : Request} {u : AddressUpdate} : readUpdate r = .ok u ↔
    isJsonRequest r = true ∧ ∃ bytes, r.body = .whole bytes ∧ bytes.length ≤ bodyLimit ∧
      Json.decode AddressUpdate.decode bytes = .ok u := by
  constructor
  · intro h
    unfold readUpdate at h
    split at h
    · cases h
    · rename_i hjson
      split at h
      · cases h
      · rename_i bytes hbody
        split at h
        · cases h
        · rename_i hlength
          split at h
          · rename_i u' hdecode
            cases h
            exact ⟨by simpa using hjson, bytes, hbody, Nat.not_lt.mp hlength, hdecode⟩
          · split at h <;> cases h
  · rintro ⟨hjson, bytes, hbody, hlength, hdecode⟩
    unfold readUpdate
    rw [hjson, hbody]
    simp only [Bool.not_true, Bool.false_eq_true, if_false]
    rw [if_neg (Nat.not_lt.mpr hlength), hdecode]

theorem setAddress_eq_update_iff {segment : List UInt8} {r : Request} {k : Kind} {address : String} :
    setAddress segment r = .update k address ↔
      kindOfSegment segment = .ok k ∧ readUpdate r = .ok ⟨address⟩ := by
  unfold setAddress
  cases kindOfSegment segment with
  | error text => simp
  | ok kind =>
    cases readUpdate r with
    | error response => simp
    | ok u =>
      obtain ⟨address'⟩ := u
      simp

namespace Router

variable {router : Router} {c : Option Connection} {r : Request} {k : Kind} {address : String}

theorem accepts_endpoint {segment : List UInt8} :
    (Route.endpoint segment).accepts r = true ↔ r.method = utf8Bytes "PUT" := beq_iff_eq

theorem route?_eq_endpoint_iff {segment : List UInt8} : router.route? r = some (.endpoint segment) ↔
    router = .admin ∧ Route.ofPath? r.uri.path = some (.endpoint segment) := by
  unfold route?
  cases Route.ofPath? r.uri.path with
  | none => simp
  | some route => cases route <;> simp

theorem inner_eq_update_iff : router.inner c r = .update k address ↔ ∃ segment,
    router.route? r = some (.endpoint segment) ∧ r.method = utf8Bytes "PUT" ∧
      setAddress segment r = .update k address := by
  unfold inner
  constructor
  · intro h
    split at h
    · cases h
    · rename_i route hroute
      split at h
      · rename_i haccepts
        cases route with
        | root =>
          rw [handle] at h
          split at h <;> cases h
        | endpoints => cases h
        | endpoint segment => exact ⟨segment, hroute, accepts_endpoint.mp haccepts, h⟩
      · cases h
  · rintro ⟨segment, hroute, hmethod, h⟩
    rw [hroute]
    dsimp only
    rw [if_pos (accepts_endpoint.mpr hmethod)]
    exact h

/-- What is more than an answer is asked for as it is. -/
theorem call_of_inner (h : router.refusal c = none)
    (hr : ∀ response, router.inner c r ≠ .answer response) : router.call c r = router.inner c r := by
  unfold call
  rw [h]
  dsimp only
  split
  · rename_i response _ hanswer _
    exact absurd hanswer (hr response)
  · rfl

/-- Only the administrative interface asks for updates, and only for those that requests ask for. -/
theorem call_eq_update_iff :
    router.call c r = .update k address ↔ router = .admin ∧ r.Asks k address := by
  constructor
  · intro h
    have hopen : router.refusal c = none := by
      cases hrefusal : router.refusal c with
      | none => rfl
      | some response =>
        rw [call_of_refused hrefusal] at h
        cases h
    have hinner : router.inner c r = .update k address := by
      rw [← h]
      refine (call_of_inner hopen fun response hanswer => ?_).symm
      rw [call_of_answer hopen hanswer] at h
      cases h
    obtain ⟨segment, hroute, hmethod, hset⟩ := inner_eq_update_iff.mp hinner
    obtain ⟨hadmin, hpath⟩ := route?_eq_endpoint_iff.mp hroute
    obtain ⟨hpath, -, hslash⟩ := Route.ofPath?_eq_endpoint_iff.mp hpath
    obtain ⟨hkind, hread⟩ := setAddress_eq_update_iff.mp hset
    obtain ⟨hjson, hbody⟩ := readUpdate_eq_ok_iff.mp hread
    exact ⟨hadmin, hmethod, ⟨segment, hpath, hslash, kindOfSegment_eq_ok_iff.mp hkind⟩, hjson, hbody⟩
  · rintro ⟨rfl, hmethod, ⟨segment, hpath, hslash, hname⟩, hjson, hbody⟩
    have hne : segment ≠ [] := by
      rintro rfl
      have hempty : utf8Bytes k.name = [] := by
        rw [← hname, percentDecode]
      cases k <;> cases hempty
    have hroute : Router.admin.route? r = some (.endpoint segment) :=
      route?_eq_endpoint_iff.mpr ⟨rfl, Route.ofPath?_eq_endpoint_iff.mpr ⟨hpath, hne, hslash⟩⟩
    have hset : setAddress segment r = .update k address :=
      setAddress_eq_update_iff.mpr ⟨kindOfSegment_eq_ok_iff.mpr hname,
        readUpdate_eq_ok_iff.mpr ⟨hjson, hbody⟩⟩
    have hinner : Router.admin.inner c r = .update k address :=
      inner_eq_update_iff.mpr ⟨segment, hroute, hmethod, hset⟩
    have hopen : Router.admin.refusal c = none := rfl
    have hcall : Router.admin.call c r = Router.admin.inner c r :=
      call_of_inner hopen fun response hanswer => by
        rw [hinner] at hanswer
        cases hanswer
    rw [hcall, hinner]

theorem inner_ne_crash (h : router ≠ .faulty) : router.inner c r ≠ .crash := by
  intro hcrash
  unfold inner at hcrash
  split at hcrash
  · cases hcrash
  · rename_i route _
    split at hcrash
    · cases route with
      | root =>
        rw [handle, if_neg h] at hcrash
        cases hcrash
      | endpoints => cases hcrash
      | endpoint segment =>
        rw [handle, setAddress] at hcrash
        split at hcrash
        · cases hcrash
        · split at hcrash <;> cases hcrash
    · cases hcrash

/-- No handler but the faulty one fails. -/
theorem call_ne_crash (h : router ≠ .faulty) : router.call c r ≠ .crash := by
  intro hcrash
  cases hrefusal : router.refusal c with
  | some response =>
    rw [call_of_refused hrefusal] at hcrash
    cases hcrash
  | none =>
    have hanswer (response : Response) : router.inner c r ≠ .answer response := by
      intro hinner
      rw [call_of_answer hrefusal hinner] at hcrash
      cases hcrash
    rw [call_of_inner hrefusal hanswer] at hcrash
    exact inner_ne_crash h hcrash

end Router

/-! ### What becomes of the registry -/

/-- The status of an answer by what became of the update. -/
inductive Tells : Except EndpointError Unit → Nat → Prop
  | done : Tells (.ok ()) 204
  | config (text : String) : Tells (.error (.config text)) 400
  | address (k : Kind) (a reason : String) : Tells (.error (.invalidAddress k a reason)) 400
  | state (op : Operation) (stage : Stage) : Tells (.error (.invalidState op stage)) 409
  | other {e : EndpointError} (config : ∀ text, e ≠ .config text)
      (address : ∀ k a reason, e ≠ .invalidAddress k a reason)
      (state : ∀ op stage, e ≠ .invalidState op stage) : Tells (.error e) 500

theorem tells_updateResponse (result : Except EndpointError Unit) :
    Tells result (updateResponse result).status := by
  cases result with
  | ok _ => exact .done
  | error e =>
    cases e with
    | config text => exact .config text
    | invalidAddress k a reason => exact .address k a reason
    | invalidState op stage => exact .state op stage
    | _ => exact .other (fun _ h => nomatch h) (fun _ _ _ h => nomatch h) fun _ _ h => nomatch h

/-- The kinds whose endpoint is the administrative interface. -/
def Kind.Administers (k : Kind) : Prop := k = .localAdmin ∨ k = .networkAdmin

namespace World

variable [Platform] {router : Router}

theorem perform_other (w : World) {call : Call} (hcrash : call ≠ .crash)
    (hupdate : ∀ k address, call ≠ .update k address) :
    (w.perform call).2 = w ∧ (w.perform call).1.isSome = true := by
  cases call with
  | answer response => exact ⟨rfl, rfl⟩
  | list => exact ⟨rfl, rfl⟩
  | update k address => exact absurd rfl (hupdate k address)
  | crash => exact absurd rfl hcrash

/-- One update after the other. -/
def updates (w : World) (us : List (Kind × String)) : World :=
  us.foldl (fun w u => (w.update u.1 u.2).2) w

/-- What a request does: the one update that it asks for, or nothing. -/
theorem respond_updates (w : World) (router : Router) (c : Option Connection) (r : Request) :
    ∃ us : List (Kind × String), (w.respond router c r).2 = w.updates us ∧
      ∀ u ∈ us, router = .admin ∧ r.Asks u.1 u.2 := by
  unfold respond
  cases hcall : router.call c r with
  | update k address =>
    refine ⟨[(k, address)], rfl, fun u hu => ?_⟩
    obtain rfl := List.mem_singleton.mp hu
    exact Router.call_eq_update_iff.mp hcall
  | _ => exact ⟨[], rfl, fun u hu => nomatch hu⟩

theorem updates_append (w : World) (us vs : List (Kind × String)) :
    w.updates (us ++ vs) = (w.updates us).updates vs := List.foldl_append

end World

/-- What each request of a connection does is done by all of them together. -/
theorem Http.Handler.serve_steps {σ : Type} {handler : Handler σ} {R : σ → σ → Prop}
    (refl : ∀ s, R s s) (trans : ∀ {s t u}, R s t → R t u → R s u)
    (step : ∀ s r, R s (handler.respond s r).2) (s : σ) (bs : List UInt8) :
    R s (handler.serve s bs).2 := by
  have one {s : σ} {r : Request} {p : Option Response × σ} (h : handler.respond s r = p) : R s p.2 :=
    h ▸ step s r
  have some (left : Nat) (s : σ) (bs : List UInt8) : R s (handler.serveSome left s bs).2 := by
    induction left generalizing s bs with
    | zero => exact refl s
    | succ left ih =>
      rw [serveSome]
      split
      · exact refl s
      · rename_i h rest _
        split
        · exact refl s
        · rename_i framing _
          -- Whether its body was there or not, the request is dealt with once.
          rcases framing.read rest with f | ⟨bytes, rest⟩
          all_goals
            dsimp only
            split
            · rename_i s' hs
              exact one hs
            · rename_i response s' hs
              split
              · exact trans (one hs) (ih s' _)
              · exact one hs
  unfold serve
  split
  · exact refl s
  · exact some _ s bs

namespace World

variable [Platform]

/-- What a whole connection does: the updates that its requests ask for, one after the other. -/
theorem serve_updates (w : World) (router : Router) (c : Connection) (closed : Bool)
    (bytes : List UInt8) : ∃ us : List (Kind × String),
      ((handler router c closed).serve w bytes).2 = w.updates us ∧
      ∀ u ∈ us, router = .admin ∧ ∃ r : Request, r.Asks u.1 u.2 := by
  refine Handler.serve_steps (R := fun w w' => ∃ us : List (Kind × String), w' = w.updates us ∧
    ∀ u ∈ us, router = .admin ∧ ∃ r : Request, r.Asks u.1 u.2) ?_ ?_ ?_ w bytes
  · exact fun w => ⟨[], rfl, fun u hu => nomatch hu⟩
  · rintro w w₁ w₂ ⟨us, rfl, hus⟩ ⟨vs, rfl, hvs⟩
    refine ⟨us ++ vs, (w.updates_append us vs).symm, fun u hu => ?_⟩
    exact (List.mem_append.mp hu).elim (hus u) (hvs u)
  · intro w r
    obtain ⟨us, hw, hus⟩ := w.respond_updates router (some c) r
    exact ⟨us, hw, fun u hu => ⟨(hus u hu).1, r, (hus u hu).2⟩⟩

end World

/-! ### Who may change a registry -/

theorem Program.DaemonOptions.servers_admin {o : DaemonOptions} {k : Kind} {router : Router}
    (h : o.servers k = some router) : router = .admin ↔ k.Administers := by
  unfold servers at h
  unfold Kind.Administers
  split at h
  · rename_i hguest
    cases h
    rw [hguest.1]
    decide
  · cases k <;> cases h <;> decide

theorem Program.DaemonOptions.servers_ne_faulty {o : DaemonOptions} {k : Kind} {router : Router}
    (h : o.servers k = some router) : router ≠ .faulty := by
  unfold servers at h
  split at h
  · cases h
    decide
  · cases k <;> cases h <;> decide

/-- What becomes of a registry through a request, and through all requests of a connection. -/
structure World.Governed [Platform] (w : World) (k : Kind) (router : Router) : Prop where
  /-- An update that is asked for at an administrative interface is carried out, and the answer tells how
  it went. -/
  updates : ∀ c r k' address, k.Administers → r.Asks k' address →
    w.respond router c r =
      (some (updateResponse (w.update k' address).1), (w.update k' address).2) ∧
    Tells (w.update k' address).1 (updateResponse (w.update k' address).1).status
  /-- Every other request is answered, and leaves everything as it is. -/
  otherwise : ∀ c r, ¬ (k.Administers ∧ ∃ k' address, r.Asks k' address) →
    (w.respond router c r).2 = w ∧ (w.respond router c r).1.isSome = true
  /-- A connection does what its requests ask for, one after the other. -/
  connection : ∀ (c : Connection) (closed : Bool) (bytes : List UInt8),
    ∃ us : List (Kind × String), ((handler router c closed).serve w bytes).2 = w.updates us ∧
      ∀ u ∈ us, k.Administers ∧ ∃ r : Request, r.Asks u.1 u.2

/-- Only at the two administrative interfaces, and only by a request for an update, can a registry be
changed. -/
theorem World.governed [Platform] {o : Program.DaemonOptions} {k : Kind} {router : Router}
    (h : o.servers k = some router) (w : World) : w.Governed k router where
  updates c r k' address hk hr := by
    have hcall := (Router.call_eq_update_iff (c := c)).mpr ⟨(Program.DaemonOptions.servers_admin h).mpr hk, hr⟩
    refine ⟨?_, tells_updateResponse _⟩
    unfold World.respond
    rw [hcall]
    rfl
  otherwise c r hno := by
    refine perform_other w (Router.call_ne_crash (Program.DaemonOptions.servers_ne_faulty h)) ?_
    intro k' address hcall
    obtain ⟨hadmin, hasks⟩ := Router.call_eq_update_iff.mp hcall
    exact hno ⟨(Program.DaemonOptions.servers_admin h).mp hadmin, k', address, hasks⟩
  connection c closed bytes := by
    obtain ⟨us, hw, hus⟩ := w.serve_updates router c closed bytes
    exact ⟨us, hw, fun u hu => ⟨(Program.DaemonOptions.servers_admin h).mp (hus u hu).1, (hus u hu).2⟩⟩

/-- The options of a daemon that serves a guest agent too. -/
def Program.DaemonOptions.withAgent : DaemonOptions :=
  ⟨defaultDirectory, none, "tls.crt", "tls.key", none, fun _ => none, true⟩

/-- The local administrative interface and the endpoint of the guest agent, at a registry that runs. -/
theorem World.governed_handed :
    World.handed.Governed .localAdmin .admin ∧ World.handed.Governed .guestAgent .greeting :=
  ⟨governed (o := Program.DaemonOptions.withAgent) rfl World.handed,
    governed (o := Program.DaemonOptions.withAgent) rfl World.handed⟩

end Portkeeper
