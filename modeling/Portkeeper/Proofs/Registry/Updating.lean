import Portkeeper.Proofs.Registry.Lasting
import Portkeeper.Sandbox

/-!
What a request to move a kind comes to while nobody else turns to the registry. The kind is served anew
at one address or the other, or it is down, and no other kind notices.
-/

set_option autoImplicit false

namespace Portkeeper
namespace Site

variable [Platform]

/-- A change is confined to a kind: all other kinds are served as before, and the loop that served this
one has let go of its socket and is kept. -/
structure Confined (t t' : Site) (k : Kind) : Prop where
  sound : t'.Sound
  servers : t'.registry.servers = t.registry.servers
  bundle : t'.registry.bundle = t.registry.bundle
  entries : ∀ k', k' ≠ k → t'.registry.entries k' = t.registry.entries k'
  loops : ∀ {id : LoopId} {l : Loop}, t.loops[id]? = some l → id ∉ t.loopsOf k →
    t'.loops[id]? = some l
  sockets : ∀ {id : LoopId} {l : Loop}, t.loops[id]? = some l → l.isOpen = true →
    id ∉ t.loopsOf k →
    t'.host.sockets.get? l.listener.socket = t.host.sockets.get? l.listener.socket
  replaced : ∀ {id : LoopId} {l : Loop}, t.loops[id]? = some l → id ∈ t.loopsOf k →
    t'.loops[id]? = some (l.close t.now) ∧ l.listener.Released t'.host ∧
      id ∈ t'.registry.retired

/-- A kind is served by a new loop on a fresh socket, which has the name that was asked for. What was
asked for is recorded, unless it asks for a TCP port. -/
structure Renews (t t' : Site) (k : Kind) (address : String) (l : Listener) (n : SocketName)
    (router : Router) : Prop where
  handler : t.registry.servers k = some router
  entry : t'.registry.entries k =
    some ⟨if asksForPort address then String.ofList n.text else address, .bound, none,
      some t.loops.length⟩
  loop : t'.loops[t.loops.length]? = some ⟨l, router, none, []⟩
  fresh : t.host.nextSocket ≤ l.socket
  socket : t'.host.sockets.get? l.socket = some ⟨n, .stream, true⟩
  asks : k.Asks address n

/-- What a change of a kind to an address comes to, and what is reported: the kind is disabled or
moved; or the new address fails, and then so does the change, whether there was nothing to restore, the
previous address is served again, or that fails as well. -/
inductive Outcome (t t' : Site) (k : Kind) (address : String) : Except EndpointError Unit → Prop
  | disabled (empty : address = "") (down : t'.registry.entries k = none) :
      Outcome t t' k address (.ok ())
  | moved {h : Host} {l : Listener} {n : SocketName} {router : Router} (given : address ≠ "")
      (bid : (t.close k).2.host.listenRetrying k address t.registry.bundle = (.ok l, h))
      (live : t.Renews t' k address l n router) : Outcome t t' k address (.ok ())
  | failed {h : Host} {e : EndpointError} (given : address ≠ "")
      (bid : (t.close k).2.host.listenRetrying k address t.registry.bundle = (.error e, h))
      (plain : ∀ k p f g, e ≠ .unavailable k p f g) (vacant : t.registry.entries k = none)
      (down : t'.registry.entries k = none) : Outcome t t' k address (.error e)
  | restored {h h' : Host} {e : EndpointError} {old : Entry} {l : Listener} {n : SocketName}
      {router : Router} (given : address ≠ "")
      (bid : (t.close k).2.host.listenRetrying k address t.registry.bundle = (.error e, h))
      (plain : ∀ k p f g, e ≠ .unavailable k p f g) (entry : t.registry.entries k = some old)
      (rollback : h.listenRetrying k old.address t.registry.bundle = (.ok l, h'))
      (live : t.Renews t' k old.address l n router) : Outcome t t' k address (.error e)
  | lost {h h' : Host} {e e' : EndpointError} {old : Entry} (given : address ≠ "")
      (bid : (t.close k).2.host.listenRetrying k address t.registry.bundle = (.error e, h))
      (plain : ∀ k p f g, e ≠ .unavailable k p f g) (entry : t.registry.entries k = some old)
      (rollback : h.listenRetrying k old.address t.registry.bundle = (.error e', h'))
      (down : t'.registry.entries k = none) :
      Outcome t t' k address (.error (.unavailable k old.address e e'))

variable {t g : Site} {k : Kind} {address : String}

/-- Closing a kind opens nothing. -/
theorem Sound.close_keeps (hs : t.Sound) (k : Kind) :
    (t.close k).2.loops.length = t.loops.length ∧
      (t.close k).2.host.nextSocket = t.host.nextSocket :=
  close_stable (P := fun h loops => loops.length = t.loops.length ∧ h.nextSocket = t.host.nextSocket)
    ⟨fun hn _ _ => by rwa [List.length_set, Host.nextSocket_drop]⟩ hs ⟨rfl, rfl⟩ k

/-- What the beginning of a change does to the records: at most it takes the kind away. -/
theorem beginChange_entries (hs : t.Sound) (k : Kind) (address : String) :
    (t.beginChange k address).2.loops.length = t.loops.length ∧
      ∀ k', (t.beginChange k address).2.registry.entries k' = t.registry.entries k' ∨
        k' = k ∧ (t.beginChange k address).2.registry.entries k' = none := by
  have hclose : (t.close k).2.loops.length = t.loops.length ∧
      ∀ k', (t.close k).2.registry.entries k' = t.registry.entries k' ∨
        k' = k ∧ (t.close k).2.registry.entries k' = none := by
    refine ⟨(hs.close_keeps k).1, fun k' => ?_⟩
    rw [entries_close hs]
    split
    · rename_i hk
      exact Or.inr ⟨hk, rfl⟩
    · exact Or.inl rfl
  rcases t.beginChange_cases k address with ⟨-, hb⟩ | ⟨-, ⟨-, -, hb⟩ | ⟨-, hb⟩ | ⟨-, -, hb⟩⟩ <;> rw [hb]
  · exact ⟨rfl, fun _ => Or.inl rfl⟩
  · exact ⟨rfl, fun _ => Or.inl rfl⟩
  · exact hclose
  · exact hclose

/-- What a step of a change does to the records: at most the kind is recorded with a new loop. -/
theorem step_entries (hs : t.Sound) {m : Move} {c : Change} (hp : t.Pursues m c) :
    t.loops.length ≤ (t.step c).2.loops.length ∧
      ∀ k', (t.step c).2.registry.entries k' = t.registry.entries k' ∨
        k' = m.kind ∧ ∃ e, (t.step c).2.registry.entries k' = some e ∧
          e.serving = some t.loops.length := by
  rcases hs.step_cases hp.carried with ⟨r, rfl, he⟩ | ⟨k, h, -, -, he, -⟩ |
    ⟨b, h, l, router, -, hw, -, he, hdone⟩ <;> rw [he]
  · exact ⟨Nat.le_refl _, fun _ => Or.inl rfl⟩
  · exact ⟨Nat.le_refl _, fun _ => Or.inl rfl⟩
  · have hkind : l.kind = m.kind := by
      obtain ⟨h₁, -, -, -, hopens⟩ := hw
      rw [hopens.kind]
      rcases hdone with ⟨previous, rfl, -⟩ | ⟨failure, rfl, -⟩
      · exact hp.target.1
      · exact hp.target
    refine ⟨by simp [hand], fun k' => ?_⟩
    rw [entries_hand, hkind]
    split
    · rename_i hk
      exact Or.inr ⟨hk, _, rfl, rfl⟩
    · exact Or.inl rfl

/-- Closing a kind is confined to it. -/
theorem Sound.confined_close (hs : t.Sound) (k : Kind) : t.Confined (t.close k).2 k := by
  have hentries (k' : Kind) (hk : k' ≠ k) :
      (t.close k).2.registry.entries k' = t.registry.entries k' := by
    rw [entries_close hs, if_neg hk]
  have hsound := hs.close k
  cases he : t.registry.entries k with
  | none =>
    have hno : t.loopsOf k = [] := by simp [loopsOf, he]
    rw [close_none he] at hsound hentries ⊢
    exact ⟨hs, rfl, rfl, hentries, fun hl _ => hl, fun _ _ _ => rfl,
      fun _ hid => by simp [hno] at hid⟩
  | some e =>
    obtain ⟨i, m, hv⟩ := hs.serves he
    have honly {id : LoopId} : id ∈ t.loopsOf k ↔ id = i := by simp [loopsOf, he, hv.serving, eq_comm]
    have hget := getElem?_closeLoop hv.loop
    rw [close_eq hs he hv.serving] at hsound hentries ⊢
    refine ⟨hsound, ?_, ?_, hentries, fun {id l} hl hid => ?_, fun {id l} hl ho hid => ?_,
      fun {id l} hl hid => ?_⟩
    · show (t.closeLoop i).registry.servers = t.registry.servers
      rw [registry_closeLoop]
    · show (t.closeLoop i).registry.bundle = t.registry.bundle
      rw [registry_closeLoop]
    · rw [honly] at hid
      exact (hget id).trans ((if_neg hid).trans hl)
    · rw [honly] at hid
      show (t.closeLoop i).host.sockets.get? _ = _
      rw [closeLoop_eq hv.loop]
      split
      · rename_i hmo
        exact (hs.wired.holds hv.loop hmo).get?_drop fun hc => hid (hs.wired.apart hl hv.loop hc)
      · rfl
    · rw [honly] at hid
      subst hid
      obtain rfl : m = l := Option.some.inj (hv.loop.symm.trans hl)
      have hloop : ((t.closeLoop id).forget k id).loops[id]? = some (m.close t.now) :=
        (hget id).trans (if_pos rfl)
      exact ⟨hloop, by simpa using hsound.wired.released hloop (by simp),
        List.mem_append_right _ List.mem_cons_self⟩

/-- What others do meanwhile is no matter. -/
theorem Confined.later (hc : t.Confined g k) {h : Host} (hh : g.host.Later h) (hs : h.Sound) :
    t.Confined { g with host := h } k where
  sound := hc.sound.later hs hh
  servers := hc.servers
  bundle := hc.bundle
  entries := hc.entries
  loops := hc.loops
  sockets hl ho hid := by
    have hl' := hc.loops hl hid
    exact (hh.sockets (hc.sound.wired.bounded hl') (hc.sound.wired.spares hl')).trans
      (hc.sockets hl ho hid)
  replaced hl hid := by
    obtain ⟨hloop, hrel, hret⟩ := hc.replaced hl hid
    exact ⟨hloop, hrel.later hh, hret⟩

/-- Nor is a new loop for the kind. -/
theorem Confined.hand (hc : t.Confined g k) {l : Listener} {router : Router} (hl : l.kind = k)
    (hs : (g.hand l router address).Sound) : t.Confined (g.hand l router address) k := by
  have hkeep {id : LoopId} {m : Loop} (hm : g.loops[id]? = some m) :
      (g.hand l router address).loops[id]? = some m := by
    rw [getElem?_hand, if_neg (Nat.ne_of_lt (List.getElem?_eq_some_iff.mp hm).1), hm]
  refine ⟨hs, hc.servers, hc.bundle, fun k' hk => ?_,
    fun hm hid => hkeep (hc.loops hm hid), hc.sockets, fun hm hid => ?_⟩
  · rw [entries_hand, hl, if_neg hk]
    exact hc.entries k' hk
  · obtain ⟨hloop, hrel, hret⟩ := hc.replaced hm hid
    exact ⟨hkeep hloop, hrel, hret⟩

/-- A bid that was won: the kind is served anew. -/
theorem Confined.bring (hc : t.Confined g k) (hn : t.host.nextSocket ≤ g.host.nextSocket)
    (hlen : g.loops.length = t.loops.length) (ha : g.Admits k address) {h : Host} {l : Listener}
    (hw : g.host.Wins h k address g.registry.bundle l) :
    ∃ t' n router, Site.bring { g with host := h } l address = (.ok (), t') ∧
      t.Confined t' k ∧ t.Renews t' k address l n router := by
  obtain ⟨router, n, hr, hasks, hsk, hb, hsound⟩ := hc.sound.bring ha hw
  obtain ⟨h₁, hlater, -, -, ho⟩ := id hw
  refine ⟨_, n, router, hb, (hc.later hw.later hw.sound).hand ho.kind hsound, ?_⟩
  refine ⟨hc.servers ▸ hr, ?_, ?_, ?_, hsk, hasks⟩
  · rw [entries_hand, ho.kind, if_pos rfl, ho.provenance,
      Listener.recordAs_network (ho.network ha.network).1 hsk]
    simp [ha.formed.ne_empty ha.network, hlen]
  · rw [getElem?_hand]
    simp [hlen]
  · rw [ho.socket]
    exact Nat.le_trans hn hlater.next

/-- A change that has something to change closes the kind first, and then bids for the new address. -/
theorem change_eq {router : Router} (hr : t.registry.servers k = some router)
    (hn : t.isCurrent k address = false) :
    t.change k address = if address = "" then (.ok (), (t.close k).2) else
      let (c, s) := (t.close k).2.steps (.moving (.first k address) (t.close k).1)
        (Change.moving (.first k address) (t.close k).1).budget
      (c.result?.getD (.ok ()), s) := by
  have hb := beginChange_eq hn fun _ => by rw [hr]; rfl
  by_cases he : address = ""
  · rw [if_pos he] at hb ⊢
    exact change_of_done hb
  · rw [if_neg he] at hb ⊢
    unfold change
    rw [hb]

/-- What a change comes to that has something to change. -/
theorem Sound.change_settles (hs : t.Sound) (hk : k.isNetwork = true) {router : Router}
    (hr : t.registry.servers k = some router) (hf : address ≠ "" → k.Formed address)
    (hn : t.isCurrent k address = false) :
    t.Confined (t.change k address).2 k ∧
      t.Outcome (t.change k address).2 k address (t.change k address).1 := by
  have hc := hs.confined_close k
  obtain ⟨hlen, hnext⟩ := hs.close_keeps k
  have hdown : (t.close k).2.registry.entries k = none := by rw [entries_close hs, if_pos rfl]
  have admits {a : String} (ha : k.Formed a) {h : Host} :
      Admits { (t.close k).2 with host := h } k a :=
    ⟨hk, ⟨router, hc.servers ▸ hr⟩, hdown, ha⟩
  rw [change_eq hr hn]
  by_cases he : address = ""
  · rw [if_pos he]
    exact ⟨hc, .disabled he hdown⟩
  · rw [if_neg he, steps_budget, hc.bundle]
    cases hbid : (t.close k).2.host.listenRetrying k address t.registry.bundle with
    | mk r h =>
      have hd := Host.listenRetrying_spec hc.sound.wired.sound hk hbid
      cases r with
      | ok l =>
        obtain ⟨t', n, router', hb, hc', hnew⟩ :=
          hc.bring (Nat.le_of_eq hnext.symm) hlen (admits (hf he)) (hc.bundle ▸ hd)
        dsimp only
        rw [hb]
        exact ⟨hc', .moved he hbid hnew⟩
      | error e =>
        obtain ⟨hw, hplain⟩ := hd
        have hc₁ := hc.later hw.later hw.sound
        dsimp only
        cases hentry : t.registry.entries k with
        | none =>
          have hprev : (t.close k).1 = "" := by rw [close_none hentry]
          rw [hprev, if_pos rfl]
          exact ⟨hc₁, .failed he hbid hplain hentry hdown⟩
        | some old =>
          obtain ⟨id, m, hv⟩ := hs.serves hentry
          have hprev : (t.close k).1 = old.address := by rw [close_eq hs hentry hv.serving]
          have hold := hv.formed hk
          rw [hprev, if_neg (hold.ne_empty hk)]
          cases hback : h.listenRetrying k old.address t.registry.bundle with
          | mk r h' =>
            have hd := Host.listenRetrying_spec hw.sound hk hback
            cases r with
            | ok l =>
              obtain ⟨t', n, router', hb, hc', hnew⟩ :=
                hc₁.bring (hnext ▸ hw.later.next) hlen (admits hold) (hc.bundle ▸ hd)
              dsimp only
              rw [hb]
              exact ⟨hc', .restored he hbid hplain hentry hback hnew⟩
            | error e' =>
              exact ⟨hc₁.later hd.1.later hd.1.sound, .lost he hbid hplain hentry hback hdown⟩

end Site

/-- A request to move a kind that has a handler, to an address that is not current, has one of these
outcomes: the kind is disabled, as was asked; it is served at the new address; the bid for the new
address fails, which is reported, and the kind is served at the address recorded before if there was
one; or that bid fails as well, and the report says so. All of it is confined to the kind. -/
theorem World.update_settles [Platform] {s : Scene} (hr : s.Reachable) {t : Site}
    (ht : s.world.site? = some t) {k : Kind} (hk : k.isNetwork = true) {router : Router}
    (hserver : t.registry.servers k = some router) {text address : String}
    (hc : k.canonicalize text = .ok address) (hn : t.isCurrent k address = false) :
    ∃ r t', s.world.update k text = (r, .ofSite t') ∧ t.Confined t' k ∧
      t.Outcome t' k address r := by
  obtain ⟨hs, -⟩ := hr.sound.site ht
  have hsettles := hs.change_settles hk hserver (Kind.formed_canonicalize hc) hn
  refine ⟨(t.change k address).1, (t.change k address).2, ?_, hsettles⟩
  simp [update, check, World.change, hk, hc, ht, hn]

/-- A registry that was just asked to start has come to a state that it can come to. -/
theorem Scene.reachable_up [Platform] {h : Host} (hs : h.Sound) (c : Config) :
    Scene.Reachable ⟨((World.unstarted h).up c).2, none, [], none⟩ :=
  ⟨h, hs, .step .refl (.up rfl rfl)⟩

/-! ### A socket that was handed over before it was bound -/

open Der in
/-- A bundle for the secret one, whose certificate has no more than is looked at. -/
def Bundle.least : Bundle :=
  let bytes (n : Nat) : List UInt8 := (List.range 32).map fun i => UInt8.ofNat (n >>> (8 * (31 - i)))
  let point := 4 :: bytes Curve.generatorX ++ bytes Curve.generatorY
  let key := wrap sequenceTag (wrap integerTag [1] ++ wrap octetsTag (bytes 1) ++
    wrap (placeTag 1) (wrap bitsTag (0 :: point)))
  let empty := wrap sequenceTag []
  let signed := wrap (placeTag 0) (wrap integerTag [2]) ++ wrap integerTag [1] ++ empty ++ empty ++
    empty ++ empty ++ wrap sequenceTag (KeyPair.describe point)
  let certificate := wrap sequenceTag (wrap sequenceTag signed ++ empty ++ wrap bitsTag [0])
  ⟨[certificate], ⟨Text.utf8Bytes "EC PRIVATE KEY", key⟩, [certificate]⟩

/-- A host with a unix socket and an unbound TCP socket to hand over, and an address that is taken. -/
def Host.handed : Host where
  now := 0
  files := ⟨[], []⟩
  sockets := [(0, ⟨.unix .unnamed, .stream, true⟩),
    (1, ⟨.inet (.v4 ⟨0, 0, 0, 0⟩ 0), .stream, false⟩),
    (2, ⟨.inet (.v4 ⟨127, 0, 0, 1⟩ 7001), .stream, true⟩)]
  nextSocket := 3
  descriptors := [(3, ⟨false, .socket 0⟩), (4, ⟨false, .socket 1⟩)]
  picked := []
  agenda := []
  refusals := []
  attempts := []

theorem Host.sound_handed : Host.handed.Sound where
  sockets {id} hid := by
    obtain ⟨sk, hsk⟩ := Option.isSome_iff_exists.mp hid
    have hm := List.mem_map_of_mem (f := Prod.fst) (Table.mem_of_get? hsk)
    have hlt : ∀ id ∈ handed.sockets.map Prod.fst, id < handed.nextSocket := by decide
    exact hlt id hm
  agenda ht := by cases ht
  descriptors {fd b id} hd := by
    refine ⟨?_, fun t ht => by cases ht⟩
    simp only [handed, List.mem_cons, Prod.mk.injEq, Descriptor.mk.injEq,
      DescriptorTarget.socket.injEq, List.not_mem_nil, or_false] at hd
    rcases hd with ⟨-, -, rfl⟩ | ⟨-, -, rfl⟩ <;> decide
  distinct := by decide
  nodes {q m id} hq := by
    unfold Files.at? at hq
    split at hq
    · cases hq
    · cases hq

def Config.handed : Config where
  directory := "s"
  unixSocket := none
  bundle := .least
  servers := fun k => if k ∈ [.localAdmin, .networkAdmin] then some .greeting else none
  addresses := fun _ => none
  handedOver := some 2
  firstDescriptor := Config.usualFirstDescriptor

namespace World

/-- The registry that has taken them over. -/
@[irreducible] def handed : World := ((unstarted Host.handed).up Config.handed).2

theorem reachable_handed : Scene.Reachable ⟨handed, none, [], none⟩ := by
  unfold handed
  exact Scene.reachable_up Host.sound_handed Config.handed

theorem canonicalize_handed :
    Kind.networkAdmin.canonicalize "127.0.0.1:7001" = .ok "127.0.0.1:7001" := by decide +kernel

/-- Administrators on the network get an endpoint whose address is recorded without a port. -/
theorem handed_eq : ∃ t, handed.site? = some t ∧
    t.registry.servers .networkAdmin = some .greeting ∧
    (t.registry.entries .networkAdmin).map Entry.address = some "0.0.0.0:0" ∧
    t.isCurrent .networkAdmin "127.0.0.1:7001" = false := by
  have h : (handed.site?.any fun t =>
      t.registry.servers .networkAdmin = some .greeting ∧
      (t.registry.entries .networkAdmin).map Entry.address = some "0.0.0.0:0" ∧
      t.isCurrent .networkAdmin "127.0.0.1:7001" = false) = true := by decide +kernel
  obtain ⟨t, ht, hd⟩ := (Option.any_eq_true _ _).mp h
  exact ⟨t, ht, of_decide_eq_true hd⟩

theorem update_settles_handed : ∃ t r t', handed.site? = some t ∧
    t.registry.servers .networkAdmin = some .greeting ∧
    t.isCurrent .networkAdmin "127.0.0.1:7001" = false ∧
    handed.update .networkAdmin "127.0.0.1:7001" = (r, .ofSite t') ∧
    t.Confined t' .networkAdmin ∧ t.Outcome t' .networkAdmin "127.0.0.1:7001" r := by
  obtain ⟨t, ht, hserver, -, hn⟩ := handed_eq
  have hk : Kind.networkAdmin.isNetwork = true := by decide
  obtain ⟨r, t', h⟩ := update_settles reachable_handed ht hk hserver canonicalize_handed hn
  exact ⟨t, r, t', ht, hserver, hn, h⟩

/-- A kind that was recorded without a port is not down when a move of it has failed. -/
theorem update_restores_elsewhere : ∃ t t' e, handed.site? = some t ∧
    t.registry.servers .networkAdmin = some .greeting ∧
    (t.registry.entries .networkAdmin).map Entry.address = some "0.0.0.0:0" ∧
    t.isCurrent .networkAdmin "127.0.0.1:7001" = false ∧
    handed.update .networkAdmin "127.0.0.1:7001" = (.error e, .ofSite t') ∧
    (∀ k p f g, e ≠ .unavailable k p f g) ∧
    (t'.registry.entries .networkAdmin).map Entry.address = some "0.0.0.0:32768" := by
  obtain ⟨t, ht, hserver, hentry, hn⟩ := handed_eq
  have hr : (handed.update .networkAdmin "127.0.0.1:7001").1 =
      .error (.bind .networkAdmin "127.0.0.1:7001" (.number ErrorNumber.addressInUse)) := by
    decide +kernel
  have h : ((handed.update .networkAdmin "127.0.0.1:7001").2.site?.any fun t' =>
      (t'.registry.entries .networkAdmin).map Entry.address = some "0.0.0.0:32768") = true := by
    decide +kernel
  obtain ⟨t', ht', hd⟩ := (Option.any_eq_true _ _).mp h
  exact ⟨t, t', _, ht, hserver, hentry, hn, Prod.ext hr (ofSite_of_site? ht'), nofun,
    of_decide_eq_true hd⟩

end World
end Portkeeper
