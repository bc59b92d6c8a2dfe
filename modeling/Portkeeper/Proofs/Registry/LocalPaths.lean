import Portkeeper.Proofs.Registry.Installing
import Portkeeper.Proofs.Registry.Shutdown
import Portkeeper.Proofs.Registry.Updating

/-!
The paths of local endpoints. White space at the ends of a path that is configured gets neither into the
name of the socket nor into the path that is removed along with it, and yet it is recorded. So it takes
a path without such white space for an endpoint to be found at the path in every respect.
-/

set_option autoImplicit false

namespace Portkeeper
open Text

namespace Config

variable {c : Config} {k : Kind} {plan : List (Kind × String)}

/-- The path that is configured for the socket of a local kind. -/
def socketPath (c : Config) : Kind → String
  | .localAdmin => c.localSocket
  | _ => c.guestAgentSocket

/-- What is recorded for the path, if the socket is bound for it. -/
def recordedPath (c : Config) (k : Kind) : String :=
  if asksForPort (c.socketPath k) then trimmed (c.socketPath k) else c.socketPath k

theorem mem_localPlan (hk : k.isNetwork = false) (hs : c.hasServer k = true) :
    (k, c.socketPath k) ∈ c.localPlan := by
  unfold localPlan
  cases k with
  | localAdmin => exact List.mem_cons_self
  | guestAgent =>
    rw [if_pos hs]
    exact List.mem_cons_of_mem _ List.mem_cons_self
  | _ => cases hk

theorem path_of_plan (hp : c.plan = .ok plan) {address : String} (hm : (k, address) ∈ plan)
    (hk : k.isNetwork = false) : address = c.socketPath k := by
  obtain ⟨-, net, rfl, hnet⟩ := plan_configured hp
  rcases List.mem_append.mp hm with hm | hm
  · unfold localPlan at hm
    rcases List.mem_cons.mp hm with he | hm
    · cases he
      rfl
    · split at hm
      · cases List.mem_singleton.mp hm
        rfl
      · cases hm
  · rw [(hnet _ hm).network] at hk
    cases hk

end Config

/-! ### Listeners on paths -/

namespace Listener

/-- A fresh listener of a kind, which has made a socket file at a path. -/
structure IsAt (l : Listener) (k : Kind) (path : List Char) : Prop where
  kind : l.kind = k
  provenance : l.provenance = .bound
  descriptor : l.descriptor = none
  file : l.file = some path

variable {l : Listener} {k : Kind} {path : List Char}

theorem IsAt.drop (hl : l.IsAt k path) (h : Host) :
    h.drop l = (h.closeSocket l.socket).unlink path := by
  simp only [Host.drop, hl.descriptor, hl.file]

theorem IsAt.recordAs (hl : l.IsAt k path) (h : Host) (requested : String) :
    l.recordAs h requested = if requested = "" || asksForPort requested then String.ofList path
      else requested := by
  unfold Listener.recordAs address
  rw [hl.file]

end Listener

/-- A listener that is opened for a local kind is at the path that was asked for, less white space at its
ends, and so is its socket. -/
theorem Host.Opens.isAt [Platform] {h h' : Host} {k : Kind} {address : String} {b : Bundle}
    {l : Listener} (ho : h.Opens h' k address b l) (hk : k.isNetwork = false) :
    l.IsAt k (trim address.toList) ∧ address ≠ "" := by
  obtain ⟨c, hc, hne, hu⟩ := ho.unix hk
  rw [Kind.canonicalize_local hk] at hc
  obtain rfl := Except.ok.inj hc
  obtain ⟨h₁, q, -, -, -, -, -, hr, -⟩ := Bind.unix_ok hu
  refine ⟨⟨ho.kind, ho.provenance, ho.descriptor, ?_⟩, fun he => hne (by rw [he]; rfl)⟩
  rw [(Prod.mk.inj hr).2, trimmed, String.toList_ofList]

theorem Kind.Asks.path [Platform] {k : Kind} {address : String} {n : SocketName}
    (h : k.Asks address n) (hk : k.isNetwork = false) : n = .unix (.path (trim address.toList)) := by
  obtain ⟨c, hc, hy⟩ := h
  rw [canonicalize_local hk] at hc
  obtain rfl := Except.ok.inj hc
  have ht : k.transport = .unix := by simpa [isNetwork] using hk
  unfold Yields at hy
  rw [ht] at hy
  rw [hy, trimmed, String.toList_ofList]

/-- A loop has a listener for good, with a socket that stays what it is until it is closed. -/
def Seated (id : LoopId) (l : Listener) (sk : Socket) (h : Host) (loops : List Loop) : Prop :=
  ∃ m, loops[id]? = some m ∧ m.listener = l ∧
    (m.isOpen = true → h.sockets.get? l.socket = some sk)

theorem enduring_seated (id : LoopId) (l : Listener) (sk : Socket) : Enduring (Seated id l sk) where
  close {h loops i n} hw hm hn ho := by
    obtain ⟨m, hget, rfl, hsk⟩ := hm
    obtain ⟨m', hget', hk⟩ := Extends.set loops hn (n.listener_close h.now) id m hget
    refine ⟨m', hget', hk, fun hmo => ?_⟩
    rcases Loop.of_getElem?_set hget' with ⟨-, rfl⟩ | ⟨hi, hother⟩
    · simp at hmo
    · obtain rfl : m = m' := Option.some.inj (hget.symm.trans hother)
      rw [(hw.holds hn ho).get?_drop fun hc => hi (hw.apart hget hn hc)]
      exact hsk hmo
  leaves hm hl := by
    obtain ⟨m, hget, rfl, hsk⟩ := hm
    exact ⟨m, hget, rfl, fun ho => (hl hget).socket.trans (hsk ho)⟩
  push {h loops} n hm := by
    obtain ⟨m, hget, rfl, hsk⟩ := hm
    have hlt : id < loops.length := (List.getElem?_eq_some_iff.mp hget).1
    exact ⟨m, (List.getElem?_append_left hlt).trans hget, rfl, hsk⟩
  visit {h loops i n n'} hm hn hk hc := by
    obtain ⟨m, hget, rfl, hsk⟩ := hm
    obtain ⟨m', hget', hk'⟩ := Extends.set loops hn hk id m hget
    refine ⟨m', hget', hk', fun ho => hsk ?_⟩
    rcases Loop.of_getElem?_set hget' with ⟨rfl, rfl⟩ | ⟨-, hother⟩
    · obtain rfl : m = n := Option.some.inj (hget.symm.trans hn)
      rwa [Loop.isOpen, ← hc]
    · obtain rfl : m = m' := Option.some.inj (hget.symm.trans hother)
      exact ho

/-- Nothing but a stop touches the entry of a local kind. -/
theorem upkeep_local [Platform] {k : Kind} (hk : k.isNetwork = false) (e : Option Entry) :
    Upkeep (fun t => t.registry.entries k = e) fun _ => True where
  same he ht := (congrFun he k).trans ht
  begins {t m} hs ht hm := by
    refine ⟨?_, fun _ => trivial⟩
    rcases (Site.beginChange_entries hs m.kind m.canonical).2 k with he | ⟨rfl, -⟩
    · exact he.trans ht
    · rw [hm.network] at hk
      cases hk
  goes {t m c} hs hp ht _ := by
    refine ⟨?_, trivial⟩
    rcases (Site.step_entries hs hp).2 k with he | ⟨rfl, -⟩
    · exact he.trans ht
    · rw [hp.valid.network] at hk
      cases hk
  rests _ _ := trivial

/-! ### From the start to the end -/

namespace World

variable [Platform] {c : Config} {h : Host} {t : Site} {k : Kind}

/-- A local kind with a handler is served once a registry is up, on a socket that is bound for it unless
one was handed over. -/
theorem up_local (hs : h.Sound) (hup : (unstarted h).up c = (.ok (), ofSite t))
    (hk : k.isNetwork = false) (hserver : c.hasServer k = true) (fresh : k ∉ c.inheritedKinds) :
    ∃ (id : LoopId) (l : Listener) (router : Router),
      t.registry.entries k = some ⟨c.recordedPath k, .bound, none, some id⟩ ∧
      l.IsAt k (trim (c.socketPath k).toList) ∧ t.loops[id]? = some ⟨l, router, none, []⟩ ∧
      t.host.sockets.get? l.socket =
        some ⟨.unix (.path (trim (c.socketPath k).toList)), .stream, true⟩ := by
  obtain ⟨-, t', plan, hsame, hst⟩ | ⟨e', -, -, herr, -⟩ := up_cases hs hup
  · obtain rfl : t = t' := Option.some.inj (congrArg site? hsame)
    obtain ⟨-, net, hplan, -⟩ := Config.plan_configured hst.planned
    have hplace : (k, c.socketPath k) ∈ plan :=
      hplan ▸ List.mem_append_left net (Config.mem_localPlan hk hserver)
    have hsome := (hst.kinds k).mpr (Or.inr (List.mem_map_of_mem (f := Prod.fst) hplace))
    obtain ⟨e, he⟩ := Option.isSome_iff_exists.mp hsome
    obtain ⟨d, id, router, -, hb, hentry, hv⟩ := up_entry hs hup he
    -- The entry says what was recorded and who listens; the name of the socket is known from the start.
    obtain ⟨address, id', m, n, hm, hv', -, -, hasks, hsk⟩ := hst.bound he fresh
    obtain rfl : id = id' := Option.some.inj (hv.serving.symm.trans hv'.serving)
    obtain rfl := Option.some.inj (hv'.loop.symm.trans hv.loop)
    obtain rfl := Config.path_of_plan hst.planned hm hk
    rw [hasks.path hk] at hsk
    cases hb with
    | inherited handed => exact absurd handed fresh
    | bound _ planned place opens =>
      rename_i l requested plan' h₁ h₂ _
      obtain ⟨hat, hne⟩ := opens.isAt hk
      obtain rfl := Config.path_of_plan planned place hk
      refine ⟨id, l, router, ?_, hat, hv.loop, hsk⟩
      rw [he, hentry, Site.serving, hat.provenance, hat.recordAs]
      simp [Config.recordedPath, hne, trimmed]
  · cases herr

/-- A local kind is found at a path in every respect: its socket is bound there, the path is recorded and
reported, and it is what is removed when the listener is closed. -/
def FoundAt (w : World) (k : Kind) (path : String) : Prop :=
  ∃ (t : Site) (e : Entry) (id : LoopId) (m : Loop) (sk : Socket), w.site? = some t ∧
    t.registry.entries k = some e ∧ e.serving = some id ∧ t.loops[id]? = some m ∧ m.isOpen = true ∧
    t.host.sockets.get? m.listener.socket = some sk ∧ sk.name = .unix (.path path.toList) ∧
    e.address = path ∧ w.address k = path ∧ ⟨k, path, false⟩ ∈ w.listing ∧
    m.listener.file = some path.toList

end World

namespace Scene

/-- A registry with a local endpoint on a path. While it runs the endpoint is recorded and reported as it
was; until its listener is closed the socket has the path for its name; and closing the listener closes
the socket and removes what stands at the path. -/
structure Lodges (s : Scene) (k : Kind) (e : Entry) (id : LoopId) (l : Listener)
    (path : List Char) : Prop where
  recorded : ∀ {t : Site}, s.world.site? = some t → t.registry.entries k = some e
  reported : ∀ {t : Site}, s.world.site? = some t → s.world.address k = e.address ∧
    ⟨k, e.address, e.provenance = .inherited⟩ ∈ s.world.listing
  seated : Seated id l ⟨.unix (.path path), .stream, true⟩ s.world.host s.world.loops
  closing : ∀ {m : Loop}, s.world.loops[id]? = some m → m.isOpen = true →
    (s.world.fault id).host = (s.world.host.closeSocket l.socket).unlink path

theorem Lodges.of {s : Scene} {k : Kind} {e : Entry} {id : LoopId} {l : Listener} {path : List Char}
    (he : ∀ {t : Site}, s.world.site? = some t → t.registry.entries k = some e)
    (hat : l.IsAt k path)
    (hl : Seated id l ⟨.unix (.path path), .stream, true⟩ s.world.host s.world.loops) :
    s.Lodges k e id l path where
  recorded := he
  reported ht := ⟨World.address_eq ht (he ht), World.mem_listing ht (he ht)⟩
  seated := hl
  closing {m} hm ho := by
    obtain ⟨m', hm', rfl, -⟩ := hl
    obtain rfl : m' = m := Option.some.inj (hm'.symm.trans hm)
    simp only [World.fault, hm, if_pos ho]
    exact hat.drop _

theorem foundAt_iff {w : World} {t : Site} {k : Kind} {id : LoopId} {l : Listener} {router : Router}
    {path : String} (ht : w.site? = some t) (hk : t.registry.entries k = some
      ⟨if asksForPort path then trimmed path else path, .bound, none, some id⟩)
    (hat : l.IsAt k (trim path.toList)) (hl : t.loops[id]? = some ⟨l, router, none, []⟩)
    (hsk : t.host.sockets.get? l.socket = some ⟨.unix (.path (trim path.toList)), .stream, true⟩) :
    w.FoundAt k path ↔ trimmed path = path := by
  constructor
  · rintro ⟨t', e, id', m, sk, ht', he, hid, hm, -, -, -, -, -, -, hfile⟩
    obtain rfl : t = t' := Option.some.inj (ht.symm.trans ht')
    obtain rfl := Option.some.inj (hk.symm.trans he)
    obtain rfl : id = id' := Option.some.inj hid
    obtain rfl := Option.some.inj (hl.symm.trans hm)
    have hsame : trim path.toList = path.toList := Option.some.inj (hat.file.symm.trans hfile)
    rw [trimmed, hsame, String.ofList_toList]
  · intro hsame
    have hpath : trim path.toList = path.toList := by
      rw [← hsame, trimmed, String.toList_ofList, trim_trim]
    rw [hsame, ite_self] at hk
    rw [hpath] at hat hsk
    exact ⟨t, _, id, _, _, ht, hk, rfl, hl, rfl, hsk, rfl, rfl, World.address_eq ht hk,
      World.mem_listing ht hk, hat.file⟩

variable [Platform] {tidy : Prop} {c : Config} {h : Host} {w : World} {k : Kind}

/-- A local endpoint whose socket is bound at the start has the path that is configured, without white
space at its ends, for the name of its socket, for as long as it is open, and for the path that is removed
when it is closed. While the registry runs, what is recorded and reported is the path that is configured,
with white space and all, unless the path ends as an address does that asks for a TCP port. If nobody else
meddles with the files, the path leads to the socket until the socket is closed. So the endpoint is found
at the configured path in every respect if and only if that path has no white space at its ends. -/
theorem local_paths (hs : h.Sound) (hup : (World.unstarted h).up c = (.ok (), w))
    (hk : k.isNetwork = false) (hserver : c.hasServer k = true) (fresh : k ∉ c.inheritedKinds) :
    ∃ (e : Entry) (id : LoopId) (l : Listener), e.provenance = .bound ∧ e.serving = some id ∧
      e.address = c.recordedPath k ∧ l.IsAt k (trim (c.socketPath k).toList) ∧
      (∃ m, w.loops[id]? = some m ∧ m.isOpen = true) ∧
      (∀ s, Run tidy (opening w) s → s.Lodges k e id l (trim (c.socketPath k).toList) ∧
        (tidy → ∀ m, s.world.loops[id]? = some m → l.Filed s.world.host.files
          (c.CutsOff h ∧ k = .localAdmin) m.isOpen)) ∧
      (w.FoundAt k (c.socketPath k) ↔ trimmed (c.socketPath k) = c.socketPath k) := by
  have hs₀ := sound_opening hs hup
  obtain ⟨htends, -⟩ := tends_opening hs hup
  obtain ⟨t, rfl⟩ : ∃ t, w = .ofSite t := by
    obtain ⟨-, t, plan, rfl, -⟩ | ⟨e, -, -, herr, -⟩ := World.up_cases hs hup
    · exact ⟨t, rfl⟩
    · cases herr
  obtain ⟨id, l, router, hentry, hat, hloop, hsk⟩ := World.up_local hs hup hk hserver fresh
  have hn : (opening (.ofSite t)).world.stage ≠ .unstarted := nofun
  have hb : (opening (.ofSite t)).Bears (fun t => t.registry.entries k =
      some ⟨c.recordedPath k, .bound, none, some id⟩) fun _ => True :=
    ⟨fun ht => Option.some.inj ht ▸ hentry, nofun⟩
  refine ⟨⟨c.recordedPath k, .bound, none, some id⟩, id, l, rfl, rfl, rfl, hat, ⟨_, hloop, rfl⟩,
    fun s hrun => ?_, foundAt_iff rfl hentry hat hloop hsk⟩
  have hbears := hb.run (upkeep_local hk _) hn hs₀ hrun
  have hseated := (enduring_seated id l _).run hs₀ hn ⟨_, hloop, rfl, fun _ => hsk⟩ hrun
  refine ⟨Lodges.of (fun ht => hbears.site ht) hat hseated, fun ht m hm => ?_⟩
  obtain ⟨m', hm', rfl, -⟩ := hseated
  obtain rfl : m' = m := Option.some.inj (hm'.symm.trans hm)
  have hfiled := (htends.run hs₀ ht hrun).tended.filed hm
  rwa [hat.kind] at hfiled

end Scene

/-! ### A path that ends with a blank -/

def Config.trailing : Config where
  directory := "s"
  unixSocket := some "trail.sock "
  bundle := ⟨[], ⟨[], []⟩, []⟩
  servers := fun k => if k = .localAdmin then some .greeting else none
  addresses := fun _ => none
  handedOver := none
  firstDescriptor := Config.usualFirstDescriptor

theorem Config.fresh_trailing : Kind.localAdmin ∉ Config.trailing.inheritedKinds := by decide

theorem Config.path_trailing :
    trim (Config.trailing.socketPath .localAdmin).toList = "trail.sock".toList ∧
      Config.trailing.recordedPath .localAdmin = "trail.sock " := by decide

theorem World.up_trailing : ∃ t, (unstarted Host.linked).up Config.trailing = (.ok (), ofSite t) := by
  have hr : (Config.trailing.openAll Host.linked).1.isOk = true := by decide +kernel
  cases ho : Config.trailing.openAll Host.linked with
  | mk r h' =>
    cases r with
    | ok o =>
      obtain ⟨t, plan, hup, -⟩ := up_ok Host.sound_linked ho
      exact ⟨t, hup⟩
    | error e =>
      rw [ho] at hr
      cases hr

namespace Scene

theorem local_paths_trailing : ∃ (t : Site) (e : Entry) (id : LoopId) (l : Listener),
    (World.unstarted Host.linked).up Config.trailing = (.ok (), .ofSite t) ∧
    Kind.localAdmin.isNetwork = false ∧ Config.trailing.hasServer .localAdmin = true ∧
    .localAdmin ∉ Config.trailing.inheritedKinds ∧ e.address = "trail.sock " ∧
    l.IsAt .localAdmin "trail.sock".toList ∧
    ∀ s, Run True (opening (.ofSite t)) s → s.Lodges .localAdmin e id l "trail.sock".toList := by
  obtain ⟨t, hup⟩ := World.up_trailing
  obtain ⟨e, id, l, -, -, haddress, hat, -, hruns, -⟩ :=
    @local_paths _ True _ _ _ _ Host.sound_linked hup rfl rfl Config.fresh_trailing
  obtain ⟨hpath, hrecorded⟩ := Config.path_trailing
  rw [hpath] at hat hruns
  exact ⟨t, e, id, l, hup, rfl, rfl, Config.fresh_trailing, haddress.trans hrecorded, hat, fun s hr => (hruns s hr).1⟩

/-- The path that is configured and recorded there is not where the socket is. -/
theorem local_paths_elsewhere : ∃ (w : World) (t : Site) (e : Entry) (id : LoopId) (m : Loop),
    (World.unstarted Host.linked).up Config.trailing = (.ok (), w) ∧ w.site? = some t ∧
    .localAdmin ∉ Config.trailing.inheritedKinds ∧ Config.trailing.localSocket = "trail.sock " ∧
    t.registry.entries .localAdmin = some e ∧ e.provenance = .bound ∧ e.address = "trail.sock " ∧
    e.serving = some id ∧ t.loops[id]? = some m ∧
    t.host.sockets.get? m.listener.socket = some ⟨.unix (.path "trail.sock".toList), .stream, true⟩ ∧
    m.listener.file = some "trail.sock".toList ∧
    ¬w.FoundAt .localAdmin Config.trailing.localSocket := by
  obtain ⟨t, hup⟩ := World.up_trailing
  obtain ⟨id, l, router, hentry, hat, hloop, hsk⟩ :=
    World.up_local Host.sound_linked hup rfl rfl Config.fresh_trailing
  have hfound := foundAt_iff (World.site?_ofSite t) hentry hat hloop hsk
  obtain ⟨hpath, hrecorded⟩ := Config.path_trailing
  rw [hpath] at hat hsk
  exact ⟨_, t, _, id, _, hup, rfl, Config.fresh_trailing, rfl, hentry, rfl, hrecorded, rfl, hloop,
    hsk, hat.file, fun hc => absurd (hfound.mp hc) (by decide)⟩

end Scene
end Portkeeper
