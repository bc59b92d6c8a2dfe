import Portkeeper.Proofs.Api.Authority
import Portkeeper.Proofs.Registry.Isolation
import Portkeeper.Proofs.Registry.Reporting
import Portkeeper.Registry.Reach

/-!
A registry that runs withstands failures: what is recorded stays, every loop but the one concerned goes
on as it was, and calls are answered as ever.
-/

set_option autoImplicit false

namespace Portkeeper

/-! ### The task of a connection -/

/-- A client that comes to a listener: how it comes, what becomes of its handshake, whether it has closed
its side, and what it has sent. -/
structure Guest where
  arrival : Arrival
  shake : Handshake
  closed : Bool
  sent : List UInt8

namespace World

variable [Platform]

/-- The task of a connection: what is sent back, and what becomes of the registry. -/
def attend (w : World) (l : Loop) (g : Guest) : List UInt8 × World :=
  match (l.listener.receive g.arrival).connection? g.shake with
  | some c => (handler l.router c g.closed).serve w g.sent
  | none => ([], w)

/-- A task changes the registry by the updates that it was asked for in whole requests, and by nothing
else, however it ends. -/
theorem attend_updates (w : World) (l : Loop) (g : Guest) : ∃ us : List (Kind × String),
    (w.attend l g).2 = w.updates us ∧ ∀ u ∈ us, l.router = .admin ∧
      (l.listener.receive g.arrival).connection? g.shake ≠ none ∧ ∃ r : Http.Request, r.Asks u.1 u.2 := by
  unfold attend
  cases hc : (l.listener.receive g.arrival).connection? g.shake with
  | none => exact ⟨[], rfl, fun u hu => nomatch hu⟩
  | some c =>
    obtain ⟨us, hw, hus⟩ := w.serve_updates l.router c g.closed g.sent
    exact ⟨us, hw, fun u hu => ⟨(hus u hu).1, nofun, (hus u hu).2⟩⟩

theorem attend_unread {g : Guest} {client : Net.SocketAddress} (ha : g.arrival = .tcp client)
    {shown : List (List UInt8)} (hshake : ∀ a, g.shake a = some shown)
    (hread : ∀ c ∈ shown.head?, Identity.read c = none) (w : World) (l : Loop) :
    w.attend l g = w.attend l { g with shake := fun _ => some [] } := by
  have hnone : Connection.tcp l.listener.kind client shown.head? =
      Connection.tcp l.listener.kind client none := by
    unfold Connection.tcp
    cases hh : shown.head? with
    | none => rfl
    | some c => simp only [Option.bind_eq_bind, Option.bind_some, Option.bind_none, hread c hh]
  have hsame : (l.listener.receive g.arrival).connection? g.shake =
      (l.listener.receive g.arrival).connection? fun _ => some [] := by
    rw [ha]
    unfold Listener.receive Reception.connection?
    dsimp only
    cases l.listener.tls with
    | none => rfl
    | some a =>
      dsimp only
      rw [hshake, Option.map_some, Option.map_some, hnone]
      rfl
  unfold attend
  rw [hsame]

end World

/-! ### Loops and their sockets -/

namespace World

variable {w : World} {ms : List Mishap} {id : LoopId} {l : Loop}

theorem suffered (w : World) (ms : List Mishap) (hl : w.loops[id]? = some l) :
    ∃ l', (w.suffers ms).loops[id]? = some l' ∧
      l.Suffered w.host.now (ms.filter (·.loop = id)) l' :=
  ⟨_, by rw [getElem?_suffers, hl, Option.map_some], Loop.suffered _ _ _⟩

variable [Platform]

theorem Sound.accepting (hs : w.Sound) (hl : w.loops[id]? = some l) (ho : l.isOpen = true)
    (hms : ∀ m ∈ ms, m.loop = id → m.closes = false) (v : Visit) :
    ∃ l', ((w.suffers ms).arrive id v).loops[id]? = some l' ∧ v ∈ l'.visits ∧ l'.isOpen = true ∧
      l.listener.Holds (w.suffers ms).host ∧
      (w.suffers ms).host.sockets.get? l.listener.socket = w.host.sockets.get? l.listener.socket := by
  obtain ⟨l', hl', hsuffered⟩ := w.suffered ms hl
  have hnone : (ms.filter (·.loop = id)).any Mishap.closes = false := by
    rw [List.any_eq_false]
    intro m hm
    obtain ⟨hm, hid⟩ := List.mem_filter.mp hm
    simp [hms m hm (of_decide_eq_true hid)]
  have ho' : l'.isOpen = true := by rw [hsuffered.isOpen, hnone, ho, Bool.not_false, Bool.and_true]
  have hlt : id < (w.suffers ms).loops.length := (List.getElem?_eq_some_iff.mp hl').1
  refine ⟨l'.enter v, ?_, ?_, ?_, hsuffered.listener ▸ (hs.suffers ms).wired.holds hl' ho', ?_⟩
  · rw [arrive_eq hl']
    exact List.getElem?_set_self hlt
  · simp [Loop.enter, ho']
  · rw [Loop.isOpen, (l'.meets_enter 0 v).closedAt]
    exact ho'
  · refine get?_suffers hs.wired ms fun m hm hc l₁ hl₁ _ he => ?_
    obtain rfl := hs.wired.apart hl hl₁ he
    rw [hms m hm rfl] at hc
    cases hc

theorem Sound.released (hs : w.Sound) (hl : w.loops[id]? = some l) {m : Mishap} (hm : m ∈ ms)
    (hid : m.loop = id) (hc : m.closes = true) : l.listener.Released (w.suffers ms).host := by
  obtain ⟨l', hl', hsuffered⟩ := w.suffered ms hl
  have hany : (ms.filter (·.loop = id)).any Mishap.closes = true :=
    List.any_eq_true.mpr ⟨m, List.mem_filter.mpr ⟨hm, decide_eq_true hid⟩, hc⟩
  have ho' : l'.isOpen = false := by rw [hsuffered.isOpen, hany, Bool.not_true, Bool.false_and]
  exact hsuffered.listener ▸ (hs.suffers ms).wired.released hl' ho'

end World

/-! ### All of it -/

namespace Scene

variable [Platform]

/-- What failures are to a registry, whatever is under way. -/
structure Withstands (s : Scene) : Prop where
  /-- They are felt by no record, and whoever has the registry to himself or waits for it goes on. -/
  stays : ∀ ms : List Mishap, Reachable { s with world := s.world.suffers ms } ∧
    (s.world.suffers ms).lifecycle = s.world.lifecycle
  /-- A loop changes by its own failures alone: connections are over that have failed, and it is closed
  when accepting on it has failed for good. -/
  loops : ∀ (ms : List Mishap) (id : LoopId) (l : Loop), s.world.loops[id]? = some l →
    ∃ l', (s.world.suffers ms).loops[id]? = some l' ∧
      l.Suffered s.world.host.now (ms.filter (·.loop = id)) l'
  /-- Otherwise it has its socket as before, and connections still come in on it. -/
  accepting : ∀ (ms : List Mishap) (id : LoopId) (l : Loop), s.world.loops[id]? = some l →
    l.isOpen = true → (∀ m ∈ ms, m.loop = id → m.closes = false) → ∀ v : Visit,
    ∃ l', ((s.world.suffers ms).arrive id v).loops[id]? = some l' ∧ v ∈ l'.visits ∧ l'.isOpen = true ∧
      l.listener.Holds (s.world.suffers ms).host ∧ (s.world.suffers ms).host.sockets.get?
        l.listener.socket = s.world.host.sockets.get? l.listener.socket
  /-- A loop that is closed lets go of its socket. -/
  released : ∀ (ms : List Mishap) (id : LoopId) (l : Loop) (m : Mishap),
    s.world.loops[id]? = some l → m ∈ ms → m.loop = id → m.closes = true →
    l.listener.Released (s.world.suffers ms).host
  /-- No other socket is touched. -/
  sockets : ∀ (ms : List Mishap) (sid : SocketId), (∀ m ∈ ms, m.closes = true → ∀ l,
      s.world.loops[m.loop]? = some l → l.isOpen = true → sid ≠ l.listener.socket) →
    (s.world.suffers ms).host.sockets.get? sid = s.world.host.sockets.get? sid
  /-- The task of a connection does nothing to the registry but carry out the requests for updates that
  it was sent. So it does nothing if its handshake fails, if its handler does, or if it breaks off. -/
  tasks : ∀ (l : Loop) (g : Guest), ∃ us : List (Kind × String),
    (s.world.attend l g).2 = s.world.updates us ∧ ∀ u ∈ us, l.router = .admin ∧
      (l.listener.receive g.arrival).connection? g.shake ≠ none ∧ ∃ r : Http.Request, r.Asks u.1 u.2
  /-- A client whose certificate cannot be read is served as one that has shown none. -/
  unread : ∀ (l : Loop) (g : Guest) (client : Net.SocketAddress) (shown : List (List UInt8)),
    g.arrival = .tcp client → (∀ a, g.shake a = some shown) →
    (∀ c ∈ shown.head?, Identity.read c = none) →
    s.world.attend l g = s.world.attend l { g with shake := fun _ => some [] }
  /-- Calls among which anything fails are answered as if some kinds, which nobody has moved so far, had been
  spared, provided that nobody wants an address which only a socket that is closed stood in the way of. -/
  calls : ∀ (kinds : Kind → Bool) (cs : List Command) (σ : List Happening),
    (∀ k text, Happening.Moves cs σ k text → kinds k = false) →
    s.world.Unwanted (s.world.outage kinds σ) (Happening.Moves cs σ) → Crowd.Resembles kinds
      ((Crowd.start s.world cs).runsSparing kinds σ) ((Crowd.start s.world cs).runs σ)
  /-- Nothing is to be provided for where only connections fail. -/
  connections : ∀ (kinds : Kind → Bool) (cs : List Command) (σ : List Happening),
    (∀ k text, Happening.Moves cs σ k text → kinds k = false) →
    (∀ m : Mishap, .mishap m ∈ σ → m.closes = false) → Crowd.Resembles kinds
      ((Crowd.start s.world cs).runsSparing kinds σ) ((Crowd.start s.world cs).runs σ)

/-- A registry that runs withstands whatever fails, in any number and order. -/
theorem withstands {s : Scene} {t : Site} (hr : s.Reachable) (ht : s.world.site? = some t) :
    s.Withstands where
  stays ms := ⟨hr.suffers ms, s.world.lifecycle_suffers ms⟩
  loops ms _ _ hl := s.world.suffered ms hl
  accepting _ _ _ hl ho hms v := hr.sound.world.accepting hl ho hms v
  released _ _ _ _ hl hm hid hc := hr.sound.world.released hl hm hid hc
  sockets ms _ hid := World.get?_suffers hr.sound.world.wired ms hid
  tasks l g := s.world.attend_updates l g
  unread l _ _ _ ha hshake hread := World.attend_unread ha hshake hread s.world l
  calls _ _ _ hk hu := Crowd.resembles hr.sound.world ht hk hu
  connections kinds _ _ hk hσ :=
    Crowd.resembles hr.sound.world ht hk (s.world.unwanted_of_open kinds hσ _)

end Scene

/-! ### A socket that stands in the way until it is closed -/

/-- Metrics can be served as well. -/
def Config.watched : Config :=
  { Config.handed with
    servers := fun k => if k ∈ [.localAdmin, .networkAdmin, .metrics] then some .greeting else none }

namespace World

/-- The registry of a host whose TCP socket, for administrators on the network, does not listen. -/
@[irreducible] def watched : World := ((unstarted Host.unheard).up Config.watched).2

theorem reachable_watched : Scene.Reachable ⟨watched, none, [], none⟩ := by
  unfold watched
  exact Scene.reachable_up Host.sound_unheard Config.watched

theorem loop_watched : ∃ l, watched.loops[1]? = some l ∧ l.listener.kind = .networkAdmin := by
  have h : (watched.loops[1]?.any fun l => l.listener.kind = .networkAdmin) = true := by decide +kernel
  obtain ⟨l, hl, hk⟩ := (Option.any_eq_true _ _).mp h
  exact ⟨l, hl, of_decide_eq_true hk⟩

theorem outage_watched {σ : List Happening} {sk : Socket}
    (h : (watched.outage (· = .networkAdmin) σ).sockets sk) :
    sk = ⟨.inet (.v4 ⟨127, 0, 0, 1⟩ 7001), .stream, false⟩ := by
  have hall : (watched.loops.all fun l => l.listener.kind = .networkAdmin →
      watched.host.sockets.all fun e => e.1 = l.listener.socket →
        e.2 = ⟨.inet (.v4 ⟨127, 0, 0, 1⟩ 7001), .stream, false⟩) = true := by decide +kernel
  obtain ⟨id, l, hl, hk, -, he⟩ := h
  have hl' := of_decide_eq_true (List.all_eq_true.mp hall l (List.mem_of_getElem? hl))
  exact of_decide_eq_true (List.all_eq_true.mp (hl' (of_decide_eq_true hk)) _ he) rfl

theorem moves_watched {σ : List Happening} {k : Kind} {text : String}
    (h : Happening.Moves [.update .metrics "127.0.0.1:7002", .down] σ k text) :
    k = .metrics ∧ text = "127.0.0.1:7002" := by
  obtain ⟨i, -, hi⟩ := h
  simpa using List.mem_of_getElem? hi

/-- Nobody wants the address of that socket who asks for another port. -/
theorem unwanted_watched (σ : List Happening) : watched.Unwanted (watched.outage (· = .networkAdmin) σ)
    (Happening.Moves [.update .metrics "127.0.0.1:7002", .down] σ) where
  asked k text hmoves n hn sk hsk := by
    obtain ⟨rfl, rfl⟩ := moves_watched hmoves
    obtain rfl := outage_watched hsk
    have htext : String.ofList (Net.SocketAddress.v4 ⟨127, 0, 0, 1⟩ 7002).text = "127.0.0.1:7002" := by
      decide +kernel
    cases Kind.asks_text (a := .v4 ⟨127, 0, 0, 1⟩ 7002) rfl (htext.symm ▸ hn) with
    | itself => decide
    | picked free => exact absurd free (by decide)
  recorded k text hmoves n hn sk hsk := by
    obtain ⟨rfl, rfl⟩ := moves_watched hmoves
    have haddress : watched.address .metrics = "" := by decide +kernel
    rw [haddress] at hn
    obtain ⟨c, hc, hy⟩ := hn
    obtain rfl : "" = c := Except.ok.inj ((Kind.canonical_empty .metrics).symm.trans hc)
    obtain ⟨a, ⟨time, as, has, -⟩, -⟩ := hy
    cases has
  others t a ha := by
    have hagenda : watched.host.agenda.isEmpty = true := by decide +kernel
    rw [List.isEmpty_iff.mp hagenda] at ha
    cases ha

end World

namespace Scene

/-- Metrics are moved, and the registry is stopped, as if accepting had not failed on the other socket. -/
theorem withstands_watched : ∃ t, World.watched.site? = some t ∧
    Withstands ⟨World.watched, none, [], none⟩ ∧
    ∃ σ : List Happening, .mishap (.accept 1 (.number 22)) ∈ σ ∧ Crowd.Resembles (· = .networkAdmin)
      ((Crowd.start World.watched [.update .metrics "127.0.0.1:7002", .down]).runsSparing
        (· = .networkAdmin) σ)
      ((Crowd.start World.watched [.update .metrics "127.0.0.1:7002", .down]).runs σ) := by
  obtain ⟨t, ht⟩ : ∃ t, World.watched.site? = some t := by
    rw [← Option.isSome_iff_exists]
    decide +kernel
  have h := withstands World.reachable_watched ht
  refine ⟨t, ht, h, [.mishap (.accept 1 (.number 22)), .call 0, .call 0, .call 0, .call 1],
    List.mem_cons_self, h.calls _ _ _ (fun k text hmoves => ?_) (World.unwanted_watched _)⟩
  obtain ⟨rfl, -⟩ := World.moves_watched hmoves
  rfl

/-- Metrics cannot be moved to the address of a socket of another kind, and can once accepting on it has
failed. -/
theorem withstands_elsewhere : ∃ (s : Scene) (m : Mishap) (l : Loop), s.Reachable ∧
    s.world.stage = .running ∧ s.underway = none ∧ s.world.loops[m.loop]? = some l ∧
    l.listener.kind = .networkAdmin ∧
    (s.world.update .metrics "127.0.0.1:7001").1 =
      .error (.bind .metrics "127.0.0.1:7001" (.number ErrorNumber.addressInUse)) ∧
    ((s.world.suffers [m]).update .metrics "127.0.0.1:7001").1 = .ok () := by
  obtain ⟨l, hl, hk⟩ := World.loop_watched
  exact ⟨⟨World.watched, none, [], none⟩, .accept 1 (.number 22), l, World.reachable_watched,
    by decide +kernel, rfl, hl, hk, by decide +kernel, by decide +kernel⟩

end Scene
end Portkeeper
