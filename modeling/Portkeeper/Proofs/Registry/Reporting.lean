import Portkeeper.Proofs.Registry.Idling
import Portkeeper.Proofs.Registry.LocalPaths

/-!
What a registry reports, and what of it there is. Whatever listens is reported; but an entry outlives
its socket when accepting on it has failed, and an address is reported for it all the same. A unix
socket that was handed over without a path is reported with the empty address, as if there were none.
-/

set_option autoImplicit false

namespace Portkeeper
open Text Net

/-! ### Since the start -/

namespace Scene

variable [Platform]

/-- A registry that has been started came up once, and has gone its way from there. -/
theorem Reachable.since_up {s : Scene} (hr : s.Reachable) (hn : s.world.stage ≠ .unstarted) :
    ∃ (h : Host) (c : Config) (t : Site) (s₀ : Scene), h.Sound ∧
      (World.unstarted h).up c = (.ok (), .ofSite t) ∧ s₀.world = .ofSite t ∧ s₀.Sound ∧
      Run False s₀ s := by
  obtain ⟨h, hs, hrun⟩ := hr
  induction hrun with
  | refl => exact absurd rfl hn
  | @step s₁ s₂ r hrun hst ih =>
    have hs₁ := (sound_start hs).run hrun
    -- There is one step out of the first stage, which is the start that has succeeded.
    by_cases hu : s₁.world.stage = .unstarted
    · obtain ⟨c, t, hsound, hup, -, rfl⟩ := hs₁.comes_up hu hst hn
      exact ⟨_, c, t, _, hsound, hup, rfl, hs₁.step hst, .refl⟩
    · obtain ⟨h', c, t, s₀, hsound, hup, hw, hs₀, hrun'⟩ := ih hu
      exact ⟨h', c, t, s₀, hsound, hup, hw, hs₀, hrun'.step hst⟩

/-- Only a registry that runs has open loops. -/
theorem Sound.site_of_open {s : Scene} (hs : s.Sound) {id : LoopId} {l : Loop}
    (hl : s.world.loops[id]? = some l) (ho : l.isOpen = true) : ∃ t, s.world.site? = some t := by
  have hst := hs.stands
  cases hlife : s.world.lifecycle with
  | unstarted =>
    rw [hlife] at hst
    rw [hst.2.1] at hl
    cases hl
  | running r => exact ⟨_, by simp only [World.site?, hlife]; rfl⟩
  | stopped =>
    rw [hlife] at hst
    rw [(hst.2.2 hl).1] at ho
    cases ho

end Scene

theorem Kind.Family.text_ne_nil {k : Kind} {n : SocketName} (h : k.Family n)
    (hk : k.isNetwork = true) : n.text ≠ [] := by
  intro hc
  have hne := (Kind.formed_text h).ne_empty hk
  rw [hc] at hne
  exact hne rfl

/-! ### What there is -/

theorem Registry.kinds_sublist (r : Registry) (ks : List Kind) : ((ks.filterMap fun k =>
    (r.entries k).map fun e => (⟨k, e.address, e.provenance = .inherited⟩ : EndpointInfo)).map
      EndpointInfo.kind).Sublist ks := by
  induction ks with
  | nil => exact .slnil
  | cons k ks ih =>
    cases he : r.entries k with
    | none => simpa [List.filterMap_cons, he] using ih.cons k
    | some e => simpa [List.filterMap_cons, he] using ih

namespace World

/-- A kind has an open socket that listens. -/
def Listens (w : World) (k : Kind) : Prop :=
  ∃ (id : LoopId) (l : Loop), w.loops[id]? = some l ∧ l.listener.kind = k ∧ l.Accepts w.host

/-- A kind has an open socket, whose name is no address that could be reported. -/
def Nameless (w : World) (k : Kind) : Prop :=
  ∃ (id : LoopId) (l : Loop) (sk : Socket), w.loops[id]? = some l ∧ l.listener.kind = k ∧
    l.isOpen = true ∧ w.host.sockets.get? l.listener.socket = some sk ∧ sk.name.text = []

/-- A kind is among those that are reported. -/
def Lists (w : World) (k : Kind) : Prop := ∃ i ∈ w.listing, i.kind = k

variable {w : World} {t : Site} {k : Kind} {e : Entry}

theorem mem_listing_iff (ht : w.site? = some t) {i : EndpointInfo} : i ∈ w.listing ↔
    ∃ e, t.registry.entries i.kind = some e ∧ i = ⟨i.kind, e.address, e.provenance = .inherited⟩ := by
  constructor
  · intro hi
    obtain ⟨hl, -, -⟩ := site?_eq_some ht
    simp only [listing, hl] at hi
    obtain ⟨k, -, hk⟩ := List.mem_filterMap.mp hi
    obtain ⟨e, he, rfl⟩ := Option.map_eq_some_iff.mp hk
    exact ⟨e, he, rfl⟩
  · rintro ⟨e, he, hi⟩
    rw [hi]
    exact mem_listing ht he

theorem site?_of_mem_listing {i : EndpointInfo} (hi : i ∈ w.listing) : ∃ t, w.site? = some t := by
  unfold listing at hi
  split at hi
  · rename_i reg hl
    exact ⟨_, by simp only [site?, hl]; rfl⟩
  · cases hi

theorem address_eq_empty (hn : ∀ {t : Site}, w.site? = some t → t.registry.entries k = none) :
    w.address k = "" := by
  unfold address
  split
  · rename_i r hl
    have hnone : r.entries k = none := hn (t := ⟨w.host, w.loops, r⟩) (by rw [site?, hl])
    rw [hnone]
    rfl
  · rfl

/-- Kinds are reported in their order, and once at most. -/
theorem listing_sublist (w : World) : (w.listing.map EndpointInfo.kind).Sublist Kind.all := by
  unfold listing
  split
  · exact Registry.kinds_sublist _ Kind.all
  · exact List.nil_sublist _

end World

/-! ### What is recorded for a socket -/

namespace Host.Opens

variable [Platform] {h h' : Host} {k : Kind} {address : String} {b : Bundle} {l : Listener}

/-- The path that a listener of a local kind is opened at is not empty. -/
theorem path_ne_nil (ho : h.Opens h' k address b l) (hk : k.isNetwork = false) :
    trim address.toList ≠ [] := by
  obtain ⟨c, hc, hne, -⟩ := ho.unix hk
  rw [Kind.canonicalize_local hk] at hc
  obtain rfl := Except.ok.inj hc
  exact fun hc => hne (by rw [trimmed, hc])

end Host.Opens

theorem Config.recordedPath_ne_empty {c : Config} {k : Kind}
    (hne : trim (c.socketPath k).toList ≠ []) : c.recordedPath k ≠ "" := by
  unfold recordedPath
  split
  · intro hc
    exact hne (by simpa [trimmed] using congrArg String.toList hc)
  · intro hc
    rw [hc] at hne
    exact hne rfl

namespace World

variable [Platform] {c : Config} {h : Host} {t : Site} {k : Kind} {e : Entry}

/-- What is recorded for a local kind once a registry is up is empty if and only if its socket has no name
that could be recorded, which is never so if the socket has been bound for it. -/
theorem up_named (hs : h.Sound) (hup : (unstarted h).up c = (.ok (), ofSite t))
    (hk : k.isNetwork = false) (he : t.registry.entries k = some e) :
    ∃ (id : LoopId) (l : Loop) (sk : Socket), t.Serves k e id l ∧
      Seated id l.listener sk t.host t.loops ∧ (e.address = "" ↔ sk.name.text = []) ∧
      (e.provenance = .bound → e.address ≠ "") := by
  obtain ⟨⟨l, requested⟩, id, router, -, hb, hentry, hv⟩ := up_entry hs hup he
  obtain ⟨sk, hsk, -⟩ := hv.socket rfl
  refine ⟨id, _, sk, hv, ⟨_, hv.loop, rfl, fun _ => hsk⟩, ?_⟩
  cases hb with
  | inherited _ provenance fileless =>
    have haddress : e.address = String.ofList sk.name.text := by
      rw [hentry]
      dsimp only [Site.serving, Listener.recordAs, Listener.address]
      simp only [fileless, hsk, decide_true, Bool.true_or, if_true]
    refine ⟨?_, fun hbound => ?_⟩
    · rw [haddress]
      exact ⟨fun hc => by simpa using congrArg String.toList hc, fun hc => by rw [hc]⟩
    · have hp : l.provenance = e.provenance := hv.provenance
      rw [hbound, provenance] at hp
      cases hp
  | bound fresh planned place opens =>
    have hpath := Config.path_of_plan planned place hk
    have hne : trim (c.socketPath k).toList ≠ [] := hpath ▸ opens.path_ne_nil hk
    obtain ⟨id', l', router', hentry', -, hloop, hsk'⟩ :=
      up_local hs hup hk (Config.hasServer_of_plan planned place) fresh
    obtain rfl := Option.some.inj (he.symm.trans hentry')
    obtain rfl : id' = id := Option.some.inj hv.serving
    obtain rfl : l' = l := congrArg Loop.listener (Option.some.inj (hloop.symm.trans hv.loop))
    obtain rfl := Option.some.inj (hsk'.symm.trans hsk)
    have haddress : c.recordedPath k ≠ "" := Config.recordedPath_ne_empty hne
    exact ⟨iff_of_false haddress hne, fun _ => haddress⟩

end World

namespace Scene

variable {s : Scene} {t : Site} {k : Kind} {e : Entry} {id : LoopId} {l : Loop}

theorem stage_of_site? (ht : s.world.site? = some t) : s.world.stage ≠ .unstarted := by
  rw [World.ofSite_of_site? ht]
  nofun

variable [Platform]

/-- The entry of a local kind stays what it was when the registry came up, and so does the socket until it
is closed. -/
theorem Reachable.local_named (hr : s.Reachable) (ht : s.world.site? = some t)
    (hk : k.isNetwork = false) (he : t.registry.entries k = some e) (hv : t.Serves k e id l) :
    (e.provenance = .bound → e.address ≠ "") ∧ (l.isOpen = true → ∃ sk,
      t.host.sockets.get? l.listener.socket = some sk ∧ (e.address = "" ↔ sk.name.text = [])) := by
  obtain ⟨h, c, t₀, s₀, hs, hup, hw, hs₀, hrun⟩ := hr.since_up (stage_of_site? ht)
  have ht₀ : s₀.world.site? = some t₀ := congrArg World.site? hw
  have hb : s₀.Bears (fun t => t.registry.entries k = t₀.registry.entries k) fun _ => True :=
    ⟨fun ht => Option.some.inj (ht₀.symm.trans ht) ▸ rfl, fun _ => trivial⟩
  have he₀ : t.registry.entries k = t₀.registry.entries k :=
    (hb.run (upkeep_local hk _) (stage_of_site? ht₀) hs₀ hrun).site ht
  obtain ⟨id₀, l₀, sk, hv₀, hseated₀, hempty, hbound⟩ := World.up_named hs hup hk (he₀ ▸ he)
  obtain rfl : id = id₀ := Option.some.inj (hv.serving.symm.trans hv₀.serving)
  obtain ⟨-, hh, hls⟩ := World.site?_eq_some ht
  rw [show t₀.host = s₀.world.host by rw [hw]; rfl, show t₀.loops = s₀.world.loops by rw [hw]; rfl]
    at hseated₀
  obtain ⟨m, hm, hml, hsk⟩ :=
    (enduring_seated id l₀.listener sk).run hs₀ (stage_of_site? ht₀) hseated₀ hrun
  rw [hls] at hm
  rw [hh] at hsk
  obtain rfl : m = l := Option.some.inj (hm.symm.trans hv.loop)
  exact ⟨hbound, fun ho => ⟨sk, hml ▸ hsk ho, hempty⟩⟩

/-- The address that is recorded for a kind with an open socket is empty if and only if the socket has no
name that could be recorded. Only a unix socket that was handed over is recorded like that. -/
theorem Reachable.named (hr : s.Reachable) (ht : s.world.site? = some t)
    (he : t.registry.entries k = some e) (hv : t.Serves k e id l) :
    (e.address = "" → k.isNetwork = false ∧ e.provenance = .inherited) ∧ (l.isOpen = true → ∃ sk,
      t.host.sockets.get? l.listener.socket = some sk ∧ (e.address = "" ↔ sk.name.text = [])) := by
  cases hk : k.isNetwork with
  | true =>
    have haddress : e.address ≠ "" := (hv.formed hk).ne_empty hk
    refine ⟨fun hc => absurd hc haddress, fun ho => ?_⟩
    obtain ⟨sk, hsk, hrecorded, -⟩ := hv.socket ho
    exact ⟨sk, hsk, iff_of_false haddress ((hrecorded hk).family.text_ne_nil hk)⟩
  | false =>
    obtain ⟨hbound, hopen⟩ := hr.local_named ht hk he hv
    refine ⟨fun hc => ⟨rfl, ?_⟩, hopen⟩
    cases hp : e.provenance with
    | bound => exact absurd hc (hbound hp)
    | inherited => rfl

end Scene

/-! ### What is reported -/

namespace Scene

variable {s : Scene} {k : Kind}

/-- What can be the matter with a kind: nothing is reported of it, and it has no open socket; it is
reported, and listens; or it is reported, and does not listen. -/
inductive Condition (w : World) (k : Kind) : Prop
  | vacant (unlisted : ¬w.Lists k) (closed : ∀ {id : LoopId} {l : Loop}, w.loops[id]? = some l →
      l.listener.kind = k → l.isOpen = false) (free : ¬w.Idles k) (empty : w.address k = "")
  | live (listed : w.Lists k) (listens : w.Listens k) (busy : ¬w.Idles k)
      (named : w.address k = "" ↔ w.Nameless k)
  | idle (listed : w.Lists k) (mute : ¬w.Listens k) (idle : w.Idles k)

variable [Platform]

/-- Of a kind that is not recorded nothing is reported, and it has nothing open. -/
theorem Sound.condition_vacant (hs : s.Sound)
    (hn : ∀ {t : Site}, s.world.site? = some t → t.registry.entries k = none) :
    Condition s.world k := by
  have absent {t : Site} {e : Entry} (ht : s.world.site? = some t)
      (he : t.registry.entries k = some e) : False := by
    rw [hn ht] at he
    cases he
  refine .vacant ?_ (fun {id l} hl hk => ?_) ?_ (World.address_eq_empty hn)
  · rintro ⟨i, hi, rfl⟩
    obtain ⟨t, ht⟩ := World.site?_of_mem_listing hi
    obtain ⟨e, he, -⟩ := (World.mem_listing_iff ht).mp hi
    exact absent ht he
  · cases ho : l.isOpen with
    | false => rfl
    | true =>
      obtain ⟨t, ht⟩ := hs.site_of_open hl ho
      obtain ⟨-, -, hls⟩ := World.site?_eq_some ht
      obtain ⟨e, he, -⟩ := (hs.site ht).1.recorded (hls ▸ hl) hk ho
      exact (absent ht he).elim
  · rintro ⟨t, ht, e, id, l, he, -⟩
    exact absent ht he

theorem Reachable.condition_recorded (hr : s.Reachable) {t : Site} (ht : s.world.site? = some t)
    {e : Entry} (he : t.registry.entries k = some e) : Condition s.world k := by
  obtain ⟨hs, -, -⟩ := hr.sound.site ht
  obtain ⟨-, hh, hls⟩ := World.site?_eq_some ht
  have hlists : s.world.Lists k := ⟨_, World.mem_listing ht he, rfl⟩
  obtain ⟨id, l, hv⟩ := hs.serves he
  -- Whatever is open for a kind is what its entry holds.
  have honly {i : LoopId} {m : Loop} (hm : s.world.loops[i]? = some m) (hk : m.listener.kind = k)
      (ho : m.isOpen = true) : m = l := by
    obtain ⟨e', he', hv'⟩ := hs.recorded (hls ▸ hm) hk ho
    obtain rfl := Option.some.inj (he.symm.trans he')
    obtain rfl : id = i := Option.some.inj (hv.serving.symm.trans hv'.serving)
    exact Option.some.inj (hv'.loop.symm.trans hv.loop)
  have hidles : s.world.Idles k ↔ ¬l.Accepts t.host := (World.idles_iff ht).trans (hv.idles_iff he)
  by_cases ha : l.Accepts t.host
  · obtain ⟨sk, hsk, hempty⟩ := (hr.named ht he hv).2 ha.1
    refine .live hlists ⟨id, l, hls ▸ hv.loop, hv.kind, hh ▸ ha⟩ (fun hc => hidles.mp hc ha) ?_
    rw [World.address_eq ht he, hempty]
    constructor
    · exact fun hc => ⟨id, l, sk, hls ▸ hv.loop, hv.kind, ha.1, hh ▸ hsk, hc⟩
    · rintro ⟨i, m, sk', hm, hk, ho, hsk', hc⟩
      obtain rfl := honly hm hk ho
      rw [hh, hsk] at hsk'
      rwa [Option.some.inj hsk']
  · refine .idle hlists ?_ (hidles.mpr ha)
    rintro ⟨i, m, hm, hk, hma⟩
    obtain rfl := honly hm hk hma.1
    exact ha (hh ▸ hma)

theorem Reachable.condition (hr : s.Reachable) (k : Kind) : Condition s.world k := by
  by_cases h : ∃ t e, s.world.site? = some t ∧ t.registry.entries k = some e
  · obtain ⟨t, e, ht, he⟩ := h
    exact hr.condition_recorded ht he
  · refine hr.sound.condition_vacant fun {t} ht => ?_
    cases he : t.registry.entries k with
    | none => rfl
    | some e => exact absurd ⟨t, e, ht, he⟩ h

omit [Platform] in
theorem Condition.lists_iff {w : World} (h : Condition w k) : w.Lists k ↔ w.Listens k ∨ w.Idles k := by
  cases h with
  | vacant unlisted closed free empty =>
    refine iff_of_false unlisted (not_or.mpr ⟨?_, free⟩)
    rintro ⟨id, l, hl, hk, ha⟩
    have hclosed := closed hl hk
    rw [ha.1] at hclosed
    cases hclosed
  | live listed listens busy named => exact iff_of_true listed (Or.inl listens)
  | idle listed mute idle => exact iff_of_true listed (Or.inr idle)

omit [Platform] in
theorem Condition.mute_of_idles {w : World} (h : Condition w k) (hi : w.Idles k) : ¬w.Listens k := by
  cases h with
  | vacant unlisted closed free empty => exact absurd hi free
  | live listed listens busy named => exact absurd hi busy
  | idle listed mute idle => exact mute

omit [Platform] in
theorem Condition.truthful {w : World} (h : Condition w k) : ((w.address k = "" ↔ ¬w.Listens k) ∧
    (w.Lists k ↔ w.Listens k)) ↔ ¬w.Idles k ∧ ¬w.Nameless k := by
  have hlists := h.lists_iff
  cases h with
  | vacant unlisted closed free empty =>
    have hmute : ¬w.Listens k := fun hc => unlisted (hlists.mpr (Or.inl hc))
    refine iff_of_true ⟨iff_of_true empty hmute, iff_of_false unlisted hmute⟩ ⟨free, ?_⟩
    rintro ⟨id, l, sk, hl, hk, ho, -⟩
    have hclosed := closed hl hk
    rw [ho] at hclosed
    cases hclosed
  | live listed listens busy named =>
    simp only [listed, listens, busy, named, not_true_eq_false, iff_false, and_true, not_false_eq_true,
      true_and]
  | idle listed mute idle =>
    exact iff_of_false (fun hc => mute (hc.2.mp listed)) fun hc => hc.1 idle

/-- How what is reported compares with what there is. -/
structure Accounts (s : Scene) : Prop where
  /-- Kinds are listed in their order, and once at most. -/
  order : (s.world.listing.map EndpointInfo.kind).Sublist Kind.all
  /-- Each is listed with what is reported for it alone. -/
  same : ∀ i ∈ s.world.listing, i.address = s.world.address i.kind ∧
    (i.inherited = true ↔ s.world.provenance? i.kind = some .inherited)
  /-- A kind is listed if it listens, or if it idles, which is never so at once. -/
  lists : ∀ k, s.world.Lists k ↔ s.world.Listens k ∨ s.world.Idles k
  apart : ∀ k, s.world.Listens k → ¬s.world.Idles k
  /-- A kind that is not listed has no address. -/
  unlisted : ∀ k, ¬s.world.Lists k → s.world.address k = ""
  /-- One that is listed has an address, except for unix sockets that were handed over. -/
  empty : ∀ k, s.world.Lists k → s.world.address k = "" →
    k.isNetwork = false ∧ s.world.provenance? k = some .inherited
  /-- What is reported of a kind is true of its socket if and only if the kind does not idle, nor listens
  on a socket without a name. -/
  truthful : ∀ k, ((s.world.address k = "" ↔ ¬s.world.Listens k) ∧
    (s.world.Lists k ↔ s.world.Listens k)) ↔ ¬s.world.Idles k ∧ ¬s.world.Nameless k
  /-- A kind comes to idle by what it is started with or by a fault, and by nothing else. -/
  lapses : ∀ {s' : Scene} {r : Option Notice} {k : Kind}, Step False s r s' → s'.world.Idles k →
    s.world.Idles k ∨ Lapse k s s'

theorem accounts (hr : s.Reachable) : s.Accounts where
  order := World.listing_sublist s.world
  same i hi := by
    obtain ⟨t, ht⟩ := World.site?_of_mem_listing hi
    obtain ⟨e, he, hi⟩ := (World.mem_listing_iff ht).mp hi
    rw [hi, World.address_eq ht he, World.provenance?_eq ht he]
    simp
  lists k := (hr.condition k).lists_iff
  apart k hl hi := (hr.condition k).mute_of_idles hi hl
  unlisted k hn := by
    cases hr.condition k with
    | vacant unlisted closed free empty => exact empty
    | live listed listens busy named => exact absurd listed hn
    | idle listed mute idle => exact absurd listed hn
  empty k hl ha := by
    obtain ⟨i, hi, rfl⟩ := hl
    obtain ⟨t, ht⟩ := World.site?_of_mem_listing hi
    obtain ⟨e, he, -⟩ := (World.mem_listing_iff ht).mp hi
    obtain ⟨id, l, hv⟩ := (hr.sound.site ht).1.serves he
    rw [World.address_eq ht he] at ha
    rw [World.provenance?_eq ht he]
    exact ((hr.named ht he hv).1 ha).imp_right (congrArg some)
  truthful k := (hr.condition k).truthful
  lapses hst hi := hr.sound.lapse hst hi

end Scene

/-! ### A socket without a path, and one that does not listen -/

/-- A host with a unix socket that is not on a path and a TCP socket that does not listen, to hand over. -/
def Host.unheard : Host :=
  { Host.handed with sockets := [(0, ⟨.unix (.hidden ['k']), .stream, true⟩),
    (1, ⟨.inet (.v4 ⟨127, 0, 0, 1⟩ 7001), .stream, false⟩)] }

theorem Host.sound_unheard : Host.unheard.Sound where
  sockets {id} hid := by
    obtain ⟨sk, hsk⟩ := Option.isSome_iff_exists.mp hid
    have hm := List.mem_map_of_mem (f := Prod.fst) (Table.mem_of_get? hsk)
    have hlt : ∀ id ∈ unheard.sockets.map Prod.fst, id < unheard.nextSocket := by decide
    exact hlt id hm
  agenda ht := Host.sound_handed.agenda ht
  descriptors hd := Host.sound_handed.descriptors hd
  distinct := Host.sound_handed.distinct
  nodes hq := Host.sound_handed.nodes hq

namespace World

/-- The registry that has taken them over. -/
@[irreducible] def unheard : World := ((unstarted Host.unheard).up Config.handed).2

theorem reachable_unheard : Scene.Reachable ⟨unheard, none, [], none⟩ := by
  unfold unheard
  exact Scene.reachable_up Host.sound_unheard Config.handed

/-- The local administrators' socket listens, but there is no path that could be reported for it. -/
theorem unheard_nameless : unheard.Nameless .localAdmin ∧ unheard.Listens .localAdmin := by
  have h : (unheard.loops[0]?.any fun l => l.listener.kind = .localAdmin ∧ l.isOpen = true ∧
      unheard.host.sockets.get? l.listener.socket = some ⟨.unix (.hidden ['k']), .stream, true⟩) =
      true := by
    decide +kernel
  obtain ⟨l, hl, hd⟩ := (Option.any_eq_true _ _).mp h
  obtain ⟨hk, ho, hsk⟩ := of_decide_eq_true hd
  exact ⟨⟨0, l, _, hl, hk, ho, hsk, rfl⟩, 0, l, hl, hk, ho, _, hsk, rfl, rfl⟩

theorem unheard_idles : unheard.Idles .networkAdmin := by
  have h : (unheard.site?.any fun t => (t.registry.entries .networkAdmin).any fun e =>
      e.serving.any fun id => t.loops[id]?.any fun l => t.host.sockets.get? l.listener.socket =
        some ⟨.inet (.v4 ⟨127, 0, 0, 1⟩ 7001), .stream, false⟩) = true := by
    decide +kernel
  obtain ⟨t, ht, h⟩ := (Option.any_eq_true _ _).mp h
  obtain ⟨e, he, h⟩ := (Option.any_eq_true _ _).mp h
  obtain ⟨id, hid, h⟩ := (Option.any_eq_true _ _).mp h
  obtain ⟨l, hl, hd⟩ := (Option.any_eq_true _ _).mp h
  refine ⟨t, ht, e, id, l, he, hid, hl, ?_⟩
  rintro ⟨-, sk, hsk, -, hlistens⟩
  rw [of_decide_eq_true hd] at hsk
  cases hsk
  cases hlistens

end World

namespace Scene

theorem accounts_unheard : Reachable ⟨World.unheard, none, [], none⟩ ∧
    Accounts ⟨World.unheard, none, [], none⟩ ∧ World.unheard.address .localAdmin = "" ∧
    World.unheard.Lists .localAdmin ∧ World.unheard.Lists .networkAdmin := by
  have h := accounts World.reachable_unheard
  exact ⟨World.reachable_unheard, h, by decide +kernel,
    (h.lists _).mpr (Or.inl World.unheard_nameless.2), (h.lists _).mpr (Or.inr World.unheard_idles)⟩

/-- A kind whose socket listens is reported without an address. One whose socket does not listen is
reported with one, and is so still when accepting has failed and the socket is closed. -/
theorem accounts_astray : ∃ s s' : Scene, s.Reachable ∧ s'.Reachable ∧
    Step False s none s' ∧ s.world.Listens .localAdmin ∧ s.world.address .localAdmin = "" ∧
    ¬s.world.Listens .networkAdmin ∧ s.world.address .networkAdmin = "127.0.0.1:7001" ∧
    s.world.Lists .networkAdmin ∧
    (∀ l ∈ s'.world.loops, l.listener.kind = .networkAdmin → l.isOpen = false) ∧
    s'.world.address .networkAdmin = "127.0.0.1:7001" ∧ s'.world.Lists .networkAdmin := by
  have hr := World.reachable_unheard
  have hlisted : (World.unheard.fault 1).listing.any (fun i => i.kind = .networkAdmin) = true := by
    decide +kernel
  have hclosed : ((World.unheard.fault 1).loops.all fun l =>
      l.listener.kind = .networkAdmin → l.isOpen = false) = true := by decide +kernel
  obtain ⟨h, hs, hrun⟩ := id hr
  refine ⟨⟨World.unheard, none, [], none⟩, ⟨World.unheard.fault 1, none, [], none⟩, hr,
    ⟨h, hs, hrun.step (.fault 1)⟩, .fault 1, World.unheard_nameless.2, by decide +kernel,
    (hr.condition _).mute_of_idles World.unheard_idles, by decide +kernel,
    (hr.condition _).lists_iff.mpr (Or.inr World.unheard_idles), fun l hl => ?_, by decide +kernel, ?_⟩
  · exact of_decide_eq_true (List.all_eq_true.mp hclosed l hl)
  · obtain ⟨i, hi, hk⟩ := List.any_eq_true.mp hlisted
    exact ⟨i, hi, of_decide_eq_true hk⟩

end Scene
end Portkeeper
