import Portkeeper.Proofs.Registry.Moving

/-!
Moves and connections. A move neither waits for connections nor looks at them: what it does, what it
answers and how long it takes are the same whatever connections the loops have, and time passes in it
for the pauses between attempts alone.
-/

set_option autoImplicit false

namespace Portkeeper

/-! ### Registries that differ in connections -/

namespace Loop

/-- A loop as it would be without connections. -/
def idle (l : Loop) : Loop := { l with visits := [] }

theorem idle_close {l l' : Loop} (h : l'.idle = l.idle) (now : Nat) :
    (l'.close now).idle = (l.close now).idle := by
  obtain ⟨listener, router, closedAt, visits⟩ := l
  obtain ⟨listener', router', closedAt', visits'⟩ := l'
  cases h
  cases closedAt <;> rfl

theorem listener_of_idle {l l' : Loop} (h : l'.idle = l.idle) : l'.listener = l.listener := by
  obtain ⟨listener, router, closedAt, visits⟩ := l
  cases h
  rfl

theorem isOpen_of_idle {l l' : Loop} (h : l'.idle = l.idle) : l'.isOpen = l.isOpen := by
  obtain ⟨listener, router, closedAt, visits⟩ := l
  cases h
  rfl

end Loop

namespace Site

/-- Two registries that differ in the connections of their loops at most, and in which loops they keep
as retired. -/
structure Alike (t t' : Site) : Prop where
  host : t'.host = t.host
  loops : t'.loops.map Loop.idle = t.loops.map Loop.idle
  entries : t'.registry.entries = t.registry.entries
  servers : t'.registry.servers = t.registry.servers
  bundle : t'.registry.bundle = t.registry.bundle

variable {t t' : Site}

namespace Alike

theorem loop (ha : t.Alike t') (id : LoopId) :
    t.loops[id]? = none ∧ t'.loops[id]? = none ∨
      ∃ l l', t.loops[id]? = some l ∧ t'.loops[id]? = some l' ∧ l'.idle = l.idle := by
  have hid := congrArg (fun ls : List Loop => ls[id]?) ha.loops
  simp only [List.getElem?_map] at hid
  cases hl : t.loops[id]? with
  | none =>
    rw [hl] at hid
    exact Or.inl ⟨rfl, Option.map_eq_none_iff.mp hid⟩
  | some l =>
    rw [hl] at hid
    obtain ⟨l', hl', he⟩ := Option.map_eq_some_iff.mp hid
    exact Or.inr ⟨l, l', rfl, hl', he⟩

theorem length (ha : t.Alike t') : t'.loops.length = t.loops.length := by
  simpa using congrArg List.length ha.loops

theorem at_host (ha : t.Alike t') (h : Host) : Alike { t with host := h } { t' with host := h } :=
  ⟨rfl, ha.loops, ha.entries, ha.servers, ha.bundle⟩

theorem setEntry (ha : t.Alike t') (k : Kind) (e : Option Entry) :
    Alike { t with registry := t.registry.setEntry k e }
      { t' with registry := t'.registry.setEntry k e } := by
  refine ⟨ha.host, ha.loops, ?_, ha.servers, ha.bundle⟩
  simp only [Registry.setEntry, ha.entries]

theorem closeLoop (ha : t.Alike t') (id : LoopId) : (t.closeLoop id).Alike (t'.closeLoop id) := by
  unfold Site.closeLoop
  rcases ha.loop id with ⟨hl, hl'⟩ | ⟨l, l', hl, hl', he⟩
  · rwa [hl, hl']
  · rw [hl, hl']
    dsimp only
    rw [Loop.isOpen_of_idle he]
    split
    · refine ⟨?_, ?_, ha.entries, ha.servers, ha.bundle⟩
      · rw [Loop.listener_of_idle he, ha.host]
      · rw [List.map_set, List.map_set, ha.loops, now, now, ha.host, Loop.idle_close he]
    · exact ha

theorem release (ha : t.Alike t') (e : Entry) : (t.release e).Alike (t'.release e) := by
  obtain ⟨address, provenance, listener, serving⟩ := e
  cases listener with
  | none =>
    cases serving with
    | none => exact ha
    | some id => exact ha.closeLoop id
  | some l =>
    have hdrop : Alike { t with host := t.host.drop l } { t' with host := t'.host.drop l } := by
      rw [ha.host]
      exact ha.at_host _
    cases serving with
    | none => exact hdrop
    | some id => exact hdrop.closeLoop id

theorem retire (ha : t.Alike t') (id : LoopId) : (t.retire id).Alike (t'.retire id) :=
  ⟨ha.host, ha.loops, ha.entries, ha.servers, ha.bundle⟩

theorem close (ha : t.Alike t') (k : Kind) :
    (t'.close k).1 = (t.close k).1 ∧ (t.close k).2.Alike (t'.close k).2 := by
  unfold Site.close
  rw [ha.entries]
  cases t.registry.entries k with
  | none => exact ⟨rfl, ha⟩
  | some e =>
    have hrelease := (ha.setEntry k none).release e
    obtain ⟨address, provenance, listener, serving⟩ := e
    cases serving with
    | none => exact ⟨rfl, hrelease⟩
    | some id => exact ⟨rfl, hrelease.retire id⟩

theorem bring (ha : t.Alike t') (l : Listener) (address : String) :
    (t'.bring l address).1 = (t.bring l address).1 ∧
      (t.bring l address).2.Alike (t'.bring l address).2 := by
  have hinstall : (t.install l address).Alike (t'.install l address) := by
    unfold Site.install
    rw [show l.address t'.host = l.address t.host by rw [ha.host]]
    exact ha.setEntry _ _
  unfold Site.bring Site.serve
  rw [hinstall.servers, hinstall.entries]
  split
  · exact ⟨rfl, hinstall⟩
  · split
    · refine ⟨rfl, hinstall.host, ?_, ?_, hinstall.servers, hinstall.bundle⟩
      · rw [List.map_append, List.map_append, hinstall.loops]
      · simp only [Registry.setEntry, hinstall.entries, hinstall.length]
    · exact ⟨rfl, hinstall⟩

/-- Whether a loop has exited is all that a move asks about connections, and only at first: a kind whose
loop has exited has no address. -/
theorem beginChange (ha : t.Alike t') {k : Kind} {address : String}
    (hc : t'.isCurrent k address = t.isCurrent k address) :
    (t'.beginChange k address).1 = (t.beginChange k address).1 ∧
      (t.beginChange k address).2.Alike (t'.beginChange k address).2 := by
  obtain ⟨hprevious, hclose⟩ := ha.close k
  exact beginChange_congr (R := Alike) hc ha.servers hprevious ha hclose

variable [Platform]

theorem step (ha : t.Alike t') (c : Change) :
    (t'.step c).1 = (t.step c).1 ∧ (t.step c).2.Alike (t'.step c).2 := by
  refine step_congr (R := Alike) ha.bundle ha fun b _ => ?_
  rcases hatt : b.attempt t.registry.bundle t.host with ⟨a, h⟩
  refine ⟨a, h, h, rfl, ?_, ha.at_host h, fun l _ => (ha.at_host h).bring l b.address⟩
  rw [ha.host, hatt]

theorem steps (ha : t.Alike t') (c : Change) (n : Nat) :
    (t'.steps c n).1 = (t.steps c n).1 ∧ (t.steps c n).2.Alike (t'.steps c n).2 := by
  induction n generalizing t t' c with
  | zero => exact ⟨rfl, ha⟩
  | succ n ih =>
    obtain ⟨hc, hs⟩ := ha.step c
    unfold Site.steps
    dsimp only
    rw [hc]
    exact ih hs _

theorem change (ha : t.Alike t') {k : Kind} {address : String}
    (hc : t'.isCurrent k address = t.isCurrent k address) :
    (t'.change k address).1 = (t.change k address).1 ∧
      (t.change k address).2.Alike (t'.change k address).2 := by
  obtain ⟨hbegin, hsite⟩ := ha.beginChange hc
  obtain ⟨hsteps, hend⟩ := hsite.steps (t.beginChange k address).1 (t.beginChange k address).1.budget
  unfold Site.change
  dsimp only
  rw [hbegin, hsteps]
  exact ⟨rfl, hend⟩

end Alike

end Site

namespace World

/-- The same registry with other connections, because of which no loop has exited that had not, or
has not that had. -/
structure Swaps (w w' : World) : Prop where
  host : w'.host = w.host
  lifecycle : w'.lifecycle = w.lifecycle
  loops : w'.loops.map Loop.idle = w.loops.map Loop.idle
  finished : w'.loops.map (Loop.isFinished w.host.now) = w.loops.map (Loop.isFinished w.host.now)

variable {w w' : World}

theorem Swaps.site (hs : w.Swaps w') {t : Site} (ht : w.site? = some t) :
    ∃ t', w'.site? = some t' ∧ t.Alike t' ∧
      ∀ k address, t'.isCurrent k address = t.isCurrent k address := by
  unfold site? at ht ⊢
  rw [hs.lifecycle]
  split at ht
  · rename_i r hr
    cases ht
    refine ⟨_, rfl, ⟨hs.host, hs.loops, rfl, rfl, rfl⟩, fun k address => ?_⟩
    have hrun : Site.isRunning ⟨w'.host, w'.loops, r⟩ = Site.isRunning ⟨w.host, w.loops, r⟩ := by
      funext id
      have hid := congrArg (fun fs : List Bool => fs[id]?) hs.finished
      simp only [List.getElem?_map] at hid
      unfold Site.isRunning Site.now
      dsimp only
      rw [hs.host]
      cases hl : w.loops[id]? with
      | none =>
        rw [hl] at hid
        rw [Option.map_eq_none_iff.mp hid]
      | some l =>
        rw [hl] at hid
        obtain ⟨l', hl', he⟩ := Option.map_eq_some_iff.mp hid
        rw [hl']
        dsimp only
        rw [he]
    unfold Site.isCurrent
    rw [hrun]
  · cases ht

variable [Platform]

/-- A move comes to the same, at the same time, whatever connections there are. -/
theorem Swaps.update (hs : w.Swaps w') (k : Kind) (address : String) :
    (w'.update k address).1 = (w.update k address).1 ∧
      (w'.update k address).2.host = (w.update k address).2.host ∧
      (w'.update k address).2.listing = (w.update k address).2.listing := by
  have hsame : w'.host = w.host ∧ w'.listing = w.listing := by
    refine ⟨hs.host, ?_⟩
    unfold listing
    rw [hs.lifecycle]
  unfold World.update check change refuse stage
  rw [hs.lifecycle]
  cases ht : w.site? with
  | none =>
    have ht' : w'.site? = none := by
      unfold site? at ht ⊢
      rw [hs.lifecycle]
      split at ht
      · cases ht
      · rfl
    rw [ht']
    dsimp only
    split
    · exact ⟨rfl, hsame⟩
    · exact ⟨rfl, hsame⟩
    · exact ⟨rfl, hsame⟩
  | some t =>
    obtain ⟨t', ht', ha, hcur⟩ := hs.site ht
    rw [ht']
    dsimp only
    simp only [hcur]
    split
    · exact ⟨rfl, hsame⟩
    · exact ⟨rfl, hsame⟩
    · rename_i canonical _
      obtain ⟨hr, hend⟩ := ha.change (hcur k canonical)
      refine ⟨hr, hend.host, ?_⟩
      unfold listing ofSite Registry.listing
      dsimp only
      rw [hend.entries]

end World

/-! ### The time of a move -/

/-- An attempt takes as long as the pause before it. -/
theorem Bid.now_attempt [Platform] {b : Bid} {u : Bundle} {h h' : Host} (hs : h.Sound)
    {r : Bid ⊕ Except EndpointError Listener} (ha : b.attempt u h = (r, h')) :
    h'.now = h.now + b.pause := by
  have hsleep := hs.sleep b.pause
  unfold attempt at ha
  split at ha
  · rename_i l h₁ hl
    cases ha
    have ho : (h.sleep b.pause).Opens h' b.kind b.address u l := Host.listen_spec hsleep hl
    obtain ⟨n, -, hg⟩ := ho.name
    exact hg.now
  · rename_i e h₁ hl
    have hd : (h.sleep b.pause).Declines h₁ b.kind b.address e := Host.listen_spec hsleep hl
    split at ha
    · cases ha
      exact hd.steady.now
    · cases ha
      exact hd.steady.now

namespace Site

variable {t : Site}

theorem host_bring (t : Site) (l : Listener) (address : String) :
    (t.bring l address).2.host = t.host := by
  unfold bring serve
  split
  · rfl
  · split <;> rfl

variable [Platform]

/-- A step of a change takes as long as its pause. -/
theorem now_step (hs : t.Sound) (c : Change) : (t.step c).2.now = t.now + c.pause := by
  have attempted {b : Bid} {a : Bid ⊕ Except EndpointError Listener} {h : Host}
      (ha : b.attempt t.registry.bundle t.host = (a, h)) : h.now = t.now + b.pause :=
    Bid.now_attempt hs.wired.sound ha
  cases c with
  | moving b previous =>
    unfold step
    dsimp only
    split
    · rename_i ha
      exact attempted ha
    · rename_i ha
      dsimp only
      rw [now, host_bring]
      exact attempted ha
    · rename_i ha
      exact attempted ha
  | restoring b failure =>
    unfold step
    dsimp only
    split
    · rename_i ha
      exact attempted ha
    · rename_i ha
      dsimp only
      rw [now, host_bring]
      exact attempted ha
    · rename_i ha
      exact attempted ha
  | done r => rfl

end Site
end Portkeeper
