import Portkeeper.Registry.Change
import Portkeeper.Registry.Stop
import Portkeeper.Proofs.Registry.Startup

/-!
A registry among its callers. Whoever changes it has it to himself until the change is over; requests
that have been looked at once wait for their turn. Meanwhile connections come and go, accepting may
fail on any loop, time passes, and others use the host. A caller who goes away changes nothing here:
what was begun goes on, and its reply is not heard.
-/

set_option autoImplicit false

namespace Portkeeper

/-- A request to move a kind, with the canonical form of its address. -/
structure Move where
  kind : Kind
  text : String
  canonical : String

/-- What callers are told. -/
inductive Notice where
  | up (result : Except EndpointError Unit)
  | update (kind : Kind) (text : String) (result : Except EndpointError Unit)
  | down (result : Except EndpointError Unit)

/-- A registry, the change that has it to itself, the requests whose turn has not come, and the loops
that a stop waits for. -/
structure Scene where
  world : World
  underway : Option (Move × Change)
  waiting : List Move
  stopping : Option (List LoopId)

/-- A change after some of its pause is over. -/
def Change.rest (time : Nat) : Change → Change
  | .moving b previous => .moving { b with pause := b.pause - time } previous
  | .restoring b failure => .restoring { b with pause := b.pause - time } failure
  | .done r => .done r

/-- What may become of a loop while its socket is let alone: connections that it has get on, and new
ones come as long as it is open. -/
structure Loop.Meets (now : Nat) (l l' : Loop) : Prop where
  listener : l'.listener = l.listener
  router : l'.router = l.router
  closedAt : l'.closedAt = l.closedAt
  visits : l.isOpen = false → ∀ v' ∈ l'.visits, ∃ v ∈ l.visits,
    v'.id = v.id ∧ (v.isOver now = true → v'.isOver now = true)

/-- What others may do on the host of a registry: anything but lay hands on its descriptors and the
sockets of its loops. -/
structure World.Shares (w : World) (h : Host) : Prop where
  sound : h.Sound
  now : w.host.now ≤ h.now
  attempts : h.attempts = w.host.attempts
  sockets : ∀ {id : LoopId} {l : Loop}, w.loops[id]? = some l →
    w.host.Leaves h l.listener.socket

/-- Others do not touch the socket files of a registry, nor the way there. -/
def World.Tidy (w : World) (h : Host) : Prop :=
  ∀ {id : LoopId} {l : Loop}, w.loops[id]? = some l → l.listener.Untouched w.host.files h.files

namespace Scene

def start (h : Host) : Scene := ⟨World.unstarted h, none, [], none⟩

/-- A change has come this far. Once it is done its caller is told, and the registry is free. -/
def resume (s : Scene) (m : Move) (t : Site) : Change → Option Notice × Scene
  | .done r => (some (.update m.kind m.text r), { s with world := .ofSite t, underway := none })
  | c => (none, { s with world := .ofSite t, underway := some (m, c) })

variable [Platform]

/-- What can happen, and what callers are told. Others may be known to be tidy. -/
inductive Step (tidy : Prop) : Scene → Option Notice → Scene → Prop
  | up {s : Scene} {c : Config} {r : Except EndpointError Unit} {w : World}
      (free : s.underway = none) (hr : s.world.up c = (r, w)) :
      Step tidy s (some (.up r)) { s with world := w }
  | giveUp {s : Scene} {c : Config} {h : Host} (free : s.underway = none)
      (hl : s.world.lifecycle = .unstarted) (ha : c.Abandons s.world.host h) :
      Step tidy s none { s with world := { s.world with host := h } }
  | refuse {s : Scene} {k : Kind} {text : String} {e : EndpointError} (free : s.underway = none)
      (hc : s.world.check k text = .error e) :
      Step tidy s (some (.update k text (.error e))) s
  | keep {s : Scene} {k : Kind} {text : String} (free : s.underway = none)
      (hc : s.world.check k text = .ok none) : Step tidy s (some (.update k text (.ok ()))) s
  | queue {s : Scene} {k : Kind} {text canonical : String} (free : s.underway = none)
      (hc : s.world.check k text = .ok (some canonical)) :
      Step tidy s none { s with waiting := s.waiting ++ [⟨k, text, canonical⟩] }
  | late {s : Scene} {m : Move} {before after : List Move} (free : s.underway = none)
      (hw : s.waiting = before ++ m :: after) (hn : s.world.site? = none) :
      Step tidy s (some (.update m.kind m.text (.error (s.world.refuse .reconfigure))))
        { s with waiting := before ++ after }
  | begin {s s' : Scene} {t : Site} {m : Move} {before after : List Move} {r : Option Notice}
      (free : s.underway = none) (hw : s.waiting = before ++ m :: after)
      (ht : s.world.site? = some t) (hr : resume { s with waiting := before ++ after } m
        (t.beginChange m.kind m.canonical).2 (t.beginChange m.kind m.canonical).1 = (r, s')) :
      Step tidy s r s'
  | go {s s' : Scene} {t : Site} {m : Move} {c : Change} {r : Option Notice}
      (hu : s.underway = some (m, c)) (ht : s.world.site? = some t)
      (hr : s.resume m (t.step c).2 (t.step c).1 = (r, s')) : Step tidy s r s'
  | down {s : Scene} {ids : List LoopId} {w : World} (free : s.underway = none)
      (hd : s.world.beginDown = (.ok ids, w)) :
      Step tidy s none { s with world := w, stopping := some ids }
  | noDown {s : Scene} {e : EndpointError} {w : World} (free : s.underway = none)
      (hd : s.world.beginDown = (.error e, w)) :
      Step tidy s (some (.down (.error e))) { s with world := w }
  | isDown {s : Scene} {ids : List LoopId} (hi : s.stopping = some ids)
      (hf : s.world.areFinished ids = true) :
      Step tidy s (some (.down (.ok ()))) { s with stopping := none }
  | fault {s : Scene} (id : LoopId) : Step tidy s none { s with world := s.world.fault id }
  | visit {s : Scene} {id : LoopId} {l l' : Loop} (hl : s.world.loops[id]? = some l)
      (hm : l.Meets s.world.host.now l') :
      Step tidy s none { s with world := { s.world with loops := s.world.loops.set id l' } }
  | wait {s : Scene} (time : Nat) : Step tidy s none { s with
      world := { s.world with host := s.world.host.sleep time }
      underway := s.underway.map fun u => (u.1, u.2.rest time) }
  | others {s : Scene} {h : Host} (ho : s.world.Shares h) (ht : tidy → s.world.Tidy h) :
      Step tidy s none { s with world := { s.world with host := h } }

/-- Any number of steps. -/
inductive Run (tidy : Prop) : Scene → Scene → Prop
  | refl {s : Scene} : Run tidy s s
  | step {s₁ s₂ s₃ : Scene} {r : Option Notice} : Run tidy s₁ s₂ → Step tidy s₂ r s₃ →
      Run tidy s₁ s₃

/-- A state that a registry can come to. -/
def Reachable (s : Scene) : Prop := ∃ h, h.Sound ∧ Run False (start h) s

end Scene

namespace World

theorem site?_eq_some {w : World} {t : Site} (h : w.site? = some t) :
    w.lifecycle = .running t.registry ∧ w.host = t.host ∧ w.loops = t.loops := by
  unfold site? at h
  split at h
  · rename_i r hr
    cases h
    exact ⟨hr, rfl, rfl⟩
  · cases h

/-- What is recorded for a kind is what is reported for it, if it is asked for or all are. -/
theorem address_eq {w : World} {t : Site} {k : Kind} {e : Entry} (ht : w.site? = some t)
    (he : t.registry.entries k = some e) : w.address k = e.address := by
  obtain ⟨hl, -, -⟩ := site?_eq_some ht
  simp [address, hl, he]

theorem mem_listing {w : World} {t : Site} {k : Kind} {e : Entry} (ht : w.site? = some t)
    (he : t.registry.entries k = some e) : ⟨k, e.address, e.provenance = .inherited⟩ ∈ w.listing := by
  obtain ⟨hl, -, -⟩ := site?_eq_some ht
  simp only [listing, hl]
  exact List.mem_filterMap.mpr ⟨k, k.mem_all, by rw [he]; rfl⟩

theorem check_ok {w : World} {k : Kind} {text : String} {o : Option String}
    (hc : w.check k text = .ok o) : ∃ canonical t, k.isNetwork = true ∧
      k.canonicalize text = .ok canonical ∧ w.site? = some t ∧
      o = if t.isCurrent k canonical then none else some canonical := by
  unfold check at hc
  split at hc
  · cases hc
  · rename_i hk
    split at hc
    · cases hc
    · rename_i canonical hcan
      split at hc
      · cases hc
      · rename_i t ht
        cases hc
        exact ⟨canonical, t, by simpa using hk, hcan, ht, rfl⟩

/-- A request that has nothing to change is for the address that is current. -/
theorem check_ok_none {w : World} {k : Kind} {text : String} (hc : w.check k text = .ok none) :
    ∃ canonical t, k.isNetwork = true ∧ k.canonicalize text = .ok canonical ∧ w.site? = some t ∧
      t.isCurrent k canonical = true := by
  obtain ⟨canonical, t, hk, hcan, ht, ho⟩ := check_ok hc
  refine ⟨canonical, t, hk, hcan, ht, ?_⟩
  cases hcur : t.isCurrent k canonical with
  | true => rfl
  | false => simp [hcur] at ho

/-- A request that has to wait for its turn is for another one, in canonical form. -/
theorem check_ok_some {w : World} {k : Kind} {text canonical : String}
    (hc : w.check k text = .ok (some canonical)) : k.isNetwork = true ∧
      k.canonicalize text = .ok canonical ∧ ∃ t, w.site? = some t ∧
      t.isCurrent k canonical = false := by
  obtain ⟨canonical', t, hk, hcan, ht, ho⟩ := check_ok hc
  split at ho
  · cases ho
  · rename_i hcur
    cases ho
    exact ⟨hk, hcan, t, ht, by simpa using hcur⟩

theorem beginDown_eq {w : World} {t : Site} (ht : w.site? = some t) :
    w.beginDown = (.ok t.closeAll.1, ⟨t.closeAll.2.host, t.closeAll.2.loops, .stopped⟩) := by
  unfold beginDown
  rw [ht]

/-- A running registry is stopped, and waits for the loops that it had to close. -/
theorem beginDown_ok {w w' : World} {ids : List LoopId} (hd : w.beginDown = (.ok ids, w')) :
    ∃ t, w.site? = some t ∧ ids = t.closeAll.1 ∧
      w' = ⟨t.closeAll.2.host, t.closeAll.2.loops, .stopped⟩ := by
  cases ht : w.site? with
  | none =>
    simp only [beginDown, ht] at hd
    cases hd
  | some t =>
    rw [beginDown_eq ht] at hd
    cases hd
    exact ⟨t, rfl, rfl, rfl⟩

/-- Another one is left alone. -/
theorem beginDown_error {w w' : World} {e : EndpointError} (hd : w.beginDown = (.error e, w')) :
    w' = w := by
  cases ht : w.site? with
  | none =>
    simp only [beginDown, ht] at hd
    cases hd
    rfl
  | some t =>
    rw [beginDown_eq ht] at hd
    cases hd

theorem fault_ofSite (t : Site) (id : LoopId) : (ofSite t).fault id = ofSite (t.closeLoop id) := by
  unfold fault ofSite Site.closeLoop
  dsimp only
  split
  · rfl
  · split <;> rfl

theorem ofSite_of_site? {w : World} {t : Site} (h : w.site? = some t) : w = ofSite t := by
  obtain ⟨hl, hh, hls⟩ := site?_eq_some h
  obtain ⟨host, loops, life⟩ := w
  subst hh hls hl
  rfl

/-- A fault closes the socket of an open loop, and is no matter otherwise. -/
theorem fault_cases (w : World) (id : LoopId) :
    w.fault id = w ∨ ∃ l, w.loops[id]? = some l ∧ l.isOpen = true ∧ w.fault id =
      { w with host := w.host.drop l.listener, loops := w.loops.set id (l.close w.host.now) } := by
  unfold fault
  split
  · exact Or.inl rfl
  · rename_i l hl
    split
    · rename_i ho
      exact Or.inr ⟨l, hl, ho, rfl⟩
    · exact Or.inl rfl

theorem lifecycle_fault (w : World) (id : LoopId) : (w.fault id).lifecycle = w.lifecycle := by
  rcases w.fault_cases id with hf | ⟨l, -, -, hf⟩ <;> rw [hf]

/-- No fault can befall a loop whose socket is closed. -/
theorem fault_of_closed {w : World} {id : LoopId}
    (hc : ∀ l, w.loops[id]? = some l → l.isOpen = false) : w.fault id = w := by
  rcases w.fault_cases id with hf | ⟨l, hl, ho, -⟩
  · exact hf
  · cases ho.symm.trans (hc l hl)

end World

namespace Scene

theorem resume_cases {s s' : Scene} {m : Move} {t : Site} {c : Change} {r : Option Notice}
    (hr : s.resume m t c = (r, s')) :
    s'.world = .ofSite t ∧ s'.waiting = s.waiting ∧ s'.stopping = s.stopping ∧
      ((∃ o, c = .done o ∧ r = some (.update m.kind m.text o) ∧ s'.underway = none) ∨
        r = none ∧ s'.underway = some (m, c) ∧ c.result? = none) := by
  cases c with
  | moving b previous =>
    cases hr
    exact ⟨rfl, rfl, rfl, Or.inr ⟨rfl, rfl, rfl⟩⟩
  | restoring b failure =>
    cases hr
    exact ⟨rfl, rfl, rfl, Or.inr ⟨rfl, rfl, rfl⟩⟩
  | done o =>
    cases hr
    exact ⟨rfl, rfl, rfl, Or.inl ⟨o, rfl, rfl, rfl⟩⟩

end Scene
end Portkeeper
