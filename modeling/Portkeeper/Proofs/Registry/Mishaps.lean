import Portkeeper.Proofs.Registry.Crowd

/-!
What fails without any call: the task of a connection, or accepting on a loop. It is felt by its own
loop alone, whatever else has failed, and nothing that is recorded changes.
-/

set_option autoImplicit false

namespace Portkeeper

/-- A connection fails, or accepting on a loop does. -/
inductive Mishap where
  | connection (loop : LoopId) (visit : Nat)
  | accept (loop : LoopId) (error : IoError)
  deriving DecidableEq

namespace Mishap

def loop : Mishap → LoopId
  | connection id _ => id
  | accept id _ => id

/-- Whether a connection is over by it. -/
def ends (visit : Nat) : Mishap → Bool
  | connection _ v => v = visit
  | accept .. => false

/-- Whether its loop stops accepting. -/
def closes : Mishap → Bool
  | connection .. => false
  | accept _ e => !e.isOfClient

end Mishap

namespace Loop

/-- What is left of a loop that something befalls. -/
def suffer (now : Nat) (l : Loop) : Mishap → Loop
  | .connection _ visit => l.leave visit
  | .accept _ e => if e.isOfClient then l else l.close now

def suffers (now : Nat) (l : Loop) (ms : List Mishap) : Loop := ms.foldl (suffer now) l

/-- What is left of a loop that one thing after another befalls. Connections are over that failed, and
where accepting has failed, those that were still in their handshake. -/
structure Suffered (now : Nat) (ms : List Mishap) (l l' : Loop) : Prop where
  listener : l'.listener = l.listener
  router : l'.router = l.router
  closedAt : l'.closedAt = if ms.any Mishap.closes then some (l.closedAt.getD now) else l.closedAt
  visits : l'.visits = l.visits.filter fun v =>
    !ms.any (Mishap.ends v.id) && !(ms.any Mishap.closes && l.isOpen && v.handshaking)

theorem suffered_nil (now : Nat) (l : Loop) : Suffered now [] l l :=
  ⟨rfl, rfl, rfl, (List.filter_eq_self.mpr fun _ _ => rfl).symm⟩

theorem suffer_of_closes {m : Mishap} (now : Nat) (l : Loop) (hm : m.closes = true) :
    l.suffer now m = l.close now := by
  cases m with
  | connection id visit => cases hm
  | accept id e => simp_all [suffer, Mishap.closes]

theorem suffered_suffer (now : Nat) (l : Loop) (m : Mishap) : Suffered now [m] l (l.suffer now m) := by
  cases m with
  | connection id visit =>
    refine ⟨rfl, rfl, by simp [suffer, leave, Mishap.closes], ?_⟩
    simp [suffer, leave, Mishap.closes, Mishap.ends, eq_comm]
  | accept id e =>
    by_cases hidle : e.isOfClient = true ∨ l.isOpen = false
    · have hself : l.suffer now (.accept id e) = l := by
        cases he : e.isOfClient with
        | true => simp [suffer, he]
        | false => simp [suffer, he, close_of_closed now (hidle.resolve_left (by simp [he]))]
      rw [hself]
      refine ⟨rfl, rfl, ?_, (List.filter_eq_self.mpr fun v _ => ?_).symm⟩
      · rcases hidle with he | ho
        · simp [Mishap.closes, he]
        · cases hc : l.closedAt <;> simp_all [isOpen]
      · rcases hidle with he | ho
        · simp [Mishap.closes, Mishap.ends, he]
        · simp [Mishap.ends, ho]
    · rw [not_or, Bool.not_eq_true, Bool.not_eq_false] at hidle
      obtain ⟨he, ho⟩ := hidle
      have hc : l.closedAt = none := by simpa [isOpen] using ho
      refine ⟨?_, ?_, ?_, ?_⟩ <;> simp [suffer, close, ho, he, hc, Mishap.closes, Mishap.ends]

theorem Suffered.isOpen {now : Nat} {ms : List Mishap} {l l' : Loop} (h : Suffered now ms l l') :
    l'.isOpen = (!ms.any Mishap.closes && l.isOpen) := by
  rw [Loop.isOpen, h.closedAt, Loop.isOpen]
  cases ms.any Mishap.closes <;> simp

theorem Suffered.trans {now : Nat} {ms ns : List Mishap} {l l' l'' : Loop} (h : Suffered now ms l l')
    (h' : Suffered now ns l' l'') : Suffered now (ms ++ ns) l l'' where
  listener := h'.listener.trans h.listener
  router := h'.router.trans h.router
  closedAt := by
    rw [h'.closedAt, h.closedAt, List.any_append]
    cases ms.any Mishap.closes <;> simp
  visits := by
    rw [h'.visits, h.visits, List.filter_filter, h.isOpen]
    refine List.filter_congr fun v _ => ?_
    rw [List.any_append, List.any_append]
    cases ms.any Mishap.closes <;> cases ns.any Mishap.closes <;> cases l.isOpen <;>
      cases v.handshaking <;> simp [Bool.and_comm]

theorem suffered (now : Nat) (l : Loop) (ms : List Mishap) : Suffered now ms l (l.suffers now ms) := by
  induction ms generalizing l with
  | nil => exact suffered_nil now l
  | cons m ms ih => exact (suffered_suffer now l m).trans (ih (l.suffer now m))

end Loop

namespace World

def suffer (w : World) : Mishap → World
  | .connection id visit => w.leave id visit
  | .accept id e => w.failAccept id e

/-- One thing after another fails. -/
def suffers (w : World) (ms : List Mishap) : World := ms.foldl suffer w

variable {w : World} {m : Mishap} {ms : List Mishap} {id i : LoopId} {l : Loop}

/-! ### One failure -/

theorem suffer_none (hl : w.loops[m.loop]? = none) : w.suffer m = w := by
  cases m with
  | connection id visit =>
    have hl : w.loops[id]? = none := hl
    simp [suffer, leave, hl]
  | accept id e =>
    have hl : w.loops[id]? = none := hl
    simp [suffer, failAccept, fault, hl]

/-- What a failure does: it is felt by the loop that it befalls, and the socket of that loop is closed if
accepting has failed for good. -/
theorem suffer_eq (hl : w.loops[m.loop]? = some l) : w.suffer m =
    { w with
      host := if m.closes && l.isOpen then w.host.drop l.listener else w.host
      loops := w.loops.set m.loop (l.suffer w.host.now m) } := by
  cases m with
  | connection id visit =>
    have hl : w.loops[id]? = some l := hl
    simp [suffer, leave, hl, Mishap.closes, Mishap.loop, Loop.suffer]
  | accept id e =>
    have hl : w.loops[id]? = some l := hl
    have hself : w.loops.set id l = w.loops := by
      obtain ⟨hlt, rfl⟩ := List.getElem?_eq_some_iff.mp hl
      exact List.set_getElem_self hlt
    cases he : e.isOfClient with
    | true => simp [suffer, failAccept, he, Mishap.closes, Mishap.loop, Loop.suffer, hself]
    | false =>
      cases ho : l.isOpen with
      | true => simp [suffer, failAccept, fault, he, hl, ho, Mishap.closes, Mishap.loop, Loop.suffer]
      | false =>
        simp [suffer, failAccept, fault, he, hl, ho, Mishap.closes, Mishap.loop, Loop.suffer,
          Loop.close_of_closed _ ho, hself]

theorem lifecycle_suffer (w : World) (m : Mishap) : (w.suffer m).lifecycle = w.lifecycle := by
  cases hl : w.loops[m.loop]? with
  | none => rw [suffer_none hl]
  | some l => rw [suffer_eq hl]

theorem now_suffer (w : World) (m : Mishap) : (w.suffer m).host.now = w.host.now := by
  cases hl : w.loops[m.loop]? with
  | none => rw [suffer_none hl]
  | some l =>
    rw [suffer_eq hl]
    dsimp only
    split
    · exact Host.now_drop _ _
    · rfl

theorem length_suffer (w : World) (m : Mishap) : (w.suffer m).loops.length = w.loops.length := by
  cases hl : w.loops[m.loop]? with
  | none => rw [suffer_none hl]
  | some l =>
    rw [suffer_eq hl]
    exact List.length_set

theorem getElem?_suffer (w : World) (m : Mishap) (i : LoopId) : (w.suffer m).loops[i]? =
    if m.loop = i then (w.loops[i]?).map (Loop.suffer w.host.now · m) else w.loops[i]? := by
  cases hl : w.loops[m.loop]? with
  | none =>
    rw [suffer_none hl]
    split
    · rename_i hi
      rw [← hi, hl, Option.map_none]
    · rfl
  | some l =>
    have hlt : m.loop < w.loops.length := (List.getElem?_eq_some_iff.mp hl).1
    rw [suffer_eq hl]
    by_cases hi : m.loop = i
    · rw [if_pos hi, ← hi, hl]
      exact List.getElem?_set_self hlt
    · rw [if_neg hi]
      exact List.getElem?_set_ne hi

theorem get?_suffer (hw : Wired w.host w.loops) (m : Mishap) {sid : SocketId}
    (hid : ∀ l, w.loops[m.loop]? = some l → m.closes = true → l.isOpen = true →
      sid ≠ l.listener.socket) :
    (w.suffer m).host.sockets.get? sid = w.host.sockets.get? sid := by
  cases hl : w.loops[m.loop]? with
  | none => rw [suffer_none hl]
  | some l =>
    rw [suffer_eq hl]
    dsimp only
    split
    · rename_i hc
      obtain ⟨hc, ho⟩ := (Bool.and_eq_true _ _).mp hc
      exact (hw.holds hl ho).get?_drop (hid l hl hc ho)
    · rfl

end World

/-! ### Scenes and crowds -/

/-- A loop that something befalls, and whose socket is let alone, is one that connections may leave. -/
theorem Loop.meets_suffer (now : Nat) (l : Loop) {m : Mishap}
    (hc : (m.closes && l.isOpen) = false) : l.Meets now (l.suffer now m) := by
  have hs := suffered_suffer now l m
  refine ⟨hs.listener, hs.router, ?_, fun _ v hv => ?_⟩
  · rw [hs.closedAt, List.any_cons, List.any_nil, Bool.or_false]
    unfold isOpen at hc
    split
    · rename_i hm
      rw [hm, Bool.true_and, Option.isNone_eq_false_iff] at hc
      obtain ⟨t, ht⟩ := Option.isSome_iff_exists.mp hc
      rw [ht, Option.getD_some]
    · rfl
  · rw [hs.visits] at hv
    exact ⟨v, (List.mem_filter.mp hv).1, rfl, id⟩

namespace Scene

variable [Platform] {tidy : Prop} {s : Scene}

/-- Failures are among the things that happen in a scene, whatever is under way. -/
theorem step_suffer (s : Scene) (m : Mishap) (h : s.world.suffer m ≠ s.world) :
    Step tidy s none { s with world := s.world.suffer m } := by
  cases hl : s.world.loops[m.loop]? with
  | none => exact absurd (World.suffer_none hl) h
  | some l =>
    cases hc : m.closes && l.isOpen with
    | false =>
      rw [World.suffer_eq hl, hc]
      exact .visit hl (l.meets_suffer _ hc)
    | true =>
      have hfault : s.world.suffer m = s.world.fault m.loop := by
        obtain ⟨hcl, ho⟩ := (Bool.and_eq_true _ _).mp hc
        simp [World.suffer_eq hl, World.fault, hl, ho, hcl, l.suffer_of_closes _ hcl]
      rw [hfault]
      exact .fault m.loop

theorem Run.suffers {s₀ : Scene} (h : Run tidy s₀ s) (ms : List Mishap) :
    Run tidy s₀ { s with world := s.world.suffers ms } := by
  induction ms generalizing s with
  | nil => exact h
  | cons m ms ih =>
    have hone : Run tidy s₀ { s with world := s.world.suffer m } := by
      by_cases hm : s.world.suffer m = s.world
      · rw [hm]
        exact h
      · exact h.step (s.step_suffer m hm)
    exact ih hone

theorem Reachable.suffers (h : s.Reachable) (ms : List Mishap) :
    Reachable { s with world := s.world.suffers ms } := by
  obtain ⟨h₀, hs, hrun⟩ := h
  exact ⟨h₀, hs, hrun.suffers ms⟩

end Scene

variable {w : World} {ms : List Mishap} {i : LoopId} {l : Loop}

theorem Wired.suffer (hw : Wired w.host w.loops) (m : Mishap) :
    Wired (w.suffer m).host (w.suffer m).loops := by
  cases hl : w.loops[m.loop]? with
  | none =>
    rw [World.suffer_none hl]
    exact hw
  | some l =>
    rw [World.suffer_eq hl]
    dsimp only
    split
    · rename_i hc
      obtain ⟨hc, ho⟩ := (Bool.and_eq_true _ _).mp hc
      rw [l.suffer_of_closes _ hc]
      exact hw.close hl ho _
    · rename_i hc
      have hm := l.meets_suffer w.host.now (Bool.not_eq_true _ ▸ hc)
      exact hw.visit hl hm.listener hm.closedAt

namespace World

variable [Platform]

theorem Sound.visit (hs : w.Sound) (hl : w.loops[i]? = some l) {l' : Loop}
    (hm : l.Meets w.host.now l') : Sound { w with loops := w.loops.set i l' } := by
  by_cases hlife : w.lifecycle = .stopped
  · have hw := hs.wired.visit hl hm.listener hm.closedAt
    unfold Sound
    dsimp only
    rw [hlife]
    exact hw
  · have hst : Scene.Step False ⟨w, none, [], none⟩ none
        ⟨{ w with loops := w.loops.set i l' }, none, [], none⟩ := .visit hl hm
    exact ((hs.scene hlife).step hst).world

theorem Sound.suffer (hs : w.Sound) (m : Mishap) : (w.suffer m).Sound := by
  by_cases hl : w.lifecycle = .stopped
  · have hw := hs.wired.suffer m
    unfold Sound
    rw [lifecycle_suffer, hl]
    exact hw
  · by_cases hm : w.suffer m = w
    · rw [hm]
      exact hs
    · have hst : Scene.Step False ⟨w, none, [], none⟩ none ⟨w.suffer m, none, [], none⟩ :=
        Scene.step_suffer ⟨w, none, [], none⟩ m hm
      exact ((hs.scene hl).step hst).world

end World

def Mishap.event [Platform] (m : Mishap) : World.Event where
  act w := w.suffer m
  time := 0
  lifecycle w := w.lifecycle_suffer m
  length w := w.length_suffer m
  sound hs := hs.suffer m

/-! ### One failure after the other -/

namespace World

theorem lifecycle_suffers (w : World) (ms : List Mishap) :
    (w.suffers ms).lifecycle = w.lifecycle := by
  induction ms generalizing w with
  | nil => rfl
  | cons m ms ih => exact (ih (w.suffer m)).trans (w.lifecycle_suffer m)

theorem Sound.suffers [Platform] (hs : w.Sound) (ms : List Mishap) : (w.suffers ms).Sound := by
  induction ms generalizing w with
  | nil => exact hs
  | cons m ms ih => exact ih (hs.suffer m)

theorem getElem?_suffers (w : World) (ms : List Mishap) (i : LoopId) : (w.suffers ms).loops[i]? =
    (w.loops[i]?).map (Loop.suffers w.host.now · (ms.filter (·.loop = i))) := by
  induction ms generalizing w with
  | nil => simp [suffers, Loop.suffers]
  | cons m ms ih =>
    show ((w.suffer m).suffers ms).loops[i]? = _
    rw [ih, now_suffer, getElem?_suffer, List.filter_cons]
    by_cases hi : m.loop = i
    · simp [hi, Loop.suffers, Function.comp_def]
    · simp [hi]

/-- A socket stays as it is unless accepting fails for good on the loop that has it. -/
theorem get?_suffers (hw : Wired w.host w.loops) (ms : List Mishap) {sid : SocketId}
    (hid : ∀ m ∈ ms, m.closes = true → ∀ l, w.loops[m.loop]? = some l → l.isOpen = true →
      sid ≠ l.listener.socket) :
    (w.suffers ms).host.sockets.get? sid = w.host.sockets.get? sid := by
  induction ms generalizing w with
  | nil => rfl
  | cons m ms ih =>
    have hfirst := get?_suffer hw m fun l hl hc ho => hid m List.mem_cons_self hc l hl ho
    refine (ih (hw.suffer m) fun n hn hc l hl ho => ?_).trans hfirst
    -- the loop had its listener before, and a loop that is open now was open then
    rw [getElem?_suffer] at hl
    have hlater := hid n (List.mem_cons_of_mem m hn) hc
    split at hl
    · obtain ⟨l₀, hl₀, rfl⟩ := Option.map_eq_some_iff.mp hl
      have hs := Loop.suffered_suffer w.host.now l₀ m
      rw [hs.listener]
      rw [hs.isOpen] at ho
      exact hlater l₀ hl₀ ((Bool.and_eq_true _ _).mp ho).2
    · exact hlater l hl ho

end World
end Portkeeper
