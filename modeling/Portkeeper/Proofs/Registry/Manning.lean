import Portkeeper.Proofs.Registry.Wiring

/-!
Who has the sockets of a registry. For each kind there is at most one listener that nobody serves yet, or
one loop; whatever is open belongs to one of these. What can be done to listeners and loops is described
here, one thing at a time.
-/

set_option autoImplicit false

namespace Portkeeper

/-- The loop of a given number is there, and its socket is closed. -/
def Shut (loops : List Loop) (id : LoopId) : Prop := ∃ l, loops[id]? = some l ∧ l.isOpen = false

/-- The listeners that nobody serves yet, and the loops that serve the others. -/
structure Manned (h : Host) (loops : List Loop) (ready : Kind → Option Listener)
    (served : Kind → Option LoopId) : Prop where
  wired : Wired h loops
  live : ∀ {id : LoopId} {l : Loop}, loops[id]? = some l → l.isOpen = true →
    served l.listener.kind = some id
  serves : ∀ {k : Kind} {id : LoopId}, served k = some id →
    ready k = none ∧ ∃ l, loops[id]? = some l ∧ l.listener.kind = k
  kinds : ∀ {k : Kind} {l : Listener}, ready k = some l → l.kind = k
  holds : ∀ {k : Kind} {l : Listener}, ready k = some l → l.Holds h
  apart : ∀ {k : Kind} {l : Listener}, ready k = some l → ∀ {i : LoopId} {m : Loop},
    loops[i]? = some m → m.listener.socket ≠ l.socket
  distinct : ∀ {k k' : Kind} {l l' : Listener}, ready k = some l → ready k' = some l' →
    l.socket = l'.socket → k = k'

/-- An open listening socket of a kind. -/
def Listens (loops : List Loop) (ready : Kind → Option Listener) (k : Kind) (l : Listener) : Prop :=
  ready k = some l ∨ ∃ (id : LoopId) (m : Loop), loops[id]? = some m ∧ m.isOpen = true ∧
    m.listener = l ∧ l.kind = k

namespace Shut

variable {loops : List Loop} {id : LoopId}

theorem push (hs : Shut loops id) (l : Loop) : Shut (loops ++ [l]) id := by
  obtain ⟨m, hm, ho⟩ := hs
  exact ⟨m, by rw [List.getElem?_append_left (List.getElem?_eq_some_iff.mp hm).1, hm], ho⟩

theorem set (hs : Shut loops id) {i : LoopId} {l l' : Loop} (hl : loops[i]? = some l)
    (ho : l.isOpen = false → l'.isOpen = false) : Shut (loops.set i l') id := by
  obtain ⟨m, hm, hmo⟩ := hs
  by_cases hi : i = id
  · subst hi
    obtain rfl : l = m := Option.some.inj (hl.symm.trans hm)
    exact ⟨l', List.getElem?_set_self (List.getElem?_eq_some_iff.mp hm).1, ho hmo⟩
  · exact ⟨m, (List.getElem?_set_ne hi).trans hm, hmo⟩

theorem closed (hs : Shut loops id) {l : Loop} (hl : loops[id]? = some l) : l.isOpen = false := by
  obtain ⟨m, hm, ho⟩ := hs
  obtain rfl : m = l := Option.some.inj (hm.symm.trans hl)
  exact ho

end Shut

namespace Manned

variable {h h' : Host} {loops : List Loop} {ready ready' : Kind → Option Listener}
  {served served' : Kind → Option LoopId} {k : Kind} {l l' : Listener} {id : LoopId} {m : Loop}

/-- No kind has two open listening sockets. -/
theorem unique (hm : Manned h loops ready served) (hl : Listens loops ready k l)
    (hl' : Listens loops ready k l') : l = l' := by
  have clash {l : Listener} {i : LoopId} {n : Loop} (hr : ready k = some l) (hn : loops[i]? = some n)
      (ho : n.isOpen = true) (hk : n.listener.kind = k) : False := by
    have hno := (hm.serves (hk ▸ hm.live hn ho)).1
    rw [hr] at hno
    cases hno
  rcases hl with hl | ⟨i, n, hn, ho, rfl, hk⟩
  · rcases hl' with hl' | ⟨i, n, hn, ho, rfl, hk⟩
    · exact Option.some.inj (hl.symm.trans hl')
    · exact (clash hl hn ho hk).elim
  · rcases hl' with hl' | ⟨i', n', hn', ho', rfl, hk'⟩
    · exact (clash hl' hn ho hk).elim
    · have hi := hm.live hn ho
      have hi' := hm.live hn' ho'
      rw [hk] at hi
      rw [hk'] at hi'
      obtain rfl : i = i' := Option.some.inj (hi.symm.trans hi')
      exact congrArg Loop.listener (Option.some.inj (hn.symm.trans hn'))

/-- Whatever counts as open is open. -/
theorem holds_of_listens (hm : Manned h loops ready served) (hl : Listens loops ready k l) :
    l.Holds h := by
  rcases hl with hl | ⟨i, n, hn, ho, rfl, -⟩
  · exact hm.holds hl
  · exact hm.wired.holds hn ho

/-- A kind with neither a listener nor a loop has nothing open. -/
theorem vacant (hm : Manned h loops ready served) (hr : ready k = none) (hs : served k = none) :
    ¬Listens loops ready k l := by
  rintro (hl | ⟨i, n, hn, ho, rfl, hk⟩)
  · rw [hr] at hl
    cases hl
  · have hi := hm.live hn ho
    rw [hk, hs] at hi
    cases hi

/-! ### What can be done -/

/-- Time, and others who leave the sockets alone, are no matter. -/
theorem leaves (hm : Manned h loops ready served) (hs : h'.Sound)
    (hl : ∀ {i : LoopId} {n : Loop}, loops[i]? = some n → h.Leaves h' n.listener.socket)
    (hr : ∀ {k : Kind} {l : Listener}, ready k = some l → h.Leaves h' l.socket) :
    Manned h' loops ready served :=
  ⟨hm.wired.leaves hs hl, hm.live, hm.serves, hm.kinds, fun hk => (hm.holds hk).leaves (hr hk),
    hm.apart, hm.distinct⟩

theorem later (hm : Manned h loops ready served) (hs : h'.Sound) (hh : h.Later h') :
    Manned h' loops ready served :=
  hm.leaves hs (fun hl => hh.leaves (hm.wired.bounded hl) (hm.wired.spares hl))
    fun hr => hh.leaves (hm.holds hr).bounded (hm.holds hr).spares

theorem visit (hm : Manned h loops ready served) {n : Loop} (hl : loops[id]? = some m)
    (hk : n.listener = m.listener) (hc : n.closedAt = m.closedAt) :
    Manned h (loops.set id n) ready served := by
  have hcases {i : LoopId} {p : Loop} (hp : (loops.set id n)[i]? = some p) :
      ∃ p', loops[i]? = some p' ∧ p.listener = p'.listener ∧ p.isOpen = p'.isOpen := by
    rcases Loop.of_getElem?_set hp with ⟨rfl, rfl⟩ | ⟨-, hp⟩
    · exact ⟨m, hl, hk, by rw [Loop.isOpen, Loop.isOpen, hc]⟩
    · exact ⟨p, hp, rfl, rfl⟩
  refine ⟨hm.wired.visit hl hk hc, fun {i p} hp ho => ?_, fun {k i} hs => ?_, hm.kinds, hm.holds,
    fun {k l} hr {i p} hp => ?_, hm.distinct⟩
  · obtain ⟨p', hp', hpk, hpo⟩ := hcases hp
    exact hpk ▸ hm.live hp' (hpo ▸ ho)
  · obtain ⟨hr, p, hp, hpk⟩ := hm.serves hs
    refine ⟨hr, ?_⟩
    by_cases hi : id = i
    · subst hi
      obtain rfl : m = p := Option.some.inj (hl.symm.trans hp)
      exact ⟨n, List.getElem?_set_self (List.getElem?_eq_some_iff.mp hp).1, hk ▸ hpk⟩
    · exact ⟨p, (List.getElem?_set_ne hi).trans hp, hpk⟩
  · obtain ⟨p', hp', hpk, -⟩ := hcases hp
    exact hpk ▸ hm.apart hr hp'

/-- A loop closes its socket. -/
theorem close (hm : Manned h loops ready served) (hl : loops[id]? = some m) (ho : m.isOpen = true)
    (now : Nat) : Manned (h.drop m.listener) (loops.set id (m.close now)) ready served := by
  have hh := hm.wired.holds hl ho
  have hcases {i : LoopId} {p : Loop} (hp : (loops.set id (m.close now))[i]? = some p) :
      p.isOpen = false ∧ p.listener = m.listener ∨ loops[i]? = some p := by
    rcases Loop.of_getElem?_set hp with ⟨-, rfl⟩ | ⟨-, hp⟩
    · exact Or.inl ⟨by simp, by simp⟩
    · exact Or.inr hp
  refine ⟨hm.wired.close hl ho now, fun {i p} hp hpo => ?_, fun {k i} hs => ?_, hm.kinds,
    fun hr => (hm.holds hr).drop hh (hm.apart hr hl).symm, fun {k l} hr {i p} hp => ?_, hm.distinct⟩
  · rcases hcases hp with ⟨hc, -⟩ | hp
    · rw [hc] at hpo
      cases hpo
    · exact hm.live hp hpo
  · obtain ⟨hr, p, hp, hpk⟩ := hm.serves hs
    refine ⟨hr, ?_⟩
    by_cases hi : id = i
    · subst hi
      obtain rfl : m = p := Option.some.inj (hl.symm.trans hp)
      exact ⟨m.close now, List.getElem?_set_self (List.getElem?_eq_some_iff.mp hp).1, by simpa using hpk⟩
    · exact ⟨p, (List.getElem?_set_ne hi).trans hp, hpk⟩
  · rcases hcases hp with ⟨-, hp⟩ | hp
    · rw [hp]
      exact hm.apart hr hl
    · exact hm.apart hr hp

/-- A listener is closed that nobody serves. -/
theorem drop (hm : Manned h loops ready served) (hl : ready k = some l)
    (hr : ∀ k', ready' k' = if k' = k then none else ready k') :
    Manned (h.drop l) loops ready' served := by
  have hh := hm.holds hl
  have hother {k' : Kind} {l' : Listener} (hl' : ready' k' = some l') :
      ready k' = some l' ∧ l'.socket ≠ l.socket := by
    rw [hr] at hl'
    split at hl'
    · cases hl'
    · rename_i hne
      exact ⟨hl', fun hc => hne (hm.distinct hl' hl hc)⟩
  refine ⟨⟨hm.wired.sound.drop l, fun hp ho => (hm.wired.holds hp ho).drop hh (hm.apart hl hp),
    fun hp ho => (hm.wired.released hp ho).drop hm.wired.sound l, hm.wired.apart⟩, hm.live,
    fun {k' i} hs => ?_, fun hl' => hm.kinds (hother hl').1,
    fun hl' => (hm.holds (hother hl').1).drop hh (hother hl').2, fun hl' => hm.apart (hother hl').1,
    fun h₁ h₂ => hm.distinct (hother h₁).1 (hother h₂).1⟩
  obtain ⟨hno, p, hp, hpk⟩ := hm.serves hs
  refine ⟨?_, p, hp, hpk⟩
  rw [hr]
  split
  · rfl
  · exact hno

/-- A loop is given up whose socket is closed. -/
theorem forget (hm : Manned h loops ready served) (hc : ∀ id, served k = some id → Shut loops id)
    (hs : ∀ k', served' k' = if k' = k then none else served k') :
    Manned h loops ready served' := by
  refine ⟨hm.wired, fun {i p} hp ho => ?_, fun {k' i} hk => ?_, hm.kinds, hm.holds, hm.apart,
    hm.distinct⟩
  · rw [hs]
    split
    · rename_i hk
      have hclosed := (hc i (hk ▸ hm.live hp ho)).closed hp
      rw [ho] at hclosed
      cases hclosed
    · exact hm.live hp ho
  · rw [hs] at hk
    split at hk
    · cases hk
    · exact hm.serves hk

/-- A listener is opened for a kind that has nothing. -/
theorem add (hm : Manned h loops ready served) (hno : served l.kind = none) (hh : l.Holds h)
    (hl : ∀ {i : LoopId} {n : Loop}, loops[i]? = some n → n.listener.socket ≠ l.socket)
    (ho : ∀ {k : Kind} {l' : Listener}, ready k = some l' → l'.socket ≠ l.socket)
    (hr : ∀ k', ready' k' = if k' = l.kind then some l else ready k') :
    Manned h loops ready' served := by
  have hcases {k' : Kind} {l' : Listener} (hl' : ready' k' = some l') :
      k' = l.kind ∧ l' = l ∨ k' ≠ l.kind ∧ ready k' = some l' := by
    rw [hr] at hl'
    split at hl'
    · rename_i hk
      exact Or.inl ⟨hk, (Option.some.inj hl').symm⟩
    · rename_i hk
      exact Or.inr ⟨hk, hl'⟩
  refine ⟨hm.wired, hm.live, fun {k' i} hs => ?_, fun hl' => ?_, fun hl' => ?_, fun hl' => ?_,
    fun h₁ h₂ he => ?_⟩
  · obtain ⟨hnone, p, hp, hpk⟩ := hm.serves hs
    refine ⟨?_, p, hp, hpk⟩
    rw [hr, if_neg]
    · exact hnone
    · rintro rfl
      rw [hno] at hs
      cases hs
  · rcases hcases hl' with ⟨rfl, rfl⟩ | ⟨-, hl'⟩
    · rfl
    · exact hm.kinds hl'
  · rcases hcases hl' with ⟨-, rfl⟩ | ⟨-, hl'⟩
    · exact hh
    · exact hm.holds hl'
  · rcases hcases hl' with ⟨-, rfl⟩ | ⟨-, hl'⟩
    · exact hl
    · exact hm.apart hl'
  · rcases hcases h₁ with ⟨rfl, rfl⟩ | ⟨-, h₁⟩
    · rcases hcases h₂ with ⟨rfl, -⟩ | ⟨-, h₂⟩
      · rfl
      · exact absurd he.symm (ho h₂)
    · rcases hcases h₂ with ⟨rfl, rfl⟩ | ⟨-, h₂⟩
      · exact absurd he (ho h₁)
      · exact hm.distinct h₁ h₂ he

variable [Platform]

/-- A listener that nothing had before is opened for a kind that has nothing. -/
theorem opens (hm : Manned h loops ready served) {h₁ : Host} {address : String} {b : Bundle}
    (hl : h.Later h₁) (hs : h₁.Sound) (ho : h₁.Opens h' k address b l) (hno : served k = none)
    (hr : ∀ k', ready' k' = if k' = k then some l else ready k') :
    Manned h' loops ready' served := by
  have hm' := hm.later ho.sound (hl.trans ho.later)
  have hfresh {n : Nat} (hn : n < h.nextSocket) : n ≠ l.socket :=
    ho.socket ▸ Nat.ne_of_lt (Nat.lt_of_lt_of_le hn hl.next)
  obtain rfl := ho.kind
  exact hm'.add hno (ho.holds hs) (fun hn => hfresh (hm.wired.bounded hn))
    (fun hl' => hfresh (hm.holds hl').bounded) hr

omit [Platform] in
/-- A listener is handed to a loop of its own. -/
theorem serve (hm : Manned h loops ready served) (hl : ready k = some l) {n : Loop}
    (hn : n.listener = l) (ho : n.isOpen = true)
    (hr : ∀ k', ready' k' = if k' = k then none else ready k')
    (hs : ∀ k', served' k' = if k' = k then some loops.length else served k') :
    Manned h (loops ++ [n]) ready' served' := by
  have hkind := hm.kinds hl
  have hother {k' : Kind} {l' : Listener} (hl' : ready' k' = some l') :
      k' ≠ k ∧ ready k' = some l' := by
    rw [hr] at hl'
    split at hl'
    · cases hl'
    · rename_i hne
      exact ⟨hne, hl'⟩
  refine ⟨hm.wired.push ho (hn ▸ hm.holds hl) (fun hp => hn ▸ hm.apart hl hp), fun {i p} hp hpo => ?_,
    fun {k' i} hk' => ?_, fun hl' => hm.kinds (hother hl').2, fun hl' => hm.holds (hother hl').2,
    fun {k' l'} hl' {i p} hp => ?_, fun h₁ h₂ => hm.distinct (hother h₁).2 (hother h₂).2⟩
  · rw [hs]
    rcases Loop.of_getElem?_push hp with hp | ⟨rfl, rfl⟩
    · have hlive := hm.live hp hpo
      rw [if_neg]
      · exact hlive
      · rintro hk
        have hno := (hm.serves (hk ▸ hlive)).1
        rw [hl] at hno
        cases hno
    · rw [if_pos (hn ▸ hkind)]
  · rw [hs] at hk'
    split at hk'
    · rename_i hk
      obtain rfl := Option.some.inj hk'
      refine ⟨by rw [hr, if_pos hk], n, List.getElem?_concat_length, ?_⟩
      rw [hn, hkind, hk]
    · rename_i hk
      obtain ⟨hno, p, hp, hpk⟩ := hm.serves hk'
      refine ⟨by rw [hr, if_neg hk, hno], p, ?_, hpk⟩
      rw [List.getElem?_append_left (List.getElem?_eq_some_iff.mp hp).1, hp]
  · obtain ⟨hne, hl'⟩ := hother hl'
    rcases Loop.of_getElem?_push hp with hp | ⟨-, rfl⟩
    · exact hm.apart hl' hp
    · rw [hn]
      exact fun hc => hne (hm.distinct hl hl' hc).symm

end Manned

/-! ### One thing after another -/

/-- What a registry has: a host, loops, listeners that nobody serves yet, and the loops of the others. With
its bundle it makes more of them. -/
structure Posts where
  host : Host
  loops : List Loop
  ready : Kind → Option Listener
  served : Kind → Option LoopId
  bundle : Bundle

namespace Posts

theorem eq_of_pointwise {p q : Posts} (hh : p.host = q.host) (hl : p.loops = q.loops)
    (hb : p.bundle = q.bundle) (hr : ∀ k, p.ready k = q.ready k)
    (hs : ∀ k, p.served k = q.served k) : p = q := by
  obtain ⟨h, loops, ready, served, bundle⟩ := p
  obtain rfl := hh
  obtain rfl := hl
  obtain rfl := hb
  obtain rfl := funext hr
  obtain rfl := funext hs
  rfl

def Manned (p : Posts) : Prop := Portkeeper.Manned p.host p.loops p.ready p.served

variable [Platform]

/-- The single things that can happen to what a registry has. -/
inductive Effect : Posts → Posts → Prop
  | leaves {p : Posts} {h : Host} (hs : h.Sound)
      (hl : ∀ {i : LoopId} {n : Loop}, p.loops[i]? = some n → p.host.Leaves h n.listener.socket)
      (hr : ∀ {k : Kind} {l : Listener}, p.ready k = some l → p.host.Leaves h l.socket) :
      Effect p { p with host := h }
  | visit {p : Posts} {id : LoopId} {m n : Loop} (hl : p.loops[id]? = some m)
      (hk : n.listener = m.listener) (hc : n.closedAt = m.closedAt) :
      Effect p { p with loops := p.loops.set id n }
  | close {p : Posts} {id : LoopId} {m : Loop} (hl : p.loops[id]? = some m) (ho : m.isOpen = true)
      (now : Nat) : Effect p { p with
        host := p.host.drop m.listener
        loops := p.loops.set id (m.close now) }
  | drop {p : Posts} {k : Kind} {l : Listener} {ready : Kind → Option Listener}
      (hl : p.ready k = some l) (hr : ∀ k', ready k' = if k' = k then none else p.ready k') :
      Effect p { p with host := p.host.drop l, ready := ready }
  | forget {p : Posts} {k : Kind} {served : Kind → Option LoopId}
      (hc : ∀ id, p.served k = some id → Shut p.loops id)
      (hs : ∀ k', served k' = if k' = k then none else p.served k') :
      Effect p { p with served := served }
  | opens {p : Posts} {h h' : Host} {k : Kind} {address : String} {l : Listener}
      {ready : Kind → Option Listener} (hl : p.host.Later h) (hs : h.Sound)
      (ho : h.Opens h' k address p.bundle l) (hv : p.ready k = none) (hno : p.served k = none)
      (hr : ∀ k', ready k' = if k' = k then some l else p.ready k') :
      Effect p { p with host := h', ready := ready }
  | serve {p : Posts} {k : Kind} {l : Listener} {n : Loop} {ready : Kind → Option Listener}
      {served : Kind → Option LoopId} (hl : p.ready k = some l) (hn : n.listener = l)
      (ho : n.isOpen = true) (hr : ∀ k', ready k' = if k' = k then none else p.ready k')
      (hs : ∀ k', served k' = if k' = k then some p.loops.length else p.served k') :
      Effect p { p with loops := p.loops ++ [n], ready := ready, served := served }
  | bring {p : Posts} {h h' : Host} {k : Kind} {address : String} {n : Loop}
      {served : Kind → Option LoopId} (hl : p.host.Later h) (hs : h.Sound)
      (ho : h.Opens h' k address p.bundle n.listener) (hv : p.ready k = none) (hno : p.served k = none)
      (hn : n.isOpen = true)
      (hk : ∀ k', served k' = if k' = k then some p.loops.length else p.served k') :
      Effect p { p with host := h', loops := p.loops ++ [n], served := served }

variable {p q : Posts} {k : Kind} {l : Listener} {id : LoopId}

theorem Manned.effect (hm : p.Manned) (he : Effect p q) : q.Manned := by
  cases he with
  | leaves hs hl hr => exact Portkeeper.Manned.leaves hm hs hl hr
  | visit hl hk hc => exact Portkeeper.Manned.visit hm hl hk hc
  | close hl ho now => exact Portkeeper.Manned.close hm hl ho now
  | drop hl hr => exact Portkeeper.Manned.drop hm hl hr
  | forget hc hs => exact Portkeeper.Manned.forget hm hc hs
  | opens hl hs ho hv hno hr => exact Portkeeper.Manned.opens hm hl hs ho hno hr
  | serve hl hn ho hr hs => exact Portkeeper.Manned.serve hm hl hn ho hr hs
  | @bring h h' k address n served hl hs ho hv hno hn hk =>
    have hopened : Portkeeper.Manned h' p.loops
        (fun k' => if k' = k then some n.listener else p.ready k') p.served :=
      Portkeeper.Manned.opens hm hl hs ho hno fun _ => rfl
    refine Portkeeper.Manned.serve hopened (if_pos rfl) rfl hn (fun k' => ?_) hk
    split
    · rename_i hk'
      rw [hk', hv]
    · rfl

theorem Manned.effect_later (hm : p.Manned) {h : Host} (hs : h.Sound) (hl : p.host.Later h) :
    Effect p { p with host := h } :=
  .leaves hs (fun hn => hl.leaves (hm.wired.bounded hn) (hm.wired.spares hn))
    fun hr => hl.leaves (hm.holds hr).bounded (hm.holds hr).spares

/-- A loop that has closed its socket never opens it again. -/
theorem Effect.shut (he : Effect p q) (hs : Shut p.loops id) : Shut q.loops id := by
  cases he with
  | visit hl hk hc => exact hs.set hl fun ho => by rwa [Loop.isOpen, hc, ← Loop.isOpen]
  | close hl ho now => exact hs.set hl fun _ => Loop.isOpen_close now _
  | serve hl hn ho hr hk => exact hs.push _
  | bring hl hs' ho hv hno hn hk => exact hs.push _
  | _ => exact hs

end Posts
end Portkeeper
