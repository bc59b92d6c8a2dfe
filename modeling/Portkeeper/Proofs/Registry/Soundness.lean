import Portkeeper.Proofs.Registry.Wiring
import Portkeeper.Proofs.Registry.Names

/-!
The invariant of a running registry. Every entry holds a loop of its kind, recorded with an address
that its socket has; loops that are open are entries' loops, and loops that have not exited are
entries' loops or kept as retired. Each thing that can happen to a registry preserves this.
-/

set_option autoImplicit false

namespace Portkeeper

/-- The address recorded for a listener. -/
def Listener.recordAs (l : Listener) (h : Host) (requested : String) : String :=
  if requested = "" || asksForPort requested then String.ofList (l.address h) else requested

/-- What an address recorded for a listener of a network kind has to do with its socket. -/
theorem Listener.recordAs_network {l : Listener} {h : Host} {sk : Socket} {requested : String}
    (hl : l.file = none) (hsk : h.sockets.get? l.socket = some sk) :
    l.recordAs h requested = if requested = "" || asksForPort requested then
      String.ofList sk.name.text else requested := by
  unfold recordAs address
  simp only [hl, hsk]

theorem Listener.recorded_fresh [Platform] {k : Kind} {address : String} {h : Host} {l : Listener}
    {n : SocketName} {t : SocketType} {b : Bool} (hl : l.file = none)
    (hsk : h.sockets.get? l.socket = some ⟨n, t, b⟩) (hn : k.Asks address n)
    (hf : k.Formed address) : k.Recorded (l.recordAs h address) n := by
  have hfam := Kind.family_of_asks hn
  rw [Listener.recordAs_network hl hsk]
  split
  · exact ⟨Kind.formed_text hfam, hfam, Or.inl rfl⟩
  · rename_i hp
    simp only [Bool.or_eq_true, not_or, Bool.not_eq_true] at hp
    exact ⟨hf, hfam, Or.inr ⟨hp.2, hn⟩⟩

namespace Site

variable [Platform]

/-- What an entry of a kind and the loop that it holds have to do with each other. -/
structure Serves (s : Site) (k : Kind) (e : Entry) (id : LoopId) (l : Loop) : Prop where
  listener : e.listener = none
  serving : e.serving = some id
  loop : s.loops[id]? = some l
  kind : l.listener.kind = k
  provenance : l.listener.provenance = e.provenance
  router : s.registry.servers k = some l.router
  formed : k.isNetwork = true → k.Formed e.address
  socket : l.isOpen = true → ∃ sk, s.host.sockets.get? l.listener.socket = some sk ∧
    (k.isNetwork = true → k.Recorded e.address sk.name) ∧
    (e.provenance = .bound → sk.type = .stream ∧ sk.listening = true)

structure Sound (s : Site) : Prop where
  wired : Wired s.host s.loops
  serves : ∀ {k : Kind} {e : Entry}, s.registry.entries k = some e → ∃ id l, s.Serves k e id l
  live : ∀ {id : LoopId} {l : Loop}, s.loops[id]? = some l → l.isOpen = true →
    ∃ k e, s.registry.entries k = some e ∧ e.serving = some id
  owned : ∀ {id : LoopId} {l : Loop}, s.loops[id]? = some l → l.isFinished s.now = false →
    (∃ k e, s.registry.entries k = some e ∧ e.serving = some id) ∨ id ∈ s.registry.retired
  fileless : ∀ {id : LoopId} {l : Loop}, s.loops[id]? = some l → l.listener.kind.isNetwork = true →
    l.listener.file = none

variable {s : Site} {k : Kind} {e : Entry} {id : LoopId} {l : Loop}

/-- An entry is served as before when its loop, its handler and its socket are what they were. -/
theorem Serves.of_same {s' : Site} (hv : s.Serves k e id l) (hl : s'.loops[id]? = some l)
    (hr : s'.registry.servers = s.registry.servers)
    (hsk : l.isOpen = true →
      s'.host.sockets.get? l.listener.socket = s.host.sockets.get? l.listener.socket) :
    s'.Serves k e id l :=
  ⟨hv.listener, hv.serving, hl, hv.kind, hv.provenance, hr ▸ hv.router, hv.formed,
    fun ho => hsk ho ▸ hv.socket ho⟩

/-- Time and other people's sockets are no matter for a registry. -/
theorem Sound.leaves (hs : s.Sound) {h : Host} (hsound : h.Sound) (hn : s.host.now ≤ h.now)
    (hh : ∀ {id : LoopId} {l : Loop}, s.loops[id]? = some l → s.host.Leaves h l.listener.socket) :
    Sound { s with host := h } where
  wired := hs.wired.leaves hsound hh
  serves he := by
    obtain ⟨id, l, hv⟩ := hs.serves he
    exact ⟨id, l, hv.of_same hv.loop rfl fun _ => (hh hv.loop).socket⟩
  live := hs.live
  owned {id l} hl hf := by
    cases hf' : l.isFinished s.now with
    | false => exact hs.owned hl hf'
    | true =>
      have hf'' : l.isFinished h.now = true := Loop.isFinished_mono hn hf'
      rw [show l.isFinished h.now = false from hf] at hf''
      cases hf''
  fileless := hs.fileless

theorem Sound.later (hs : s.Sound) {h : Host} (hsound : h.Sound) (hh : s.host.Later h) :
    Sound { s with host := h } :=
  hs.leaves hsound hh.now fun hl => hh.leaves (hs.wired.bounded hl) (hs.wired.spares hl)

/-! ### Closing the socket of a loop -/

/-- The registry after the socket of a loop was closed. -/
def shut (s : Site) (id : LoopId) (l : Loop) : Site :=
  { s with host := s.host.drop l.listener, loops := s.loops.set id (l.close s.now) }

omit [Platform] in
theorem getElem?_shut (hl : s.loops[id]? = some l) (i : LoopId) :
    (s.shut id l).loops[i]? = if i = id then some (l.close s.now) else s.loops[i]? := by
  have hlt : id < s.loops.length := (List.getElem?_eq_some_iff.mp hl).1
  unfold shut
  rw [List.getElem?_set]
  by_cases hi : i = id
  · rw [if_pos hi.symm, if_pos hi, if_pos hlt]
  · rw [if_neg fun hc => hi hc.symm, if_neg hi]

theorem Sound.shut (hs : s.Sound) (hl : s.loops[id]? = some l) (ho : l.isOpen = true) :
    (s.shut id l).Sound where
  wired := hs.wired.close hl ho s.now
  serves {k e} he := by
    obtain ⟨i, m, hv⟩ := hs.serves he
    by_cases hi : i = id
    · subst hi
      obtain rfl : l = m := Option.some.inj (hl.symm.trans hv.loop)
      refine ⟨i, l.close s.now, hv.listener, hv.serving, ?_, by simpa using hv.kind,
        by simpa using hv.provenance, by simpa [Site.shut] using hv.router, hv.formed, by simp⟩
      rw [getElem?_shut hl, if_pos rfl]
    · have hne : m.listener.socket ≠ l.listener.socket :=
        fun hc => hi (hs.wired.apart hv.loop hl hc)
      refine ⟨i, m, hv.of_same ?_ rfl fun _ => (hs.wired.holds hl ho).get?_drop hne⟩
      rw [getElem?_shut hl, if_neg hi, hv.loop]
  live {i m} hm hmo := by
    rw [getElem?_shut hl] at hm
    split at hm
    · cases hm
      simp at hmo
    · exact hs.live hm hmo
  owned {i m} hm hmf := by
    rw [getElem?_shut hl] at hm
    split at hm
    · rename_i hi
      subst hi
      exact Or.inl (hs.live hl ho)
    · refine hs.owned hm ?_
      have hn : (s.shut id l).now = s.now := Host.now_drop _ _
      exact hn ▸ hmf
  fileless {i m} hm := by
    rw [getElem?_shut hl] at hm
    split at hm
    · cases hm
      simpa using hs.fileless hl
    · exact hs.fileless hm

omit [Platform] in
/-- Closing a loop's socket, which may be closed already. -/
theorem closeLoop_eq (hl : s.loops[id]? = some l) :
    s.closeLoop id = if l.isOpen then s.shut id l else s := by
  unfold closeLoop shut
  simp only [hl]

theorem Sound.closeLoop (hs : s.Sound) (hl : s.loops[id]? = some l) : (s.closeLoop id).Sound := by
  rw [closeLoop_eq hl]
  split
  · rename_i ho
    exact hs.shut hl ho
  · exact hs

omit [Platform] in
theorem getElem?_closeLoop (hl : s.loops[id]? = some l) (i : LoopId) :
    (s.closeLoop id).loops[i]? = if i = id then some (l.close s.now) else s.loops[i]? := by
  rw [closeLoop_eq hl]
  split
  · exact getElem?_shut hl i
  · rename_i ho
    split
    · rename_i hi
      rw [hi, hl, Loop.close_of_closed _ (by simpa using ho)]
    · rfl

omit [Platform] in
theorem registry_closeLoop (s : Site) (id : LoopId) : (s.closeLoop id).registry = s.registry := by
  cases hl : s.loops[id]? with
  | none => simp [Site.closeLoop, hl]
  | some l =>
    rw [closeLoop_eq hl]
    split <;> rfl

omit [Platform] in
/-- What is written down about entries is no matter for loops. -/
theorem closeLoop_registry (s : Site) (r : Registry) (id : LoopId) :
    { s with registry := r }.closeLoop id = { s.closeLoop id with registry := r } := by
  unfold closeLoop
  dsimp only
  split
  · rfl
  · split <;> rfl

/-! ### Giving up an entry -/

/-- The registry without the entry of a kind, whose loop is kept until it has exited. -/
def forget (s : Site) (k : Kind) (id : LoopId) : Site :=
  { s with registry := { s.registry.setEntry k none with
      retired := s.registry.retired.filter s.isRunning ++ [id] } }

omit [Platform] in
theorem entries_forget (s : Site) (k k' : Kind) (id : LoopId) :
    (s.forget k id).registry.entries k' = if k' = k then none else s.registry.entries k' := rfl

theorem Sound.forget (hs : s.Sound) (he : s.registry.entries k = some e)
    (hid : e.serving = some id) (hc : ∀ l, s.loops[id]? = some l → l.isOpen = false) :
    (s.forget k id).Sound where
  wired := hs.wired
  serves {k' e'} he' := by
    rw [entries_forget] at he'
    split at he'
    · cases he'
    · obtain ⟨i, m, hv⟩ := hs.serves he'
      exact ⟨i, m, hv.of_same hv.loop rfl fun _ => rfl⟩
  live {i m} hm ho := by
    obtain ⟨k', e', he', hi⟩ := hs.live hm ho
    have hne : k' ≠ k := by
      rintro rfl
      rw [he] at he'
      cases he'
      obtain rfl : id = i := Option.some.inj (hid.symm.trans hi)
      rw [hc m hm] at ho
      cases ho
    exact ⟨k', e', by rw [entries_forget, if_neg hne, he'], hi⟩
  owned {i m} hm hf := by
    rcases hs.owned hm hf with ⟨k', e', he', hi⟩ | hr
    · by_cases hk : k' = k
      · subst hk
        rw [he] at he'
        cases he'
        obtain rfl : id = i := Option.some.inj (hid.symm.trans hi)
        exact Or.inr (List.mem_append_right _ List.mem_cons_self)
      · exact Or.inl ⟨k', e', by rw [entries_forget, if_neg hk, he'], hi⟩
    · refine Or.inr (List.mem_append_left _ (List.mem_filter.mpr ⟨hr, ?_⟩))
      have hm' : s.loops[i]? = some m := hm
      have hf' : m.isFinished s.now = false := hf
      simp [isRunning, hm', hf']
  fileless := hs.fileless

/-- The entry of a kind is closed: its loop's socket first, then it is forgotten. -/
theorem close_eq (hs : s.Sound) (he : s.registry.entries k = some e) (hid : e.serving = some id) :
    s.close k = (e.address, (s.closeLoop id).forget k id) := by
  obtain ⟨i, l, hv⟩ := hs.serves he
  obtain rfl : i = id := Option.some.inj (hv.serving.symm.trans hid)
  unfold close
  simp only [he, release, hv.listener, hv.serving]
  rw [closeLoop_registry]
  unfold forget
  rw [registry_closeLoop]
  rfl

omit [Platform] in
theorem close_none (hn : s.registry.entries k = none) : s.close k = ("", s) := by
  unfold close
  simp only [hn]

theorem Sound.close (hs : s.Sound) (k : Kind) : (s.close k).2.Sound := by
  cases he : s.registry.entries k with
  | none =>
    rw [close_none he]
    exact hs
  | some e =>
    obtain ⟨id, l, hv⟩ := hs.serves he
    rw [close_eq hs he hv.serving]
    refine (hs.closeLoop hv.loop).forget ?_ hv.serving fun m hm => ?_
    · rw [registry_closeLoop]
      exact he
    · rw [getElem?_closeLoop hv.loop, if_pos rfl] at hm
      cases hm
      simp

/-! ### Handing a listener to a loop -/

/-- The registry with one more entry, and a loop that serves it. -/
def hand (s : Site) (l : Listener) (router : Router) (requested : String) : Site :=
  { s with
    loops := s.loops ++ [⟨l, router, none, []⟩]
    registry := s.registry.setEntry l.kind
      (some ⟨l.recordAs s.host requested, l.provenance, none, some s.loops.length⟩) }

omit [Platform] in
theorem entries_hand (s : Site) (l : Listener) (router : Router) (requested : String) (k : Kind) :
    (s.hand l router requested).registry.entries k = if k = l.kind then
      some ⟨l.recordAs s.host requested, l.provenance, none, some s.loops.length⟩
    else s.registry.entries k := rfl

omit [Platform] in
theorem getElem?_hand (s : Site) (l : Listener) (router : Router) (requested : String) (i : Nat) :
    (s.hand l router requested).loops[i]? =
      if i = s.loops.length then some ⟨l, router, none, []⟩ else s.loops[i]? := by
  unfold hand
  rw [List.getElem?_append]
  by_cases hi : i = s.loops.length
  · simp [hi]
  · by_cases hlt : i < s.loops.length
    · simp [hi, hlt]
    · rw [if_neg hlt, if_neg hi, List.getElem?_eq_none (by simpa using by omega),
        List.getElem?_eq_none (by omega)]

omit [Platform] in
/-- A kind with a handler can always be served. -/
theorem serve_install (s : Site) {l : Listener} {router : Router} (requested : String)
    (hr : s.registry.servers l.kind = some router) :
    (s.install l requested).serve l.kind = (.ok (), s.hand l router requested) := by
  unfold serve install hand Listener.recordAs
  dsimp only
  rw [show (s.registry.setEntry l.kind _).servers l.kind = some router from hr]
  simp only [Registry.entries_setEntry_self, Registry.setEntry_setEntry]

theorem Sound.hand {l : Listener} {router : Router} {requested : String} (hs : s.Sound)
    (hn : s.registry.entries l.kind = none) (hr : s.registry.servers l.kind = some router)
    (hh : l.Holds s.host)
    (hne : ∀ {i : LoopId} {m : Loop}, s.loops[i]? = some m → m.listener.socket ≠ l.socket)
    (hfile : l.kind.isNetwork = true → l.file = none)
    (hsk : ∃ sk, s.host.sockets.get? l.socket = some sk ∧
      (l.kind.isNetwork = true → l.kind.Recorded (l.recordAs s.host requested) sk.name) ∧
      (l.provenance = .bound → sk.type = .stream ∧ sk.listening = true)) :
    (s.hand l router requested).Sound := by
  have hlt {i : Nat} {m : Loop} (hm : s.loops[i]? = some m) : i ≠ s.loops.length :=
    Nat.ne_of_lt (List.getElem?_eq_some_iff.mp hm).1
  -- Whatever was served is served by the same loop, since the kind had no entry.
  have hkept {k : Kind} {e : Entry} {i : LoopId} (he : s.registry.entries k = some e)
      (hid : e.serving = some i) : ∃ k e,
      (s.hand l router requested).registry.entries k = some e ∧ e.serving = some i := by
    have hk : k ≠ l.kind := by
      rintro rfl
      rw [hn] at he
      cases he
    exact ⟨k, e, by rw [entries_hand, if_neg hk, he], hid⟩
  exact {
    wired := hs.wired.push rfl hh hne
    serves := fun {k e} he => by
      rw [entries_hand] at he
      split at he
      · rename_i hk
        cases he
        obtain ⟨sk, hg, hrec, hstream⟩ := hsk
        refine ⟨s.loops.length, ⟨l, router, none, []⟩, rfl, rfl, ?_, hk.symm, rfl, hk ▸ hr, ?_,
          fun _ => ⟨sk, hg, hk ▸ hrec, hstream⟩⟩
        · rw [getElem?_hand, if_pos rfl]
        · exact fun hnet => hk ▸ (hrec (hk ▸ hnet)).formed
      · obtain ⟨i, m, hv⟩ := hs.serves he
        refine ⟨i, m, hv.of_same ?_ rfl fun _ => rfl⟩
        rw [getElem?_hand, if_neg (hlt hv.loop), hv.loop]
    live := fun {i m} hm ho => by
      rw [getElem?_hand] at hm
      split at hm
      · rename_i hi
        exact ⟨l.kind, _, by rw [entries_hand, if_pos rfl], by rw [hi]⟩
      · obtain ⟨k, e, he, hid⟩ := hs.live hm ho
        exact hkept he hid
    owned := fun {i m} hm hf => by
      rw [getElem?_hand] at hm
      split at hm
      · rename_i hi
        exact Or.inl ⟨l.kind, _, by rw [entries_hand, if_pos rfl], by rw [hi]⟩
      · rcases hs.owned hm hf with ⟨k, e, he, hid⟩ | hret
        · exact Or.inl (hkept he hid)
        · exact Or.inr hret
    fileless := fun {i m} hm hk => by
      rw [getElem?_hand] at hm
      split at hm
      · cases hm
        exact hfile hk
      · exact hs.fileless hm hk }

end Site
end Portkeeper
