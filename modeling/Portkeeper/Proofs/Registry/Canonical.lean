import Portkeeper.Proofs.Address.Fixpoint
import Portkeeper.Proofs.Registry.Installing
import Portkeeper.Proofs.Registry.Upkeep

/-!
Every address that is recorded for a network kind is in canonical form. It is the canonical form of what
was asked for, or what the system reports for a socket, or what was recorded before a change that failed,
and each of these has itself for its canonical form.
-/

set_option autoImplicit false

namespace Portkeeper
open Text Net

namespace Kind

/-- An address in the canonical form of a kind. -/
def Canonical (k : Kind) (address : String) : Prop := k.canonicalize address = .ok address

variable {k : Kind} {address text c : String}

theorem canonical_canonicalize (h : k.canonicalize text = .ok c) : k.Canonical c :=
  canonicalize_eq.mpr (canonicalText_again rfl (canonicalize_eq.mp h))

theorem canonical_empty (k : Kind) : k.Canonical "" := canonicalize_eq.mpr rfl

theorem canonical_name {n : SocketName} (hk : k.isNetwork = true) (hn : k.Family n) :
    k.Canonical (String.ofList n.text) := by
  refine canonicalize_eq.mpr ?_
  rw [String.toList_ofList]
  unfold Family at hn
  cases ht : k.transport with
  | unix => simp [isNetwork, ht] at hk
  | tls =>
    rw [ht] at hn
    obtain ⟨a, rfl⟩ := hn
    exact canonicalText_tls ht (.ip a)
  | vsock =>
    rw [ht] at hn
    obtain ⟨v, rfl, -⟩ := hn
    exact canonicalText_vsock ht v

theorem canonicalize_around {before after : List Char} (hb : before.all isBlank = true)
    (ha : after.all isBlank = true) (h : k.Canonical address) :
    k.canonicalize (String.ofList before ++ address ++ String.ofList after) = .ok address := by
  have h := canonicalize_eq.mp h
  refine canonicalize_eq.mpr ?_
  simp only [String.toList_append, String.toList_ofList]
  unfold canonicalText at h ⊢
  rw [trim_around hb ha]
  exact h

end Kind

/-- The addresses of network kinds are recorded in canonical form. -/
structure Site.Canonical (t : Site) : Prop where
  entries : ∀ {k : Kind} {e : Entry}, k.isNetwork = true → t.registry.entries k = some e →
    k.Canonical e.address

/-- The addresses that a change bids for are in canonical form. -/
def Change.Canonical : Change → Prop
  | .moving b previous => b.kind.Canonical b.address ∧ b.kind.Canonical previous
  | .restoring b _ => b.kind.Canonical b.address
  | .done _ => True

namespace Site

variable [Platform] {t : Site} {k : Kind} {address : String} {c : Change}

/-- The address that is recorded for a listener that is served is canonical if what was asked for is. -/
theorem Sound.recordAs_canonical (hs : t.Sound) {e : Entry} {id : LoopId} {l : Loop}
    (hv : t.Serves k e id l) (hk : k.isNetwork = true) (ho : l.isOpen = true) {requested : String}
    (hr : k.Canonical requested) : k.Canonical (l.listener.recordAs t.host requested) := by
  obtain ⟨sk, hsk, hrec, -⟩ := hv.socket ho
  rw [Listener.recordAs_network (hs.fileless hv.loop (hv.kind.symm ▸ hk)) hsk]
  split
  · exact Kind.canonical_name hk (hrec hk).family
  · exact hr

theorem Canonical.close (hs : t.Sound) (ht : t.Canonical) (k : Kind) : (t.close k).2.Canonical := by
  refine ⟨fun {k' e} hk he => ?_⟩
  rw [entries_close hs] at he
  split at he
  · cases he
  · exact ht.entries hk he

theorem Canonical.previous (hs : t.Sound) (ht : t.Canonical) (hk : k.isNetwork = true) :
    k.Canonical (t.close k).1 := by
  cases he : t.registry.entries k with
  | none =>
    rw [close_none he]
    exact k.canonical_empty
  | some e =>
    obtain ⟨id, l, hv⟩ := hs.serves he
    rw [close_eq hs he hv.serving]
    exact ht.entries hk he

/-- A change begins with canonical addresses. -/
theorem Canonical.beginChange (hs : t.Sound) (ht : t.Canonical) (hk : k.isNetwork = true)
    (ha : k.Canonical address) : (t.beginChange k address).2.Canonical ∧
      (t.beginChange k address).1.Canonical := by
  rcases t.beginChange_cases k address with ⟨-, hb⟩ | ⟨-, ⟨-, -, hb⟩ | ⟨-, hb⟩ | ⟨-, -, hb⟩⟩ <;> rw [hb]
  · exact ⟨ht, trivial⟩
  · exact ⟨ht, trivial⟩
  · exact ⟨ht.close hs k, trivial⟩
  · exact ⟨ht.close hs k, ha, ht.previous hs hk⟩

/-- What is served after a bid was won has an address that was canonical before. -/
theorem Canonical.hand (ht : t.Canonical) {h : Host} {l : Listener} {router : Router}
    (ha : l.kind.Canonical address) (hs : (Site.hand { t with host := h } l router address).Sound) :
    (Site.hand { t with host := h } l router address).Canonical := by
  refine ⟨fun {k e} hk he => ?_⟩
  by_cases hkind : k = l.kind
  · subst hkind
    obtain ⟨id, m, hv⟩ := hs.serves he
    rw [entries_hand, if_pos rfl] at he
    obtain rfl := (Option.some.inj he).symm
    obtain rfl : t.loops.length = id := Option.some.inj hv.serving
    have hloop := hv.loop
    rw [getElem?_hand, if_pos rfl] at hloop
    obtain rfl := (Option.some.inj hloop).symm
    exact hs.recordAs_canonical hv hk rfl ha
  · rw [entries_hand, if_neg hkind] at he
    exact ht.entries hk he

theorem canonical_step (t : Site) (hcc : c.Canonical) : (t.step c).1.Canonical := by
  obtain ⟨c', t', hstep, hst⟩ := t.exists_stepped c
  rw [hstep]
  cases hst with
  | ended => trivial
  | moves => exact hcc
  | moved => trivial
  | failed => trivial
  | returns => exact hcc.2
  | restores => exact hcc
  | restored => trivial
  | stranded => trivial

/-- Each step of a change records canonical addresses. -/
theorem Canonical.step (hs : t.Sound) (hc : t.Carries c) (ht : t.Canonical) (hcc : c.Canonical) :
    (t.step c).2.Canonical := by
  have hsound := (hs.step hc).1
  rcases hs.step_cases hc with ⟨r, rfl, he⟩ | ⟨k, h, -, -, he, -, -⟩ |
    ⟨b, h, l, router, -, hw, -, he, hdone⟩
  · rw [he]
    exact ht
  · rw [he]
    exact ⟨ht.entries⟩
  · rw [he] at hsound ⊢
    obtain ⟨h₁, -, -, -, ho⟩ := hw
    refine ht.hand (ho.kind.symm ▸ ?_) hsound
    rcases hdone with ⟨previous, rfl, -⟩ | ⟨failure, rfl, -⟩
    · exact hcc.1
    · exact hcc

end Site

theorem World.canonical_up [Platform] {h : Host} {c : Config} {t : Site} (hs : h.Sound)
    (hup : (unstarted h).up c = (.ok (), ofSite t)) : t.Canonical := by
  refine ⟨fun {k e} hk he => ?_⟩
  have hsite : t.Sound := by
    rcases up_cases hs hup with ⟨-, t', plan, hsame, hst⟩ | ⟨e', -, -, herr, -⟩
    · obtain rfl : t = t' := Option.some.inj (congrArg site? hsame)
      exact hst.sound
    · cases herr
  obtain ⟨d, id, router, rfl, hb, rfl, hv⟩ := up_entry hs hup he
  refine hsite.recordAs_canonical hv hk rfl ?_
  cases hb with
  | inherited handed => exact Kind.canonical_empty _
  | bound fresh planned place opens =>
    obtain ⟨address, -, hc⟩ := (Config.configured_of_plan planned place hk).address
    exact Kind.canonical_canonicalize hc

theorem invariance_canonical [Platform] : Invariance Site.Canonical Change.Canonical where
  same he ht := ⟨fun hk hentry => ht.entries hk (he ▸ hentry)⟩
  starts hs hup := World.canonical_up hs hup
  begins hs ht hm :=
    (ht.beginChange hs hm.network (Kind.canonical_canonicalize hm.canonical)).imp_right fun hc _ => hc
  goes hs hc ht hcc := ⟨ht.step hs hc.carried hcc, Site.canonical_step _ hcc⟩
  rests {c} time hc := by
    cases c with
    | moving b previous => exact hc
    | restoring b failure => exact hc
    | done r => trivial

theorem Scene.Reachable.canonical [Platform] {s : Scene} (hr : s.Reachable) {t : Site}
    (ht : s.world.site? = some t) : t.Canonical :=
  (hr.bears invariance_canonical).site ht

end Portkeeper
