import Portkeeper.Proofs.Registry.Handover
import Portkeeper.Proofs.Registry.Reporting

/-!
What a handoff is judged by: every descriptor must be open, and those at the agreed places must be
sockets of their kinds' families. Whether such a socket listens is not looked at, so that a registry
may come up with an endpoint on which nothing can ever be accepted.
-/

set_option autoImplicit false

namespace Portkeeper
open Net

namespace Inheritance

variable {h h' : Host} {first : Int} {b : Bundle} {total place count : Nat} {k : Kind}
  {d : Descriptor}

/-- A descriptor that has a socket of a kind's family. -/
def Related (k : Kind) (d : Descriptor) (h : Host) : Prop :=
  ∃ id sk, d.target = .socket id ∧ h.sockets.get? id = some sk ∧ k.Family sk.name

/-- A descriptor by which a kind can be served: its socket listens for streams as well. -/
def Usable (k : Kind) (d : Descriptor) (h : Host) : Prop :=
  ∃ id sk, d.target = .socket id ∧ h.sockets.get? id = some sk ∧ k.Family sk.name ∧
    sk.type = .stream ∧ sk.listening = true

/-- The agreed kinds are those whose sockets can be handed over. -/
theorem transport_of_order (hk : order[place]? = some k) : k.transport ≠ .vsock := by
  have hall : ∀ k ∈ order, k.transport ≠ .vsock := by decide
  exact hall k (List.mem_of_getElem? hk)

theorem socketOf_ok_iff (hk : k.transport ≠ .vsock) :
    (∃ id, socketOf k d h = .ok id) ↔ Related k d h := by
  constructor
  · rintro ⟨id, hs⟩
    obtain ⟨ht, sk, hsk, hfam, -⟩ := socketOf_ok hs
    exact ⟨id, sk, ht, hsk, hfam⟩
  · rintro ⟨id, sk, ht, hsk, hfam⟩
    refine ⟨id, ?_⟩
    unfold socketOf
    unfold Kind.Family at hfam
    cases htr : k.transport with
    | unix =>
      rw [htr] at hfam
      obtain ⟨u, hu⟩ := hfam
      simp only [ht, hsk, hu]
    | tls =>
      rw [htr] at hfam
      obtain ⟨a, ha⟩ := hfam
      simp only [ht, hsk, ha]
    | vsock => exact absurd htr hk

variable [Platform]

/-- What is asked of the descriptor at a place. -/
def Serviceable (first : Int) (b : Bundle) (h : Host) (place : Nat) : Prop :=
  ¬Exceeds first place ∧ ∃ d, h.descriptors.get? (first + place) = some d ∧
    ∀ k, order[place]? = some k → Related k d h ∧ ∃ tls, b.acceptorFor k = .ok tls

theorem fault?_eq_none_iff : fault? total first b h place = none ↔ Serviceable first b h place := by
  unfold fault? Serviceable
  dsimp only
  split
  · rename_i hex
    simp [hex]
  · rename_i hex
    cases hd : h.descriptors.get? (first + place) with
    | none => simp
    | some d =>
      cases hk : order[place]? with
      | none => simp [hex]
      | some k =>
        have hs := socketOf_ok_iff (d := d) (h := h) (transport_of_order hk)
        cases hsock : socketOf k d h with
        | error e =>
          have hnot : ¬Related k d h := fun hr => by
            obtain ⟨id, hid⟩ := hs.mpr hr
            cases hsock.symm.trans hid
          simp [hsock, hnot]
        | ok id =>
          have hrel : Related k d h := hs.mp ⟨id, hsock⟩
          cases htls : b.acceptorFor k with
          | error e => simp [hsock, htls]
          | ok tls => simp [hsock, htls, hex, hrel]

/-- A fault is a complaint about the descriptors, unless it is the certificates' fault. -/
theorem fault?_eq_some {e : EndpointError} (hf : fault? total first b h place = some e) :
    (∃ m, e = .activation m) ∨ ∃ k d, order[place]? = some k ∧
      h.descriptors.get? (first + place) = some d ∧ Related k d h ∧ b.acceptorFor k = .error e := by
  unfold fault? at hf
  dsimp only at hf
  split at hf
  · exact Or.inl ⟨_, (Option.some.inj hf).symm⟩
  · cases hd : h.descriptors.get? (first + place) with
    | none =>
      rw [hd] at hf
      exact Or.inl ⟨_, (Option.some.inj hf).symm⟩
    | some d =>
      rw [hd] at hf
      cases hk : order[place]? with
      | none =>
        rw [hk] at hf
        cases hf
      | some k =>
        rw [hk] at hf
        dsimp only at hf
        cases hsock : socketOf k d h with
        | error e =>
          rw [hsock] at hf
          exact Or.inl ⟨_, (Option.some.inj hf).symm⟩
        | ok id =>
          rw [hsock] at hf
          dsimp only at hf
          obtain ⟨ht, sk, hsk, hfam, -⟩ := socketOf_ok hsock
          cases htls : b.acceptorFor k with
          | ok tls =>
            rw [htls] at hf
            cases hf
          | error e' =>
            rw [htls] at hf
            obtain rfl := Option.some.inj hf
            exact Or.inr ⟨k, d, rfl, rfl, ⟨id, sk, ht, hsk, hfam⟩, htls⟩

/-- Local administrators need no certificates. -/
theorem activation_of_first {e : EndpointError} (hf : fault? total first b h 0 = some e) :
    ∃ m, e = .activation m := by
  rcases fault?_eq_some hf with hm | ⟨k, d, hk, -, -, htls⟩
  · exact hm
  · obtain rfl : Kind.localAdmin = k := Option.some.inj hk
    cases htls

end Inheritance

open Inheritance

/-- The endpoint of an inherited kind has the socket that was handed over, just as it was. -/
theorem World.up_inherits [Platform] {h : Host} (hs : h.Sound) {c : Config} {w' : World}
    (hup : (World.unstarted h).up c = (.ok (), w')) {i : Nat} {k : Kind}
    (hk : c.inheritedKinds[i]? = some k) :
    ∃ s e id l sk flag, w' = World.ofSite s ∧ s.registry.entries k = some e ∧
      e.provenance = .inherited ∧ s.Serves k e id l ∧
      h.descriptors.get? (c.firstDescriptor + i) = some ⟨flag, .socket l.listener.socket⟩ ∧
      h.sockets.get? l.listener.socket = some sk ∧
      s.host.sockets.get? l.listener.socket = some sk ∧ k.Family sk.name := by
  cases hr : c.openAll h with
  | mk o h' =>
    cases o with
    | error e =>
      rw [World.up_error hr] at hup
      cases hup
    | ok o =>
      obtain ⟨s, hok, hf⟩ := World.up_fits hs hr
      rw [hok] at hup
      cases hup
      obtain ⟨ls, h₁, fresh, plan, ht, hp, rfl, -, hb, hm, -⟩ := Config.openAll_ok hs hr
      rw [← ht.kinds, List.getElem?_map] at hk
      obtain ⟨l, hl, rfl⟩ := Option.map_eq_some_iff.mp hk
      have hmem := List.mem_of_getElem? hl
      have hin := ht.partway.inherited hl
      obtain ⟨flag, hget⟩ := hin.socket
      obtain ⟨sk, hsk, hfam⟩ := hin.name
      have hsk' : h'.sockets.get? l.socket = some sk := by
        rw [hb.adds.old _ (ht.partway.holding.holds l hmem).bounded, ht.partway.kept l hmem, hsk]
      have hall (k : Kind) (hk : Opened.has (ls.map (·, "") ++ fresh) k = true) :
          k ∈ Kind.all.filter (Opened.has (ls.map (·, "") ++ fresh)) :=
        List.mem_filter.mpr ⟨k.mem_all, hk⟩
      obtain ⟨id, router, hentry, hv⟩ :=
        hf.serves hall (List.mem_append_left fresh (List.mem_map_of_mem (f := (·, "")) hmem))
      exact ⟨s, _, id, _, sk, flag, rfl, hentry, hin.provenance, hv, hget, hsk, hf.host ▸ hsk', hfam⟩

/-- How a host judges what it hands over, and what a registry that starts with it gets. -/
structure Host.JudgesByFamily [Platform] (h : Host) : Prop where
  accepts : ∀ count first b, (∃ ls, (h.inherit count first b).1 = .ok ls) ↔
    ∀ i < count, Serviceable first b h i
  refuses : ∀ count first b, ∀ i < count, ∀ k d, order[i]? = some k →
    h.descriptors.get? (first + (i : Nat)) = some d → ¬Related k d h →
    ∃ m, (h.inherit count first b).1 = .error (.activation m)
  serves : ∀ c w', (World.unstarted h).up c = (.ok (), w') →
    ∀ (i : Nat) k, c.inheritedKinds[i]? = some k → ∃ s e id l d, w' = World.ofSite s ∧
      s.registry.entries k = some e ∧ e.provenance = .inherited ∧ s.Serves k e id l ∧
      h.descriptors.get? (c.firstDescriptor + i) = some d ∧ (w'.isDeaf l = true ↔ ¬Usable k d h)

theorem Host.judges_by_family [Platform] {h : Host} (hs : h.Sound) : h.JudgesByFamily where
  accepts count first b := by
    cases hr : h.inherit count first b with
    | mk r h' =>
      have hspec := h.inherit_spec hs hr
      cases r with
      | ok ls =>
        have hnone := hspec.1
        exact ⟨fun _ i hi => fault?_eq_none_iff.mp (hnone i (Nat.zero_le _) hi), fun _ => ⟨ls, rfl⟩⟩
      | error e =>
        obtain ⟨j, -, hj, hf, -⟩ := hspec
        constructor
        · rintro ⟨ls, hok⟩
          cases hok
        · intro hall
          rw [fault?_eq_none_iff.mpr (hall j hj)] at hf
          cases hf
  refuses count first b i hi k d hk hd hno := by
    have hlast : i < 2 := (List.getElem?_eq_some_iff.mp hk).1
    cases hr : h.inherit count first b with
    | mk r h' =>
      have hspec := h.inherit_spec hs hr
      cases r with
      | ok ls =>
        obtain ⟨-, d', hd', hserves⟩ := fault?_eq_none_iff.mp (hspec.1 i (Nat.zero_le _) hi)
        rw [hd] at hd'
        cases hd'
        exact absurd (hserves k hk).1 hno
      | error e =>
        obtain ⟨j, -, hj, hf, hnone, -⟩ := hspec
        suffices hm : ∃ m, e = .activation m by
          obtain ⟨m, rfl⟩ := hm
          exact ⟨m, rfl⟩
        have hle : j ≤ i := by
          refine Nat.le_of_not_lt fun hlt => ?_
          obtain ⟨-, d', hd', hserves⟩ := fault?_eq_none_iff.mp (hnone i (Nat.zero_le _) hlt)
          rw [hd] at hd'
          cases hd'
          exact hno (hserves k hk).1
        rcases Nat.lt_or_eq_of_le hle with hlt | rfl
        · obtain rfl : j = 0 := by omega
          exact activation_of_first hf
        · rcases fault?_eq_some hf with hm | ⟨k', d', hk', hd', hrel, -⟩
          · exact hm
          · rw [hk] at hk'
            rw [hd] at hd'
            cases hk'
            cases hd'
            exact absurd hrel hno
  serves c w' hup i k hk := by
    obtain ⟨s, e, id, l, sk, flag, rfl, hentry, hprov, hv, hd, hsk, hsk', hfam⟩ :=
      World.up_inherits hs hup hk
    refine ⟨s, e, id, l, _, rfl, hentry, hprov, hv, hd, ?_⟩
    have hdeaf : (World.ofSite s).isDeaf l = !(sk.listening && sk.type == .stream) := by
      unfold World.isDeaf
      rw [show (World.ofSite s).host = s.host from rfl, hsk']
    have husable : Usable k ⟨flag, .socket l.listener.socket⟩ h ↔
        sk.type = .stream ∧ sk.listening = true := by
      constructor
      · rintro ⟨id', sk', ht, hg, -, hstream, hlistens⟩
        cases ht
        rw [hsk] at hg
        cases hg
        exact ⟨hstream, hlistens⟩
      · rintro ⟨hstream, hlistens⟩
        exact ⟨_, sk, rfl, hsk, hfam, hstream, hlistens⟩
    rw [hdeaf, husable]
    simp only [Bool.not_eq_true', Bool.and_eq_false_iff, beq_eq_false_iff_ne]
    cases sk.listening <;> simp

/-- The second of two descriptors has a TCP socket that is bound and does not listen. It is taken for
what it should be. -/
theorem Host.judges_by_family_unheard : Host.unheard.Sound ∧ Host.unheard.JudgesByFamily ∧
    ∀ i < 2, Serviceable 3 .least Host.unheard i := by
  have hjudges := Host.judges_by_family Host.sound_unheard
  have hok : (Host.unheard.inherit 2 3 .least).1.isOk = true := by decide +kernel
  refine ⟨Host.sound_unheard, hjudges, (hjudges.accepts 2 3 .least).mp ?_⟩
  cases hr : (Host.unheard.inherit 2 3 .least).1 with
  | error e =>
    rw [hr] at hok
    cases hok
  | ok ls => exact ⟨ls, rfl⟩

/-- Not every descriptor that is taken over can be accepted on, and a registry that starts with this
one has an inherited endpoint to which nobody can come. -/
theorem Host.inherit_unusable :
    (¬∀ h : Host, h.Sound → ∀ count first b, (h.inherit count first b).1.isOk = true →
      ∀ i < count, ∀ k, order[i]? = some k →
        ∃ d, h.descriptors.get? (first + (i : Nat)) = some d ∧ Usable k d h) ∧
    ((World.unstarted Host.unheard).up Config.handed).1.isOk = true ∧
    (World.unheard.loops.any fun l => l.listener.kind = .networkAdmin &&
      l.listener.provenance = .inherited && l.isOpen && World.unheard.isDeaf l) = true := by
  refine ⟨fun hclaim => ?_, by decide +kernel, by decide +kernel⟩
  obtain ⟨d, hd, id, sk, ht, hsk, -, -, hlistens⟩ :=
    hclaim Host.unheard Host.sound_unheard 2 3 .least (by decide +kernel) 1 (by decide)
      .networkAdmin rfl
  obtain rfl : Descriptor.mk false (.socket 1) = d := Option.some.inj hd
  obtain rfl : 1 = id := DescriptorTarget.socket.inj ht
  obtain rfl : Socket.mk (.inet (.v4 ⟨127, 0, 0, 1⟩ 7001)) .stream false = sk := Option.some.inj hsk
  cases hlistens

end Portkeeper
