import Portkeeper.Proofs.Registry.Canonical
import Portkeeper.Proofs.Registry.Updating
import Portkeeper.Proofs.Registry.Answering

/-!
Which errors a request to move a kind can end in. Whatever is recorded or bid for can be read again as
an address of its kind, so once the old listener has made way nothing can fail but binding and TLS; and
what is found wrong before that leaves everything as it was.
-/

set_option autoImplicit false

namespace Portkeeper
open Text Net

namespace EndpointError

/-- Errors of a request that is turned down. -/
def isRefusal : EndpointError → Bool
  | .invalidAddress .. | .config _ | .invalidState .. => true
  | _ => false

/-- Errors of an attempt to listen on the network. -/
def isSetback : EndpointError → Bool
  | .bind .. | .tls .. => true
  | _ => false

/-- Errors of a move that was tried: one setback, or one for each of the two addresses. -/
def isFailure : EndpointError → Bool
  | .unavailable _ _ f g => f.isSetback && g.isSetback
  | e => e.isSetback

theorem isFailure_of_isSetback {e : EndpointError} (h : e.isSetback = true) : e.isFailure = true := by
  cases e <;> first | exact h | cases h

/-- No request is both turned down and tried. -/
theorem isRefusal_eq_false {e : EndpointError} (h : e.isFailure = true) : e.isRefusal = false := by
  cases e <;> first | rfl | cases h

end EndpointError

namespace Kind

/-- An address that a kind can be asked to listen at. -/
def Accepts (k : Kind) (address : String) : Prop := ∃ c, k.canonicalize address = .ok c ∧ c ≠ ""

/-- What is in canonical form is accepted. -/
theorem Canonical.accepts {k : Kind} {address : String} (h : k.Canonical address)
    (hne : address ≠ "") : k.Accepts address :=
  ⟨address, h, hne⟩

end Kind

/-- At an address that a network kind accepts nothing fails but binding and TLS. -/
theorem Host.listen_setback [Platform] {h h' : Host} (hs : h.Sound) {k : Kind} {address : String}
    {b : Bundle} {e : EndpointError} (hk : k.isNetwork = true) (ha : k.Accepts address)
    (hl : h.listen k address b = (.error e, h')) : e.isSetback = true := by
  obtain ⟨c, hc, hne⟩ := ha
  unfold listen at hl
  rw [hc] at hl
  dsimp only at hl
  rw [if_neg hne] at hl
  split at hl
  · rename_i e' h₁ hb
    cases hl
    unfold Bind.socket at hb
    cases ht : k.transport with
    | unix => simp [Kind.isNetwork, ht] at hk
    | tls =>
      rw [ht] at hb
      obtain ⟨-, -, -, io, rfl⟩ := Bind.tcp_spec hs hb
      rfl
    | vsock =>
      -- A canonical vsock address is read whatever the default port is.
      have hf := Kind.formed_canonicalize hc hne
      unfold Kind.Formed at hf
      rw [ht] at hb hf
      obtain ⟨v, hv⟩ := hf
      dsimp only at hb
      obtain ⟨-, -, -, ⟨io, rfl⟩ | ⟨t, rfl⟩⟩ := Bind.vsock_spec hs hb
      · rfl
      · unfold Bind.vsock at hb
        simp only [hv, Listen.vsock_text] at hb
        split at hb
        · cases hb
        · split at hb <;> cases hb
  · split at hl
    · cases hl
    · rename_i e' ht
      cases hl
      obtain ⟨-, t, rfl⟩ := Bundle.acceptorFor_error ht
      rfl

theorem Bid.attempt_setback [Platform] {b : Bid} {u : Bundle} {h h' : Host} (hs : h.Sound)
    (hk : b.kind.isNetwork = true) (ha : b.kind.Accepts b.address) {e : EndpointError}
    (hatt : b.attempt u h = (.inr (.error e), h')) : e.isSetback = true := by
  unfold attempt at hatt
  split at hatt
  · cases hatt
  · rename_i e' h₁ hl
    split at hatt
    · cases hatt
    · cases hatt
      exact Host.listen_setback (hs.sleep _) hk ha hl

/-! ### Addresses that can be read again -/

/-- The addresses of network kinds are accepted. -/
structure Site.Legible (t : Site) : Prop where
  accepts : ∀ {k : Kind} {e : Entry}, k.isNetwork = true → t.registry.entries k = some e →
    k.Accepts e.address

/-- The addresses that a change bids for are accepted, and what has gone wrong so far are setbacks. -/
def Change.Legible : Change → Prop
  | .moving b previous => b.kind.Accepts b.address ∧ (previous ≠ "" → b.kind.Accepts previous)
  | .restoring b failure => b.kind.Accepts b.address ∧ failure.isSetback = true
  | .done r => ∀ e, r = .error e → e.isFailure = true

namespace Site

variable [Platform] {t t' : Site} {k : Kind} {address : String} {c : Change}

/-- Canonical addresses are accepted, and none of a network kind is empty. -/
theorem Canonical.legible (hs : t.Sound) (ht : t.Canonical) : t.Legible where
  accepts hk he := by
    obtain ⟨id, l, hv⟩ := hs.serves he
    exact (ht.entries hk he).accepts ((hv.formed hk).ne_empty hk)

theorem Legible.previous (hs : t.Sound) (ht : t.Legible) (hk : k.isNetwork = true)
    (hne : (t.close k).1 ≠ "") : k.Accepts (t.close k).1 := by
  cases he : t.registry.entries k with
  | none =>
    rw [close_none he] at hne
    exact absurd rfl hne
  | some e =>
    obtain ⟨id, l, hv⟩ := hs.serves he
    rw [close_eq hs he hv.serving]
    exact ht.accepts hk he

/-- A change begins with addresses that can be read, unless nobody is there to serve the kind, and then
nothing happens. -/
theorem Legible.beginChange (hs : t.Sound) (ht : t.Legible) (hk : k.isNetwork = true)
    (ha : address ≠ "" → k.Accepts address) :
    (t.beginChange k address).1.Legible ∨ t.registry.servers k = none ∧ address ≠ "" ∧
      t.beginChange k address = (.done (.error (noHandler k)), t) := by
  rcases t.beginChange_cases k address with ⟨-, hb⟩ | ⟨-, ⟨hne, hr, hb⟩ | ⟨-, hb⟩ | ⟨hne, -, hb⟩⟩ <;>
    rw [hb]
  · exact Or.inl nofun
  · exact Or.inr ⟨hr, hne, rfl⟩
  · exact Or.inl nofun
  · exact Or.inl ⟨ha hne, ht.previous hs hk⟩

omit [Platform] in
/-- Nothing but that can be wrong when a change begins. -/
theorem beginChange_error {e : EndpointError}
    (hd : (t.beginChange k address).1 = .done (.error e)) :
    e = noHandler k ∧ (t.beginChange k address).2 = t := by
  rcases t.beginChange_cases k address with ⟨-, hb⟩ | ⟨-, ⟨-, -, hb⟩ | ⟨-, hb⟩ | ⟨-, -, hb⟩⟩ <;>
    rw [hb] at hd ⊢ <;> cases hd
  exact ⟨rfl, rfl⟩

/-- A change goes on bidding for addresses that can be read, and comes to setbacks only. -/
theorem legible_step (hs : t.Sound) (hc : t.Carries c) (hl : c.Legible) : (t.step c).1.Legible := by
  have hhost := hs.wired.sound
  obtain ⟨c', t', hstep, hst⟩ := t.exists_stepped c
  rw [hstep]
  cases hst with
  | ended => exact hl
  | moves => exact hl
  | moved won =>
    obtain ⟨router, hb⟩ := hs.bring_won hc.1 won
    rw [hb]
    exact nofun
  | failed lost =>
    intro e' he
    cases he
    exact EndpointError.isFailure_of_isSetback (Bid.attempt_setback hhost hc.1.network hl.1 lost)
  | returns known lost => exact ⟨hl.2 known, Bid.attempt_setback hhost hc.1.network hl.1 lost⟩
  | restores => exact hl
  | restored won =>
    obtain ⟨router, hb⟩ := hs.bring_won hc won
    rw [hb]
    intro e' he
    cases he
    exact EndpointError.isFailure_of_isSetback hl.2
  | @stranded b _ _ _ lost =>
    have hadm : t.Admits b.kind b.address := hc
    have hset := Bid.attempt_setback hhost hadm.network hl.1 lost
    intro e' he
    cases he
    simp [EndpointError.isFailure, hl.2, hset]

theorem legible_steps (hs : t.Sound) (hc : t.Carries c) (hl : c.Legible) (n : Nat) :
    (t.steps c n).1.Legible := by
  induction n generalizing t c with
  | zero => exact hl
  | succ n ih =>
    obtain ⟨hs', hc'⟩ := hs.step hc
    exact ih hs' hc' (legible_step hs hc hl)

/-- A change fails with what attempts to listen can fail with, unless nobody is there to serve the
kind. -/
theorem Legible.change (hs : t.Sound) (ht : t.Legible) (hk : k.isNetwork = true) {text : String}
    (hc : k.canonicalize text = .ok address)
    (hserver : address = "" ∨ (t.registry.servers k).isSome = true) {e : EndpointError}
    (he : (t.change k address).1 = .error e) : e.isFailure = true := by
  obtain ⟨hs', hc'⟩ := hs.beginChange hk (Kind.formed_canonicalize hc)
  rcases ht.beginChange hs hk (Kind.canonical_canonicalize hc).accepts with hl | ⟨hno, hne, -⟩
  · have hend := legible_steps hs' hc' hl (t.beginChange k address).1.budget
    unfold Site.change at he
    dsimp only at he
    generalize ((t.beginChange k address).2.steps _ _).1 = c at he hend
    cases c with
    | done r => exact hend e he
    | moving b previous => cases he
    | restoring b failure => cases he
  · rcases hserver with h | h
    · exact absurd h hne
    · rw [hno] at h
      cases h

end Site

namespace Scene

variable {s s' : Scene}

/-- The addresses that are recorded or bid for in a scene are accepted. -/
structure Legible (s : Scene) : Prop where
  site : ∀ {t : Site}, s.world.site? = some t → t.Legible
  change : ∀ {m : Move} {c : Change}, s.underway = some (m, c) → c.Legible

variable [Platform]

/-- Changes are kept so along with the addresses that are recorded. -/
theorem invariance_legible : Invariance Site.Canonical fun c => c.Canonical ∧ c.Legible where
  same := invariance_canonical.same
  starts := invariance_canonical.starts
  begins {t m} hs ht hm := by
    obtain ⟨hp, hq⟩ := invariance_canonical.begins hs ht hm
    refine ⟨hp, fun hundone => ⟨hq hundone, ?_⟩⟩
    rcases (ht.legible hs).beginChange hs hm.network
      (Kind.canonical_canonicalize hm.canonical).accepts with hl | ⟨-, -, hno⟩
    · exact hl
    · rw [hno] at hundone
      cases hundone
  goes hs hc ht hcc :=
    have hgoes := invariance_canonical.goes hs hc ht hcc.1
    ⟨hgoes.1, hgoes.2, Site.legible_step hs hc.carried hcc.2⟩
  rests {c} time hc := by
    refine ⟨invariance_canonical.rests time hc.1, ?_⟩
    cases c with
    | moving b previous => exact hc.2
    | restoring b failure => exact hc.2
    | done r => exact hc.2

theorem Reachable.legible (hr : s.Reachable) : s.Legible where
  site ht := (hr.canonical ht).legible (hr.sound.site ht).1
  change hu := ((hr.bears invariance_legible).change hu).2

end Scene

/-! ### What a request is checked for -/

/-- What becomes of a request for a canonical address, in the order of its checks: the stage of the
registry, whether the address is current, whether somebody is there to serve the kind. Only then is
anything done, and what goes wrong from there on is a failure of the move. -/
inductive World.Handles [Platform] (w : World) (k : Kind) (address : String) :
    Except EndpointError Unit → World → Prop
  | state (idle : w.site? = none) : Handles w k address (.error (w.refuse .reconfigure)) w
  | current {t : Site} (site : w.site? = some t) (same : t.isCurrent k address = true) :
      Handles w k address (.ok ()) w
  | handler {t : Site} (site : w.site? = some t) (other : t.isCurrent k address = false)
      (given : address ≠ "") (nobody : t.registry.servers k = none) :
      Handles w k address (.error (noHandler k)) w
  | tried {t t' : Site} {r : Except EndpointError Unit} (site : w.site? = some t)
      (other : t.isCurrent k address = false)
      (served : address = "" ∨ (t.registry.servers k).isSome = true)
      (moved : t.change k address = (r, t')) (failed : ∀ e, r = .error e → e.isFailure = true) :
      Handles w k address r (.ofSite t')

/-- What becomes of a request to move a kind: before all else its kind is looked at, and then the syntax
of its address. -/
inductive World.Reports [Platform] (w : World) (k : Kind) (text : String) :
    Except EndpointError Unit → World → Prop
  | kind (hk : k.isNetwork = false) : Reports w k text (.error (World.notChangeable k)) w
  | malformed {reason : String} (hk : k.isNetwork = true)
      (hc : k.canonicalize text = .error (.invalidAddress k text reason)) :
      Reports w k text (.error (.invalidAddress k text reason)) w
  | handled {address : String} {r : Except EndpointError Unit} {w' : World} (hk : k.isNetwork = true)
      (hc : k.canonicalize text = .ok address) (hh : w.Handles k address r w') :
      Reports w k text r w'

namespace World

variable [Platform]
variable {w w' : World} {k : Kind} {text address : String} {r : Except EndpointError Unit}

/-- A request that is turned down has changed nothing. -/
theorem Handles.sorted (hh : w.Handles k address r w') {e : EndpointError} (he : r = .error e) :
    e.isRefusal = true ∧ w' = w ∨ e.isFailure = true := by
  cases hh with
  | state idle =>
    cases he
    exact Or.inl ⟨rfl, rfl⟩
  | current site same => cases he
  | handler site other given nobody =>
    cases he
    exact Or.inl ⟨rfl, rfl⟩
  | tried site other served moved failed => exact Or.inr (failed e he)

theorem Reports.sorted (hh : w.Reports k text r w') {e : EndpointError} (he : r = .error e) :
    e.isRefusal = true ∧ w' = w ∨ e.isFailure = true := by
  cases hh with
  | kind hk =>
    cases he
    exact Or.inl ⟨rfl, rfl⟩
  | malformed hk hc =>
    cases he
    exact Or.inl ⟨rfl, rfl⟩
  | handled hk hc hh => exact hh.sorted he

/-- The second look at a request. -/
theorem handles_change (hw : ∀ {t : Site}, w.site? = some t → t.Sound ∧ t.Legible)
    (hk : k.isNetwork = true) (hc : k.canonicalize text = .ok address) :
    w.Handles k address (w.change k address).1 (w.change k address).2 := by
  unfold World.change
  split
  · rename_i hn
    exact .state hn
  · rename_i t ht
    obtain ⟨hs, hl⟩ := hw ht
    have hsame : ofSite t = w := (ofSite_of_site? ht).symm
    dsimp only
    have tried (hother : t.isCurrent k address = false)
        (hserver : address = "" ∨ (t.registry.servers k).isSome = true) :
        w.Handles k address (t.change k address).1 (ofSite (t.change k address).2) :=
      .tried ht hother hserver rfl fun e he => hl.change hs hk hc hserver he
    rcases t.beginChange_cases k address with
      ⟨hcur, hb⟩ | ⟨hother, ⟨hne, hnone, hb⟩ | ⟨hempty, -⟩ | ⟨-, ⟨router, hr⟩, -⟩⟩
    · rw [Site.change_of_done hb, hsame]
      exact .current ht hcur
    · rw [Site.change_of_done hb, hsame]
      exact .handler ht hother hne hnone
    · exact tried hother (Or.inl hempty)
    · exact tried hother (Or.inr (by rw [hr]; rfl))

/-- A request from beginning to end. -/
theorem reports_update (hw : ∀ {t : Site}, w.site? = some t → t.Sound ∧ t.Legible) (k : Kind)
    (text : String) : w.Reports k text (w.update k text).1 (w.update k text).2 := by
  cases hk : k.isNetwork with
  | false =>
    have hu : w.update k text = (.error (notChangeable k), w) := by simp [update, check, hk]
    rw [hu]
    exact .kind hk
  | true =>
    cases hc : k.canonicalize text with
    | error e =>
      obtain ⟨reason, rfl⟩ := Kind.canonicalize_error hc
      have hu : w.update k text = (.error (.invalidAddress k text reason), w) := by
        simp [update, check, hk, hc]
      rw [hu]
      exact .malformed hk hc
    | ok address =>
      have hchange := handles_change hw hk hc
      refine .handled hk hc ?_
      cases ht : w.site? with
      | none =>
        have hu : w.update k text = (.error (w.refuse .reconfigure), w) := by
          simp [update, check, hk, hc, ht]
        rw [hu]
        exact .state ht
      | some t =>
        cases hcur : t.isCurrent k address with
        | true =>
          have hu : w.update k text = (.ok (), w) := by simp [update, check, hk, hc, ht, hcur]
          rw [hu]
          exact .current ht hcur
        | false =>
          have hu : w.update k text = w.change k address := by
            simp [update, check, hk, hc, ht, hcur]
          rwa [hu]

end World

namespace Scene

variable [Platform] {s s' : Scene} {k : Kind} {text : String}

/-- Callers are told of refusals before anything is done for them, and of failures at the end of a
change. -/
theorem told_of_step (hs : s.Sound) (hl : s.Legible) {e : EndpointError}
    (hst : Step False s (some (.update k text (.error e))) s') :
    e.isRefusal = true ∧ s.underway = none ∧ s'.world = s.world ∨
      e.isFailure = true ∧ ∃ m c, s.underway = some (m, c) ∧ m.kind = k ∧ m.text = text := by
  generalize hr : some (Notice.update k text (.error e)) = r at hst
  cases hst with
  | refuse free hc =>
    cases hr
    refine Or.inl ⟨?_, free, rfl⟩
    unfold World.check at hc
    split at hc
    · cases hc
      rfl
    · split at hc
      · rename_i hcan
        cases hc
        obtain ⟨reason, rfl⟩ := Kind.canonicalize_error hcan
        rfl
      · split at hc
        · cases hc
          rfl
        · cases hc
  | late free hw hn =>
    cases hr
    exact Or.inl ⟨rfl, free, rfl⟩
  | begin free hw ht hres =>
    rename_i t m before after
    obtain ⟨hworld, -, -, ⟨o, hdone, ho, -⟩ | ⟨hnone, -⟩⟩ := resume_cases hres
    · rw [← hr] at ho
      cases ho
      obtain ⟨rfl, hsame⟩ := Site.beginChange_error hdone
      exact Or.inl ⟨rfl, free, by rw [hworld, hsame, World.ofSite_of_site? ht]⟩
    · rw [hnone] at hr
      cases hr
  | go hu ht hres =>
    rename_i t m c
    obtain ⟨hsite, -, hunder⟩ := hs.site ht
    obtain ⟨-, -, -, ⟨o, hdone, ho, -⟩ | ⟨hnone, -⟩⟩ := resume_cases hres
    · rw [← hr] at ho
      cases ho
      have hend := Site.legible_step hsite (hunder hu).carried (hl.change hu)
      rw [hdone] at hend
      exact Or.inr ⟨hend e rfl, m, c, hu, rfl, rfl⟩
    · rw [hnone] at hr
      cases hr
  | _ => cases hr

/-- What can be relied on when a request to move a kind ends in an error. -/
structure Discerns (s : Scene) (k : Kind) (text : String) : Prop where
  reports : s.world.Reports k text (s.world.update k text).1 (s.world.update k text).2
  sorted : ∀ e, (s.world.update k text).1 = .error e →
    e.isRefusal = true ∧ (s.world.update k text).2 = s.world ∨
      e.isFailure = true ∧ e.isRefusal = false
  again : ∀ m ∈ s.waiting, s.world.Handles m.kind m.canonical
    (s.world.change m.kind m.canonical).1 (s.world.change m.kind m.canonical).2
  told : ∀ {e : EndpointError} {s' : Scene},
    Step False s (some (.update k text (.error e))) s' →
      e.isRefusal = true ∧ s.underway = none ∧ s'.world = s.world ∨
        e.isFailure = true ∧ e.isRefusal = false ∧
          ∃ m c, s.underway = some (m, c) ∧ m.kind = k ∧ m.text = text

/-- A request that is turned down leaves everything as it was, whatever else was going on: nothing was
closed for it, bound, retired or recorded. Once a change is under way it can only fail to bind or for
TLS, at the new address or at both. The checks are made in a fixed order, and those for which the
registry matters are made again when a request has its turn. -/
theorem update_discerns (hr : s.Reachable) (k : Kind) (text : String) : s.Discerns k text := by
  have hw {t : Site} (ht : s.world.site? = some t) : t.Sound ∧ t.Legible :=
    ⟨(hr.sound.site ht).1, hr.legible.site ht⟩
  have hreports := World.reports_update hw k text
  refine ⟨hreports, fun e he => ?_, fun m hm => ?_, fun hst => ?_⟩
  · exact (hreports.sorted he).imp_right fun hf => ⟨hf, EndpointError.isRefusal_eq_false hf⟩
  · have hvalid := hr.sound.waiting m hm
    exact World.handles_change hw hvalid.network hvalid.canonical
  · exact (told_of_step hr.sound hr.legible hst).imp_right fun ⟨hf, hu⟩ =>
      ⟨hf, EndpointError.isRefusal_eq_false hf, hu⟩

end Scene

namespace Scene

theorem update_discerns_handed : Reachable ⟨World.handed, none, [], none⟩ ∧
    Discerns ⟨World.handed, none, [], none⟩ .networkAdmin "127.0.0.1:7001" ∧
    (World.handed.update .networkAdmin "127.0.0.1:7001").1 =
      .error (.bind .networkAdmin "127.0.0.1:7001" (.number ErrorNumber.addressInUse)) :=
  ⟨World.reachable_handed, update_discerns World.reachable_handed _ _, by decide +kernel⟩

end Scene
end Portkeeper
