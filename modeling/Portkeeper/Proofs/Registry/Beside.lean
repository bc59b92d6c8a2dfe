import Portkeeper.Proofs.Address.Fixpoint
import Portkeeper.Proofs.Host.Absence
import Portkeeper.Proofs.Registry.Crowd

/-!
Two registries, one of which has lost sockets of some kinds. Whatever is asked of the other kinds comes to
the same in both, as long as nobody asks for a name that one of those sockets stood in the way of.
-/

set_option autoImplicit false

namespace Portkeeper
open Net

/-- Kinds that may fail, loops of theirs on which accepting may, and the sockets of these. -/
structure Outage extends Loss where
  kinds : Kind → Bool
  closing : LoopId → Prop

/-- No socket in question stands in the way of what an address asks for. -/
def Outage.Lets [Platform] (x : Outage) (k : Kind) (address : String) : Prop :=
  ∀ n, k.Asks address n → x.Spares n

/-- Loops with the same listeners, which differ for kinds that may fail only. -/
structure LoopsAlike (x : Outage) (ls ls' : List Loop) : Prop where
  length : ls'.length = ls.length
  alike : ∀ {i : LoopId} {l : Loop}, ls[i]? = some l → ∃ l', ls'[i]? = some l' ∧
    l'.listener = l.listener ∧ (x.kinds l.listener.kind = false → l' = l)

namespace LoopsAlike

variable {x : Outage} {ls ls' : List Loop} {i : LoopId} {l m m' : Loop}

theorem refl (x : Outage) (ls : List Loop) : LoopsAlike x ls ls :=
  ⟨rfl, fun {_ l} hl => ⟨l, hl, rfl, fun _ => rfl⟩⟩

theorem set (h : LoopsAlike x ls ls') (hl : ls[i]? = some l) (hm : m.listener = l.listener)
    (hm' : m'.listener = l.listener) (hsame : x.kinds l.listener.kind = false → m' = m) :
    LoopsAlike x (ls.set i m) (ls'.set i m') := by
  have hlt : i < ls.length := (List.getElem?_eq_some_iff.mp hl).1
  refine ⟨by simpa using h.length, fun {j p} hp => ?_⟩
  rcases Loop.of_getElem?_set hp with ⟨rfl, rfl⟩ | ⟨hji, hp⟩
  · refine ⟨m', List.getElem?_set_self (h.length ▸ hlt), hm'.trans hm.symm, fun hk => ?_⟩
    exact hsame (hm ▸ hk)
  · obtain ⟨p', hp', hrest⟩ := h.alike hp
    exact ⟨p', (List.getElem?_set_ne (Ne.symm hji)).trans hp', hrest⟩

theorem set_lost (h : LoopsAlike x ls ls') (hl : ls[i]? = some l)
    (hk : x.kinds l.listener.kind = true) (hm' : m'.listener = l.listener) :
    LoopsAlike x ls (ls'.set i m') := by
  have hself : ls.set i l = ls := by
    obtain ⟨hlt, rfl⟩ := List.getElem?_eq_some_iff.mp hl
    exact List.set_getElem_self hlt
  rw [← hself]
  exact h.set hl rfl hm' fun hc => absurd (hk.symm.trans hc) nofun

theorem push (h : LoopsAlike x ls ls') (l : Loop) : LoopsAlike x (ls ++ [l]) (ls' ++ [l]) := by
  refine ⟨by simpa using h.length, fun {j p} hp => ?_⟩
  rcases Loop.of_getElem?_push hp with hp | ⟨rfl, rfl⟩
  · obtain ⟨p', hp', hrest⟩ := h.alike hp
    have hlt : j < ls'.length := (List.getElem?_eq_some_iff.mp hp').1
    exact ⟨p', (List.getElem?_append_left hlt).trans hp', hrest⟩
  · refine ⟨p, ?_, rfl, fun _ => rfl⟩
    rw [← h.length, List.getElem?_concat_length]

end LoopsAlike

theorem Host.Lacks.get? {x : Loss} {h h' : Host} (hl : Lacks x h h') {id : SocketId}
    (hx : ¬x.ids id) : h'.sockets.get? id = h.sockets.get? id := by
  obtain ⟨gone, shut, files, hgone, -, rfl⟩ := hl.rest
  refine Table.get?_filter (p := fun i => !gone i) h.sockets ?_
  cases hg : gone id with
  | false => rfl
  | true => exact absurd (hgone id hg) hx

theorem Host.Lacks.bid [Platform] {x : Loss} {h h' : Host} (hl : Lacks x h h') {b : Bid}
    (hk : b.kind.isNetwork = true) (ha : ∀ n, b.kind.Asks b.address n → x.Spares n) (u : Bundle) :
    (b.attempt u h').1 = (b.attempt u h).1 ∧ Lacks x (b.attempt u h).2 (b.attempt u h').2 := by
  obtain ⟨hsame, hlacks⟩ := (hl.sleep b.pause).listen hk ha u
  unfold Bid.attempt
  generalize (h.sleep b.pause).listen b.kind b.address u = r at hsame hlacks
  generalize (h'.sleep b.pause).listen b.kind b.address u = r' at hsame hlacks
  obtain ⟨o, g⟩ := r
  obtain ⟨o', g'⟩ := r'
  obtain rfl : o' = o := hsame
  cases o' with
  | ok l => exact ⟨rfl, hlacks⟩
  | error e =>
    dsimp only
    split <;> exact ⟨rfl, hlacks⟩

namespace Site

/-- The second registry is the first one without some sockets of the kinds in question. -/
structure Beside (x : Outage) (s s' : Site) : Prop where
  entries : s'.registry.entries = s.registry.entries
  servers : s'.registry.servers = s.registry.servers
  bundle : s'.registry.bundle = s.registry.bundle
  loops : LoopsAlike x s.loops s'.loops
  host : Host.Lacks x.toLoss s.host s'.host
  lost : ∀ {i : LoopId} {l : Loop}, s.loops[i]? = some l →
    (x.ids l.listener.socket ↔ x.kinds l.listener.kind = true ∧ x.closing i)

namespace Beside

variable {x : Outage} {s s' : Site} {k : Kind} {id : LoopId} {l : Loop}

theorem now (h : Beside x s s') : s'.now = s.now := h.host.now

theorem getElem? (h : Beside x s s') (hl : s.loops[id]? = some l)
    (hk : x.kinds l.listener.kind = false) : s'.loops[id]? = some l := by
  obtain ⟨l', hl', -, hsame⟩ := h.loops.alike hl
  rw [hl', hsame hk]

variable [Platform]

theorem isCurrent (h : Beside x s s') (hs : s.Sound) (hk : x.kinds k = false) (address : String) :
    s'.isCurrent k address = s.isCurrent k address := by
  unfold Site.isCurrent
  rw [h.entries]
  cases he : s.registry.entries k with
  | none => rfl
  | some e =>
    obtain ⟨id, l, hv⟩ := hs.serves he
    have hl' := h.getElem? hv.loop (hv.kind ▸ hk)
    simp only [hv.serving, Option.any_some, isRunning, hv.loop, hl', h.now]

/-! ### Closing -/

omit [Platform] in
theorem ofSet (h : Beside x s s') (hl : s.loops[id]? = some l) {m m' : Loop} {g g' : Host}
    (hm : m.listener = l.listener) (hm' : m'.listener = l.listener)
    (hsame : x.kinds l.listener.kind = false → m' = m) (hg : Host.Lacks x.toLoss g g') :
    Beside x { s with host := g, loops := s.loops.set id m }
      { s' with host := g', loops := s'.loops.set id m' } where
  entries := h.entries
  servers := h.servers
  bundle := h.bundle
  loops := h.loops.set hl hm hm' hsame
  host := hg
  lost {i p} hp := by
    rcases Loop.of_getElem?_set hp with ⟨rfl, rfl⟩ | ⟨-, hp⟩
    · rw [hm]
      exact h.lost hl
    · exact h.lost hp

omit [Platform] in
theorem ofSet_lost (h : Beside x s s') (hl : s.loops[id]? = some l)
    (hk : x.kinds l.listener.kind = true) {m' : Loop} {g' : Host} (hm' : m'.listener = l.listener)
    (hg : Host.Lacks x.toLoss s.host g') :
    Beside x s { s' with host := g', loops := s'.loops.set id m' } :=
  ⟨h.entries, h.servers, h.bundle, h.loops.set_lost hl hk hm', hg, h.lost⟩

/-- A loop that is the same in both registries has let go of its socket in both. -/
theorem drop (h : Beside x s s') (hs : s.Sound) (hl : s.loops[id]? = some l)
    (hk : x.kinds l.listener.kind = false) (ho : l.isOpen = true) :
    Host.Lacks x.toLoss (s.host.drop l.listener) (s'.host.drop l.listener) :=
  h.host.drop fun fd hd => ⟨(hs.wired.holds hl ho).inherited fd hd, fun hx => by
    rw [((h.lost hl).mp hx).1] at hk
    cases hk⟩

theorem closeLoop (h : Beside x s s') (hs : s.Sound) (hl : s.loops[id]? = some l)
    (hk : x.kinds l.listener.kind = false) : Beside x (s.closeLoop id) (s'.closeLoop id) := by
  rw [closeLoop_eq hl, closeLoop_eq (h.getElem? hl hk)]
  split
  · rename_i ho
    unfold shut
    rw [h.now]
    exact h.ofSet hl (by simp) (by simp) (fun _ => rfl) (h.drop hs hl hk ho)
  · exact h

theorem close (h : Beside x s s') (hs : s.Sound) (hs' : s'.Sound) (hk : x.kinds k = false) :
    (s'.close k).1 = (s.close k).1 ∧ Beside x (s.close k).2 (s'.close k).2 := by
  cases he : s.registry.entries k with
  | none =>
    rw [close_none he, close_none ((congrFun h.entries k).trans he)]
    exact ⟨rfl, h⟩
  | some e =>
    obtain ⟨id, l, hv⟩ := hs.serves he
    rw [close_eq hs he hv.serving, close_eq hs' ((congrFun h.entries k).trans he) hv.serving]
    have hclosed := h.closeLoop hs hv.loop (hv.kind ▸ hk)
    refine ⟨rfl, ?_, hclosed.servers, hclosed.bundle, hclosed.loops, hclosed.host, hclosed.lost⟩
    funext k'
    rw [entries_forget, entries_forget, hclosed.entries]

/-! ### Changing -/

theorem beginChange (h : Beside x s s') (hs : s.Sound) (hs' : s'.Sound) (hk : x.kinds k = false)
    (address : String) : (s'.beginChange k address).1 = (s.beginChange k address).1 ∧
      Beside x (s.beginChange k address).2 (s'.beginChange k address).2 := by
  obtain ⟨hprevious, hclosed⟩ := h.close hs hs' hk
  exact beginChange_congr (h.isCurrent hs hk address) h.servers hprevious h hclosed

omit [Platform] in
theorem ofHost (h : Beside x s s') {g g' : Host} (hg : Host.Lacks x.toLoss g g') :
    Beside x { s with host := g } { s' with host := g' } :=
  ⟨h.entries, h.servers, h.bundle, h.loops, hg, h.lost⟩

omit [Platform] in
theorem hand (h : Beside x s s') {l : Listener} (hk : x.kinds l.kind = false)
    (hx : ¬x.ids l.socket) (router : Router) (requested : String) :
    Beside x (s.hand l router requested) (s'.hand l router requested) where
  entries := by
    have haddress : l.recordAs s'.host requested = l.recordAs s.host requested := by
      unfold Listener.recordAs Listener.address
      rw [h.host.get? hx]
    funext k
    rw [entries_hand, entries_hand, h.entries, h.loops.length, haddress]
  servers := h.servers
  bundle := h.bundle
  loops := h.loops.push _
  host := h.host
  lost {i m} hm := by
    rcases Loop.of_getElem?_push hm with hm | ⟨-, rfl⟩
    · exact h.lost hm
    · exact iff_of_false hx (by simp [hk])

theorem bring (h : Beside x s s') (hs : s.Sound) (hs' : s'.Sound) {address : String}
    (hk : x.kinds k = false) (ha : s.Admits k address) {g g' : Host} {l : Listener}
    (hg : Host.Lacks x.toLoss g g') (hw : s.host.Wins g k address s.registry.bundle l)
    (hw' : s'.host.Wins g' k address s'.registry.bundle l) :
    (Site.bring { s' with host := g' } l address).1 = (Site.bring { s with host := g } l address).1 ∧
      Beside x (Site.bring { s with host := g } l address).2
        (Site.bring { s' with host := g' } l address).2 := by
  have ha' : s'.Admits k address := ⟨ha.network, h.servers ▸ ha.handler, h.entries ▸ ha.vacant, ha.formed⟩
  obtain ⟨router, -, hr, -, -, hb, -⟩ := hs.bring ha hw
  obtain ⟨router', -, hr', -, -, hb', -⟩ := hs'.bring ha' hw'
  obtain rfl : router' = router := by
    rw [h.servers, hr] at hr'
    exact (Option.some.inj hr').symm
  obtain ⟨h₁, hlater, -, -, ho⟩ := hw
  -- the socket is a fresh one, so it is none of those in question
  have hx : ¬x.ids l.socket := fun hx => by
    have hlt := Nat.lt_of_lt_of_le (h.host.bounded _ hx) hlater.next
    rw [ho.socket] at hlt
    exact Nat.lt_irrefl _ hlt
  rw [hb, hb']
  exact ⟨rfl, (h.ofHost hg).hand (ho.kind ▸ hk) hx router' address⟩

end Beside
end Site

/-- A change that bids for addresses which are let alone, for a kind that does not fail. -/
def Change.Unhindered [Platform] (x : Outage) : Change → Prop
  | .moving b previous => x.kinds b.kind = false ∧ x.Lets b.kind b.address ∧
      (previous ≠ "" → x.Lets b.kind previous)
  | .restoring b _ => x.kinds b.kind = false ∧ x.Lets b.kind b.address
  | .done _ => True

namespace Site
namespace Beside

variable [Platform] {x : Outage} {s s' : Site} {k : Kind}

/-- A bid comes to the same on both hosts, and what is opened on one is opened and served on the other. -/
theorem attempt (h : Beside x s s') (hs : s.Sound) (hs' : s'.Sound) {b : Bid}
    (ha : s.Admits b.kind b.address) (hk : x.kinds b.kind = false) (hl : x.Lets b.kind b.address) :
    ∃ r g g', b.attempt s.registry.bundle s.host = (r, g) ∧
      b.attempt s.registry.bundle s'.host = (r, g') ∧
      Beside x { s with host := g } { s' with host := g' } ∧
      ∀ l, r = .inr (.ok l) →
        (Site.bring { s' with host := g' } l b.address).1 =
            (Site.bring { s with host := g } l b.address).1 ∧
          Beside x (Site.bring { s with host := g } l b.address).2
            (Site.bring { s' with host := g' } l b.address).2 := by
  obtain ⟨hsame, hg⟩ := h.host.bid ha.network hl s.registry.bundle
  generalize hr : b.attempt s.registry.bundle s.host = r at hsame hg
  generalize hr' : b.attempt s.registry.bundle s'.host = r' at hsame hg
  obtain ⟨r, g⟩ := r
  obtain ⟨r', g'⟩ := r'
  obtain rfl : r' = r := hsame
  refine ⟨r', g, g', rfl, rfl, h.ofHost hg, fun l hl => ?_⟩
  subst hl
  have hw' := Bid.attempt_wins hs'.wired.sound hr'
  exact h.bring hs hs' hk ha hg (Bid.attempt_wins hs.wired.sound hr) (h.bundle.symm ▸ hw')

theorem step (h : Beside x s s') (hs : s.Sound) (hs' : s'.Sound) {c : Change} (hc : s.Carries c)
    (hu : c.Unhindered x) : (s'.step c).1 = (s.step c).1 ∧ Beside x (s.step c).2 (s'.step c).2 := by
  refine step_congr h.bundle h fun b hb => ?_
  cases c with
  | done r => cases hb
  | moving b previous =>
    cases hb
    exact h.attempt hs hs' hc.1 hu.1 hu.2.1
  | restoring b failure =>
    cases hb
    exact h.attempt hs hs' hc hu.1 hu.2

end Beside
end Site

/-! ### Addresses that are let alone -/

/-- A name that was asked for asks for nothing that was not asked for, if it is asked for in its turn. -/
theorem Outage.Lets.name [Platform] {x : Outage} {k : Kind} {address : String} {n : SocketName}
    (hk : k.isNetwork = true) (hx : x.Lets k address) (hn : k.Asks address n) :
    x.Lets k (String.ofList n.text) := by
  intro n' hn'
  have hfam := Kind.family_of_asks hn
  unfold Kind.Family at hfam
  cases ht : k.transport with
  | unix => simp [Kind.isNetwork, ht] at hk
  | vsock =>
    rw [ht] at hfam
    obtain ⟨u, rfl, hu⟩ := hfam
    obtain ⟨-, u', rfl, ⟨rfl, -⟩ | ⟨hany, -⟩⟩ :=
      Kind.asks_vsock ht (by rw [String.toList_ofList]; rfl) hn'
    · exact hx _ hn
    · exact absurd hany hu
  | tls =>
    rw [ht] at hfam
    obtain ⟨a, rfl⟩ := hfam
    obtain ⟨hport, heffective⟩ := Kind.asks_inet hn
    have hyields := Kind.asks_text ht hn'
    rw [heffective] at hyields
    cases hyields with
    | itself => exact hx _ hn
    | picked free => exact absurd free hport

/-- What is recorded for a listener asks for nothing that was not asked for. -/
theorem Outage.Lets.recordAs [Platform] {x : Outage} {h h' : Host} {requested : String}
    {u : Bundle} {l : Listener} (hk : l.kind.isNetwork = true) (hx : x.Lets l.kind requested)
    (hw : h.Wins h' l.kind requested u l) : x.Lets l.kind (l.recordAs h' requested) := by
  obtain ⟨h₁, -, -, -, ho⟩ := hw
  obtain ⟨n, hn, hg⟩ := ho.named
  rw [Listener.recordAs_network (ho.network hk).1 hg]
  split
  · exact hx.name hk hn
  · exact hx

namespace Site

variable [Platform]

/-- The addresses of some kinds are let alone. -/
def Unhindered (x : Outage) (moved : Kind → Prop) (s : Site) : Prop :=
  ∀ k e, moved k → s.registry.entries k = some e → x.Lets k e.address

variable {x : Outage} {moved : Kind → Prop} {s : Site}

theorem Unhindered.step (hu : s.Unhindered x moved) (hs : s.Sound) {c : Change} (hc : s.Carries c)
    (hcu : c.Unhindered x) : (s.step c).2.Unhindered x moved ∧ (s.step c).1.Unhindered x := by
  constructor
  · rcases hs.step_cases hc with ⟨r, rfl, he⟩ | ⟨k, h, -, -, he, -, -⟩ |
      ⟨b, h, l, router, ha, hw, -, he, hmove⟩
    · rw [he]
      exact hu
    · rw [he]
      exact hu
    · have hlets : x.Lets b.kind b.address := by
        rcases hmove with ⟨previous, rfl, -⟩ | ⟨failure, rfl, -⟩
        · exact hcu.2.1
        · exact hcu.2
      have hkind : l.kind = b.kind := by
        obtain ⟨h₁, -, -, -, ho⟩ := hw
        exact ho.kind
      rw [he]
      intro k e hk hentry
      rw [entries_hand] at hentry
      split at hentry
      · rename_i hkl
        cases hentry
        rw [← hkind] at hlets ha hw
        subst hkl
        exact hlets.recordAs ha.network hw
      · exact hu k e hk hentry
  · obtain ⟨c', s', hstep, hst⟩ := s.exists_stepped c
    rw [hstep]
    cases hst with
    | ended => trivial
    | moves => exact hcu
    | moved => trivial
    | failed => trivial
    | returns known => exact ⟨hcu.1, hcu.2.2 known⟩
    | restores => exact hcu
    | restored => trivial
    | stranded => trivial

theorem Unhindered.beginChange (hu : s.Unhindered x moved) (hs : s.Sound) {k : Kind} (hk : moved k)
    (hx : x.kinds k = false) {address : String} (ha : x.Lets k address) :
    (s.beginChange k address).2.Unhindered x moved ∧ (s.beginChange k address).1.Unhindered x := by
  have hclose : (s.close k).2.Unhindered x moved ∧
      ((s.close k).1 ≠ "" → x.Lets k (s.close k).1) := by
    cases he : s.registry.entries k with
    | none =>
      rw [close_none he]
      exact ⟨hu, fun hne => absurd rfl hne⟩
    | some e =>
      obtain ⟨id, l, hv⟩ := hs.serves he
      rw [close_eq hs he hv.serving]
      refine ⟨fun k' e' hk' he' => ?_, fun _ => hu k e hk he⟩
      rw [entries_forget, registry_closeLoop] at he'
      split at he'
      · cases he'
      · exact hu k' e' hk' he'
  rcases s.beginChange_cases k address with ⟨-, hb⟩ | ⟨-, ⟨-, -, hb⟩ | ⟨-, hb⟩ | ⟨-, -, hb⟩⟩ <;> rw [hb]
  · exact ⟨hu, trivial⟩
  · exact ⟨hu, trivial⟩
  · exact ⟨hclose.1, trivial⟩
  · exact ⟨hclose.1, hx, ha, hclose.2⟩

end Site
end Portkeeper
