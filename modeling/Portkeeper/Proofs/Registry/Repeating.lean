import Portkeeper.Proofs.Registry.Canonical
import Portkeeper.Proofs.Registry.Answering

/-!
Asking for what is there already. The address that is reported for a kind is canonical, so it is found
current when it comes back, however it came to be recorded; and so is an address that was asked for and
granted, unless the system was to pick the port.
-/

set_option autoImplicit false

namespace Portkeeper
open Text

/-- A request comes to nothing: it is granted at the first look, and everything stays as it is. -/
structure World.Keeps [Platform] (w : World) (k : Kind) (text : String) : Prop where
  check : w.check k text = .ok none
  update : w.update k text = (.ok (), w)

/-- What was asked for is recorded when the system has nothing to pick. -/
theorem Listener.recordAs_asked (l : Listener) (h : Host) {requested : String} (hne : requested ≠ "")
    (hport : asksForPort requested = false) : l.recordAs h requested = requested := by
  simp [recordAs, hne, hport]

namespace Site

variable {t t' : Site} {k : Kind} {address : String} {c : Change}

theorem isCurrent_of_running {e : Entry} (he : t.registry.entries k = some e)
    (hrun : e.serving.any t.isRunning = true) : t.isCurrent k e.address = true := by
  simp [isCurrent, he, hrun]

variable [Platform]

theorem isCurrent_close (hs : t.Sound) (k : Kind) : (t.close k).2.isCurrent k "" = true := by
  unfold isCurrent
  rw [entries_close hs, if_pos rfl]
  rfl

/-- A change that is over at its beginning, and ends well, leaves its kind at the address. -/
theorem isCurrent_of_beginChange (hs : t.Sound)
    (hd : (t.beginChange k address).1 = .done (.ok ())) :
    (t.beginChange k address).2.isCurrent k address = true := by
  rcases t.beginChange_cases k address with ⟨hc, hb⟩ | ⟨-, ⟨-, -, hb⟩ | ⟨rfl, hb⟩ | ⟨-, -, hb⟩⟩ <;>
    rw [hb] at hd ⊢
  · exact hc
  · cases hd
  · exact isCurrent_close hs k
  · cases hd

/-- So does a step with which a change ends well, unless the system has picked a port. -/
theorem isCurrent_of_step (hs : t.Sound) {m : Move} (hp : t.Pursues m c)
    (hd : (t.step c).1 = .done (.ok ())) (hport : asksForPort m.canonical = false) :
    (t.step c).2.isCurrent m.kind m.canonical = true := by
  rcases hs.step_cases hp.carried with ⟨o, rfl, -⟩ | ⟨_, _, -, -, -, -, hno⟩ |
    ⟨b, h, l, router, ha, hw, -, he, ⟨previous, rfl, -⟩ | ⟨failure, -, hfail⟩⟩
  · cases hp.undone
  · exact absurd hd hno
  · obtain ⟨h₁, -, -, -, hopens⟩ := hw
    obtain ⟨hkind, haddress⟩ := hp.target
    have hcur := isCurrent_hand { t with host := h } l router b.address
    rw [he, ← hkind, ← haddress]
    rwa [hopens.kind, l.recordAs_asked _ (ha.formed.ne_empty ha.network) (haddress ▸ hport)] at hcur
  · rw [hd] at hfail
    cases hfail

theorem isCurrent_of_change (hs : t.Sound) (hk : k.isNetwork = true)
    (hf : address ≠ "" → k.Formed address) (hport : asksForPort address = false)
    (hc : t.change k address = (.ok (), t')) : t'.isCurrent k address = true := by
  cases hcur : t.isCurrent k address with
  | true =>
    rw [change_of_done (beginChange_current hcur)] at hc
    cases hc
    exact hcur
  | false =>
    cases hr : t.registry.servers k with
    | none =>
      rcases t.beginChange_cases k address with
        ⟨hc', -⟩ | ⟨-, ⟨-, -, hb⟩ | ⟨rfl, hb⟩ | ⟨-, ⟨router, hr'⟩, -⟩⟩
      · cases hcur.symm.trans hc'
      · rw [change_of_done hb] at hc
        cases hc
      · rw [change_of_done hb] at hc
        cases hc
        exact isCurrent_close hs k
      · cases hr.symm.trans hr'
    | some router =>
      obtain ⟨-, hend⟩ := hs.change_settles hk hr hf hcur
      rw [hc] at hend
      cases hend with
      | disabled empty down =>
        have down : t'.registry.entries k = none := down
        simp [isCurrent, down, empty]
      | moved given bid live =>
        have hentry := live.entry
        rw [hport] at hentry
        refine isCurrent_of_running hentry ?_
        simp [isRunning, live.loop, Loop.isFinished]

end Site

namespace World

variable [Platform] {w w' : World} {t : Site} {k : Kind} {text address : String}

theorem keeps_of_current (hk : k.isNetwork = true) (hc : k.canonicalize text = .ok address)
    (ht : w.site? = some t) (hcur : t.isCurrent k address = true) : w.Keeps k text := by
  have hcheck : w.check k text = .ok none := by simp [check, hk, hc, ht, hcur]
  exact ⟨hcheck, by simp [update, hcheck]⟩

theorem keeps_of_update (hs : ∀ {t : Site}, w.site? = some t → t.Sound)
    (hc : k.canonicalize text = .ok address) (hport : asksForPort address = false)
    (hu : w.update k text = (.ok (), w')) : w'.Keeps k text := by
  unfold update at hu
  split at hu
  · cases hu
  · rename_i hcheck
    cases hu
    exact ⟨hcheck, by simp [update, hcheck]⟩
  · rename_i canonical hcheck
    obtain ⟨hk, hc', t, ht, -⟩ := check_ok_some hcheck
    obtain rfl : canonical = address := Except.ok.inj (hc'.symm.trans hc)
    unfold World.change at hu
    simp only [ht] at hu
    cases hch : t.change k canonical with
    | mk r t' =>
      rw [hch] at hu
      cases hu
      exact keeps_of_current hk hc (site?_ofSite t')
        (Site.isCurrent_of_change (hs ht) hk (Kind.formed_canonicalize hc) hport hch)

end World

namespace Scene

variable [Platform] {s s' : Scene} {k : Kind} {text address : String}

/-- So it does when others did what they liked while the request was under way. -/
theorem Sound.keeps_of_step (hs : s.Sound) (hc : k.canonicalize text = .ok address)
    (hport : asksForPort address = false)
    (hst : Step False s (some (.update k text (.ok ()))) s') : s'.world.Keeps k text := by
  generalize hr : some (Notice.update k text (.ok ())) = r at hst
  cases hst with
  | keep free hcheck =>
    cases hr
    exact ⟨hcheck, by simp [World.update, hcheck]⟩
  | begin free hw ht hres =>
    rename_i t m before after
    have hm : m.Valid := hs.waiting m (by simp [hw])
    obtain ⟨hworld, -, -, ⟨o, hdone, ho, -⟩ | ⟨hnone, -⟩⟩ := resume_cases hres
    · rw [← hr] at ho
      cases ho
      exact World.keeps_of_current hm.network hm.canonical (hworld ▸ World.site?_ofSite _)
        (Site.isCurrent_of_beginChange (hs.site ht).1 hdone)
    · rw [hnone] at hr
      cases hr
  | go hu ht hres =>
    rename_i t m c
    obtain ⟨hsite, -, hunder⟩ := hs.site ht
    have hp := hunder hu
    obtain ⟨hworld, -, -, ⟨o, hdone, ho, -⟩ | ⟨hnone, -⟩⟩ := resume_cases hres
    · rw [← hr] at ho
      cases ho
      have hsame : m.canonical = address := Except.ok.inj (hp.valid.canonical.symm.trans hc)
      exact World.keeps_of_current hp.valid.network hp.valid.canonical
        (hworld ▸ World.site?_ofSite _)
        (Site.isCurrent_of_step hsite hp hdone (hsame ▸ hport))
    · rw [hnone] at hr
      cases hr
  | _ => cases hr

/-- The address that is reported for a kind comes to nothing when it is asked for again, with any white
space around it, as long as the kind is served. So does a request that has been granted, unless it asks
for a port. -/
theorem update_keeps (hr : s.Reachable) :
    (∀ {t : Site} {k : Kind} {e : Entry}, k.isNetwork = true → s.world.site? = some t →
      t.registry.entries k = some e → e.serving.any t.isRunning = true →
      ∀ before after : List Char, before.all isBlank = true → after.all isBlank = true →
        s.world.Keeps k (String.ofList before ++ s.world.address k ++ String.ofList after)) ∧
    ∀ {k : Kind} {text address : String}, k.canonicalize text = .ok address →
      asksForPort address = false →
      (∀ w, s.world.update k text = (.ok (), w) → w.Keeps k text) ∧
      ∀ s', Step False s (some (.update k text (.ok ()))) s' → s'.world.Keeps k text := by
  refine ⟨fun {t k e} hk ht he hrun before after hb ha => ?_, fun {k text address} hc hport =>
    ⟨fun w hu => ?_, fun s' hst => hr.sound.keeps_of_step hc hport hst⟩⟩
  · rw [World.address_eq ht he]
    exact World.keeps_of_current hk
      (Kind.canonicalize_around hb ha ((hr.canonical ht).entries hk he)) ht
      (Site.isCurrent_of_running he hrun)
  · exact World.keeps_of_update (fun ht => (hr.sound.site ht).1) hc hport hu

end Scene

namespace Scene

/-- Also for an endpoint that was handed over before it was bound, and for a port that the system has
picked. -/
theorem update_keeps_handed : ∃ (t : Site) (e : Entry),
    Reachable ⟨World.handed, none, [], none⟩ ∧ World.handed.site? = some t ∧
    t.registry.entries .networkAdmin = some e ∧ e.serving.any t.isRunning = true ∧
    World.handed.address .networkAdmin = "0.0.0.0:0" ∧
    World.handed.Keeps .networkAdmin (String.ofList [' '] ++ World.handed.address .networkAdmin ++
      String.ofList ['\t', '\n']) ∧
    (World.handed.update .networkAdmin "localhost:7002").1 = .ok () ∧
    (World.handed.update .networkAdmin "localhost:7002").2.Keeps .networkAdmin "localhost:7002" ∧
    World.picking.Keeps .vmConsole "any:4294967295" := by
  have h : (World.handed.site?.any fun t => (t.registry.entries .networkAdmin).any fun e =>
      e.serving.any t.isRunning) = true := by decide +kernel
  obtain ⟨t, ht, h⟩ := (Option.any_eq_true _ _).mp h
  obtain ⟨e, he, hrun⟩ := (Option.any_eq_true _ _).mp h
  have haddress : World.handed.address .networkAdmin = "0.0.0.0:0" := by decide +kernel
  have hnamed : Kind.networkAdmin.canonicalize "localhost:7002" = .ok "localhost:7002" := by
    decide +kernel
  have hany : Kind.vmConsole.canonicalize "any:4294967295" = .ok "4294967295:4294967295" := by
    decide +kernel
  have hmoved : (World.handed.update .networkAdmin "localhost:7002").1 = .ok () := by decide +kernel
  obtain ⟨hagain, hrepeat⟩ := update_keeps World.reachable_handed
  exact ⟨t, e, World.reachable_handed, ht, he, hrun, haddress,
    hagain rfl ht he hrun _ _ (by decide) (by decide), hmoved,
    (hrepeat hnamed (by decide)).1 _ (Prod.ext hmoved rfl),
    ((update_keeps World.reachable_picking).2 hany (by decide)).2 _ World.step_picking⟩

end Scene
end Portkeeper
