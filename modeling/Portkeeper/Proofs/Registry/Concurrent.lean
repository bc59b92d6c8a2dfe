import Portkeeper.Proofs.Registry.Serial

/-!
What callers can rely on whose calls overlap. Readers see the registry between changes, every change of
a kind stands until somebody changes the kind again, a change that comes after a stop is refused, and
one that asks for what the kind has by now leaves everything alone.
-/

set_option autoImplicit false

namespace Portkeeper
open Function

namespace Site

variable [Platform] {s t : Site} {k k' : Kind} {address : String}

/-- A kind is as a request to move it to an address has asked: it is down for the empty address, and
else it is served, recorded at the address or, if that asks for a TCP port, at the name of a socket that
the system has picked. -/
def Heeds (t : Site) (k : Kind) (address : String) : Prop :=
  match t.registry.entries k with
  | none => address = ""
  | some e => address ≠ "" ∧ (∃ id l, t.Serves k e id l) ∧
    (e.address = address ∨ asksForPort address = true ∧
      ∃ n, k.Asks address n ∧ e.address = String.ofList n.text)

theorem Sound.heeds_of_current (hs : t.Sound) (hk : k.isNetwork = true)
    (hc : t.isCurrent k address = true) : t.Heeds k address := by
  unfold isCurrent at hc
  unfold Heeds
  cases he : t.registry.entries k with
  | none => simpa [he] using hc
  | some e =>
    obtain ⟨id, l, hv⟩ := hs.serves he
    simp only [he, Bool.and_eq_true, beq_iff_eq] at hc
    exact ⟨hc.1 ▸ (hv.formed hk).ne_empty hk, ⟨id, l, hv⟩, Or.inl hc.1⟩

/-- A change that ends well leaves the kind as was asked. -/
theorem heeds_of_beginChange (hs : s.Sound) (hk : k.isNetwork = true)
    (hd : (s.beginChange k address).1 = .done (.ok ())) :
    (s.beginChange k address).2.Heeds k address := by
  rcases s.beginChange_cases k address with ⟨hc, hb⟩ | ⟨-, ⟨-, -, hb⟩ | ⟨he, hb⟩ | ⟨-, -, hb⟩⟩ <;>
    rw [hb] at hd ⊢
  · exact hs.heeds_of_current hk hc
  · cases hd
  · unfold Heeds
    dsimp only
    rw [entries_close hs, if_pos rfl]
    exact he
  · cases hd

/-- A bid that was won leaves its kind as it asks. -/
theorem Sound.heeds_hand (hs : s.Sound) (ha : s.Admits k address) {h : Host} {l : Listener}
    (hw : s.host.Wins h k address s.registry.bundle l) {router : Router}
    (hr : s.registry.servers k = some router) :
    (Site.hand { s with host := h } l router address).Heeds k address := by
  obtain ⟨router', n, hr', hn, hsk, -, hsound⟩ := hs.bring ha hw
  obtain rfl : router = router' := Option.some.inj (hr.symm.trans hr')
  obtain ⟨h₁, -, -, -, hopens⟩ := hw
  have hne := ha.formed.ne_empty ha.network
  have hentry := (entries_hand { s with host := h } l router address k).trans
    (if_pos hopens.kind.symm)
  unfold Heeds
  rw [hentry]
  dsimp only
  refine ⟨hne, hsound.serves hentry, ?_⟩
  rw [Listener.recordAs_network (hopens.network ha.network).1 hsk]
  simp only [hne, decide_false, Bool.false_or]
  split
  · rename_i hport
    exact Or.inr ⟨hport, n, hn, rfl⟩
  · exact Or.inl rfl

theorem heeds_of_step (hs : s.Sound) {m : Move} {c : Change} (hp : s.Pursues m c)
    (hd : (s.step c).1 = .done (.ok ())) : (s.step c).2.Heeds m.kind m.canonical := by
  rcases hs.step_cases hp.carried with ⟨r, rfl, -⟩ | ⟨k, h, -, -, -, -, hno⟩ |
    ⟨b, h, l, router, ha, hw, hr, he, ⟨previous, rfl, -⟩ | ⟨failure, -, hfail⟩⟩
  · cases hp.undone
  · exact absurd hd hno
  · obtain ⟨hkind, haddress⟩ := hp.target
    rw [he, ← hkind, ← haddress]
    exact hs.heeds_hand ha hw hr
  · rw [hd] at hfail
    cases hfail

end Site

namespace World

/-- A request to move consoles finds a reason for a change. -/
theorem stepCall_picking : picking.stepCall (.fresh (.update .vmConsole "any:5000")) =
    (.changing .vmConsole "4294967295:5000", picking) := by
  have hc : picking.check .vmConsole "any:5000" = .ok (some "4294967295:5000") := by
    decide +kernel
  simp only [stepCall, hc]

end World

/-! ### Calls side by side -/

namespace Crowd

variable [Platform] {cs : List Command} {g : Crowd} {i j : Nat} {t : Site} {k : Kind} {c : Command}
  {text canonical : String}

/-- Whatever has come true in a run came true in one of its turns. -/
theorem exists_turn {P : Crowd → Prop} {σ : List Turn} (h₀ : ¬P g) (h₁ : P (g.run σ)) :
    ∃ σ₁ t σ₂, σ = σ₁ ++ t :: σ₂ ∧ ¬P (g.run σ₁) ∧ P ((g.run σ₁).turn t) := by
  induction σ generalizing g with
  | nil => exact absurd h₁ h₀
  | cons t σ ih =>
    by_cases ht : P (g.turn t)
    · exact ⟨[], t, σ, rfl, h₀, ht⟩
    · obtain ⟨σ₁, t', σ₂, rfl, hno, hyes⟩ := ih ht h₁
      exact ⟨t :: σ₁, t', σ₂, rfl, hno, hyes⟩

/-- A call comes further in its own turns only. -/
theorem eq_call_of_calls {t : Turn} (h : (g.turn t).calls i ≠ g.calls i) : t = .call i := by
  cases t with
  | event e => exact absurd rfl h
  | call j =>
    by_cases hij : i = j
    · rw [hij]
    · exact absurd (calls_turn_of_ne hij) h

theorem site?_event (e : World.Event) (ht : g.world.site? = some t) :
    ∃ t', (g.turn (.event e)).world.site? = some t' ∧ t'.registry = t.registry ∧
      t'.loops.length = t.loops.length := by
  obtain ⟨hl, -, hls⟩ := World.site?_eq_some ht
  have hl' := (e.lifecycle g.world).trans hl
  refine ⟨⟨(e.act g.world).host, (e.act g.world).loops, t.registry⟩, ?_, rfl, ?_⟩
  · show (e.act g.world).site? = _
    simp only [World.site?, hl']
  · exact (e.length g.world).trans (by rw [hls])

omit [Platform] in
theorem resume_answered {ch : Change} {r : Except EndpointError Unit}
    (h : (g.resume i t ch).calls i = some (.answered (.done r))) :
    g.calls i = some (.answered (.done r)) ∨ ch = .done r := by
  cases ch with
  | moving b previous => exact Or.inl h
  | restoring b failure => exact Or.inl h
  | done r' =>
    have h' := (calls_put_self g i _).symm.trans h
    cases h'
    exact Or.inr rfl

namespace Sound

/-- A call that was answered has nothing more to do. -/
theorem turn_answered (hg : Sound cs g) {a : Answer} (hi : g.calls i = some (.answered a)) :
    g.turn (.call i) = g := by
  rcases g.turn_cases i with ⟨he, -⟩ | ⟨k, canonical, -, hi', -⟩ | ⟨k, canonical, t, -, hi', -⟩ |
    ⟨ch, t, hh, -⟩ | ⟨p, hh, -⟩
  · exact he
  · rw [hi] at hi'
    cases hi'
  · rw [hi] at hi'
    cases hi'
  · obtain ⟨t', k, text, canonical, -, hi', -⟩ := hg.holder hh
    rw [hi] at hi'
    cases hi'
  · rw [turn_put hh hi (Progress.calm_answered _) rfl, put_of_calls hi]

/-- The turn of a call in a running registry stops it, or records nothing but the kind that the call
asks to move, with a new loop or not at all. -/
theorem turn_entries (hg : Sound cs g) (ht : g.world.site? = some t) (i : Nat) :
    cs[i]? = some .down ∧ (g.turn (.call i)).world.lifecycle = .stopped ∨
      ∃ t', (g.turn (.call i)).world.site? = some t' ∧ t.loops.length ≤ t'.loops.length ∧
        ∀ k, t'.registry.entries k = t.registry.entries k ∨
          (∃ text, cs[i]? = some (.update k text)) ∧
            ∀ e, t'.registry.entries k = some e → e.serving = some t.loops.length := by
  have hsite := hg.world.site ht
  obtain ⟨hl, -, hls⟩ := World.site?_eq_some ht
  have unchanged {w : World} (hw : w = g.world) : ∃ t', w.site? = some t' ∧
      t.loops.length ≤ t'.loops.length ∧ ∀ k, t'.registry.entries k = t.registry.entries k ∨
          (∃ text, cs[i]? = some (.update k text)) ∧
            ∀ e, t'.registry.entries k = some e → e.serving = some t.loops.length :=
    ⟨t, hw ▸ ht, Nat.le_refl _, fun _ => Or.inl rfl⟩
  rcases g.turn_cases i with ⟨he, -⟩ | ⟨k, canonical, -, -, hno, -⟩ |
    ⟨k, canonical, t', -, hi, ht', he⟩ | ⟨ch, t', hh, ht', he⟩ | ⟨p, -, hi, hcalm, he⟩
  · exact Or.inr (unchanged (by rw [he]))
  · rw [hno] at ht
    cases ht
  · obtain rfl : t = t' := Option.some.inj (ht.symm.trans ht')
    obtain ⟨c, hc, text, rfl, -⟩ := hg.calls hi
    obtain ⟨hlen, hentries⟩ := Site.beginChange_entries hsite k canonical
    refine Or.inr ⟨_, by rw [he, world_resume, World.site?_ofSite], Nat.le_of_eq hlen.symm,
      fun k' => (hentries k').imp_right ?_⟩
    rintro ⟨rfl, hnone⟩
    exact ⟨⟨text, hc⟩, fun e he => by rw [hnone] at he; cases he⟩
  · obtain rfl : t = t' := Option.some.inj (ht.symm.trans ht')
    obtain ⟨t', k, text, canonical, ht', -, hc, hp⟩ := hg.holder hh
    obtain rfl : t = t' := Option.some.inj (ht.symm.trans ht')
    obtain ⟨hlen, hentries⟩ := Site.step_entries hsite hp
    refine Or.inr ⟨_, by rw [he, world_resume, World.site?_ofSite], hlen,
      fun k' => (hentries k').imp_right ?_⟩
    rintro ⟨rfl, e, hsome, hnew⟩
    exact ⟨⟨text, hc⟩, fun e' he' => by rw [hsome] at he'; cases he'; exact hnew⟩
  · obtain ⟨c, hc, hof⟩ := hg.calls hi
    rw [he]
    obtain ⟨q, w', hstep, hst⟩ := g.world.exists_callStep p
    rw [hstep]
    cases hst with
    | changed => exact absurd rfl (hcalm _ _)
    | stopped =>
      obtain rfl : .down = c := hof
      exact Or.inl ⟨hc, rfl⟩
    | @drained ids =>
      refine Or.inr ⟨⟨(g.world.awaitLoops ids).host, g.world.loops, t.registry⟩, ?_,
        Nat.le_of_eq (by rw [hls]), fun _ => Or.inl rfl⟩
      show (g.world.awaitLoops ids).site? = _
      simp only [World.site?, World.awaitLoops, hl]
    | @up c =>
      refine Or.inr (unchanged ?_)
      show (g.world.up c).2 = g.world
      rw [World.up_refused (by simp [World.stage, hl, Lifecycle.stage])]
    | unstopped | refused | current | waits | address | listing | told =>
      exact Or.inr (unchanged rfl)

end Sound

/-- A stopped registry stays so. -/
theorem turn_stopped (hl : g.world.lifecycle = .stopped) (t : Turn) :
    (g.turn t).world.lifecycle = .stopped := by
  cases t with
  | event e => exact (e.lifecycle _).trans hl
  | call i =>
    have hno {t : Site} (ht : g.world.site? = some t) : False := by simp [World.site?, hl] at ht
    rcases g.turn_cases i with ⟨he, -⟩ | ⟨k, canonical, -, -, -, he⟩ |
      ⟨k, canonical, t, -, -, ht, -⟩ | ⟨ch, t, -, ht, -⟩ | ⟨p, -, hi, hcalm, he⟩
    · rwa [he]
    · rwa [he]
    · exact (hno ht).elim
    · exact (hno ht).elim
    · rw [he]
      cases p with
      | changing k canonical => exact absurd rfl (hcalm k canonical)
      | answered a => exact hl
      | draining ids => exact hl
      | fresh c =>
        obtain ⟨a, ha⟩ := refused c
        rw [ha _ hl]
        exact hl

/-! ### What callers are told -/

namespace Sound

/-- A call of one step is told what it has found in a registry that nobody was changing. -/
theorem told (hg : Sound cs g) (hi : g.calls i = some (.fresh c)) (hd : c ≠ .down)
    (hu : ∀ k text, c ≠ .update k text) {σ : List Turn} {a : Answer}
    (ha : (g.run σ).calls i = some (.answered a)) : ∃ σ₁ σ₂, σ = σ₁ ++ .call i :: σ₂ ∧
      (g.run σ₁).holder = none ∧ ((g.run σ₁).world.stepCall (.fresh c)).1 = .answered a := by
  obtain ⟨c', hc, rfl⟩ := hg.calls hi
  obtain ⟨σ₁, t, σ₂, rfl, hno, hyes⟩ :=
    exists_turn (P := fun g => g.calls i = some (.answered a)) (by rw [hi]; nofun) ha
  obtain rfl : t = .call i := eq_call_of_calls fun he => hno (he.symm.trans hyes)
  refine ⟨σ₁, σ₂, rfl, ?_⟩
  have hh := hg.run σ₁
  generalize g.run σ₁ = h at hno hyes hh ⊢
  have hcall {p : Progress} (hp : h.calls i = some p) : p = .fresh c ∨ ∃ b, p = .answered b := by
    obtain ⟨c', hc', hof⟩ := hh.calls hp
    obtain rfl : c = c' := Option.some.inj (hc.symm.trans hc')
    cases p with
    | fresh c' => exact Or.inl (congrArg _ hof)
    | answered b => exact Or.inr ⟨b, rfl⟩
    | draining ids => exact absurd hof hd
    | changing k canonical =>
      obtain ⟨text, rfl, -⟩ := hof
      exact absurd rfl (hu k text)
  have hchange {k : Kind} {canonical : String} (hp : h.calls i = some (.changing k canonical)) :
      False := by
    rcases hcall hp with hp | ⟨b, hp⟩ <;> cases hp
  rcases h.turn_cases i with ⟨he, -⟩ | ⟨k, canonical, -, hp, -⟩ | ⟨k, canonical, t, -, hp, -⟩ |
    ⟨ch, t, hhold, -⟩ | ⟨p, hfree, hp, -, he⟩
  · exact absurd (he ▸ hyes) hno
  · exact (hchange hp).elim
  · exact (hchange hp).elim
  · obtain ⟨t', k, text, canonical, -, hp, -⟩ := hh.holder hhold
    exact (hchange hp).elim
  · rcases hcall hp with rfl | ⟨b, rfl⟩
    · rw [he] at hyes
      exact ⟨hfree, Option.some.inj ((calls_put_self h i _).symm.trans hyes)⟩
    · rw [hh.turn_answered hp] at hyes
      exact absurd hyes hno

/-- Whoever is told that a kind was moved finds it as was asked. -/
theorem heeds (hg : Sound cs g) (hc : cs[i]? = some (.update k text))
    (hno : g.calls i ≠ some (.answered (.done (.ok ()))))
    (hok : (g.turn (.call i)).calls i = some (.answered (.done (.ok ())))) :
    ∃ canonical t, k.isNetwork = true ∧ k.canonicalize text = .ok canonical ∧
      (g.turn (.call i)).world.site? = some t ∧ t.Heeds k canonical := by
  have hmove {k' : Kind} {canonical : String} (hi : g.calls i = some (.changing k' canonical)) :
      k' = k ∧ Move.Valid ⟨k, text, canonical⟩ := by
    obtain ⟨c, hc', text', rfl, hm⟩ := hg.calls hi
    rw [hc] at hc'
    cases hc'
    exact ⟨rfl, hm⟩
  rcases g.turn_cases i with ⟨he, -⟩ | ⟨k', canonical, -, hi, -, he⟩ |
    ⟨k', canonical, t, -, hi, ht, he⟩ | ⟨ch, t, hh, ht, he⟩ | ⟨p, hh, hi, hcalm, he⟩
  · exact absurd (he ▸ hok) hno
  · rw [he, calls_put_self] at hok
    cases hok
  · obtain ⟨rfl, hm⟩ := hmove hi
    rw [he] at hok ⊢
    refine ⟨canonical, _, hm.network, hm.canonical, by rw [world_resume, World.site?_ofSite], ?_⟩
    exact Site.heeds_of_beginChange (hg.world.site ht) hm.network
      ((resume_answered hok).resolve_left hno)
  · obtain ⟨t', k', text', canonical, ht', -, hc', hp⟩ := hg.holder hh
    obtain rfl : t = t' := Option.some.inj (ht.symm.trans ht')
    rw [hc] at hc'
    cases hc'
    rw [he] at hok ⊢
    refine ⟨canonical, _, hp.valid.network, hp.valid.canonical,
      by rw [world_resume, World.site?_ofSite], ?_⟩
    exact Site.heeds_of_step (hg.world.site ht) hp ((resume_answered hok).resolve_left hno)
  · obtain ⟨c, hc', hof⟩ := hg.calls hi
    obtain rfl : c = .update k text := Option.some.inj (hc'.symm.trans hc)
    have hq := (calls_put_self g i (g.world.stepCall p).1).symm.trans (he ▸ hok)
    cases p with
    | changing k' canonical => exact absurd rfl (hcalm k' canonical)
    | draining ids => cases hof
    | answered a => exact absurd (hi.trans hq) hno
    | fresh c =>
      obtain rfl : c = .update k text := hof
      obtain ⟨q, w', hstep, hst⟩ := g.world.exists_callStep (.fresh (.update k text))
      rw [he]
      rw [hstep] at hq ⊢
      cases hst with
      | refused => cases hq
      | waits => cases hq
      | current look =>
        obtain ⟨canonical, t, hk, hcan, ht, hcur⟩ := World.check_ok_none look
        exact ⟨canonical, t, hk, hcan, ht, (hg.world.site ht).heeds_of_current hk hcur⟩

/-- What is recorded for a kind stays while nobody else stops the registry or asks to move the kind. -/
theorem keeps (hg : Sound cs g) {a : Answer} (hi : g.calls i = some (.answered a))
    (hothers : ∀ j, j ≠ i → cs[j]? ≠ some .down ∧ ∀ text, cs[j]? ≠ some (.update k text))
    (ht : g.world.site? = some t) (σ : List Turn) : ∃ t', (g.run σ).world.site? = some t' ∧
      t'.registry.entries k = t.registry.entries k := by
  induction σ generalizing g t with
  | nil => exact ⟨t, ht, rfl⟩
  | cons turn σ ih =>
    rw [run_cons]
    cases turn with
    | event e =>
      obtain ⟨t₁, ht₁, hr, -⟩ := site?_event e ht
      obtain ⟨t', ht', he⟩ := ih (hg.turn (.event e)) hi ht₁
      exact ⟨t', ht', he.trans (by rw [hr])⟩
    | call j =>
      by_cases hji : j = i
      · subst hji
        rw [hg.turn_answered hi]
        exact ih hg hi ht
      · obtain ⟨hdown, hupdate⟩ := hothers j hji
        rcases hg.turn_entries ht j with ⟨hc, -⟩ | ⟨t₁, ht₁, -, hentries⟩
        · exact absurd hc hdown
        · obtain ⟨t', ht', he⟩ :=
            ih (hg.turn (.call j)) ((calls_turn_of_ne (Ne.symm hji)).trans hi) ht₁
          refine ⟨t', ht', he.trans ?_⟩
          rcases hentries k with hsame | ⟨⟨text, hc⟩, -⟩
          · exact hsame
          · exact absurd hc (hupdate text)

end Sound

/-- A change that a stop has overtaken, and that was refused if it has had its turn. -/
structure Overtaken (g : Crowd) (i : Nat) : Prop where
  lifecycle : g.world.lifecycle = .stopped
  call : (∃ k canonical, g.calls i = some (.changing k canonical)) ∨
    g.calls i = some (.answered (.done (.error (.invalidState .reconfigure .stopped))))

omit [Platform] in
theorem overtaken_of_stage (hi : g.calls i = some (.changing k canonical))
    (hst : g.world.stage = .stopped) : g.Overtaken i := by
  refine ⟨?_, Or.inl ⟨k, canonical, hi⟩⟩
  unfold World.stage Lifecycle.stage at hst
  split at hst
  · cases hst
  · cases hst
  · assumption

theorem Overtaken.turn (h : g.Overtaken i) (t : Turn) : (g.turn t).Overtaken i := by
  refine ⟨turn_stopped h.lifecycle t, ?_⟩
  by_cases hcall : (g.turn t).calls i = g.calls i
  · rw [hcall]
    exact h.call
  · obtain rfl := eq_call_of_calls hcall
    have hno {t : Site} (ht : g.world.site? = some t) : False := by
      simp [World.site?, h.lifecycle] at ht
    rcases g.turn_cases i with ⟨he, -⟩ | ⟨k, canonical, -, -, -, he⟩ |
      ⟨k, canonical, t, -, -, ht, -⟩ | ⟨ch, t, -, ht, -⟩ | ⟨p, hh, hi, hcalm, -⟩
    · exact absurd (by rw [he]) hcall
    · refine Or.inr ?_
      rw [he, calls_put_self]
      simp [World.refuse, World.stage, h.lifecycle, Lifecycle.stage]
    · exact (hno ht).elim
    · exact (hno ht).elim
    · rcases h.call with ⟨k, canonical, hi'⟩ | hi'
      · rw [hi] at hi'
        exact absurd (Option.some.inj hi') (hcalm k canonical)
      · rw [turn_put hh hi' (Progress.calm_answered _) rfl, put_of_calls hi'] at hcall
        exact absurd rfl hcall

theorem Overtaken.run (h : g.Overtaken i) (σ : List Turn) : (g.run σ).Overtaken i := by
  induction σ generalizing g with
  | nil => exact h
  | cons t σ ih => exact ih (h.turn t)

/-- A loop serves a kind at no other address than one, if it serves it at all. -/
def Marks (g : Crowd) (k : Kind) (id : LoopId) (address : String) : Prop :=
  g.world.lifecycle = .stopped ∨ ∃ t, g.world.site? = some t ∧ id < t.loops.length ∧
    ∀ e, t.registry.entries k = some e → e.serving = some id → e.address = address

theorem Marks.turn (hg : Sound cs g) {id : LoopId} {address : String} (h : g.Marks k id address)
    (turn : Turn) : (g.turn turn).Marks k id address := by
  rcases h with hl | ⟨t, ht, hlt, haddress⟩
  · exact Or.inl (turn_stopped hl turn)
  · cases turn with
    | event e =>
      obtain ⟨t', ht', hr, hlen⟩ := site?_event e ht
      exact Or.inr ⟨t', ht', hlen ▸ hlt, hr ▸ haddress⟩
    | call i =>
      rcases hg.turn_entries ht i with ⟨-, hl⟩ | ⟨t', ht', hlen, hentries⟩
      · exact Or.inl hl
      · refine Or.inr ⟨t', ht', Nat.lt_of_lt_of_le hlt hlen, fun e he hid => ?_⟩
        rcases hentries k with hsame | ⟨-, hnew⟩
        · exact haddress e (hsame ▸ he) hid
        · obtain rfl : id = t.loops.length := Option.some.inj (hid.symm.trans (hnew e he))
          exact absurd hlt (Nat.lt_irrefl _)

theorem Marks.run (hg : Sound cs g) {id : LoopId} {address : String} (h : g.Marks k id address)
    (σ : List Turn) : (g.run σ).Marks k id address := by
  induction σ generalizing g with
  | nil => exact h
  | cons t σ ih => exact ih (hg.turn t) (h.turn hg t)

/-- A loop that a kind was moved to serves it at the address that was asked for as long as it serves
it. -/
theorem marks_of_heeds (ht : g.world.site? = some t) (hh : t.Heeds k canonical)
    (hne : canonical ≠ "") (hport : asksForPort canonical = false) :
    ∃ id, t.loopsOf k = [id] ∧ g.Marks k id canonical := by
  unfold Site.Heeds at hh
  cases he : t.registry.entries k with
  | none => simp [he, hne] at hh
  | some e =>
    simp only [he, hport, Bool.false_eq_true, false_and, or_false] at hh
    obtain ⟨-, ⟨id, l, hv⟩, haddress⟩ := hh
    refine ⟨id, by simp [Site.loopsOf, he, hv.serving], Or.inr ⟨t, ht, ?_, fun e' he' _ => ?_⟩⟩
    · exact (List.getElem?_eq_some_iff.mp hv.loop).1
    · obtain rfl : e = e' := Option.some.inj (he.symm.trans he')
      exact haddress

/-- A request for what a kind has by now, on a loop that runs, is granted and changes nothing. -/
theorem Sound.granted (hg : Sound cs g) (hh : g.holder = none) (hc : cs[j]? = some (.update k text))
    (hm : Move.Valid ⟨k, text, canonical⟩) {p : Progress} (hj : g.calls j = some p)
    (hp : p.isDecided = false) (ht : g.world.site? = some t)
    (hcur : t.isCurrent k canonical = true) :
    g.turn (.call j) = g.put j (.answered (.done (.ok ()))) := by
  obtain ⟨c, hc', hof⟩ := hg.calls hj
  obtain rfl : c = .update k text := Option.some.inj (hc'.symm.trans hc)
  cases p with
  | draining ids => cases hp
  | answered a => cases hp
  | changing k' canonical' =>
    obtain ⟨text', he, hm'⟩ := hof
    cases he
    obtain rfl : canonical = canonical' := Except.ok.inj (hm.canonical.symm.trans hm'.canonical)
    rw [turn_begin hh hj ht, Site.beginChange_current hcur, resume_free hh (World.ofSite_of_site? ht)]
  | fresh c =>
    obtain rfl : c = .update k text := hof
    refine turn_put hh hj (Progress.calm_fresh _) ?_
    rw [stepCall_update hm, ht]
    simp only [hcur, if_pos]

/-- A move that is granted stands, when nobody else moves the kind or stops the registry. -/
theorem Sound.stands (hg : Sound cs g) (hc : cs[i]? = some (.update k text))
    (hothers : ∀ j, j ≠ i → cs[j]? ≠ some .down ∧ ∀ text, cs[j]? ≠ some (.update k text))
    (hfirst : g.calls i ≠ some (.answered (.done (.ok ())))) {σ : List Turn}
    (hok : (g.run σ).calls i = some (.answered (.done (.ok ())))) :
    ∃ canonical t, k.canonicalize text = .ok canonical ∧ (g.run σ).world.site? = some t ∧
      t.Heeds k canonical := by
  obtain ⟨σ₁, t, σ₂, rfl, hno, hyes⟩ :=
    exists_turn (P := fun g => g.calls i = some (.answered (.done (.ok ())))) hfirst hok
  obtain rfl := eq_call_of_calls fun he => hno (he.symm.trans hyes)
  have hsound := hg.run σ₁
  obtain ⟨canonical, t, hk, hcan, ht, hheeds⟩ := hsound.heeds hc hno hyes
  obtain ⟨t', ht', hentry⟩ := (hsound.turn (.call i)).keeps hyes hothers ht σ₂
  rw [run_append, run_cons]
  refine ⟨canonical, t', hcan, ht', ?_⟩
  -- the entry is the same, but its loop serves in a later registry
  have hlast := (((hsound.turn (.call i)).run σ₂).world.site ht')
  unfold Site.Heeds at hheeds ⊢
  rw [hentry]
  cases he : t.registry.entries k with
  | none => simpa only [he] using hheeds
  | some e =>
    simp only [he] at hheeds ⊢
    exact ⟨hheeds.1, hlast.serves (hentry.trans he), hheeds.2.2⟩

omit [Platform] in
/-- A loop that serves a kind at the address it is marked with, and has not exited, makes the kind
current there. -/
theorem Marks.isCurrent {id : LoopId} (hm : g.Marks k id canonical) (ht : g.world.site? = some t)
    (hid : t.loopsOf k = [id]) (hrun : t.isRunning id = true) : t.isCurrent k canonical = true := by
  rcases hm with hl | ⟨t', ht', -, haddress⟩
  · simp [World.site?, hl] at ht
  · obtain rfl : t = t' := Option.some.inj (ht.symm.trans ht')
    unfold Site.loopsOf at hid
    unfold Site.isCurrent
    cases he : t.registry.entries k with
    | none => simp [he] at hid
    | some e =>
      have hserving : e.serving = some id := by
        cases hs : e.serving <;> simp_all
      simp [haddress e he hserving, hserving, hrun]

/-! ### All of it -/

/-- What the callers of a registry can rely on, however their calls overlap. -/
structure Orderly (w : World) (cs : List Command) : Prop where
  /-- Calls that were all answered have come to what they come to one at a time, in the order in which
  they were decided. -/
  serial : ∀ σ : List Turn,
    (∀ i p, ((start w cs).run σ).calls i = some p → ∃ a, p = .answered a) →
    ∃ σ', (start w cs).Serial σ' ∧ σ'.filterMap Turn.event? = σ.filterMap Turn.event? ∧
      (start w cs).decisions σ' = (start w cs).decisions σ ∧
      (start w cs).run σ' = (start w cs).run σ
  /-- Steps of calls that are taken as a whole, in any order, are turns of theirs. -/
  whole : ∀ schedule : List Nat, ∃ σ, (start w cs).run σ =
    ⟨(w.interleave (cs.map .fresh) schedule).2,
      fun i => (w.interleave (cs.map .fresh) schedule).1[i]?, none⟩
  /-- Whoever reads an address reads it when no change is under way. -/
  address : ∀ (i : Nat) (k : Kind) (σ : List Turn) (a : Answer), cs[i]? = some (.address k) →
    ((start w cs).run σ).calls i = some (.answered a) → ∃ σ₁ σ₂, σ = σ₁ ++ .call i :: σ₂ ∧
      ((start w cs).run σ₁).holder = none ∧ a = .address (((start w cs).run σ₁).world.address k)
  /-- So does whoever reads all of them. -/
  listing : ∀ (i : Nat) (σ : List Turn) (a : Answer), cs[i]? = some .listing →
    ((start w cs).run σ).calls i = some (.answered a) → ∃ σ₁ σ₂, σ = σ₁ ++ .call i :: σ₂ ∧
      ((start w cs).run σ₁).holder = none ∧ a = .listing ((start w cs).run σ₁).world.listing
  /-- A move that was granted stands, whatever becomes of other kinds. -/
  stands : ∀ (i : Nat) (k : Kind) (text : String) (σ : List Turn), cs[i]? = some (.update k text) →
    (∀ j, j ≠ i → cs[j]? ≠ some .down ∧ ∀ text, cs[j]? ≠ some (.update k text)) →
    ((start w cs).run σ).calls i = some (.answered (.done (.ok ()))) →
    ∃ canonical t, k.canonicalize text = .ok canonical ∧
      ((start w cs).run σ).world.site? = some t ∧ t.Heeds k canonical
  /-- A move that a stop has overtaken is told so. -/
  overtaken : ∀ (i : Nat) (k : Kind) (canonical : String) (σ σ' : List Turn) (a : Answer),
    ((start w cs).run σ).calls i = some (.changing k canonical) →
    ((start w cs).run σ).world.stage = .stopped →
    ((start w cs).run (σ ++ σ')).calls i = some (.answered a) →
    a = .done (.error (.invalidState .reconfigure .stopped))
  /-- Of two moves to the same address, which does not ask for a port, the second one changes nothing
  as long as the loop of the first one serves the kind and has not exited. -/
  once : ∀ (i j : Nat) (k : Kind) (text text' canonical : String) (σ : List Turn),
    cs[i]? = some (.update k text) → k.canonicalize text = .ok canonical →
    cs[j]? = some (.update k text') → k.canonicalize text' = .ok canonical →
    canonical ≠ "" → asksForPort canonical = false →
    ((start w cs).run σ).calls i ≠ some (.answered (.done (.ok ()))) →
    ((start w cs).run (σ ++ [.call i])).calls i = some (.answered (.done (.ok ()))) →
    ∃ t id, ((start w cs).run (σ ++ [.call i])).world.site? = some t ∧ t.loopsOf k = [id] ∧
      ∀ (σ' : List Turn) (g : Crowd) (t' : Site) (p : Progress),
        (start w cs).run (σ ++ [.call i] ++ σ') = g → g.holder = none → g.calls j = some p →
        p.isDecided = false → g.world.site? = some t' → t'.loopsOf k = [id] →
        t'.isRunning id = true → g.turn (.call j) = g.put j (.answered (.done (.ok ())))

/-- A registry in any state that it can come to keeps its callers in order. -/
theorem orderly {s : Scene} (hr : s.Reachable) (cs : List Command) : Orderly s.world cs := by
  have hstart : Sound cs (start s.world cs) := sound_start hr.sound.world cs
  have hfresh {i : Nat} {c : Command} (hc : cs[i]? = some c) :
      (start s.world cs).calls i = some (.fresh c) := by simp [start, hc]
  refine ⟨fun σ hend => exists_serial s.world cs hend, fun schedule => ?_,
    fun i k σ a hc ha => ?_, fun i σ a hc ha => ?_, fun i k text σ hc hothers hok => ?_,
    fun i k canonical σ σ' a hi hst ha => ?_,
    fun i j k text text' canonical σ hc hcan hc' hcan' hne hport hno hok => ?_⟩
  · obtain ⟨σ, hσ⟩ := exists_run s.world (cs.map .fresh) schedule
    refine ⟨σ, Eq.trans ?_ hσ⟩
    simp [start]
  · obtain ⟨σ₁, σ₂, hσ, hh, hq⟩ := hstart.told (hfresh hc) nofun nofun ha
    exact ⟨σ₁, σ₂, hσ, hh, (Progress.answered.inj hq).symm⟩
  · obtain ⟨σ₁, σ₂, hσ, hh, hq⟩ := hstart.told (hfresh hc) nofun nofun ha
    exact ⟨σ₁, σ₂, hσ, hh, (Progress.answered.inj hq).symm⟩
  · exact hstart.stands hc hothers (by rw [hfresh hc]; nofun) hok
  · rw [run_append] at ha
    have hover := overtaken_of_stage hi hst
    rcases (hover.run σ').call with ⟨k', canonical', hi'⟩ | hi'
    · rw [ha] at hi'
      cases hi'
    · exact Progress.answered.inj (Option.some.inj (ha.symm.trans hi'))
  · have hsound := hstart.run σ
    rw [run_append] at hok
    obtain ⟨canonical', t, hk, hcan'', ht, hheeds⟩ := hsound.heeds hc hno hok
    obtain rfl : canonical = canonical' := Except.ok.inj (hcan.symm.trans hcan'')
    obtain ⟨id, hid, hmarks⟩ := marks_of_heeds ht hheeds hne hport
    rw [run_append]
    refine ⟨t, id, ht, hid, fun σ' g t' p hg hh hj hp ht' hid' hrun => ?_⟩
    rw [run_append, run_append] at hg
    have hg' := (hsound.turn (.call i)).run σ'
    have hlast := Marks.run (hsound.turn (.call i)) hmarks σ'
    rw [show ((start s.world cs).run σ).turn (.call i) =
      ((start s.world cs).run σ).run [.call i] from rfl, hg] at hg' hlast
    exact hg'.granted hh hc' ⟨hk, hcan'⟩ hj hp ht' (hlast.isCurrent ht' hid' hrun)

end Crowd

namespace Crowd

/-- A request to move consoles finds a reason for a change, and then the registry is stopped. -/
theorem orderly_picking : ∃ (cs : List Command) (σ σ' : List Turn) (canonical : String),
    Orderly World.picking cs ∧
    ((start World.picking cs).run σ).calls 0 = some (.changing .vmConsole canonical) ∧
    ((start World.picking cs).run σ).world.stage = .stopped ∧
    ((start World.picking cs).run (σ ++ σ')).calls 0 =
      some (.answered (.done (.error (.invalidState .reconfigure .stopped)))) := by
  refine ⟨[.update .vmConsole "any:5000", .down], [.call 0, .call 1], [.call 0],
    "4294967295:5000", orderly World.reachable_picking _, ?_⟩
  have hlook := World.stepCall_picking
  obtain ⟨t, -, ht, -⟩ := World.picking_eq
  generalize World.picking = w at hlook ht
  generalize hg : start w [.update .vmConsole "any:5000", .down] = g
  have hfirst : g.turn (.call 0) = g.put 0 (.changing .vmConsole "4294967295:5000") := by
    subst hg
    exact turn_put (p := .fresh (.update .vmConsole "any:5000")) rfl rfl (Progress.calm_fresh _) hlook
  have hsecond : ((g.turn (.call 0)).turn (.call 1)).world.lifecycle = .stopped ∧
      ((g.turn (.call 0)).turn (.call 1)).holder = none ∧
      ((g.turn (.call 0)).turn (.call 1)).calls 0 =
        some (.changing .vmConsole "4294967295:5000") := by
    rw [calls_turn_of_ne (by decide), hfirst, calls_put_self]
    subst hg
    rw [turn_calm (p := .fresh .down) rfl rfl (Progress.calm_fresh _)]
    refine ⟨?_, rfl, rfl⟩
    simp only [World.stepCall, World.beginDown, world_put, start, ht]
  obtain ⟨hl, hh, hi⟩ := hsecond
  refine ⟨hi, ?_, ?_⟩
  · simp only [run_cons, run_nil, World.stage, hl, Lifecycle.stage]
  · simp only [run_append, run_cons, run_nil]
    rw [turn_late hh hi (by simp [World.site?, hl]), calls_put_self]
    simp [World.refuse, World.stage, hl, Lifecycle.stage]

end Crowd
end Portkeeper
