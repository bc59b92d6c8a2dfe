import Portkeeper.Proofs.Registry.OpenedFiles
import Portkeeper.Proofs.Registry.Soundness

/-!
Serving what was opened. The listeners are recorded first and handed to loops one by one; as long as
only the entries that are served already are looked at, each step is like handing over a listener to
a running registry.
-/

set_option autoImplicit false

namespace Portkeeper

/-- No two of what was opened are of one kind. -/
theorem Opened.unique {o : Opened} (ho : o.Pairwise fun d e => d.1.kind ≠ e.1.kind)
    {d e : Listener × String} (hd : d ∈ o) (he : e ∈ o) (hk : d.1.kind = e.1.kind) : d = e := by
  obtain ⟨i, hi, rfl⟩ := List.getElem_of_mem hd
  obtain ⟨j, hj, rfl⟩ := List.getElem_of_mem he
  have hne := List.pairwise_iff_getElem.mp ho
  rcases Nat.lt_trichotomy i j with hlt | rfl | hgt
  · exact absurd hk (hne i j hi hj hlt)
  · rfl
  · exact absurd hk.symm (hne j i hj hi hgt)

namespace Site

variable {s s' : Site} {h : Host} {c : Config} {o : Opened} {done : List Kind}

/-- The entry of a listener that is not served yet. -/
def waiting (h : Host) (e : Listener × String) : Entry :=
  ⟨e.1.recordAs h e.2, e.1.provenance, some e.1, none⟩

/-- The entry of a listener that a loop serves. -/
def serving (h : Host) (e : Listener × String) (id : LoopId) : Entry :=
  ⟨e.1.recordAs h e.2, e.1.provenance, none, some id⟩

/-- A registry in which listeners have been recorded. -/
structure Records (s : Site) (o : Opened) (s' : Site) : Prop where
  host : s'.host = s.host
  loops : s'.loops = s.loops
  servers : s'.registry.servers = s.registry.servers
  bundle : s'.registry.bundle = s.registry.bundle
  retired : s'.registry.retired = s.registry.retired
  entries : ∀ e ∈ o, s'.registry.entries e.1.kind = some (waiting s.host e)
  others : ∀ k, o.has k = false → s'.registry.entries k = s.registry.entries k

theorem records_installs (s : Site) (ho : o.Pairwise fun d e => d.1.kind ≠ e.1.kind) :
    s.Records o (o.foldl (fun s e => s.install e.1 e.2) s) := by
  induction o generalizing s with
  | nil => exact ⟨rfl, rfl, rfl, rfl, rfl, by simp, fun _ _ => rfl⟩
  | cons e o ih =>
    have hp := List.pairwise_cons.mp ho
    obtain ⟨hh, hl, hr, hb, ht, he, hk⟩ := ih (s.install e.1 e.2) hp.2
    have hno : Opened.has o e.1.kind = false := by
      cases hhas : Opened.has o e.1.kind with
      | false => rfl
      | true =>
        obtain ⟨d, hd, hkind⟩ := Opened.has_iff.mp hhas
        exact absurd hkind.symm (hp.1 d hd)
    refine ⟨hh, hl, hr, hb, ht, fun d hd => ?_, fun k hk' => ?_⟩
    · rcases List.mem_cons.mp hd with rfl | hd
      · rw [List.foldl_cons, hk _ hno]
        exact Registry.entries_setEntry_self _ _ _
      · exact he d hd
    · have hhas : ¬e.1.kind = k ∧ Opened.has o k = false := by simpa [Opened.has] using hk'
      rw [List.foldl_cons, hk k hhas.2]
      exact Registry.entries_setEntry_of_ne _ _ (Ne.symm hhas.1)

/-- The registry with the entries of some kinds only. -/
def only (s : Site) (done : List Kind) : Site :=
  { s with registry := { s.registry with
      entries := fun k => if k ∈ done then s.registry.entries k else none } }

variable [Platform]

/-- A listener that was opened is ready to be served. -/
structure Ready (c : Config) (h : Host) (e : Listener × String) : Prop where
  server : c.hasServer e.1.kind = true
  file : e.1.kind.isNetwork = true → e.1.file = none
  socket : ∃ sk, h.sockets.get? e.1.socket = some sk ∧
    (e.1.kind.isNetwork = true → e.1.kind.Recorded (e.1.recordAs h e.2) sk.name) ∧
    (e.1.provenance = .bound → sk.type = .stream ∧ sk.listening = true)

/-- How far the serving of what was opened has come. -/
structure Fits (c : Config) (h : Host) (o : Opened) (done : List Kind) (s : Site) : Prop where
  host : s.host = h
  servers : s.registry.servers = c.servers
  bundle : s.registry.bundle = c.bundle
  retired : s.registry.retired = []
  sound : (s.only done).Sound
  waiting : ∀ e ∈ o, e.1.kind ∉ done → s.registry.entries e.1.kind = some (waiting h e)
  served : ∀ e ∈ o, e.1.kind ∈ done → ∃ id router, c.servers e.1.kind = some router ∧
    s.registry.entries e.1.kind = some (serving h e id) ∧ s.loops[id]? = some ⟨e.1, router, none, []⟩
  vacant : ∀ k, o.has k = false → s.registry.entries k = none
  loops : ∀ {i : LoopId} {m : Loop}, s.loops[i]? = some m → m.isOpen = true ∧
    ∃ e ∈ o, m.listener = e.1 ∧ e.1.kind ∈ done

/-- What a registry is before anything is served. -/
theorem Fits.start (hs : h.Sound) (ho : o.Pairwise fun d e => d.1.kind ≠ e.1.kind) :
    Fits c h o [] (o.foldl (fun s e => s.install e.1 e.2)
      ⟨h, [], ⟨fun _ => none, c.servers, c.bundle, []⟩⟩) := by
  have hrec := records_installs ⟨h, [], ⟨fun _ => none, c.servers, c.bundle, []⟩⟩ ho
  generalize o.foldl _ _ = s at hrec ⊢
  obtain ⟨rfl, hl, hr, hb, ht, he, hk⟩ := hrec
  have hno {i : LoopId} {m : Loop} (hm : s.loops[i]? = some m) : False := by
    rw [hl] at hm
    cases hm
  exact {
    host := rfl
    servers := hr
    bundle := hb
    retired := ht
    sound := {
      wired := by
        show Wired s.host s.loops
        rw [hl]
        exact Wired.nil hs
      serves := fun {k e} he => by simp [only] at he
      live := fun hm => (hno hm).elim
      owned := fun hm => (hno hm).elim
      fileless := fun hm => (hno hm).elim }
    waiting := fun e hm _ => he e hm
    served := by simp
    vacant := hk
    loops := fun hm => (hno hm).elim }

omit [Platform] in
/-- A listener that waits for its turn is handed to a loop. -/
theorem serve_waiting {e : Listener × String} {router : Router}
    (hr : s.registry.servers e.1.kind = some router)
    (hw : s.registry.entries e.1.kind = some (waiting s.host e)) :
    s.serve e.1.kind = (.ok (), s.hand e.1 router e.2) := by
  unfold Site.serve
  rw [hr, hw]
  rfl

omit [Platform] in
/-- As far as the kinds that are served are looked at, that is handing it over. -/
theorem only_hand (s : Site) (done : List Kind) (l : Listener) (router : Router)
    (requested : String) : (s.hand l router requested).only (done ++ [l.kind]) =
      (s.only done).hand l router requested := by
  unfold hand only Registry.setEntry
  dsimp only
  congr 2
  funext k
  by_cases hk : k = l.kind
  · simp [hk]
  · simp [hk]

/-- Serving one kind more. -/
theorem Fits.serve (hf : s.Fits c h o done) (hh : h.Holding (o.map Prod.fst))
    (ho : o.Pairwise fun d e => d.1.kind ≠ e.1.kind) {e : Listener × String} (he : e ∈ o)
    (hr : Ready c h e) (hnot : e.1.kind ∉ done) :
    ∃ s', s.serve e.1.kind = (.ok (), s') ∧ s'.Fits c h o (done ++ [e.1.kind]) := by
  obtain ⟨router, hrouter⟩ := Option.isSome_iff_exists.mp hr.server
  obtain ⟨rfl, hservers, hbundle, hretired, hsound, hwaiting, hserved, hvacant, hloops⟩ := hf
  have hserver : s.registry.servers e.1.kind = some router := hservers ▸ hrouter
  refine ⟨_, serve_waiting hserver (hwaiting e he hnot), {
    host := rfl
    servers := hservers
    bundle := hbundle
    retired := hretired
    sound := ?sound
    waiting := fun d hd hdn => ?waiting
    served := fun d hd hdd => ?served
    vacant := fun k hk => ?vacant
    loops := fun {i m} hm => ?loops }⟩
  case sound =>
    rw [only_hand]
    refine hsound.hand (by simp only [only, hnot, if_false]) hserver
      (hh.holds _ (List.mem_map_of_mem he)) (fun {i m} hm => ?_) hr.file hr.socket
    obtain ⟨-, d, hd, hm, hdone⟩ := hloops hm
    rw [hm]
    refine hh.apart_of_ne (List.mem_map_of_mem hd) (List.mem_map_of_mem he) fun hc => ?_
    rw [hc] at hdone
    exact hnot hdone
  case waiting =>
    rw [List.mem_append, not_or, List.mem_singleton] at hdn
    rw [entries_hand, if_neg hdn.2]
    exact hwaiting d hd hdn.1
  case served =>
    by_cases hk : d.1.kind = e.1.kind
    · obtain rfl := Opened.unique ho hd he hk
      refine ⟨s.loops.length, router, hrouter, ?_, ?_⟩
      · rw [entries_hand, if_pos rfl]
        rfl
      · rw [getElem?_hand, if_pos rfl]
    · have hdone : d.1.kind ∈ done := by simpa [hk] using hdd
      obtain ⟨i, r, hr, hentry, hloop⟩ := hserved d hd hdone
      refine ⟨i, r, hr, ?_, ?_⟩
      · rw [entries_hand, if_neg hk, hentry]
      · rw [getElem?_hand, if_neg (Nat.ne_of_lt (List.getElem?_eq_some_iff.mp hloop).1), hloop]
  case vacant =>
    have hne : k ≠ e.1.kind := by
      rintro rfl
      rw [Opened.has_iff.mpr ⟨e, he, rfl⟩] at hk
      cases hk
    rw [entries_hand, if_neg hne]
    exact hvacant k hk
  case loops =>
    rw [getElem?_hand] at hm
    split at hm
    · cases hm
      exact ⟨rfl, e, he, rfl, List.mem_append_right _ List.mem_cons_self⟩
    · obtain ⟨ho, d, hd, hdl, hdone⟩ := hloops hm
      exact ⟨ho, d, hd, hdl, List.mem_append_left _ hdone⟩

theorem Fits.serveAll (hf : s.Fits c h o done) (hh : h.Holding (o.map Prod.fst))
    (ho : o.Pairwise fun d e => d.1.kind ≠ e.1.kind) (hr : ∀ e ∈ o, Ready c h e) {ks : List Kind}
    (hks : ∀ k ∈ ks, o.has k = true ∧ k ∉ done) (hn : ks.Nodup) :
    ∃ s', s.serveAll ks = (.ok (), s') ∧ s'.Fits c h o (done ++ ks) := by
  induction ks generalizing s done with
  | nil => exact ⟨s, rfl, by simpa using hf⟩
  | cons k ks ih =>
    have hnd := List.nodup_cons.mp hn
    obtain ⟨hhas, hnot⟩ := hks k List.mem_cons_self
    obtain ⟨e, he, rfl⟩ := Opened.has_iff.mp hhas
    obtain ⟨s₁, hserve, hf₁⟩ := hf.serve hh ho he (hr e he) hnot
    have hrest : ∀ k ∈ ks, o.has k = true ∧ k ∉ done ++ [e.1.kind] := by
      intro k hk
      have hks := hks k (List.mem_cons_of_mem _ hk)
      refine ⟨hks.1, fun hmem => ?_⟩
      rcases List.mem_append.mp hmem with hmem | hmem
      · exact hks.2 hmem
      · exact hnd.1 (List.mem_singleton.mp hmem ▸ hk)
    obtain ⟨s', hall, hf'⟩ := ih hf₁ hrest hnd.2
    refine ⟨s', ?_, by simpa using hf'⟩
    rw [Site.serveAll, hserve]
    exact hall

/-- Once all kinds are served nothing is left out. -/
theorem Fits.only_eq (hf : s.Fits c h o done) (hd : ∀ k, o.has k = true → k ∈ done) :
    s.only done = s := by
  have hentries : (fun k => if k ∈ done then s.registry.entries k else none) = s.registry.entries := by
    funext k
    split
    · rfl
    · rename_i hk
      cases hhas : o.has k with
      | true => exact absurd (hd k hhas) hk
      | false => exact (hf.vacant k hhas).symm
  unfold only
  rw [hentries]

/-- What was opened is served. -/
theorem Fits.serves (hf : s.Fits c h o done) (hd : ∀ k, o.has k = true → k ∈ done)
    {e : Listener × String} (he : e ∈ o) : ∃ id router,
      s.registry.entries e.1.kind = some (serving h e id) ∧
      s.Serves e.1.kind (serving h e id) id ⟨e.1, router, none, []⟩ := by
  have hs : s.Sound := hf.only_eq hd ▸ hf.sound
  obtain ⟨id, router, -, hentry, hloop⟩ := hf.served e he (hd _ (Opened.has_iff.mpr ⟨e, he, rfl⟩))
  obtain ⟨id', l, hv⟩ := hs.serves hentry
  obtain rfl : id = id' := Option.some.inj hv.serving
  obtain rfl : l = ⟨e.1, router, none, []⟩ := Option.some.inj (hv.loop.symm.trans hloop)
  exact ⟨id, router, hentry, hv⟩

/-- Nothing else has an entry. -/
theorem Fits.opened (hf : s.Fits c h o done) {k : Kind} {e : Entry}
    (he : s.registry.entries k = some e) : ∃ d ∈ o, d.1.kind = k := by
  refine Opened.has_iff.mp ?_
  cases hhas : o.has k with
  | true => rfl
  | false =>
    rw [hf.vacant k hhas] at he
    cases he

end Site

namespace Config

variable [Platform] {c : Config} {h h₁ h' : Host} {fresh : Opened} {plan : List (Kind × String)}

/-- Everything that was opened can be served. -/
theorem TakenOver.ready {ls : List Listener} (ht : c.TakenOver h ls h₁) (hp : c.plan = .ok plan)
    (hb : c.Has h₁ (ls.map (·, "")) fresh h') (hm : ∀ e ∈ fresh, (e.1.kind, e.2) ∈ plan) :
    ∀ e ∈ ls.map (·, "") ++ fresh, Site.Ready c h' e := by
  intro e he
  rcases List.mem_append.mp he with he | he
  · obtain ⟨l, hl, rfl⟩ := List.mem_map.mp he
    have hk : l.kind ∈ c.inheritedKinds := ht.kinds ▸ List.mem_map_of_mem hl
    have hfile := ht.partway.fileless l hl
    obtain ⟨i, -, -, hin⟩ := ht.partway.place_of_mem hl
    obtain ⟨sk, hsk, hfam⟩ := hin.name
    have hsk' : h'.sockets.get? l.socket = some sk := by
      rw [hb.adds.old _ (ht.partway.holding.holds l hl).bounded, ht.partway.kept l hl, hsk]
    refine ⟨ht.accepts.handlers _ hk, fun _ => hfile, sk, hsk', fun _ => ?_, fun hbound => ?_⟩
    · rw [Listener.recordAs_network hfile hsk', if_pos (by simp)]
      exact ⟨Kind.formed_text hfam, hfam, Or.inl rfl⟩
    · rw [hin.provenance] at hbound
      cases hbound
  · have hf := hb.made e he
    obtain ⟨n, hn, hg⟩ := hf.named
    exact ⟨hasServer_of_plan hp (hm e he), hf.file, _, hg, fun hk =>
      Listener.recorded_fresh (hf.file hk) hg hn (formed_of_plan hp (hm e he) hk),
      fun _ => ⟨rfl, rfl⟩⟩

/-- A registry that has just come up. -/
structure Started (c : Config) (h : Host) (plan : List (Kind × String)) (s : Site) : Prop where
  planned : c.plan = .ok plan
  accepts : c.Accepts h
  sound : s.Sound
  servers : s.registry.servers = c.servers
  bundle : s.registry.bundle = c.bundle
  retired : s.registry.retired = []
  kinds : ∀ k, (s.registry.entries k).isSome = true ↔ k ∈ c.inheritedKinds ∨ k ∈ plan.map Prod.fst
  live : ∀ {k : Kind} {e : Entry}, s.registry.entries k = some e →
    ∃ id l, s.Serves k e id l ∧ l.closedAt = none ∧ l.visits = []
  inherited : ∀ {i : Nat} {k : Kind}, c.inheritedKinds[i]? = some k → ∃ e id l,
    s.registry.entries k = some e ∧ s.Serves k e id l ∧ e.provenance = .inherited ∧
    l.listener.descriptor = some (c.firstDescriptor + i) ∧
    ∃ b, h.descriptors.get? (c.firstDescriptor + i) = some ⟨b, .socket l.listener.socket⟩
  bound : ∀ {k : Kind} {e : Entry}, s.registry.entries k = some e → k ∉ c.inheritedKinds →
    ∃ address id l n, (k, address) ∈ plan ∧ s.Serves k e id l ∧ e.provenance = .bound ∧
      h.nextSocket ≤ l.listener.socket ∧ k.Asks address n ∧
      s.host.sockets.get? l.listener.socket = some ⟨n, .stream, true⟩
  numbers : ∀ id : Nat, h.nextSocket ≤ id → id < s.host.nextSocket → ∃ (i : LoopId) (l : Loop),
    s.loops[i]? = some l ∧ l.listener.socket = id ∧ l.listener.kind ∉ c.inheritedKinds
  now : s.host.now = h.now
  filed : ∀ {i : LoopId} {l : Loop}, s.loops[i]? = some l → l.isOpen = true ∧
    l.listener.Filed s.host.files (c.CutsOff h ∧ l.listener.kind = .localAdmin) true
  adopted : ∀ {i : LoopId} {l : Loop}, s.loops[i]? = some l → l.listener.descriptor ≠ none →
    l.listener.file = none ∧ c.count ≠ 0
  lost : c.CutsOff h → ∃ (i : LoopId) (l : Loop) (p : List Char), s.loops[i]? = some l ∧
    l.listener.kind = .localAdmin ∧ l.listener.file = some p
  kept : c.count ≠ 0 → ∀ {q : Place} {n : Node}, h.files.at? q = some n →
    h.files.entry c.guestPath ≠ .ok q → s.host.files.at? q = some n

theorem started (hs : h.Sound) {ls : List Listener} (ht : c.TakenOver h ls h₁)
    (hp : c.plan = .ok plan)
    (hr : c.bindAll (ls.map (·, "")) h₁ plan = (.ok (ls.map (·, "") ++ fresh), h'))
    (hb : c.Has h₁ (ls.map (·, "")) fresh h') (hm : ∀ e ∈ fresh, (e.1.kind, e.2) ∈ plan)
    (hiff : ∀ k, Opened.has (ls.map (·, "") ++ fresh) k = true ↔
      k ∈ c.inheritedKinds ∨ k ∈ plan.map Prod.fst) {s : Site}
    (hf : s.Fits c h' (ls.map (·, "") ++ fresh)
      (Kind.all.filter (Opened.has (ls.map (·, "") ++ fresh)))) : c.Started h plan s := by
  have hd (k : Kind) (hk : Opened.has (ls.map (·, "") ++ fresh) k = true) :
      k ∈ Kind.all.filter (Opened.has (ls.map (·, "") ++ fresh)) :=
    List.mem_filter.mpr ⟨k.mem_all, hk⟩
  have hfresh {e : Listener × String} (he : e ∈ fresh) : e ∈ ls.map (·, "") ++ fresh :=
    List.mem_append_right _ he
  have hbase {l : Listener} (hl : l ∈ ls) : (l, "") ∈ ls.map (·, "") ++ fresh :=
    List.mem_append_left _ (List.mem_map_of_mem hl)
  have hnew {e : Listener × String} (he : e ∈ fresh) : h.nextSocket ≤ e.1.socket :=
    ht.partway.next ▸ (hb.adds.fresh _ (List.mem_map_of_mem he)).1
  have hmem (k : Kind) : k ∈ c.inheritedKinds ↔ ∃ l ∈ ls, l.kind = k := by
    rw [← ht.kinds, List.mem_map]
  have htr : c.Traces h fresh s.host (c.CutsOff h) := by
    obtain ⟨-, net, rfl, hnet⟩ := plan_ok hp
    obtain ⟨fresh', hsame, -, htr⟩ := bindAll_traces hs ht hp (fun e he => (hnet e he).network) hr
    rw [hf.host, List.append_cancel_left hsame]
    exact htr
  refine {
    planned := hp
    accepts := ht.accepts
    sound := hf.only_eq hd ▸ hf.sound
    servers := hf.servers
    bundle := hf.bundle
    retired := hf.retired
    kinds := fun k => ?kinds
    live := fun {k e} he => ?live
    inherited := fun {i k} hi => ?inherited
    bound := fun {k e} he hno => ?bound
    numbers := fun id hle hlt => ?numbers
    now := by rw [hf.host, hb.adds.now, ht.partway.now]
    filed := fun {i l} hl => ?filed
    adopted := fun {i l} hl hne => ?adopted
    lost := fun hc => ?lost
    kept := htr.kept }
  case kinds =>
    rw [← hiff, Option.isSome_iff_exists, Opened.has_iff]
    constructor
    · rintro ⟨e, he⟩
      exact hf.opened he
    · rintro ⟨d, hd', rfl⟩
      obtain ⟨id, router, hentry, -⟩ := hf.serves hd hd'
      exact ⟨_, hentry⟩
  case live =>
    obtain ⟨d, hd', rfl⟩ := hf.opened he
    obtain ⟨id, router, hentry, hv⟩ := hf.serves hd hd'
    rw [he] at hentry
    cases hentry
    exact ⟨id, _, hv, rfl, rfl⟩
  case inherited =>
    rw [← ht.kinds, List.getElem?_map] at hi
    obtain ⟨l, hl, rfl⟩ := Option.map_eq_some_iff.mp hi
    have hin := ht.partway.inherited hl
    obtain ⟨id, router, hentry, hv⟩ := hf.serves hd (hbase (List.mem_of_getElem? hl))
    exact ⟨_, id, _, hentry, hv, hin.provenance, hin.descriptor, hin.socket⟩
  case bound =>
    obtain ⟨d, hd', rfl⟩ := hf.opened he
    obtain ⟨id, router, hentry, hv⟩ := hf.serves hd hd'
    rw [he] at hentry
    cases hentry
    have hin : d ∈ fresh := by
      rcases List.mem_append.mp hd' with hd' | hd'
      · obtain ⟨l, hl, rfl⟩ := List.mem_map.mp hd'
        exact absurd ((hmem _).mpr ⟨l, hl, rfl⟩) hno
      · exact hd'
    have hfr := hb.made d hin
    obtain ⟨n, hn, hg⟩ := hfr.named
    exact ⟨d.2, id, _, n, hm d hin, hv, hfr.provenance, hnew hin, hn, hf.host ▸ hg⟩
  case numbers =>
    rw [hf.host] at hlt
    obtain ⟨d, hin, rfl⟩ := hb.numbers id (ht.partway.next ▸ hle) hlt
    obtain ⟨i, router, -, hv⟩ := hf.serves hd (hfresh hin)
    refine ⟨i, _, hv.loop, rfl, fun hk => ?_⟩
    obtain ⟨l, hl, hkind⟩ := (hmem _).mp hk
    obtain rfl := Opened.unique hb.kinds (hbase hl) (hfresh hin) hkind
    have hlt' := (ht.partway.holding.holds l hl).bounded
    rw [ht.partway.next] at hlt'
    exact absurd hlt' (Nat.not_lt.mpr (hnew hin))
  case filed =>
    obtain ⟨ho, d, hd', hl, -⟩ := hf.loops hl
    refine ⟨ho, ?_⟩
    rw [hl]
    rcases List.mem_append.mp hd' with hd' | hd'
    · obtain ⟨m, hm, rfl⟩ := List.mem_map.mp hd'
      exact Listener.filed_none (ht.partway.fileless m hm)
    · exact htr.filed d hd'
  case adopted =>
    obtain ⟨-, d, hd', hl, -⟩ := hf.loops hl
    rw [hl] at hne ⊢
    rcases List.mem_append.mp hd' with hd' | hd'
    · obtain ⟨m, hm, rfl⟩ := List.mem_map.mp hd'
      refine ⟨ht.partway.fileless m hm, fun h0 => ?_⟩
      have hk := (hmem m.kind).mpr ⟨m, hm, rfl⟩
      simp [inheritedKinds, h0] at hk
    · exact absurd (hb.made d hd').descriptor hne
  case lost =>
    obtain ⟨d, hin, hk, p, hp⟩ := htr.lost hc
    obtain ⟨i, router, -, hv⟩ := hf.serves hd (hfresh hin)
    exact ⟨i, _, p, hv.loop, hk, hp⟩

end Config

namespace World

variable [Platform] {c : Config} {h : Host}

/-- A start that cannot open everything changes nothing but the host. -/
theorem up_error {e : EndpointError} {h' : Host} (hr : c.openAll h = (.error e, h')) :
    (unstarted h).up c = (.error e, unstarted h') := by
  unfold up unstarted
  simp only [hr]

/-- Once everything is open, serving it cannot fail. -/
theorem up_fits (hs : h.Sound) {o : Opened} {h' : Host} (hr : c.openAll h = (.ok o, h')) :
    ∃ s, (unstarted h).up c = (.ok (), ofSite s) ∧ s.Fits c h' o (Kind.all.filter o.has) := by
  obtain ⟨ls, h₁, fresh, plan, ht, hp, rfl, -, hhas, hmem, -⟩ := Config.openAll_ok hs hr
  have hks : ∀ k ∈ Kind.all.filter (Opened.has (ls.map (·, "") ++ fresh)),
      Opened.has (ls.map (·, "") ++ fresh) k = true ∧ k ∉ [] :=
    fun k hk => ⟨(List.mem_filter.mp hk).2, by simp⟩
  obtain ⟨s, hserve, hf⟩ := (Site.Fits.start (c := c) hhas.adds.sound hhas.kinds).serveAll
    hhas.holding hhas.kinds (ht.ready hp hhas hmem) hks
    (List.Nodup.sublist List.filter_sublist (by decide))
  rw [List.nil_append] at hf
  refine ⟨s, ?_, hf⟩
  unfold up unstarted
  simp only [hr, hserve]

theorem up_ok (hs : h.Sound) {o : Opened} {h' : Host} (hr : c.openAll h = (.ok o, h')) :
    ∃ s plan, (unstarted h).up c = (.ok (), ofSite s) ∧ c.Started h plan s := by
  obtain ⟨s, hup, hf⟩ := up_fits hs hr
  obtain ⟨ls, h₁, fresh, plan, ht, hp, rfl, hb, hhas, hmem, hiff⟩ := Config.openAll_ok hs hr
  exact ⟨s, plan, hup, Config.started hs ht hp hb hhas hmem hiff hf⟩

end World
end Portkeeper
