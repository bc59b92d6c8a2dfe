import Portkeeper.Proofs.Registry.Inheriting
import Portkeeper.Proofs.Registry.Planning

/-!
Binding what a plan lists. What has been opened so far is followed along the plan: every fresh
listener has a socket of its own, no kind is opened twice, and when binding stops nothing but what
was opened has to be closed again.
-/

set_option autoImplicit false

namespace Portkeeper

namespace Opened

theorem has_iff {o : Opened} {k : Kind} : o.has k = true ↔ ∃ e ∈ o, e.1.kind = k := by
  simp [has]

theorem has_append (o p : Opened) (k : Kind) : (o ++ p).has k = (o.has k || p.has k) := by
  simp [has]

theorem close_eq (o : Opened) (h : Host) : o.close h = h.dropAll (o.map Prod.fst) := rfl

end Opened

namespace Config

variable [Platform] {c : Config} {h h' h₁ : Host} {base fresh : Opened}

/-- What a listener that was just bound is made of. -/
structure Fresh (c : Config) (h : Host) (l : Listener) (address : String) : Prop where
  descriptor : l.descriptor = none
  provenance : l.provenance = .bound
  tls : c.bundle.acceptorFor l.kind = .ok l.tls
  file : l.kind.isNetwork = true → l.file = none
  named : ∃ n, l.kind.Asks address n ∧ h.sockets.get? l.socket = some ⟨n, .stream, true⟩

theorem Fresh.later {l : Listener} {address : String} (hf : c.Fresh h l address) (hl : l.Holds h)
    (hh : h.Later h') : c.Fresh h' l address := by
  obtain ⟨n, hn, hg⟩ := hf.named
  exact ⟨hf.descriptor, hf.provenance, hf.tls, hf.file, n, hn,
    (hh.sockets hl.bounded hl.spares).trans hg⟩

/-- Listeners that were bound after others had been taken over. -/
structure Has (c : Config) (h₁ : Host) (base fresh : Opened) (h : Host) : Prop where
  adds : h₁.Adds h (fresh.map Prod.fst)
  holding : h.Holding ((base ++ fresh).map Prod.fst)
  kinds : (base ++ fresh).Pairwise fun d e => d.1.kind ≠ e.1.kind
  made : ∀ e ∈ fresh, c.Fresh h e.1 e.2
  numbers : ∀ id : Nat, h₁.nextSocket ≤ id → id < h.nextSocket → ∃ e ∈ fresh, e.1.socket = id

theorem Has.opens (hb : c.Has h₁ base fresh h) {k : Kind} {address : String} {l : Listener}
    (hk : (base ++ fresh).has k = false) (ho : h.Opens h' k address c.bundle l) :
    c.Has h₁ base (fresh ++ [(l, address)]) h' := by
  refine ⟨?_, ?_, ?_, fun e he => ?_, fun id hle hlt => ?_⟩
  · rw [List.map_append]
    exact hb.adds.opens ho
  · rw [← List.append_assoc, List.map_append]
    exact hb.holding.opens hb.adds.sound ho
  · rw [← List.append_assoc]
    refine List.pairwise_append.mpr ⟨hb.kinds, List.pairwise_singleton _ _, fun d hd e he => ?_⟩
    rw [List.mem_singleton.mp he]
    intro hc
    rw [Opened.has_iff.mpr ⟨d, hd, hc.trans ho.kind⟩] at hk
    cases hk
  · rcases List.mem_append.mp he with he | he
    · have hin : e.1 ∈ (base ++ fresh).map Prod.fst :=
        List.mem_map_of_mem (List.mem_append_right _ he)
      exact (hb.made e he).later (hb.holding.holds _ hin) ho.later
    · rw [List.mem_singleton.mp he]
      obtain rfl := ho.kind
      obtain ⟨n, hn, hg⟩ := ho.named
      exact ⟨ho.descriptor, ho.provenance, ho.tls, fun hnet => (ho.network hnet).1, n, hn, hg⟩
  · obtain ⟨n, -, hg⟩ := ho.name
    rw [hg.next] at hlt
    rcases Nat.lt_succ_iff_lt_or_eq.mp hlt with hlt | rfl
    · obtain ⟨e, he, hid⟩ := hb.numbers id hle hlt
      exact ⟨e, List.mem_append_left _ he, hid⟩
    · exact ⟨_, List.mem_append_right _ List.mem_cons_self, ho.socket⟩

/-- When binding succeeds, exactly what was planned and not taken over is fresh. -/
theorem bindAll_ok {plan : List (Kind × String)} {o : Opened} (hb : c.Has h₁ base fresh h)
    (hr : c.bindAll (base ++ fresh) h plan = (.ok o, h')) :
    ∃ more, o = base ++ (fresh ++ more) ∧ c.Has h₁ base (fresh ++ more) h' ∧
      (∀ e ∈ more, (e.1.kind, e.2) ∈ plan) ∧
      (∀ k, o.has k = true ↔ (base ++ fresh).has k = true ∨ k ∈ plan.map Prod.fst) ∧
      ((∀ e ∈ plan, e.1.isNetwork = true) → h'.files = h.files) := by
  induction plan generalizing fresh h with
  | nil =>
    cases hr
    exact ⟨[], by simp, by simpa using hb, by simp, by simp, fun _ => rfl⟩
  | cons p plan ih =>
    obtain ⟨k, address⟩ := p
    rw [bindAll] at hr
    split at hr
    · rename_i hhas
      obtain ⟨more, rfl, hb', hmem, hiff, hf⟩ := ih hb hr
      refine ⟨more, rfl, hb', fun e he => List.mem_cons_of_mem _ (hmem e he), fun k' => ?_,
        fun hnet => hf fun e he => hnet e (List.mem_cons_of_mem _ he)⟩
      rw [hiff, List.map_cons, List.mem_cons]
      by_cases hk : k' = k
      · simp [hk, hhas]
      · simp [hk]
    · rename_i hhas
      cases hl : h.listen k address c.bundle with
      | mk r h₂ =>
        rw [hl] at hr
        cases r with
        | error e => cases hr
        | ok l =>
          have ho : h.Opens h₂ k address c.bundle l := Host.listen_spec hb.adds.sound hl
          have hb₂ := hb.opens (by simpa using hhas) ho
          have hr : c.bindAll (base ++ (fresh ++ [(l, address)])) h₂ plan = (.ok o, h') := by
            rw [← List.append_assoc]
            exact hr
          obtain ⟨more, rfl, hb', hmem, hiff, hf⟩ := ih hb₂ hr
          refine ⟨(l, address) :: more, by simp, by simpa using hb', fun e he => ?_, fun k' => ?_,
            fun hnet => (hf fun e he => hnet e (List.mem_cons_of_mem _ he)).trans
              (ho.network (hnet _ List.mem_cons_self)).2⟩
          · rcases List.mem_cons.mp he with rfl | he
            · rw [ho.kind]
              exact List.mem_cons_self
            · exact List.mem_cons_of_mem _ (hmem e he)
          · rw [hiff, ← List.append_assoc, Opened.has_append, Bool.or_eq_true, List.map_cons,
              List.mem_cons, or_assoc]
            refine or_congr_right (or_congr_left ?_)
            simp [Opened.has, ho.kind, eq_comm]

/-- When binding fails, all that stood before in the plan had been bound, and everything that was
opened is closed. -/
theorem bindAll_error {plan : List (Kind × String)} {o : Opened} {e : EndpointError}
    (hr : c.bindAll o h plan = (.error e, h')) :
    ∃ before k address after o' h₁ h₂, plan = before ++ (k, address) :: after ∧
      c.bindAll o h before = (.ok o', h₁) ∧ o'.has k = false ∧
      h₁.listen k address c.bundle = (.error e, h₂) ∧ h' = o'.close h₂ := by
  induction plan generalizing o h with
  | nil => cases hr
  | cons p plan ih =>
    obtain ⟨k, address⟩ := p
    rw [bindAll] at hr
    split at hr
    · rename_i hhas
      obtain ⟨before, k', address', after, o', h₁, h₂, rfl, hbefore, hrest⟩ := ih hr
      refine ⟨(k, address) :: before, k', address', after, o', h₁, h₂, rfl, ?_, hrest⟩
      rw [bindAll, if_pos hhas, hbefore]
    · rename_i hhas
      cases hl : h.listen k address c.bundle with
      | mk r h₂ =>
        rw [hl] at hr
        cases r with
        | error e' =>
          cases hr
          exact ⟨[], k, address, plan, o, h, h₂, rfl, rfl, by simpa using hhas, hl, rfl⟩
        | ok l =>
          obtain ⟨before, k', address', after, o', h₁, h₃, rfl, hbefore, hrest⟩ := ih hr
          refine ⟨(k, address) :: before, k', address', after, o', h₁, h₃, rfl, ?_, hrest⟩
          rw [bindAll, if_neg hhas, hl]
          exact hbefore

/-! ### Taking over, then binding -/

/-- How many descriptors were handed over. -/
def count (c : Config) : Nat := c.handedOver.getD 0

/-- The kinds that were handed over. -/
def inheritedKinds (c : Config) : List Kind := Inheritance.order.take c.count

/-- The fault of a descriptor that was handed over. -/
def fault? (c : Config) (h : Host) (place : Nat) : Option EndpointError :=
  Inheritance.fault? c.count c.firstDescriptor c.bundle h place

/-- All descriptors that were handed over can be taken over, and are for kinds that have a handler. -/
structure Accepts (c : Config) (h : Host) : Prop where
  sockets : ∀ i < c.count, c.fault? h i = none
  handlers : ∀ k ∈ c.inheritedKinds, c.hasServer k = true

/-- The first thing that is wrong with a start, in the order in which things are looked at: a
descriptor, an inherited kind without a handler, the plan, or a place that cannot be bound once those
before it in the plan are. The number says how many descriptors had been adopted by then. -/
inductive Fails (c : Config) (h : Host) : EndpointError → Nat → Prop
  | activation {j : Nat} {e : EndpointError} (hj : j < c.count) (hf : c.fault? h j = some e)
      (hb : ∀ i < j, c.fault? h i = none) :
      Fails c h e (if Inheritance.Exceeds c.firstDescriptor j then j else j + 1)
  | handler {k : Kind} (ha : ∀ i < c.count, c.fault? h i = none)
      (hk : c.inheritedKinds.find? (fun k => !c.hasServer k) = some k) :
      Fails c h (.config ("Inherited " ++ k.name ++ " listener has no request handler")) c.count
  | plan {e : EndpointError} (ha : c.Accepts h) (hp : c.plan = .error e) : Fails c h e c.count
  | bind {before after : List (Kind × String)} {k : Kind} {address : String} {base o : Opened}
      {h₁ h₂ h₃ : Host} {e : EndpointError} (ha : c.Accepts h)
      (hp : c.plan = .ok (before ++ (k, address) :: after))
      (hi : c.inheritAll h = (.ok base, h₁)) (hb : c.bindAll base h₁ before = (.ok o, h₂))
      (hk : o.has k = false) (he : h₂.listen k address c.bundle = (.error e, h₃)) :
      Fails c h e c.count

theorem inheritAll_eq (c : Config) (h : Host) :
    c.inheritAll h = match h.inherit c.count c.firstDescriptor c.bundle with
      | (.error e, h) => (.error e, h)
      | (.ok ls, h) =>
        match ls.find? fun l => !c.hasServer l.kind with
        | some l => (.error (.config
            ("Inherited " ++ l.kind.name ++ " listener has no request handler")), h.dropAll ls)
        | none => (.ok (ls.map (·, "")), h) := by
  unfold inheritAll count
  cases c.handedOver with
  | none => rfl
  | some n => rfl

/-- What was taken over, once all of it was. -/
structure TakenOver (c : Config) (h : Host) (ls : List Listener) (h₁ : Host) : Prop where
  accepts : c.Accepts h
  partway : Inheritance.Partway h c.firstDescriptor c.bundle c.count ls h₁
  kinds : ls.map Listener.kind = c.inheritedKinds
  idle : c.count = 0 → h₁ = h

theorem inheritAll_ok (hs : h.Sound) {o : Opened} (hr : c.inheritAll h = (.ok o, h')) :
    ∃ ls, o = ls.map (·, "") ∧ c.TakenOver h ls h' := by
  rw [inheritAll_eq] at hr
  cases hi : h.inherit c.count c.firstDescriptor c.bundle with
  | mk r h₁ =>
    rw [hi] at hr
    have hspec := Host.inherit_spec hs hi
    cases r with
    | error e => cases hr
    | ok ls =>
      obtain ⟨hfault, hp, hk⟩ := hspec
      dsimp only at hr
      split at hr
      · cases hr
      · rename_i hfind
        cases hr
        refine ⟨ls, rfl, ⟨fun i hlt => hfault i (Nat.zero_le _) hlt, fun k hmem => ?_⟩, hp, hk,
          fun h0 => ?_⟩
        · rw [inheritedKinds, ← hk] at hmem
          obtain ⟨l, hl, rfl⟩ := List.mem_map.mp hmem
          simpa using List.find?_eq_none.mp hfind l hl
        · rw [h0] at hi
          cases hi
          rfl

theorem inheritAll_error (hs : h.Sound) {e : EndpointError}
    (hr : c.inheritAll h = (.error e, h')) :
    ∃ n, c.Fails h e n ∧ h.Undone h' c.firstDescriptor n ∧ h'.files = h.files := by
  rw [inheritAll_eq] at hr
  cases hi : h.inherit c.count c.firstDescriptor c.bundle with
  | mk r h₁ =>
    rw [hi] at hr
    have hspec := Host.inherit_spec hs hi
    cases r with
    | error e' =>
      cases hr
      obtain ⟨j, -, hj, hf, hb, hu, hfiles⟩ := hspec
      exact ⟨_, .activation hj hf fun i hlt => hb i (Nat.zero_le _) hlt, hu, hfiles⟩
    | ok ls =>
      obtain ⟨hfault, hp, hk⟩ := hspec
      dsimp only at hr
      split at hr
      · rename_i l hfind
        cases hr
        refine ⟨_, .handler (fun i hlt => hfault i (Nat.zero_le _) hlt) ?_, hp.undone,
          (Host.files_dropAll hp.fileless _).trans hp.files⟩
        rw [inheritedKinds, ← hk, List.find?_map]
        simp only [Function.comp_def, hfind, Option.map_some]
      · cases hr

/-- What has been taken over is where binding begins. -/
theorem TakenOver.has {ls : List Listener} (ht : c.TakenOver h ls h₁) :
    c.Has h₁ (ls.map (·, "")) [] h₁ := by
  have hmap : (ls.map fun l => (l, "")).map Prod.fst = ls := by
    rw [List.map_map]
    exact List.map_id ls
  refine ⟨Host.Adds.refl ht.partway.sound, ?_, ?_, by simp,
    fun id hle hlt => absurd hlt (Nat.not_lt.mpr hle)⟩
  · rw [List.append_nil, hmap]
    exact ht.partway.holding
  · rw [List.append_nil, List.pairwise_map, ← List.pairwise_map]
    have hnodup : (ls.map Listener.kind).Nodup := by
      rw [ht.kinds]
      exact List.Nodup.sublist (List.take_sublist _ _) (by decide)
    exact hnodup

/-- Whatever had been bound when binding stopped, closing all of it leaves nothing behind. -/
theorem TakenOver.undone {ls : List Listener} (ht : c.TakenOver h ls h₁)
    (hb : c.Has h₁ (ls.map (·, "")) fresh h') {h'' : Host} (hs : h''.Sound) (hst : h'.Steady h'') :
    h.Undone (Opened.close (ls.map (·, "") ++ fresh) h'') c.firstDescriptor c.count := by
  have hmap : (ls.map (·, "") ++ fresh).map Prod.fst = ls ++ fresh.map Prod.fst := by
    rw [List.map_append, List.map_map]
    exact congrArg (· ++ _) (List.map_id ls)
  have hh := hb.holding
  rw [hmap] at hh
  rw [Opened.close_eq, hmap]
  exact ht.partway.undone_adds (hb.adds.steady hs hst) (hh.later hst.later)

theorem openAll_error (hs : h.Sound) {e : EndpointError} (hr : c.openAll h = (.error e, h')) :
    ∃ n, c.Fails h e n ∧ h.Undone h' c.firstDescriptor n := by
  unfold openAll at hr
  cases hi : c.inheritAll h with
  | mk r h₁ =>
    rw [hi] at hr
    cases r with
    | error e' =>
      cases hr
      obtain ⟨n, hf, hu, -⟩ := inheritAll_error hs hi
      exact ⟨n, hf, hu⟩
    | ok base =>
      obtain ⟨ls, rfl, ht⟩ := inheritAll_ok hs hi
      cases hp : c.plan with
      | error e' =>
        rw [hp] at hr
        cases hr
        have hu := ht.undone ht.has ht.partway.sound (Host.Steady.refl h₁)
        rw [List.append_nil] at hu
        exact ⟨_, .plan ht.accepts hp, hu⟩
      | ok plan =>
        rw [hp] at hr
        obtain ⟨before, k, address, after, o, h₂, h₃, rfl, hb, hk, he, rfl⟩ := bindAll_error hr
        obtain ⟨more, rfl, hhas, -⟩ := bindAll_ok ht.has (by rwa [List.append_nil])
        have hd : h₂.Declines h₃ k address e := Host.listen_spec hhas.adds.sound he
        exact ⟨_, .bind ht.accepts hp hi hb hk he, ht.undone hhas hd.sound hd.steady⟩

/-- What was opened, once all of it was. -/
theorem openAll_ok (hs : h.Sound) {o : Opened} (hr : c.openAll h = (.ok o, h')) :
    ∃ ls h₁ fresh plan, c.TakenOver h ls h₁ ∧ c.plan = .ok plan ∧ o = ls.map (·, "") ++ fresh ∧
      c.bindAll (ls.map (·, "")) h₁ plan = (.ok o, h') ∧ c.Has h₁ (ls.map (·, "")) fresh h' ∧
      (∀ e ∈ fresh, (e.1.kind, e.2) ∈ plan) ∧
      ∀ k, o.has k = true ↔ k ∈ c.inheritedKinds ∨ k ∈ plan.map Prod.fst := by
  unfold openAll at hr
  cases hi : c.inheritAll h with
  | mk r h₁ =>
    rw [hi] at hr
    cases r with
    | error e' => cases hr
    | ok base =>
      obtain ⟨ls, rfl, ht⟩ := inheritAll_ok hs hi
      cases hp : c.plan with
      | error e' =>
        rw [hp] at hr
        cases hr
      | ok plan =>
        rw [hp] at hr
        obtain ⟨more, rfl, hhas, hmem, hiff, -⟩ := bindAll_ok ht.has (by rwa [List.append_nil])
        refine ⟨ls, h₁, more, plan, ht, rfl, rfl, hr, hhas, hmem, fun k => ?_⟩
        rw [hiff, List.append_nil]
        refine or_congr_left ?_
        rw [← ht.kinds]
        simp [Opened.has]

end Config
end Portkeeper
