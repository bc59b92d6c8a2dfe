import Portkeeper.Registry.Stop
import Portkeeper.Proofs.Registry.Soundness

/-!
Closing every listener of a registry. It is as if the kinds were closed one by one, so nothing is open
afterwards, and every loop that has not exited is among those that are waited for.
-/

set_option autoImplicit false

namespace Portkeeper

/-- What holds of a host and loops, and still holds when the socket of a loop is closed. -/
structure Stable (P : Host → List Loop → Prop) : Prop where
  close : ∀ {h : Host} {loops : List Loop} {id : LoopId} {l : Loop}, P h loops →
    loops[id]? = some l → l.isOpen = true → P (h.drop l.listener) (loops.set id (l.close h.now))

theorem stable_wired : Stable Wired := ⟨fun hw hl ho => hw.close hl ho _⟩

namespace Site

variable {s g : Site} {P : Host → List Loop → Prop}

theorem closeLoop_stable (hP : Stable P) (hs : P s.host s.loops) (id : LoopId) :
    P (s.closeLoop id).host (s.closeLoop id).loops := by
  cases hl : s.loops[id]? with
  | none => simpa only [closeLoop, hl] using hs
  | some l =>
    rw [closeLoop_eq hl]
    split
    · rename_i ho
      exact hP.close hs hl ho
    · exact hs

variable [Platform]

theorem close_stable (hP : Stable P) (hg : g.Sound) (hs : P g.host g.loops) (k : Kind) :
    P (g.close k).2.host (g.close k).2.loops := by
  cases he : g.registry.entries k with
  | none => simpa only [close_none he] using hs
  | some e =>
    obtain ⟨id, l, hv⟩ := hg.serves he
    rw [close_eq hg he hv.serving]
    exact closeLoop_stable hP hs id

/-! ### One kind after the other -/

/-- The kinds closed one by one. -/
def closeEach (s : Site) (ks : List Kind) : Site := ks.foldl (fun s k => (s.close k).2) s

/-- Two registries that differ in what they keep as retired, at most. -/
structure Mirrors (s g : Site) : Prop where
  host : s.host = g.host
  loops : s.loops = g.loops
  entries : s.registry.entries = g.registry.entries

omit [Platform] in
theorem closeLoop_congr (hh : s.host = g.host) (hl : s.loops = g.loops) (id : LoopId) :
    (s.closeLoop id).host = (g.closeLoop id).host ∧
      (s.closeLoop id).loops = (g.closeLoop id).loops := by
  cases hg : g.loops[id]? with
  | none =>
    have hs : s.loops[id]? = none := hl ▸ hg
    simp only [closeLoop, hg, hs]
    exact ⟨hh, hl⟩
  | some l =>
    rw [closeLoop_eq hg, closeLoop_eq (hl ▸ hg : s.loops[id]? = some l)]
    split
    · simp [shut, now, hh, hl]
    · exact ⟨hh, hl⟩

/-- What closing all listeners does to one kind is what closing the kind does. -/
theorem Mirrors.release (hm : s.Mirrors g) (hg : g.Sound) (k : Kind) :
    (match s.registry.entries k with
      | some e => { s with registry := s.registry.setEntry k none }.release e
      | none => s).Mirrors (g.close k).2 := by
  cases he : g.registry.entries k with
  | none =>
    rw [close_none he]
    simp only [hm.entries, he]
    exact hm
  | some e =>
    obtain ⟨id, l, hv⟩ := hg.serves he
    rw [close_eq hg he hv.serving]
    simp only [hm.entries, he, Site.release, hv.listener, hv.serving]
    obtain ⟨hh, hl⟩ := closeLoop_congr (s := { s with registry := s.registry.setEntry k none })
      hm.host hm.loops id
    refine ⟨hh, hl, ?_⟩
    rw [registry_closeLoop]
    funext k'
    rw [entries_forget, registry_closeLoop, ← hm.entries]
    rfl

theorem Sound.closeEach (hs : s.Sound) (ks : List Kind) : (s.closeEach ks).Sound := by
  induction ks generalizing s with
  | nil => exact hs
  | cons k ks ih => exact ih (hs.close k)

theorem closeEach_stable (hP : Stable P) (hs : s.Sound) (h : P s.host s.loops) (ks : List Kind) :
    P (s.closeEach ks).host (s.closeEach ks).loops := by
  induction ks generalizing s with
  | nil => exact h
  | cons k ks ih => exact ih (hs.close k) (close_stable hP hs h k)

theorem Mirrors.releases (hm : s.Mirrors g) (hg : g.Sound) (ks : List Kind) :
    (ks.foldl (fun s k => match s.registry.entries k with
      | some e => { s with registry := s.registry.setEntry k none }.release e
      | none => s) s).Mirrors (g.closeEach ks) := by
  induction ks generalizing s g with
  | nil => exact hm
  | cons k ks ih => exact ih (hm.release hg k) (hg.close k)

theorem closeAll_mirrors (hs : s.Sound) : (s.closeAll).2.Mirrors (s.closeEach Kind.all) :=
  Mirrors.releases ⟨rfl, rfl, rfl⟩ hs Kind.all

theorem closeAll_stable (hP : Stable P) (hs : s.Sound) (h : P s.host s.loops) :
    P (s.closeAll).2.host (s.closeAll).2.loops := by
  have hm := closeAll_mirrors hs
  rw [hm.host, hm.loops]
  exact closeEach_stable hP hs h Kind.all

/-! ### What is left -/

theorem entries_close (hs : s.Sound) (k k' : Kind) :
    (s.close k).2.registry.entries k' = if k' = k then none else s.registry.entries k' := by
  cases he : s.registry.entries k with
  | none =>
    rw [close_none he]
    split
    · rename_i hk
      rw [hk, he]
    · rfl
  | some e =>
    obtain ⟨id, l, hv⟩ := hs.serves he
    rw [close_eq hs he hv.serving, entries_forget, registry_closeLoop]

/-- What is kept as retired was so before, or served the kind. -/
theorem mem_retired_close (hs : s.Sound) {k : Kind} {id : LoopId}
    (hr : id ∈ (s.close k).2.registry.retired) : id ∈ s.registry.retired ∨ id ∈ s.loopsOf k := by
  cases he : s.registry.entries k with
  | none =>
    rw [close_none he] at hr
    exact Or.inl hr
  | some e =>
    obtain ⟨i, l, hv⟩ := hs.serves he
    rw [close_eq hs he hv.serving] at hr
    rcases List.mem_append.mp hr with hr | hr
    · rw [registry_closeLoop] at hr
      exact Or.inl (List.mem_filter.mp hr).1
    · refine Or.inr ?_
      rw [List.mem_singleton.mp hr]
      simp [loopsOf, he, hv.serving]

theorem mem_loopsOf_close (hs : s.Sound) {k k' : Kind} {id : LoopId}
    (hr : id ∈ (s.close k).2.loopsOf k') : id ∈ s.loopsOf k' := by
  unfold loopsOf at hr ⊢
  rw [entries_close hs] at hr
  by_cases hk : k' = k
  · simp [hk] at hr
  · rwa [if_neg hk] at hr

theorem closeEach_spec (hs : s.Sound) (ks : List Kind) :
    (∀ k, (s.closeEach ks).registry.entries k = if k ∈ ks then none else s.registry.entries k) ∧
      ∀ id ∈ (s.closeEach ks).registry.retired,
        id ∈ s.registry.retired ∨ ∃ k ∈ ks, id ∈ s.loopsOf k := by
  induction ks generalizing s with
  | nil => exact ⟨by simp [closeEach], fun id hr => Or.inl hr⟩
  | cons k ks ih =>
    obtain ⟨hentries, hretired⟩ := ih (hs.close k)
    refine ⟨fun k' => ?_, fun id hr => ?_⟩
    · show ((s.close k).2.closeEach ks).registry.entries k' = _
      rw [hentries, entries_close hs]
      by_cases hk : k' = k
      · simp [hk]
      · simp [hk]
    · rcases hretired id hr with hr | ⟨k', hk', hr⟩
      · rcases mem_retired_close hs hr with hr | hr
        · exact Or.inl hr
        · exact Or.inr ⟨k, List.mem_cons_self, hr⟩
      · exact Or.inr ⟨k', List.mem_cons_of_mem _ hk', mem_loopsOf_close hs hr⟩

/-- After closing all listeners every loop is closed, and every loop that has not exited is waited
for. -/
theorem closeAll_spec (hs : s.Sound) :
    Wired (s.closeAll).2.host (s.closeAll).2.loops ∧ (s.closeAll).2.now = s.now ∧
      ∀ {id : LoopId} {l : Loop}, (s.closeAll).2.loops[id]? = some l →
        l.isOpen = false ∧ (l.isFinished s.now = false → id ∈ (s.closeAll).1) := by
  have hm := closeAll_mirrors hs
  have hg := hs.closeEach Kind.all
  have hnow : (s.closeAll).2.now = s.now :=
    closeAll_stable (P := fun h _ => h.now = s.host.now)
      ⟨fun hn _ _ => (Host.now_drop _ _).trans hn⟩ hs rfl
  obtain ⟨hentries, hretired⟩ := closeEach_spec hs Kind.all
  have hnone {k : Kind} {e : Entry} (he : (s.closeEach Kind.all).registry.entries k = some e) :
      False := by
    rw [hentries, if_pos k.mem_all] at he
    cases he
  refine ⟨closeAll_stable stable_wired hs hs.wired, hnow, fun {id l} hl => ?_⟩
  rw [hm.loops] at hl
  constructor
  · cases ho : l.isOpen with
    | false => rfl
    | true =>
      obtain ⟨k, e, he, -⟩ := hg.live hl ho
      exact (hnone he).elim
  · intro hf
    have hf' : l.isFinished (s.closeEach Kind.all).now = false := by
      rw [Site.now, ← hm.host, show (s.closeAll).2.host.now = s.now from hnow, hf]
    rcases hg.owned hl hf' with ⟨k, e, he, -⟩ | hr
    · exact (hnone he).elim
    · rcases hretired id hr with hr | ⟨k, hk, hr⟩
      · exact List.mem_append_left _ hr
      · exact List.mem_append_right _ (List.mem_flatMap.mpr ⟨k, hk, hr⟩)

end Site
end Portkeeper
