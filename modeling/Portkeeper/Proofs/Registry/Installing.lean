import Portkeeper.Proofs.Registry.Startup

/-!
Which listener stands behind an entry of a registry that has just come up: one that was handed over, or
one that was opened for its place in the plan and recorded with the address that stands there.
-/

set_option autoImplicit false

namespace Portkeeper

namespace Config

variable [Platform] {c : Config} {h h' : Host}

/-- Whatever binding a plan has added was opened for a place of the plan. -/
theorem bindAll_opens {plan : List (Kind × String)} {o o' : Opened} (hs : h.Sound)
    (hr : c.bindAll o h plan = (.ok o', h')) : ∀ d ∈ o', d ∈ o ∨ (d.1.kind, d.2) ∈ plan ∧
      ∃ h₁ h₂ : Host, h₁.Opens h₂ d.1.kind d.2 c.bundle d.1 := by
  induction plan generalizing o h with
  | nil =>
    cases hr
    exact fun d hd => Or.inl hd
  | cons p plan ih =>
    obtain ⟨k, address⟩ := p
    have later {d : Listener × String} (hd : (d.1.kind, d.2) ∈ plan ∧
        ∃ h₁ h₂ : Host, h₁.Opens h₂ d.1.kind d.2 c.bundle d.1) :
        (d.1.kind, d.2) ∈ (k, address) :: plan ∧
          ∃ h₁ h₂ : Host, h₁.Opens h₂ d.1.kind d.2 c.bundle d.1 :=
      hd.imp_left (List.mem_cons_of_mem _)
    rw [bindAll] at hr
    split at hr
    · exact fun d hd => (ih hs hr d hd).imp_right later
    · cases hl : h.listen k address c.bundle with
      | mk r h₂ =>
        rw [hl] at hr
        cases r with
        | error e => cases hr
        | ok l =>
          have ho : h.Opens h₂ k address c.bundle l := Host.listen_spec hs hl
          intro d hd
          rcases ih ho.sound hr d hd with hd | hd
          · rcases List.mem_append.mp hd with hd | hd
            · exact Or.inl hd
            · rw [List.mem_singleton.mp hd, ho.kind]
              exact Or.inr ⟨List.mem_cons_self, h, h₂, ho⟩
          · exact Or.inr (later hd)

/-- A listener that was opened for a kind, with what was asked for: it was handed over, and nothing was
asked for, or it was opened for a place of the plan. -/
inductive Brings (c : Config) (k : Kind) : Listener × String → Prop
  | inherited {l : Listener} (handed : k ∈ c.inheritedKinds) (provenance : l.provenance = .inherited)
      (fileless : l.file = none) : Brings c k (l, "")
  | bound {l : Listener} {address : String} {plan : List (Kind × String)} {h₁ h₂ : Host}
      (fresh : k ∉ c.inheritedKinds) (planned : c.plan = .ok plan) (place : (k, address) ∈ plan)
      (opens : h₁.Opens h₂ k address c.bundle l) : Brings c k (l, address)

theorem openAll_brings (hs : h.Sound) {o : Opened} (hr : c.openAll h = (.ok o, h')) :
    ∀ d ∈ o, c.Brings d.1.kind d := by
  obtain ⟨ls, h₁, fresh, plan, ht, hp, rfl, hb, hhas, -, -⟩ := openAll_ok hs hr
  intro d hd
  by_cases hk : d.1.kind ∈ c.inheritedKinds
  · -- No two of what was opened are of one kind.
    obtain ⟨l, hl, hkind⟩ := List.mem_map.mp (ht.kinds ▸ hk)
    obtain rfl := Opened.unique hhas.kinds
      (List.mem_append_left fresh (List.mem_map_of_mem (f := (·, "")) hl)) hd hkind
    obtain ⟨i, hi⟩ := List.getElem?_of_mem hl
    exact .inherited hk (ht.partway.inherited hi).provenance (ht.partway.fileless l hl)
  · rcases bindAll_opens ht.partway.sound hb d hd with hd | ⟨hmem, h₂, h₃, ho⟩
    · obtain ⟨l, hl, rfl⟩ := List.mem_map.mp hd
      exact absurd (ht.kinds ▸ List.mem_map_of_mem hl) hk
    · exact .bound hk hp hmem ho

end Config

namespace World

variable [Platform] {c : Config} {h : Host} {t : Site}

/-- What stands behind an entry once a registry is up. -/
theorem up_entry (hs : h.Sound) (hup : (unstarted h).up c = (.ok (), ofSite t)) {k : Kind} {e : Entry}
    (he : t.registry.entries k = some e) : ∃ (d : Listener × String) (id : LoopId) (router : Router),
      d.1.kind = k ∧ c.Brings k d ∧ e = Site.serving t.host d id ∧
      t.Serves k e id ⟨d.1, router, none, []⟩ := by
  cases hr : c.openAll h with
  | mk r h' =>
    cases r with
    | error e' =>
      rw [up_error hr] at hup
      cases hup
    | ok o =>
      obtain ⟨s, hup', hf⟩ := up_fits hs hr
      have hsame : s = t := by
        have hsite := congrArg (fun r => r.2.site?) (hup'.symm.trans hup)
        simpa using hsite
      subst hsame
      obtain ⟨d, hd, rfl⟩ := hf.opened he
      obtain ⟨id, router, hentry, hv⟩ :=
        hf.serves (fun k hk => List.mem_filter.mpr ⟨k.mem_all, hk⟩) hd
      rw [he] at hentry
      cases hentry
      exact ⟨d, id, router, rfl, Config.openAll_brings hs hr d hd, by rw [hf.host], hv⟩

end World
end Portkeeper
