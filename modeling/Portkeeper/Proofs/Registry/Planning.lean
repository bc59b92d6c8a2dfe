import Portkeeper.Registry.Start
import Portkeeper.Proofs.Registry.Names

/-!
What stands in a plan: the local kinds with their paths, then network kinds with canonical addresses,
all of them kinds that have a handler.
-/

set_option autoImplicit false

namespace Portkeeper
open Text

/-- The canonical address of a local kind is its path without white space at the ends. -/
theorem Kind.canonicalize_local {k : Kind} (hk : k.isNetwork = false) (address : String) :
    k.canonicalize address = .ok (trimmed address) := by
  have ht : k.transport = .unix := by simpa [isNetwork] using hk
  unfold canonicalize canonicalAddress canonicalText trimmed
  by_cases h : trim address.toList = []
  · simp [h, Except.map]
  · simp [h, ht, Except.map]

namespace Config

variable {c : Config}

/-- A planned endpoint of a network kind. -/
structure Planned (c : Config) (e : Kind × String) : Prop where
  network : e.1.isNetwork = true
  server : c.hasServer e.1 = true
  formed : e.1.Formed e.2

/-- What stands in a plan for a network kind: the canonical form of the address that is configured. -/
structure Configured (c : Config) (e : Kind × String) : Prop where
  network : e.1.isNetwork = true
  server : c.hasServer e.1 = true
  address : ∃ address, c.addresses e.1 = some address ∧ e.1.canonicalize address = .ok e.2
  given : e.2 ≠ ""

theorem Configured.planned {e : Kind × String} (h : c.Configured e) : c.Planned e := by
  obtain ⟨address, -, hc⟩ := h.address
  exact ⟨h.network, h.server, Kind.formed_canonicalize hc h.given⟩

theorem planKind_ok {taken more : List (Kind × String)} {k : Kind}
    (h : c.planKind taken k = .ok more) : ∀ e ∈ more, c.Configured e := by
  unfold planKind at h
  split at h
  · cases h
    simp
  · rename_i address haddress
    split at h
    · cases h
    · rename_i hk
      split at h
      · cases h
      · rename_i canonical hc
        split at h
        · cases h
          simp
        · rename_i hne
          split at h
          · cases h
          · rename_i hserver
            have hp : c.Configured (k, canonical) :=
              ⟨by simpa using hk, by simpa using hserver, ⟨address, haddress, hc⟩, hne⟩
            split at h
            · cases h
              exact fun e he => List.mem_singleton.mp he ▸ hp
            · split at h
              · cases h
              · cases h
                exact fun e he => List.mem_singleton.mp he ▸ hp

theorem planKinds_ok {ks : List Kind} {taken plan : List (Kind × String)}
    (h : c.planKinds taken ks = .ok plan) (ht : ∀ e ∈ taken, c.Configured e) :
    ∀ e ∈ plan, c.Configured e := by
  induction ks generalizing taken with
  | nil =>
    cases h
    exact ht
  | cons k ks ih =>
    rw [planKinds] at h
    cases hm : c.planKind taken k with
    | error e =>
      rw [hm] at h
      cases h
    | ok more =>
      rw [hm] at h
      refine ih h fun e he => ?_
      rcases List.mem_append.mp he with he | he
      · exact ht e he
      · exact planKind_ok hm e he

/-- What stands in a plan. -/
theorem plan_configured {plan : List (Kind × String)} (h : c.plan = .ok plan) :
    c.hasServer .localAdmin = true ∧
      ∃ net, plan = c.localPlan ++ net ∧ ∀ e ∈ net, c.Configured e := by
  unfold Config.plan at h
  split at h
  · rename_i hserver
    cases hn : c.planKinds [] Kind.all with
    | error e =>
      rw [hn] at h
      cases h
    | ok net =>
      rw [hn] at h
      cases h
      exact ⟨hserver, net, rfl, planKinds_ok hn (by simp)⟩
  · cases h

theorem plan_ok {plan : List (Kind × String)} (h : c.plan = .ok plan) :
    c.hasServer .localAdmin = true ∧ ∃ net, plan = c.localPlan ++ net ∧ ∀ e ∈ net, c.Planned e := by
  obtain ⟨hlocal, net, hplan, hnet⟩ := plan_configured h
  exact ⟨hlocal, net, hplan, fun e he => (hnet e he).planned⟩

/-- A planned place of a network kind has the address that is configured for it. -/
theorem configured_of_plan {plan : List (Kind × String)} (h : c.plan = .ok plan)
    {e : Kind × String} (he : e ∈ plan) (hk : e.1.isNetwork = true) : c.Configured e := by
  obtain ⟨-, net, rfl, hnet⟩ := plan_configured h
  rcases List.mem_append.mp he with he | he
  · unfold localPlan at he
    rcases List.mem_cons.mp he with rfl | he
    · cases hk
    · split at he
      · rw [List.mem_singleton.mp he] at hk
        cases hk
      · cases he
  · exact hnet e he

/-- Everything that is planned has a handler. -/
theorem hasServer_of_plan {plan : List (Kind × String)} (h : c.plan = .ok plan)
    {e : Kind × String} (he : e ∈ plan) : c.hasServer e.1 = true := by
  obtain ⟨hlocal, net, rfl, hnet⟩ := plan_ok h
  rcases List.mem_append.mp he with he | he
  · unfold localPlan at he
    rcases List.mem_cons.mp he with rfl | he
    · exact hlocal
    · split at he
      · rename_i hguest
        rw [List.mem_singleton.mp he]
        exact hguest
      · cases he
  · exact (hnet e he).server

/-- The addresses of network kinds in a plan are in canonical form. -/
theorem formed_of_plan {plan : List (Kind × String)} (h : c.plan = .ok plan)
    {e : Kind × String} (he : e ∈ plan) (hk : e.1.isNetwork = true) : e.1.Formed e.2 :=
  (configured_of_plan h he hk).planned.formed

end Config
end Portkeeper
