import Portkeeper.Proofs.Registry.Planning

/-!
When a configuration has a plan. Four things can be wrong with the address of a kind, and a plan fails with
what is wrong with the lowest kind of them all; when nothing is, it holds every kind with an address in the
order of kinds. Both are said without the plan, by what is configured for each kind.
-/

set_option autoImplicit false

namespace Portkeeper
open Text Net

namespace Kind

variable {k : Kind} {text c : String}

theorem canonicalize_of_ok (h : k.canonicalAddress text = .ok c) : k.canonicalize text = .ok c := by
  unfold canonicalize
  rw [h]

theorem canonicalize_of_error {cause : AddressError} (h : k.canonicalAddress text = .error cause) :
    k.canonicalize text = .error (.invalidAddress k text cause.message) := by
  unfold canonicalize
  rw [h]

/-- Only blank texts have the empty canonical form. -/
theorem canonicalAddress_eq_empty_iff (hk : k.isNetwork = true) (h : k.canonicalAddress text = .ok c) :
    c = "" ↔ trim text.toList = [] := by
  refine ⟨fun he => ?_, canonicalize_blank (canonicalize_of_ok h)⟩
  by_cases hb : trim text.toList = []
  · exact hb
  · exact absurd he ((formed_of_nonblank (canonicalize_of_ok h) hb).ne_empty hk)

/-- The canonical addresses of network kinds have ports. -/
theorem exists_port (hk : k.isNetwork = true) (h : k.canonicalAddress text = .ok c)
    (hb : trim text.toList ≠ []) : ∃ p, HasPort c p :=
  (formed_of_nonblank (canonicalize_of_ok h) hb).hasPort hk

theorem rank_lt_succ_iff {k' : Kind} : k'.rank < k.rank + 1 ↔ k'.rank < k.rank ∨ k' = k := by
  rw [Nat.lt_succ_iff_lt_or_eq]
  exact or_congr_right ⟨rank_injective, fun h => h ▸ rfl⟩

/-- The kinds of a list are all those from some rank on, in their order. -/
def Ranked : Nat → List Kind → Prop
  | r, [] => ∀ k : Kind, k.rank < r
  | r, k :: ks => k.rank = r ∧ Ranked (r + 1) ks

theorem ranked_all : Ranked 0 all := by
  refine ⟨rfl, rfl, rfl, rfl, rfl, rfl, rfl, fun k => ?_⟩
  cases k <;> decide

theorem pairwise_all : all.Pairwise fun k k' => k.rank ≤ k'.rank := by decide

end Kind

namespace Config

variable {c : Config} {k : Kind} {taken : List (Kind × String)}

/-- The canonical form of the address that is configured for a kind. A blank text is no address. -/
def Gives (c : Config) (k : Kind) (address : String) : Prop :=
  ∃ text, c.addresses k = some text ∧ trim text.toList ≠ [] ∧ k.canonicalAddress text = .ok address

theorem gives_iff {text a : String} (ht : c.addresses k = some text) :
    c.Gives k a ↔ trim text.toList ≠ [] ∧ k.canonicalAddress text = .ok a := by
  simp [Gives, ht]

theorem Gives.unique {a b : String} (ha : c.Gives k a) (hb : c.Gives k b) : a = b := by
  obtain ⟨t, ht, -, hta⟩ := ha
  have htb := ((gives_iff ht).mp hb).2
  rw [hta] at htb
  exact Except.ok.inj htb

/-- A lower kind of the same transport has the address of a kind, and its port is not for the system to
pick. -/
structure Clash (c : Config) (k other : Kind) (address : String) : Prop where
  lower : other.rank < k.rank
  taken : c.Gives other address
  same : other.transport = k.transport
  port : ∃ p, HasPort address p ∧ p ≠ 0

/-- What can be wrong with the address of a kind. Two kinds that clash are a fault of the higher one. -/
inductive Offence (c : Config) (k : Kind) : EndpointError → Prop
  | fixed {text : String} (configured : c.addresses k = some text) (unix : k.isNetwork = false) :
      Offence c k (.config (k.name ++ " address is not configurable"))
  | malformed {text : String} {cause : AddressError} (network : k.isNetwork = true)
      (configured : c.addresses k = some text) (bad : k.canonicalAddress text = .error cause) :
      Offence c k (.invalidAddress k text cause.message)
  | unserved {address : String} (network : k.isNetwork = true) (given : c.Gives k address)
      (unserved : c.hasServer k = false) : Offence c k (noHandler k)
  | clash {other : Kind} {address : String} (network : k.isNetwork = true) (given : c.Gives k address)
      (served : c.hasServer k = true) (clash : c.Clash k other address) :
      Offence c k (.config (other.name ++ " and " ++ k.name ++ " both listen on " ++ address))

/-- The lowest kind with which something is wrong, and what it is. -/
def Foremost (c : Config) (k : Kind) (e : EndpointError) : Prop :=
  c.Offence k e ∧ ∀ k' : Kind, k'.rank < k.rank → ∀ e', ¬ c.Offence k' e'

/-- Nothing is wrong with a kind that has no address. -/
theorem not_offence_of_none (ht : c.addresses k = none) (e : EndpointError) : ¬ c.Offence k e := by
  have hgives (a : String) : ¬ c.Gives k a := by simp [Gives, ht]
  intro h
  cases h with
  | fixed configured unix => simp [ht] at configured
  | malformed network configured bad => simp [ht] at configured
  | unserved network given unserved => exact hgives _ given
  | clash network given served clash => exact hgives _ given

/-- What is wrong with a network kind is wrong with its text if that has no canonical form, and with its
handler or with another kind otherwise. -/
theorem Offence.network_cases {text : String} {e : EndpointError} (h : c.Offence k e)
    (hk : k.isNetwork = true) (ht : c.addresses k = some text) :
    match k.canonicalAddress text with
    | .error cause => e = .invalidAddress k text cause.message
    | .ok address => trim text.toList ≠ [] ∧ (c.hasServer k = false ∧ e = noHandler k ∨
        c.hasServer k = true ∧ ∃ other, c.Clash k other address ∧
          e = .config (other.name ++ " and " ++ k.name ++ " both listen on " ++ address)) := by
  cases h with
  | fixed configured unix => simp [hk] at unix
  | malformed network configured bad =>
    rw [ht] at configured
    cases configured
    rw [bad]
  | unserved network given unserved =>
    obtain ⟨hb, ha⟩ := (gives_iff ht).mp given
    rw [ha]
    exact ⟨hb, .inl ⟨unserved, rfl⟩⟩
  | clash network given served clash =>
    obtain ⟨hb, ha⟩ := (gives_iff ht).mp given
    rw [ha]
    exact ⟨hb, .inr ⟨served, _, clash, rfl⟩⟩

/-! ### From kind to kind -/

/-- What is taken when nothing is wrong with the kinds below some rank: their addresses, in order. -/
structure Upto (c : Config) (r : Nat) (taken : List (Kind × String)) : Prop where
  mem : ∀ k a, (k, a) ∈ taken ↔ k.rank < r ∧ c.Gives k a
  sorted : taken.Pairwise fun s t => s.1.rank < t.1.rank
  clean : ∀ k : Kind, k.rank < r → ∀ e, ¬ c.Offence k e

theorem upto_zero (c : Config) : c.Upto 0 [] := ⟨by simp, .nil, by simp⟩

/-- One more kind with which nothing is wrong. -/
theorem Upto.extend (h : c.Upto k.rank taken) {given : Option String}
    (hg : ∀ a, given = some a ↔ c.Gives k a) (hc : ∀ e, ¬ c.Offence k e) :
    c.Upto (k.rank + 1) (taken ++ given.toList.map (k, ·)) where
  mem k' a := by
    have hmem : (k', a) ∈ given.toList.map (k, ·) ↔ k' = k ∧ c.Gives k a := by
      rw [← hg a]
      constructor
      · intro hm
        obtain ⟨b, hb, he⟩ := List.mem_map.mp hm
        cases he
        exact ⟨rfl, Option.mem_toList.mp hb⟩
      · rintro ⟨rfl, hb⟩
        exact List.mem_map.mpr ⟨a, Option.mem_toList.mpr hb, rfl⟩
    rw [List.mem_append, h.mem, hmem, Kind.rank_lt_succ_iff, or_and_right]
    exact or_congr_right (and_congr_right fun hk => by rw [hk])
  sorted := by
    refine List.pairwise_append.mpr ⟨h.sorted, ?_, fun s hs t ht => ?_⟩
    · cases given <;> simp
    · obtain ⟨a, -, rfl⟩ := List.mem_map.mp ht
      exact ((h.mem s.1 s.2).mp hs).1
  clean k' hk' := (Kind.rank_lt_succ_iff.mp hk').elim (h.clean k') fun he => he ▸ hc

/-- A kind clashes with one other at most, since the higher of two would have been at fault before. -/
theorem Upto.clash_unique (h : c.Upto k.rank taken) (hk : k.isNetwork = true) {a b : Kind}
    {address : String} (ha : c.Clash k a address) (hb : c.Clash k b address) : a = b := by
  have hnet {d : Kind} (hd : c.Clash k d address) : d.isNetwork = true := by
    rwa [Kind.isNetwork, hd.same, ← Kind.isNetwork]
  have hlt {d e : Kind} (hd : c.Clash k d address) (he : c.Clash k e address) : ¬ e.rank < d.rank := by
    intro hlow
    have hclash : c.Clash d e address := ⟨hlow, he.taken, he.same.trans hd.same.symm, hd.port⟩
    cases hs : c.hasServer d with
    | false => exact h.clean d hd.lower _ (.unserved (hnet hd) hd.taken hs)
    | true => exact h.clean d hd.lower _ (.clash (hnet hd) hd.taken hs hclash)
  have hab := hlt ha hb
  have hba := hlt hb ha
  exact Kind.rank_injective (by omega)

/-- What becomes of one kind: it adds its address to the plan, or there is one thing wrong with it and the
plan fails with that. -/
def Judges (c : Config) (taken : List (Kind × String)) (k : Kind) : Prop :=
  (∃ more, c.planKind taken k = .ok more ∧ c.Upto (k.rank + 1) (taken ++ more)) ∨
    ∃ e, c.planKind taken k = .error e ∧ c.Offence k e ∧ ∀ e', c.Offence k e' → e' = e

/-- The lower kind that a clash is with is found among what is taken. -/
theorem Upto.find_clash (h : c.Upto k.rank taken) (hk : k.isNetwork = true) {address : String}
    (hport : ∃ p, HasPort address p ∧ p ≠ 0) :
    match taken.find? fun t => t.1.transport = k.transport ∧ t.2 = address with
    | some t => c.Clash k t.1 address ∧ ∀ other, c.Clash k other address → other = t.1
    | none => ∀ other, ¬ c.Clash k other address := by
  cases hfind : taken.find? fun t => t.1.transport = k.transport ∧ t.2 = address with
  | none =>
    intro other hother
    have hmem := (h.mem other address).mpr ⟨hother.lower, hother.taken⟩
    simpa [hother.same] using List.find?_eq_none.mp hfind _ hmem
  | some t =>
    obtain ⟨other, a⟩ := t
    have hsame : other.transport = k.transport ∧ a = address := by simpa using List.find?_some hfind
    obtain ⟨hsame, rfl⟩ := hsame
    obtain ⟨hlt, hg⟩ := (h.mem other a).mp (List.mem_of_find?_eq_some hfind)
    have hclash : c.Clash k other a := ⟨hlt, hg, hsame, hport⟩
    exact ⟨hclash, fun other' hother' => h.clash_unique hk hother' hclash⟩

/-- A kind that has an address and a handler is judged by what is taken. -/
theorem Upto.judges_served (h : c.Upto k.rank taken) (hk : k.isNetwork = true) {text address : String}
    (ht : c.addresses k = some text) (hb : trim text.toList ≠ [])
    (ha : k.canonicalAddress text = .ok address) (hs : c.hasServer k = true) : c.Judges taken k := by
  have hgives : c.Gives k address := (gives_iff ht).mpr ⟨hb, ha⟩
  have hne : address ≠ "" := fun he => hb ((Kind.canonicalAddress_eq_empty_iff hk ha).mp he)
  have hgiven (a : String) : some address = some a ↔ c.Gives k a :=
    ⟨fun he => Option.some.inj he ▸ hgives, fun hg => congrArg some (hgives.unique hg)⟩
  -- Only a clash can still be wrong with it.
  have hclash {e : EndpointError} (he : c.Offence k e) : ∃ other, c.Clash k other address ∧
      e = .config (other.name ++ " and " ++ k.name ++ " both listen on " ++ address) := by
    have hcases := he.network_cases hk ht
    rw [ha] at hcases
    simpa [hs] using hcases.2
  obtain ⟨p, hp⟩ := Kind.exists_port hk ha hb
  unfold Judges planKind
  simp only [ht, hk, Kind.canonicalize_of_ok ha, hne, hs, Bool.not_true, Bool.false_eq_true, if_false]
  by_cases h0 : asksForPort address = true
  · rw [if_pos h0]
    refine .inl ⟨_, rfl, h.extend hgiven fun e he => ?_⟩
    obtain ⟨other, ho, -⟩ := hclash he
    obtain ⟨q, hq, hq0⟩ := ho.port
    exact hq0 (hq.unique (asksForPort_iff.mp h0))
  · rw [if_neg h0]
    have hp0 : p ≠ 0 := by
      rintro rfl
      exact h0 (asksForPort_iff.mpr hp)
    have hfound := h.find_clash hk ⟨p, hp, hp0⟩
    cases hfind : taken.find? fun t => t.1.transport = k.transport ∧ t.2 = address with
    | none =>
      rw [hfind] at hfound
      refine .inl ⟨_, rfl, h.extend hgiven fun e he => ?_⟩
      obtain ⟨other, ho, -⟩ := hclash he
      exact hfound other ho
    | some t =>
      rw [hfind] at hfound
      refine .inr ⟨_, rfl, .clash hk hgives hs hfound.1, fun e' he' => ?_⟩
      obtain ⟨other, ho, rfl⟩ := hclash he'
      rw [hfound.2 other ho]

theorem Upto.judges_network (h : c.Upto k.rank taken) (hk : k.isNetwork = true) {text : String}
    (ht : c.addresses k = some text) : c.Judges taken k := by
  have hcases {e : EndpointError} (he : c.Offence k e) := he.network_cases hk ht
  cases ha : k.canonicalAddress text with
  | error cause =>
    rw [ha] at hcases
    exact .inr ⟨_, by simp only [planKind, ht, hk, Kind.canonicalize_of_error ha]; rfl,
      .malformed hk ht ha, fun e' he' => hcases he'⟩
  | ok address =>
    rw [ha] at hcases
    by_cases hb : trim text.toList = []
    · have hempty := (Kind.canonicalAddress_eq_empty_iff hk ha).mpr hb
      have hgiven (a : String) : none = some a ↔ c.Gives k a := by simp [gives_iff ht, hb]
      exact .inl ⟨_, by simp only [planKind, ht, hk, Kind.canonicalize_of_ok ha, hempty]; rfl,
        h.extend hgiven fun e he => (hcases he).1 hb⟩
    · cases hs : c.hasServer k with
      | true => exact h.judges_served hk ht hb ha hs
      | false =>
        have hne : address ≠ "" := fun he => hb ((Kind.canonicalAddress_eq_empty_iff hk ha).mp he)
        refine .inr ⟨_, by simp only [planKind, ht, hk, Kind.canonicalize_of_ok ha, hne, hs]; rfl,
          .unserved hk ((gives_iff ht).mpr ⟨hb, ha⟩) hs, fun e' he' => ?_⟩
        simpa [hs] using (hcases he').2

theorem Upto.judges (h : c.Upto k.rank taken) : c.Judges taken k := by
  cases ht : c.addresses k with
  | none =>
    have hgiven (a : String) : none = some a ↔ c.Gives k a := by simp [Gives, ht]
    exact .inl ⟨_, by simp only [planKind, ht]; rfl, h.extend hgiven (not_offence_of_none ht)⟩
  | some text =>
    cases hk : k.isNetwork with
    | true => exact h.judges_network hk ht
    | false =>
      refine .inr ⟨_, by simp only [planKind, ht, hk]; rfl, .fixed ht hk, fun e' he' => ?_⟩
      cases he' with
      | fixed configured unix => rfl
      | malformed network configured bad => simp [hk] at network
      | unserved network given unserved => simp [hk] at network
      | clash network given served clash => simp [hk] at network

/-- What becomes of all kinds: nothing is wrong with any, or the plan fails with what is wrong with the
lowest at fault. -/
theorem Upto.planKinds {r : Nat} {ks : List Kind} (hr : Kind.Ranked r ks) (h : c.Upto r taken) :
    (∃ net r', c.planKinds taken ks = .ok net ∧ (∀ k : Kind, k.rank < r') ∧ c.Upto r' net) ∨
      ∃ k e, c.planKinds taken ks = .error e ∧ c.Foremost k e ∧ ∀ e', c.Offence k e' → e' = e := by
  induction ks generalizing r taken with
  | nil => exact .inl ⟨taken, r, rfl, hr, h⟩
  | cons k ks ih =>
    obtain ⟨rfl, hr⟩ := hr
    rcases h.judges with ⟨more, hm, hmore⟩ | ⟨e, he, ho, hunique⟩
    · rw [Config.planKinds, hm]
      exact ih hr hmore
    · refine .inr ⟨k, e, ?_, ⟨ho, h.clean⟩, hunique⟩
      rw [Config.planKinds, he]
      rfl

/-! ### The order in which the addresses are listed -/

theorem planKinds_filter (c : Config) (taken : List (Kind × String)) (ks : List Kind) :
    c.planKinds taken (ks.filter fun k => (c.addresses k).isSome) = c.planKinds taken ks := by
  induction ks generalizing taken with
  | nil => rfl
  | cons k ks ih =>
    cases ht : c.addresses k with
    | none =>
      have hskip : c.planKind taken k = .ok [] := by simp only [planKind, ht]
      rw [List.filter_cons_of_neg (by simp [ht]), ih, Config.planKinds, hskip]
      change _ = c.planKinds (taken ++ []) ks
      rw [List.append_nil]
    | some text =>
      rw [List.filter_cons_of_pos (by simp [ht]), Config.planKinds, Config.planKinds]
      exact congrArg _ (funext fun more => ih _)

/-- In whatever order the configured kinds come, sorted they are the same list. -/
theorem sorted_configured {order : List Kind} (hn : order.Nodup)
    (hm : ∀ k, k ∈ order ↔ (c.addresses k).isSome = true) :
    (order.mergeSort fun k k' => k.rank ≤ k'.rank) =
      Kind.all.filter fun k => (c.addresses k).isSome := by
  have hperm : (order.mergeSort fun k k' => k.rank ≤ k'.rank).Perm
      (Kind.all.filter fun k => (c.addresses k).isSome) := by
    refine (List.mergeSort_perm _ _).trans ((List.perm_ext_iff_of_nodup hn ?_).mpr fun k => ?_)
    · exact List.Pairwise.filter _ (by decide : Kind.all.Nodup)
    · rw [hm, List.mem_filter, and_iff_right k.mem_all]
  have hsorted : (order.mergeSort fun k k' => k.rank ≤ k'.rank).Pairwise
      fun k k' => k.rank ≤ k'.rank := by
    refine (List.pairwise_mergeSort (fun a b d hab hbd => ?_) (fun a b => ?_) order).imp fun h => ?_
    · simp only [decide_eq_true_eq] at *
      omega
    · simp only [Bool.or_eq_true, decide_eq_true_eq]
      omega
    · simpa using h
  exact hperm.eq_of_pairwise (fun a b _ _ hab hba => Kind.rank_injective (by omega)) hsorted
    (Kind.pairwise_all.filter _)

/-! ### Whole plans -/

/-- A configuration with which nothing is wrong. -/
structure Accepted (c : Config) : Prop where
  localAdmin : c.hasServer .localAdmin = true
  network : ∀ k text, c.addresses k = some text → k.isNetwork = true
  formed : ∀ k text, c.addresses k = some text → ∃ address, k.canonicalAddress text = .ok address
  served : ∀ k address, c.Gives k address → c.hasServer k = true
  distinct : ∀ k k' address, c.Gives k address → c.Gives k' address → k.transport = k'.transport →
    (∃ p, HasPort address p ∧ p ≠ 0) → k = k'

theorem Accepted.not_offence (h : c.Accepted) (k : Kind) (e : EndpointError) : ¬ c.Offence k e := by
  intro ho
  cases ho with
  | fixed configured unix => simp [h.network k _ configured] at unix
  | malformed network configured bad =>
    obtain ⟨address, ha⟩ := h.formed k _ configured
    rw [bad] at ha
    cases ha
  | unserved network given unserved => simp [h.served k _ given] at unserved
  | clash network given served clash =>
    have he := h.distinct _ _ _ clash.taken given clash.same clash.port
    exact absurd clash.lower (by simp [he])

theorem accepted_of_clean (hs : c.hasServer .localAdmin = true) (h : ∀ k e, ¬ c.Offence k e) :
    c.Accepted := by
  have hnet (k : Kind) (text : String) (ht : c.addresses k = some text) : k.isNetwork = true := by
    cases hk : k.isNetwork with
    | true => rfl
    | false => exact absurd (.fixed ht hk) (h k _)
  have hgives {k : Kind} {address : String} (hg : c.Gives k address) :
      k.isNetwork = true ∧ c.hasServer k = true := by
    obtain ⟨text, ht, -, -⟩ := id hg
    cases hs : c.hasServer k with
    | true => exact ⟨hnet k text ht, rfl⟩
    | false => exact absurd (.unserved (hnet k text ht) hg hs) (h k _)
  have hlow {k k' : Kind} {address : String} (hk : c.Gives k address) (hk' : c.Gives k' address)
      (ht : k.transport = k'.transport) (hp : ∃ p, HasPort address p ∧ p ≠ 0) : ¬ k.rank < k'.rank :=
    fun hlt => h k' _ (.clash (hgives hk').1 hk' (hgives hk').2 ⟨hlt, hk, ht, hp⟩)
  refine ⟨hs, hnet, fun k text ht => ?_, fun k a hg => (hgives hg).2, fun k k' a hk hk' ht hp => ?_⟩
  · cases ha : k.canonicalAddress text with
    | ok address => exact ⟨address, rfl⟩
    | error cause => exact absurd (.malformed (hnet k text ht) ht ha) (h k _)
  · have hle := hlow hk hk' ht hp
    have hge := hlow hk' hk ht.symm hp
    exact Kind.rank_injective (by omega)

/-- A plan that is complete: the local kinds, then every kind with an address, in order. -/
structure Complete (c : Config) (plan net : List (Kind × String)) : Prop where
  plan_eq : plan = (.localAdmin, c.localSocket) ::
    (if c.hasServer .guestAgent then [(.guestAgent, c.guestAgentSocket)] else []) ++ net
  net_mem : ∀ k address, (k, address) ∈ net ↔ c.Gives k address
  net_sorted : net.Pairwise fun s t => s.1.rank < t.1.rank
  once : (plan.map Prod.fst).Nodup

theorem Accepted.complete (h : c.Accepted) {net : List (Kind × String)}
    (hm : ∀ k a, (k, a) ∈ net ↔ c.Gives k a) (hs : net.Pairwise fun s t => s.1.rank < t.1.rank) :
    c.Complete (c.localPlan ++ net) net := by
  refine ⟨rfl, hm, hs, ?_⟩
  have hnodup : (net.map Prod.fst).Nodup :=
    List.pairwise_map.mpr (hs.imp fun hlt he => by simp [he] at hlt)
  have hnet (k : Kind) (hk : k ∈ net.map Prod.fst) : k.isNetwork = true := by
    obtain ⟨⟨k, a⟩, he, rfl⟩ := List.mem_map.mp hk
    obtain ⟨text, ht, -⟩ := (hm k a).mp he
    exact h.network k text ht
  rw [List.map_append, List.nodup_append]
  refine ⟨by unfold localPlan; split <;> simp, hnodup, fun k hk k' hk' he => ?_⟩
  have hlocal : k.isNetwork = false := by
    unfold localPlan at hk
    split at hk <;> simp at hk <;> rcases hk with rfl | rfl <;> rfl
  rw [he, hnet k' hk'] at hlocal
  cases hlocal

/-- What becomes of a plan whose configuration has a handler for local administration. -/
theorem plan_judged (hs : c.hasServer .localAdmin = true) :
    (∃ net, c.plan = .ok (c.localPlan ++ net) ∧ c.Accepted ∧ c.Complete (c.localPlan ++ net) net) ∨
      ∃ k e, c.plan = .error e ∧ c.Foremost k e ∧ ∀ e', c.Offence k e' → e' = e := by
  have hplan : c.plan = (c.planKinds [] Kind.all).map (c.localPlan ++ ·) := by
    unfold Config.plan
    rw [if_pos hs]
    cases c.planKinds [] Kind.all <;> rfl
  rcases c.upto_zero.planKinds Kind.ranked_all with ⟨net, r, hok, hr, h⟩ | ⟨k, e, herr, h⟩
  · have hacc : c.Accepted := accepted_of_clean hs fun k => h.clean k (hr k)
    refine .inl ⟨net, by rw [hplan, hok]; rfl, hacc, hacc.complete (fun k a => ?_) h.sorted⟩
    rw [h.mem, and_iff_right (hr k)]
  · exact .inr ⟨k, e, by rw [hplan, herr]; rfl, h⟩

theorem Foremost.unique {k k' : Kind} {e e' : EndpointError} (h : c.Foremost k e) (h' : c.Foremost k' e') :
    k = k' := by
  have hle : ¬ k.rank < k'.rank := fun hlt => h'.2 k hlt e h.1
  have hge : ¬ k'.rank < k.rank := fun hlt => h.2 k' hlt e' h'.1
  exact Kind.rank_injective (by omega)

/-- A configuration has a plan exactly when nothing is wrong with it, and the plan is complete then.
Otherwise it fails with the missing handler of local administration, or with what is wrong with the
lowest kind at fault. The order in which addresses are listed does not matter. -/
theorem plan_exact (c : Config) :
    ((∃ plan, c.plan = .ok plan) ↔ c.Accepted) ∧
    (∀ plan, c.plan = .ok plan → ∃ net, c.Complete plan net) ∧
    (∀ e, c.plan = .error e ↔ c.hasServer .localAdmin = false ∧ e = noHandler .localAdmin ∨
      c.hasServer .localAdmin = true ∧ ∃ k, c.Foremost k e) ∧
    ∀ order : List Kind, order.Nodup → (∀ k, k ∈ order ↔ (c.addresses k).isSome = true) →
      c.planKinds [] (order.mergeSort fun k k' => k.rank ≤ k'.rank) = c.planKinds [] Kind.all := by
  have horder (order : List Kind) (hn : order.Nodup)
      (hm : ∀ k, k ∈ order ↔ (c.addresses k).isSome = true) :
      c.planKinds [] (order.mergeSort fun k k' => k.rank ≤ k'.rank) = c.planKinds [] Kind.all := by
    rw [sorted_configured hn hm, planKinds_filter]
  cases hs : c.hasServer .localAdmin with
  | false =>
    have hplan : c.plan = .error (noHandler .localAdmin) := by simp [Config.plan, hs]
    have hacc : ¬ c.Accepted := fun h => by simp [h.localAdmin] at hs
    refine ⟨by simp [hplan, hacc], by simp [hplan], fun e => ?_, horder⟩
    simp [hplan, eq_comm]
  | true =>
    rcases plan_judged hs with ⟨net, hplan, hacc, hcomplete⟩ | ⟨k, e, hplan, hfirst, hunique⟩
    · refine ⟨by simp [hplan, hacc], fun plan h => ?_, fun e => ?_, horder⟩
      · rw [hplan] at h
        cases h
        exact ⟨net, hcomplete⟩
      · simp [hplan, Foremost, hacc.not_offence]
    · have hacc : ¬ c.Accepted := fun h => h.not_offence k e hfirst.1
      refine ⟨by simp [hplan, hacc], by simp [hplan], fun e' => ?_, horder⟩
      rw [hplan]
      refine ⟨fun he => .inr ⟨rfl, k, Except.error.inj he ▸ hfirst⟩, fun h => ?_⟩
      rcases h with ⟨hf, -⟩ | ⟨-, k', hk'⟩
      · cases hf
      · have hkk := hfirst.unique hk'
        rw [hunique e' (hkk ▸ hk'.1)]

/-- Three network kinds are to be reached, one at an address that is to be given, one at a port that the
system picks. -/
def neighbours (cluster : String) : Config where
  directory := "s"
  unixSocket := none
  bundle := ⟨[], ⟨[], []⟩, []⟩
  servers := fun k => if k ∈ [.localAdmin, .networkAdmin, .storageObjects, .cluster] then some .greeting
    else none
  addresses := fun k => [(.networkAdmin, "[::1]"), (.metrics, " "), (.storageObjects, ":+0"),
    (.cluster, cluster)].lookup k
  handedOver := none
  firstDescriptor := usualFirstDescriptor

theorem plan_exact_neighbours :
    (∃ k, (neighbours "[0:0:0:0:0:0:0:1]:08443").Foremost k
      (.config "network-admin and cluster both listen on [::1]:8443")) ∧
    (neighbours "[0:0::0.0.0.1]:00").Accepted := by
  constructor
  · have hplan : (neighbours "[0:0:0:0:0:0:0:1]:08443").plan =
        .error (.config "network-admin and cluster both listen on [::1]:8443") := by decide +kernel
    rcases ((plan_exact _).2.2.1 _).mp hplan with ⟨hs, -⟩ | ⟨-, h⟩
    · cases hs
    · exact h
  · exact (plan_exact _).1.mp ⟨[(.localAdmin, "s/unix.socket"), (.networkAdmin, "[::1]:8443"),
      (.storageObjects, "[::]:0"), (.cluster, "[::1]:0")], by decide +kernel⟩

end Config
end Portkeeper
