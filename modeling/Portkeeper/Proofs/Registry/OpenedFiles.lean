import Portkeeper.Proofs.Host.SocketFiles
import Portkeeper.Proofs.Registry.Opening

/-!
The socket files of a start. Every file that a start makes is the file of a listener that it opened,
and is removed with it, unless making way for one local socket has cut off the path of the other.
-/

set_option autoImplicit false

namespace Portkeeper
open Text

/-- A local kind is listened on at its path without white space at the ends. -/
theorem Host.listen_local [Platform] {k : Kind} (hk : k.isNetwork = false) (h : Host)
    (address : String) (b : Bundle) :
    h.listen k address b =
      if trim address.toList = [] then (.error (.config (k.name ++ " requires an address")), h)
      else match Bind.unix k (trim address.toList) h with
        | (.error e, h) => (.error e, h)
        | (.ok (id, file), h) => (.ok ⟨k, id, file, none, none, .bound⟩, h) := by
  have hempty : trimmed address = "" ↔ trim address.toList = [] := by
    rw [trimmed, ← String.toList_inj, String.toList_ofList]
    rfl
  by_cases hc : trim address.toList = []
  · unfold listen
    rw [Kind.canonicalize_local hk, if_pos hc]
    exact if_pos (hempty.mpr hc)
  · rw [if_neg hc, listen_unix hk (Kind.canonicalize_local hk address) fun he => hc (hempty.mp he),
      trimmed, String.toList_ofList]
    cases hu : Bind.unix k (trim address.toList) h with
    | mk r h' => cases r <;> rfl

namespace Config

variable {c : Config} {h₀ h h' h₁ h₂ : Host} {fresh : Opened} {cut : Prop}

def localPath (c : Config) : List Char := trim c.localSocket.toList

def guestPath (c : Config) : List Char := trim c.guestAgentSocket.toList

/-- Making way for the guest agent's socket changes where the local path leads. -/
def Diverts (c : Config) (h : Host) : Prop :=
  ∃ h₁, Bind.missingParent h c.guestPath = false ∧ Bind.clear .guestAgent c.guestPath h = .ok h₁ ∧
    h₁.files.entry c.localPath ≠ h.files.entry c.localPath

/-- A start binds the local socket at a path that leads elsewhere once the way for the guest agent's
socket has been made. -/
structure CutsOff (c : Config) (h : Host) : Prop where
  fresh : c.count = 0
  planned : ∃ plan, c.plan = .ok plan
  guest : c.hasServer .guestAgent = true
  path : ∃ r h₁, Bind.unix .localAdmin c.localPath h = (.ok r, h₁) ∧ c.Diverts h₁

/-- Only a link at the path of the guest agent's socket can do that. -/
theorem CutsOff.link (hc : c.CutsOff h) : ∃ r h₁ q t,
    Bind.unix .localAdmin c.localPath h = (.ok r, h₁) ∧ h₁.files.entry c.guestPath = .ok q ∧
    h₁.files.at? q = some (.link t) := by
  obtain ⟨r, h₁, hu, h₂, -, hclear, hne⟩ := hc.path
  obtain ⟨h₃, q, -, -, he, hn, hp, -, hf, -⟩ := Bind.unix_ok hu
  have hq : q ≠ [] := (Files.ends_of_free hn).ne_nil
  have hat : h₁.files.at? q = some (.socket Bind.socketMode h.nextSocket) := by
    rw [hf, Files.at?_put _ hq, if_pos rfl]
  have he₁ : h₁.files.entry c.localPath = .ok q := by
    rw [hf] at hat ⊢
    exact ((Files.differAt_put _ hq _).entry_iff (Files.ends_of_free hn)
      (Files.ends_of_socket hat) hp q).mpr he
  obtain ⟨g, t, hg, ht⟩ := Bind.link_of_clear hclear hp he₁ hne
  exact ⟨r, h₁, g, t, hu, hg, ht⟩

/-- What a start has done to files so far: the files that it made are those of the listeners that it
opened, and only the path of the local one may have been cut off. -/
structure Traces (c : Config) (h₀ : Host) (fresh : Opened) (h : Host) (cut : Prop) : Prop where
  named : ∀ {q : Place} {m id : Nat}, h.files.at? q = some (.socket m id) → h₀.nextSocket ≤ id →
    ∃ e ∈ fresh, e.1.socket = id ∧ ∃ p, e.1.file = some p
  filed : ∀ e ∈ fresh, e.1.Filed h.files (cut ∧ e.1.kind = .localAdmin) true
  lost : cut → ∃ e ∈ fresh, e.1.kind = .localAdmin ∧ ∃ p, e.1.file = some p
  kept : c.count ≠ 0 → ∀ {q : Place} {n : Node}, h₀.files.at? q = some n →
    h₀.files.entry c.guestPath ≠ .ok q → h.files.at? q = some n

theorem Traces.congr {cut' : Prop} (ht : c.Traces h₀ fresh h cut) (hc : cut ↔ cut') :
    c.Traces h₀ fresh h cut' :=
  propext hc ▸ ht

variable [Platform]

/-- Taking descriptors over does nothing to files. -/
theorem TakenOver.traces (hs : h₀.Sound) {ls : List Listener} (ht : c.TakenOver h₀ ls h) :
    c.Traces h₀ [] h False where
  named hn hid := by
    rw [ht.partway.files] at hn
    exact absurd (hs.nodes hn) (Nat.not_lt.mpr hid)
  filed := by simp
  lost := False.elim
  kept _ _ _ hn _ := by rw [ht.partway.files, hn]

omit [Platform] in
/-- Nor does opening listeners without files. -/
theorem Traces.extend {more : Opened} (ht : c.Traces h₀ fresh h cut) (hf : h'.files = h.files)
    (hm : ∀ e ∈ more, e.1.file = none) : c.Traces h₀ (fresh ++ more) h' cut where
  named hn hid := by
    obtain ⟨e, he, hrest⟩ := ht.named (hf ▸ hn) hid
    exact ⟨e, List.mem_append_left _ he, hrest⟩
  filed e he := by
    rcases List.mem_append.mp he with he | he
    · exact hf ▸ ht.filed e he
    · exact Listener.filed_none (hm e he)
  lost hc := by
    obtain ⟨e, he, hrest⟩ := ht.lost hc
    exact ⟨e, List.mem_append_left _ he, hrest⟩
  kept hc {q n} hn hne := hf ▸ ht.kept hc hn hne

omit [Platform] in
theorem Traces.same (ht : c.Traces h₀ fresh h cut) (hf : h'.files = h.files) :
    c.Traces h₀ fresh h' cut := by
  have hx : c.Traces h₀ (fresh ++ []) h' cut := ht.extend hf (by simp)
  rwa [List.append_nil] at hx

omit [Platform] in
/-- The local socket's file is the first that a start makes. -/
theorem Traces.local_ok (hs : h.Sound) (ht : c.Traces h₀ [] h False) (hc : c.count = 0)
    {l : Listener} {address : String} {path : List Char}
    (hu : Bind.unix .localAdmin path h = (.ok (l.socket, l.file), h')) :
    c.Traces h₀ [(l, address)] h' False where
  named {q m id} hn hid := by
    obtain ⟨h₁, g, -, hclear, -, hg, -, hr, hf, -⟩ := Bind.unix_ok hu
    obtain ⟨hsocket, hfile⟩ := Prod.mk.inj hr
    rw [hf, Files.at?_put _ (Files.ends_of_free hg).ne_nil] at hn
    split at hn
    · cases hn
      exact ⟨_, List.mem_cons_self, hsocket, path, hfile⟩
    · obtain ⟨e, he, -⟩ := ht.named (Bind.nodes_clear hclear hn) hid
      cases he
  filed e he := by
    obtain rfl := List.mem_singleton.mp he
    exact (Bind.unix_filed hs hu rfl rfl).congr (by simp)
  lost := False.elim
  kept hne := absurd hc hne

omit [Platform] in
/-- Making way for the guest agent's socket may cut off the path of the local one. -/
theorem Traces.clear (ht : c.Traces h₀ fresh h False)
    (hl : ∀ e ∈ fresh, e.1.kind = .localAdmin ∧ e.1.file = some c.localPath ∧
      ∃ n, h.sockets.get? e.1.socket = some ⟨n, .stream, true⟩)
    (hm : Bind.missingParent h c.guestPath = false)
    (hc : Bind.clear .guestAgent c.guestPath h = .ok h') (hf : c.count ≠ 0 → h.files = h₀.files) :
    c.Traces h₀ fresh h' (fresh ≠ [] ∧ c.Diverts h) where
  named hn hid := ht.named (Bind.nodes_clear hc hn) hid
  filed e he := by
    obtain ⟨hk, hfile, n, hn⟩ := hl e he
    have hfiled := Bind.clear_filed hc ((ht.filed e he).congr (by simp)) hn hfile
    refine hfiled.congr ?_
    simp [hk, List.ne_nil_of_mem he, Diverts, hm, hc]
  lost hcut := by
    obtain ⟨e, he⟩ := List.exists_mem_of_ne_nil _ hcut.1
    exact ⟨e, he, (hl e he).1, _, (hl e he).2.1⟩
  kept hne q n hn hq := by
    have hfiles := hf hne
    rw [Bind.clear_at? hc (by rwa [hfiles]), hfiles, hn]

omit [Platform] in
/-- What binding the guest agent's socket does to files. -/
theorem Traces.guest_ok (hs : h.Sound) (ht : c.Traces h₀ fresh h False)
    (hl : ∀ e ∈ fresh, e.1.kind = .localAdmin ∧ e.1.file = some c.localPath ∧
      e.1.socket < h.nextSocket ∧ ∃ n, h.sockets.get? e.1.socket = some ⟨n, .stream, true⟩)
    (hf : c.count ≠ 0 → h.files = h₀.files) {l : Listener} {address : String}
    (hk : l.kind = .guestAgent)
    (hu : Bind.unix .guestAgent c.guestPath h = (.ok (l.socket, l.file), h')) :
    c.Traces h₀ (fresh ++ [(l, address)]) h' (fresh ≠ [] ∧ c.Diverts h) := by
  obtain ⟨h₁, g, hm, hclear, -, hg, -, hr, hfiles, -⟩ := Bind.unix_ok hu
  obtain ⟨hsocket, hfile⟩ := Prod.mk.inj hr
  have hne : g ≠ [] := (Files.ends_of_free hg).ne_nil
  have htc := ht.clear (fun e he => ⟨(hl e he).1, (hl e he).2.1, (hl e he).2.2.2⟩) hm hclear hf
  refine ⟨fun {q m id} hn hid => ?_, fun e he => ?_, fun hcut => ?_, fun hc q n hn hq => ?_⟩
  · rw [hfiles, Files.at?_put _ hne] at hn
    split at hn
    · cases hn
      exact ⟨_, List.mem_append_right _ List.mem_cons_self, hsocket, _, hfile⟩
    · obtain ⟨e, he, hrest⟩ := htc.named hn hid
      exact ⟨e, List.mem_append_left _ he, hrest⟩
  · rcases List.mem_append.mp he with he | he
    · obtain ⟨h₂, -, hclear', hun⟩ := Bind.unix_untouched hu (hl e he).2.2.1 (htc.filed e he).plain
      obtain rfl : h₁ = h₂ := Except.ok.inj (hclear.symm.trans hclear')
      exact (htc.filed e he).untouched hun
    · obtain rfl := List.mem_singleton.mp he
      exact (Bind.unix_filed hs hu rfl rfl).congr (by simp [hk])
  · obtain ⟨e, he, hrest⟩ := htc.lost hcut
    exact ⟨e, List.mem_append_left _ he, hrest⟩
  · have hn₁ := htc.kept hc hn hq
    rw [hfiles, Files.at?_put _ hne, if_neg, hn₁]
    rintro rfl
    rw [hg] at hn₁
    cases hn₁

omit [Platform] in
/-- What failing to bind it does to them. -/
theorem Traces.guest_error (ht : c.Traces h₀ fresh h False)
    (hl : ∀ e ∈ fresh, e.1.kind = .localAdmin ∧ e.1.file = some c.localPath ∧
      ∃ n, h.sockets.get? e.1.socket = some ⟨n, .stream, true⟩)
    (hf : c.count ≠ 0 → h.files = h₀.files) {e : EndpointError}
    (hu : Bind.unix .guestAgent c.guestPath h = (.error e, h')) :
    c.Traces h₀ fresh h' (fresh ≠ [] ∧ c.Diverts h) := by
  obtain ⟨-, ⟨hfiles, hno⟩ | ⟨h₁, hm, hclear, hfiles⟩, -⟩ := Bind.unix_error hu
  · refine (ht.same hfiles).congr ⟨False.elim, ?_⟩
    rintro ⟨-, h₁, hm, hclear, -⟩
    rcases hno with hno | ⟨e', hno⟩
    · rw [hm] at hno
      cases hno
    · rw [hclear] at hno
      cases hno
  · exact (ht.clear hl hm hclear hf).same hfiles

/-! ### Along the plan -/

omit [Platform] in
/-- A plan may be cut before the local kinds, between them, or after them. -/
theorem plan_split {before after : List (Kind × String)} (hp : c.plan = .ok (before ++ after)) :
    (before = [] ∧ ∃ rest, after = (.localAdmin, c.localSocket) :: rest) ∨
      (before = [(.localAdmin, c.localSocket)] ∧ c.hasServer .guestAgent = true ∧
        ∃ rest, after = (.guestAgent, c.guestAgentSocket) :: rest) ∨
      ∃ net, before = c.localPlan ++ net ∧ ∀ e ∈ net ++ after, c.Planned e := by
  obtain ⟨-, net, he, hnet⟩ := plan_ok hp
  rcases List.append_eq_append_iff.mp he with ⟨more, hlocal, hafter⟩ | ⟨net', hbefore, rfl⟩
  · unfold localPlan at hlocal ⊢
    cases before with
    | nil => exact Or.inl ⟨rfl, _, he⟩
    | cons e before =>
      refine Or.inr ?_
      rw [List.cons_append] at hlocal
      obtain ⟨rfl, htail⟩ := List.cons.inj hlocal
      split at htail
      · rename_i hguest
        cases before with
        | nil =>
          rw [List.nil_append] at htail
          rw [← htail] at hafter
          exact Or.inl ⟨rfl, hguest, net, hafter⟩
        | cons e' before =>
          rw [List.cons_append] at htail
          obtain ⟨rfl, hnil⟩ := List.cons.inj htail
          obtain ⟨rfl, rfl⟩ := List.append_eq_nil_iff.mp hnil.symm
          exact Or.inr ⟨[], by simp [hguest], hafter ▸ hnet⟩
      · rename_i hguest
        obtain ⟨rfl, rfl⟩ := List.append_eq_nil_iff.mp htail.symm
        exact Or.inr ⟨[], by simp [hguest], hafter ▸ hnet⟩
  · exact Or.inr (Or.inr ⟨net', hbefore, hnet⟩)

theorem bindAll_append (o : Opened) (h : Host) (p q : List (Kind × String)) :
    c.bindAll o h (p ++ q) = match c.bindAll o h p with
      | (.error e, h) => (.error e, h)
      | (.ok o, h) => c.bindAll o h q := by
  induction p generalizing o h with
  | nil => rfl
  | cons e p ih =>
    rw [List.cons_append, bindAll, bindAll]
    split
    · exact ih o h
    · split
      · rfl
      · exact ih _ _

/-- Once the local kind is there: it was inherited, and nothing has happened to files; or its socket
was bound, and that is all. -/
structure Begun (c : Config) (h₀ : Host) (fresh : Opened) (h : Host) : Prop where
  traces : c.Traces h₀ fresh h False
  locals : ∀ e ∈ fresh, e.1.kind = .localAdmin ∧ e.1.file = some c.localPath ∧
    e.1.socket < h.nextSocket ∧ ∃ n, h.sockets.get? e.1.socket = some ⟨n, .stream, true⟩
  inherited : c.count ≠ 0 → fresh = [] ∧ h.files = h₀.files
  bound : c.count = 0 → fresh ≠ [] ∧ ∃ r, Bind.unix .localAdmin c.localPath h₀ = (.ok r, h)

omit [Platform] in
/-- What then decides whether the local path is cut off. -/
theorem Begun.cuts (hb : c.Begun h₀ fresh h) {plan : List (Kind × String)} (hp : c.plan = .ok plan)
    (hg : c.hasServer .guestAgent = true) : fresh ≠ [] ∧ c.Diverts h ↔ c.CutsOff h₀ := by
  constructor
  · rintro ⟨hne, hd⟩
    have hc : c.count = 0 := Classical.not_not.mp fun hc => hne (hb.inherited hc).1
    obtain ⟨-, r, hu⟩ := hb.bound hc
    exact ⟨hc, ⟨plan, hp⟩, hg, r, h, hu, hd⟩
  · intro hc
    obtain ⟨hne, r, hu⟩ := hb.bound hc.fresh
    obtain ⟨r', h', hu', hd⟩ := hc.path
    rw [hu] at hu'
    cases hu'
    exact ⟨hne, hd⟩

omit [Platform] in
theorem local_inherited_iff (c : Config) : .localAdmin ∈ c.inheritedKinds ↔ c.count ≠ 0 := by
  unfold inheritedKinds
  cases c.count with
  | zero => simp
  | succ n => simp [Inheritance.order]

theorem TakenOver.has_iff {ls : List Listener} (ht : c.TakenOver h₀ ls h) (k : Kind) :
    Opened.has (ls.map (·, "")) k = true ↔ k ∈ c.inheritedKinds := by
  rw [← ht.kinds]
  simp [Opened.has]

/-- The local kind comes first. -/
theorem TakenOver.begun (hs : h₀.Sound) {ls : List Listener} (ht : c.TakenOver h₀ ls h₁) {o : Opened}
    (hr : c.bindAll (ls.map (·, "")) h₁ [(.localAdmin, c.localSocket)] = (.ok o, h)) :
    ∃ fresh, o = ls.map (·, "") ++ fresh ∧ c.Has h₁ (ls.map (·, "")) fresh h ∧
      c.Begun h₀ fresh h := by
  have hiff := (ht.has_iff .localAdmin).trans c.local_inherited_iff
  rw [bindAll] at hr
  split at hr
  · rename_i hhas
    cases hr
    exact ⟨[], by simp, ht.has, ht.traces hs, by simp, fun _ => ⟨rfl, ht.partway.files⟩,
      fun hc => absurd hc (hiff.mp hhas)⟩
  · rename_i hhas
    have hc : c.count = 0 := Classical.not_not.mp fun hc => hhas (hiff.mpr hc)
    obtain rfl := ht.idle hc
    cases hl : h₁.listen .localAdmin c.localSocket c.bundle with
    | mk r h₂ =>
      rw [hl] at hr
      cases r with
      | error e => cases hr
      | ok l =>
        cases hr
        have ho : h₁.Opens h .localAdmin c.localSocket c.bundle l := Host.listen_spec hs hl
        obtain ⟨path, hpath, -, hu⟩ := ho.unix rfl
        obtain rfl : trimmed c.localSocket = path :=
          Except.ok.inj ((Kind.canonicalize_local rfl _).symm.trans hpath)
        rw [trimmed, String.toList_ofList] at hu
        obtain ⟨n, hn, hg⟩ := ho.named
        have hfile : l.file = some c.localPath := by
          obtain ⟨_, _, -, -, -, -, -, hr, -⟩ := Bind.unix_ok hu
          exact (Prod.mk.inj hr).2
        refine ⟨[(l, c.localSocket)], rfl, ht.has.opens (by simpa using hhas) ho,
          (ht.traces hs).local_ok hs hc hu, fun e he => ?_, fun hne => absurd hc hne,
          fun _ => ⟨by simp, _, hu⟩⟩
        obtain rfl := List.mem_singleton.mp he
        exact ⟨ho.kind, hfile, (ho.holds hs).bounded, n, hg⟩

/-- Then the guest agent's, if it is planned. -/
theorem TakenOver.bindLocals (hs : h₀.Sound) {ls : List Listener} (ht : c.TakenOver h₀ ls h₁)
    {plan : List (Kind × String)} (hp : c.plan = .ok plan) {o : Opened}
    (hr : c.bindAll (ls.map (·, "")) h₁ c.localPlan = (.ok o, h)) :
    ∃ fresh, o = ls.map (·, "") ++ fresh ∧ c.Has h₁ (ls.map (·, "")) fresh h ∧
      c.Traces h₀ fresh h (c.CutsOff h₀) := by
  cases hguest : c.hasServer .guestAgent with
  | false =>
    simp only [localPlan, hguest, Bool.false_eq_true, if_false] at hr
    obtain ⟨fresh, rfl, hhas, hb⟩ := ht.begun hs hr
    refine ⟨fresh, rfl, hhas, hb.traces.congr (iff_of_false id fun hc => ?_)⟩
    rw [hc.guest] at hguest
    cases hguest
  | true =>
    simp only [localPlan, hguest, if_true] at hr
    rw [show ∀ p q : Kind × String, [p, q] = [p] ++ [q] from fun _ _ => rfl, bindAll_append] at hr
    cases hl : c.bindAll (ls.map (·, "")) h₁ [(.localAdmin, c.localSocket)] with
    | mk r h₂ =>
      rw [hl] at hr
      cases r with
      | error e => cases hr
      | ok o₁ =>
        obtain ⟨fresh, rfl, hhas, hb⟩ := ht.begun hs hl
        have hno : ¬(Opened.has (ls.map (·, "") ++ fresh) .guestAgent = true) := by
          rw [Opened.has_append, Bool.or_eq_true, ht.has_iff]
          rintro (hc | hc)
          · exact absurd (List.mem_of_mem_take hc) (by decide)
          · obtain ⟨e, he, hk⟩ := Opened.has_iff.mp hc
            rw [(hb.locals e he).1] at hk
            cases hk
        dsimp only at hr
        rw [bindAll, if_neg hno] at hr
        cases hg : h₂.listen .guestAgent c.guestAgentSocket c.bundle with
        | mk r h₃ =>
          rw [hg] at hr
          cases r with
          | error e => cases hr
          | ok l =>
            cases hr
            have ho : h₂.Opens h .guestAgent c.guestAgentSocket c.bundle l :=
              Host.listen_spec hhas.adds.sound hg
            obtain ⟨path, hpath, -, hu⟩ := ho.unix rfl
            obtain rfl : trimmed c.guestAgentSocket = path :=
              Except.ok.inj ((Kind.canonicalize_local rfl _).symm.trans hpath)
            rw [trimmed, String.toList_ofList] at hu
            refine ⟨fresh ++ [(l, c.guestAgentSocket)], by simp, hhas.opens (by simpa using hno) ho, ?_⟩
            exact (hb.traces.guest_ok hhas.adds.sound hb.locals (fun hc => (hb.inherited hc).2)
              ho.kind hu).congr (hb.cuts hp hguest)

/-- The files once the local kinds of a plan, and some of its network kinds, are there. -/
theorem bindAll_traces (hs : h₀.Sound) {ls : List Listener} (ht : c.TakenOver h₀ ls h₁)
    {plan net : List (Kind × String)} (hp : c.plan = .ok plan)
    (hnet : ∀ e ∈ net, e.1.isNetwork = true) {o : Opened}
    (hr : c.bindAll (ls.map (·, "")) h₁ (c.localPlan ++ net) = (.ok o, h)) :
    ∃ fresh, o = ls.map (·, "") ++ fresh ∧ c.Has h₁ (ls.map (·, "")) fresh h ∧
      c.Traces h₀ fresh h (c.CutsOff h₀) := by
  rw [bindAll_append] at hr
  cases hl : c.bindAll (ls.map (·, "")) h₁ c.localPlan with
  | mk r h₂ =>
    rw [hl] at hr
    cases r with
    | error e => cases hr
    | ok o₁ =>
      obtain ⟨fresh, rfl, hhas, htr⟩ := ht.bindLocals hs hp hl
      obtain ⟨more, rfl, hhas', hmem, -, hf⟩ := bindAll_ok hhas hr
      refine ⟨fresh ++ more, rfl, hhas', htr.extend (hf hnet) fun e he => ?_⟩
      exact (hhas'.made e (List.mem_append_right _ he)).file (hnet _ (hmem e he))

/-- The files when a place of a plan cannot be bound. -/
theorem listen_traces (hs : h₀.Sound) {ls : List Listener} (ht : c.TakenOver h₀ ls h₁)
    {before after : List (Kind × String)} {k : Kind} {address : String}
    (hp : c.plan = .ok (before ++ (k, address) :: after)) {o : Opened}
    (hr : c.bindAll (ls.map (·, "")) h₁ before = (.ok o, h)) (hk : o.has k = false)
    {e : EndpointError} (he : h.listen k address c.bundle = (.error e, h')) :
    ∃ fresh, o = ls.map (·, "") ++ fresh ∧ c.Has h₁ (ls.map (·, "")) fresh h ∧
      c.Traces h₀ fresh h' (c.CutsOff h₀) := by
  rcases plan_split hp with ⟨rfl, rest, hrest⟩ | ⟨rfl, hguest, rest, hrest⟩ | ⟨net, rfl, hnet⟩
  · cases hrest
    cases hr
    have hc : c.count = 0 := by
      refine Classical.not_not.mp fun hc => ?_
      rw [(ht.has_iff _).mpr (c.local_inherited_iff.mpr hc)] at hk
      cases hk
    obtain rfl := ht.idle hc
    have htr := ht.traces hs
    have hno (hu : ∀ r h', Bind.unix .localAdmin c.localPath h ≠ (.ok r, h')) : ¬c.CutsOff h :=
      fun hcut => by
        obtain ⟨r, h₁, hu', -⟩ := hcut.path
        exact hu r h₁ hu'
    refine ⟨[], by simp, ht.has, ?_⟩
    rw [Host.listen_local rfl] at he
    split at he
    · rename_i hnil
      cases he
      refine htr.congr (iff_of_false id (hno fun r h' hu => ?_))
      obtain ⟨_, _, -, -, -, -, hplain, -⟩ := Bind.unix_ok hu
      exact hplain.ne_nil hnil
    · split at he
      · rename_i e' h₂ hu
        cases he
        have hu : Bind.unix .localAdmin c.localPath h = (.error e, h') := hu
        have hno : ¬c.CutsOff h := hno fun r h'' hu' => by
          rw [hu] at hu'
          cases hu'
        refine ⟨fun {q m id} hn hid => ?_, by simp, fun hcut => absurd hcut hno,
          fun hne => absurd hc hne⟩
        obtain ⟨-, ⟨hf, -⟩ | ⟨h₂, -, hclear, hf⟩, -⟩ := Bind.unix_error hu
        · exact htr.named (hf ▸ hn) hid
        · exact htr.named (Bind.nodes_clear hclear (hf ▸ hn)) hid
      · cases he
  · cases hrest
    obtain ⟨fresh, rfl, hhas, hb⟩ := ht.begun hs hr
    refine ⟨fresh, rfl, hhas, Traces.congr ?_ (hb.cuts hp hguest)⟩
    rw [Host.listen_local rfl] at he
    split at he
    · rename_i hnil
      cases he
      refine hb.traces.congr (iff_of_false id fun hc => ?_)
      obtain ⟨-, h₂, -, hclear, hne⟩ := hc
      rcases Bind.clear_ok hclear with rfl | ⟨_, _, -, -, -, hplain, -⟩
      · exact hne rfl
      · exact hplain.ne_nil hnil
    · split at he
      · rename_i hu
        cases he
        exact hb.traces.guest_error (fun e he => ⟨(hb.locals e he).1, (hb.locals e he).2.1,
          (hb.locals e he).2.2.2⟩) (fun hc => (hb.inherited hc).2) hu
      · cases he
  · have hnet' (e) (he : e ∈ net) : e.1.isNetwork = true :=
      (hnet e (List.mem_append_left _ he)).network
    obtain ⟨fresh, rfl, hhas, htr⟩ := bindAll_traces hs ht hp hnet' hr
    have hd : h.Declines h' k address e := Host.listen_spec hhas.adds.sound he
    exact ⟨fresh, rfl, hhas, htr.same
      (hd.network (hnet _ (List.mem_append_right _ List.mem_cons_self)).network)⟩

/-! ### Closing what was opened -/

/-- No socket file of a start is left, by the numbers of their sockets. -/
def Swept (h₀ h : Host) : Prop :=
  ∀ q m id, h₀.nextSocket ≤ id → h.files.at? q ≠ some (.socket m id)

theorem Traces.close {ls : List Listener} (ht : c.TakenOver h₀ ls h₁)
    (hh : c.Has h₁ (ls.map (·, "")) fresh h) (htr : c.Traces h₀ fresh h' cut) (hs' : h'.Sound)
    (hst : h.Steady h') : Swept h₀ (Opened.close (ls.map (·, "") ++ fresh) h') ↔ ¬cut := by
  have hfiled : ∀ l ∈ (ls.map (·, "") ++ fresh).map Prod.fst,
      l.Filed h'.files (cut ∧ l.kind = .localAdmin) true := by
    intro l hl
    obtain ⟨e, he, rfl⟩ := List.mem_map.mp hl
    rcases List.mem_append.mp he with he | he
    · obtain ⟨m, hm, rfl⟩ := List.mem_map.mp he
      exact Listener.filed_none (ht.partway.fileless m hm)
    · exact htr.filed e he
  obtain ⟨hclosed, hnodes, -⟩ := Host.filed_dropAll hs' (hh.holding.later hst.later) hfiled
  rw [Opened.close_eq]
  have hmem {e : Listener × String} (he : e ∈ fresh) :
      e.1 ∈ (ls.map (·, "") ++ fresh).map Prod.fst :=
    List.mem_map_of_mem (List.mem_append_right _ he)
  constructor
  · intro hno hcut
    obtain ⟨e, he, hk, p, hp⟩ := htr.lost hcut
    obtain ⟨-, hcutoff, -⟩ := hclosed _ (hmem he) p hp
    obtain ⟨⟨q, hq⟩, -⟩ := hcutoff ⟨hcut, hk⟩
    obtain ⟨m, hm⟩ := hq.node
    have hnew := (hh.adds.fresh _ (List.mem_map_of_mem he)).1
    rw [ht.partway.next] at hnew
    exact hno q m _ hnew hm
  · intro hno q m id hid hn
    obtain ⟨e, he, rfl, p, hp⟩ := htr.named (hnodes q m id hn) hid
    obtain ⟨-, -, hgone⟩ := hclosed _ (hmem he) p hp
    exact hgone (fun hc => hno hc.1) q m hn

/-- A start that fails leaves no socket file of its own, unless the local path was cut off. -/
theorem openAll_error_swept (hs : h.Sound) {e : EndpointError}
    (hr : c.openAll h = (.error e, h')) : Swept h h' ↔ ¬c.CutsOff h := by
  have hsame (hf : h'.files = h.files) : Swept h h' := fun q m id hid hn =>
    absurd (hs.nodes (hf ▸ hn)) (Nat.not_lt.mpr hid)
  unfold openAll at hr
  cases hi : c.inheritAll h with
  | mk r h₁ =>
    rw [hi] at hr
    cases r with
    | error e' =>
      cases hr
      obtain ⟨-, -, -, hf⟩ := inheritAll_error hs hi
      refine iff_of_true (hsame hf) fun hcut => ?_
      rw [inheritAll_eq, hcut.fresh] at hi
      cases hi
    | ok base =>
      obtain ⟨ls, rfl, ht⟩ := inheritAll_ok hs hi
      cases hp : c.plan with
      | error e' =>
        rw [hp] at hr
        cases hr
        have hcl := (ht.traces hs).close ht ht.has ht.partway.sound
          (Host.Steady.refl h₁)
        rw [List.append_nil] at hcl
        refine hcl.trans (iff_of_true id fun hcut => ?_)
        obtain ⟨plan, hp'⟩ := hcut.planned
        rw [hp] at hp'
        cases hp'
      | ok plan =>
        rw [hp] at hr
        obtain ⟨before, k, address, after, o, h₂, h₃, rfl, hb, hk, he, rfl⟩ := bindAll_error hr
        obtain ⟨fresh, rfl, hhas, htr⟩ := listen_traces hs ht hp hb hk he
        have hd : h₂.Declines h₃ k address e := Host.listen_spec hhas.adds.sound he
        exact htr.close ht hhas hd.sound hd.steady

/-- Nor does one that is given up while a network kind is being bound. -/
theorem abandoned (hs : h.Sound) {base o : Opened} (hi : c.inheritAll h = (.ok base, h₁))
    {before after : List (Kind × String)} {k : Kind} {address : String}
    (hp : c.plan = .ok (before ++ (k, address) :: after)) (hk : k.isNetwork = true)
    (hr : c.bindAll base h₁ before = (.ok o, h₂)) :
    h.Undone (o.close h₂) c.firstDescriptor c.count ∧ (Swept h (o.close h₂) ↔ ¬c.CutsOff h) := by
  obtain ⟨ls, rfl, ht⟩ := inheritAll_ok hs hi
  rcases plan_split hp with ⟨-, rest, hrest⟩ | ⟨-, -, rest, hrest⟩ | ⟨net, rfl, hnet⟩
  · cases hrest
    cases hk
  · cases hrest
    cases hk
  · obtain ⟨fresh, rfl, hhas, htr⟩ := bindAll_traces hs ht hp
      (fun e he => (hnet e (List.mem_append_left _ he)).network) hr
    have hsound := hhas.adds.sound
    exact ⟨ht.undone hhas hsound (Host.Steady.refl h₂),
      htr.close ht hhas hsound (Host.Steady.refl h₂)⟩

end Config
end Portkeeper
