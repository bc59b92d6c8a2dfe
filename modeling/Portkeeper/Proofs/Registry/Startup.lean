import Portkeeper.Proofs.Registry.Starting
import Portkeeper.Sandbox

/-!
What a start comes to. Either everything that is inherited or planned is served, or nothing is left
but what was there before; the one exception is a socket file whose path was cut off on the way.
-/

set_option autoImplicit false

namespace Portkeeper

/-- What is left of a start when its caller goes: nothing has happened if it still waited for the
registry, and if a network kind was being bound, all that was opened before is closed. -/
inductive Config.Abandons [Platform] (c : Config) (h : Host) : Host → Prop
  | waiting : Abandons c h h
  | binding {base o : Opened} {before after : List (Kind × String)} {k : Kind} {address : String}
      {h₁ h₂ : Host} (hi : c.inheritAll h = (.ok base, h₁))
      (hp : c.plan = .ok (before ++ (k, address) :: after)) (hk : k.isNetwork = true)
      (hb : c.bindAll base h₁ before = (.ok o, h₂)) (ho : o.has k = false) :
      Abandons c h (o.close h₂)

namespace World

variable [Platform]

theorem up_refused {w : World} (hw : w.stage ≠ .unstarted) (c : Config) :
    w.up c = (.error (.invalidState .start w.stage), w) := by
  unfold up
  split
  · rename_i hl
    exact absurd (by rw [stage, hl]; rfl) hw
  · rfl

/-- What a call to start a registry returns. -/
theorem up_cases {h : Host} (hs : h.Sound) {c : Config} {r : Except EndpointError Unit} {w' : World}
    (hup : (unstarted h).up c = (r, w')) :
    (r = .ok () ∧ ∃ s plan, w' = ofSite s ∧ c.Started h plan s) ∨
      ∃ e h' n, r = .error e ∧ w' = unstarted h' ∧ c.openAll h = (.error e, h') ∧
        c.Fails h e n ∧ h.Undone h' c.firstDescriptor n ∧ (Config.Swept h h' ↔ ¬c.CutsOff h) := by
  cases hr : c.openAll h with
  | mk o h' =>
    cases o with
    | error e =>
      rw [up_error hr] at hup
      cases hup
      obtain ⟨n, hf, hu⟩ := Config.openAll_error hs hr
      exact Or.inr ⟨e, h', n, rfl, rfl, rfl, hf, hu, Config.openAll_error_swept hs hr⟩
    | ok o =>
      obtain ⟨s, plan, hok, hst⟩ := up_ok hs hr
      rw [hok] at hup
      cases hup
      exact Or.inl ⟨rfl, s, plan, rfl, hst⟩

/-- And what is left of one that is given up. -/
theorem abandons_cases {h h' : Host} (hs : h.Sound) {c : Config} (ha : c.Abandons h h') :
    h' = h ∨ h.Undone h' c.firstDescriptor c.count ∧ (Config.Swept h h' ↔ ¬c.CutsOff h) := by
  cases ha with
  | waiting => exact Or.inl rfl
  | binding hi hp hk hb ho => exact Or.inr (Config.abandoned hs hi hp hk hb)

/-- A start brings up exactly what is inherited or planned, or it fails with the first thing that is
wrong and leaves nothing open that it opened or adopted. It fails only before anything is served.
Given up by its caller it leaves as little. Socket files are gone as well, unless making way for one
of them has cut off the path of the other. Whatever was started before is not started again. -/
theorem up_settles {h : Host} (hs : h.Sound) (c : Config) :
    (∀ w', (unstarted h).up c = (.ok (), w') → ∃ s plan, w' = ofSite s ∧ c.Started h plan s) ∧
    (∀ e w', (unstarted h).up c = (.error e, w') → ∃ h' n, w' = unstarted h' ∧
      c.openAll h = (.error e, h') ∧ c.Fails h e n ∧ h.Undone h' c.firstDescriptor n ∧
      (Config.Swept h h' ↔ ¬c.CutsOff h)) ∧
    (∀ h', c.Abandons h h' → h' = h ∨ h.Undone h' c.firstDescriptor c.count ∧
      (Config.Swept h h' ↔ ¬c.CutsOff h)) ∧
    ∀ w : World, w.stage ≠ .unstarted → w.up c = (.error (.invalidState .start w.stage), w) := by
  refine ⟨fun w' hup => ?_, fun e w' hup => ?_, fun h' ha => abandons_cases hs ha,
    fun w hw => up_refused hw c⟩
  · rcases up_cases hs hup with ⟨-, hst⟩ | ⟨e, h', n, he, -⟩
    · exact hst
    · cases he
  · rcases up_cases hs hup with ⟨he, -⟩ | ⟨e', h', n, he, hrest⟩
    · cases he
    · cases he
      exact ⟨h', n, hrest⟩

end World

/-! ### A link on the way -/

/-- A host with a link where the guest agent's socket belongs. -/
def Host.linked : Host where
  now := 0
  files := ⟨[(["s".toList], .directory), (["s".toList, "guest-agent".toList], .directory),
    (["s".toList, "guest-agent".toList, "d".toList], .directory),
    (["s".toList, "guest-agent".toList, "sock".toList], .link "d".toList)], []⟩
  sockets := []
  nextSocket := 0
  descriptors := []
  picked := []
  agenda := []
  refusals := []
  attempts := []

theorem Host.sound_linked : Host.linked.Sound where
  sockets hid := by cases hid
  agenda ht := by cases ht
  descriptors hd := by cases hd
  distinct := List.Pairwise.nil
  nodes {q m id} hq := by
    unfold Files.at? at hq
    split at hq
    · cases hq
    · have hm := Table.mem_of_get? hq
      simp [linked] at hm

/-- A configuration whose local socket is to lie behind that link. -/
def Config.linked (addresses : Kind → Option String) : Config where
  directory := "s"
  unixSocket := some "s/guest-agent/sock/u"
  bundle := ⟨[], ⟨[], []⟩, []⟩
  servers := fun k => if k ∈ [.localAdmin, .guestAgent, .vmConsole] then some .greeting else none
  addresses
  handedOver := none
  firstDescriptor := Config.usualFirstDescriptor

/-- The local path is cut off there when the link makes way. -/
theorem Config.cutsOff_linked {addresses : Kind → Option String}
    (hp : ∃ plan, (Config.linked addresses).plan = .ok plan) :
    (Config.linked addresses).CutsOff Host.linked := by
  have hlocal : (Config.linked addresses).localPath = "s/guest-agent/sock/u".toList := by
    show Text.trim "s/guest-agent/sock/u".toList = _
    decide +kernel
  have hguest : (Config.linked addresses).guestPath = "s/guest-agent/sock".toList := by
    show Text.trim (String.ofList (PathText.join "s".toList "guest-agent/sock".toList)).toList = _
    decide +kernel
  have hbound : (Bind.unix .localAdmin "s/guest-agent/sock/u".toList Host.linked).1 =
      .ok (0, some "s/guest-agent/sock/u".toList) := by decide +kernel
  have hparent : Bind.missingParent
      (Bind.unix .localAdmin "s/guest-agent/sock/u".toList Host.linked).2
      "s/guest-agent/sock".toList = false := by decide +kernel
  have hclear : ((Bind.clear .guestAgent "s/guest-agent/sock".toList
      (Bind.unix .localAdmin "s/guest-agent/sock/u".toList Host.linked).2).toOption.any fun h =>
        h.files.entry "s/guest-agent/sock/u".toList ≠
          (Bind.unix .localAdmin "s/guest-agent/sock/u".toList
            Host.linked).2.files.entry "s/guest-agent/sock/u".toList) = true := by
    decide +kernel
  obtain ⟨h, hh, hne⟩ := (Option.any_eq_true _ _).mp hclear
  refine ⟨rfl, hp, rfl, (0, some "s/guest-agent/sock/u".toList),
    (Bind.unix .localAdmin "s/guest-agent/sock/u".toList Host.linked).2, ?_, h, ?_, ?_, ?_⟩
  · exact (congrArg (Bind.unix .localAdmin · Host.linked) hlocal).trans (Prod.ext hbound rfl)
  · rw [hguest]
    exact hparent
  · rw [hguest]
    revert hh
    cases Bind.clear .guestAgent "s/guest-agent/sock".toList
      (Bind.unix .localAdmin "s/guest-agent/sock/u".toList Host.linked).2 <;>
      simp [Except.toOption]
  · rw [hlocal]
    exact of_decide_eq_true hne

/-- Nothing but the local kinds is asked for. -/
def Config.quiet : Config := Config.linked fun _ => none

/-- A vsock address of another machine is asked for. -/
def Config.barred : Config := Config.linked fun k => if k = .vmConsole then some "5:2000" else none

namespace World

/-- The error of that start. -/
def barrier : EndpointError := .bind .vmConsole "5:2000" (.number ErrorNumber.addressNotAvailable)

theorem openAll_barred : ∃ h', Config.barred.openAll Host.linked = (.error barrier, h') := by
  have hr : (Config.barred.openAll Host.linked).1 = .error barrier := by decide +kernel
  exact ⟨_, Prod.ext hr rfl⟩

theorem up_settles_barred : ∃ h' n,
    (unstarted Host.linked).up Config.barred = (.error barrier, unstarted h') ∧
    Config.barred.Fails Host.linked barrier n ∧ Host.linked.Undone h' 3 n := by
  obtain ⟨h', hr⟩ := openAll_barred
  have hup := up_error hr
  obtain ⟨h'', n, hw, -, hf, hu, -⟩ := (up_settles Host.sound_linked Config.barred).2.1 _ _ hup
  rw [hw] at hup
  exact ⟨h'', n, hup, hf, hu⟩

/-- A start that failed can leave a socket file of its own. -/
theorem up_leaves_file : ∃ e h' q m id,
    (unstarted Host.linked).up Config.barred = (.error e, unstarted h') ∧
    h'.files.at? q = some (.socket m id) ∧ Host.linked.nextSocket ≤ id := by
  obtain ⟨h', hr⟩ := openAll_barred
  have hcut : Config.barred.CutsOff Host.linked := Config.cutsOff_linked ⟨_, by rfl⟩
  have hno : ¬Config.Swept Host.linked h' := fun hsw =>
    (Config.openAll_error_swept Host.sound_linked hr).mp hsw hcut
  unfold Config.Swept at hno
  simp only [not_forall, Classical.not_not] at hno
  obtain ⟨q, m, id, hid, hat⟩ := hno
  exact ⟨barrier, h', q, m, id, up_error hr, hat, hid⟩

end World
end Portkeeper
