import Portkeeper.Proofs.Host.Collection

/-!
The files of unix sockets. The file of a listener goes with it when the listener's path still leads
there; a path that has been cut off, because a link on its way was removed, leads nowhere, and then
the file stays.
-/

set_option autoImplicit false

namespace Portkeeper

namespace Files

/-- No file names a socket. -/
def Forgot (f : Files) (id : SocketId) : Prop := ∀ q m, f.at? q ≠ some (.socket m id)

/-- The one file that names a socket stands at a place. -/
structure Stands (f : Files) (q : Place) (id : SocketId) : Prop where
  node : ∃ m, f.at? q = some (.socket m id)
  only : ∀ {q' : Place} {m : Nat}, f.at? q' = some (.socket m id) → q' = q

theorem Stands.ends {f : Files} {q : Place} {id : SocketId} (h : f.Stands q id) : f.Ends q := by
  obtain ⟨m, hm⟩ := h.node
  exact ends_of_socket hm

end Files

namespace Listener
open Files

/-- How the file of a listener is found. While the listener is open its path leads there, and
afterwards the file is gone; when the path has been cut off the file stays, and the path leads
nowhere. -/
def Filed (l : Listener) (f : Files) (cut : Prop) (isOpen : Bool) : Prop :=
  ∀ p, l.file = some p → Plain p ∧
    (cut → (∃ q, f.Stands q l.socket) ∧ ∀ r, f.entry p ≠ .ok r) ∧
    (¬cut → if isOpen then ∃ q, f.Stands q l.socket ∧ f.entry p = .ok q else f.Forgot l.socket)

/-- Nothing happened to the file of a listener, nor to the way there. -/
structure Untouched (l : Listener) (f f' : Files) : Prop where
  nodes : ∀ q m, f'.at? q = some (.socket m l.socket) ↔ f.at? q = some (.socket m l.socket)
  path : ∀ p, l.file = some p → ∀ r, f'.entry p = .ok r ↔ f.entry p = .ok r

theorem Untouched.of_eq (l : Listener) {f f' : Files} (he : f' = f) : l.Untouched f f' :=
  he ▸ ⟨fun _ _ => Iff.rfl, fun _ _ _ => Iff.rfl⟩

variable {l m : Listener} {f f' : Files} {cut cut' : Prop} {o o' : Bool}

theorem Untouched.stands (hu : l.Untouched f f') {q : Place} (hs : f.Stands q l.socket) :
    f'.Stands q l.socket := by
  obtain ⟨m, hm⟩ := hs.node
  exact ⟨⟨m, (hu.nodes q m).mpr hm⟩, fun hq => hs.only ((hu.nodes _ _).mp hq)⟩

theorem Filed.untouched (hl : l.Filed f cut o) (hu : l.Untouched f f') : l.Filed f' cut o := by
  intro p hp
  obtain ⟨hplain, hcut, hno⟩ := hl p hp
  refine ⟨hplain, fun hc => ?_, fun hc => ?_⟩
  · obtain ⟨⟨q, hq⟩, hr⟩ := hcut hc
    exact ⟨⟨q, hu.stands hq⟩, fun r hr' => hr r ((hu.path p hp r).mp hr')⟩
  · have hno := hno hc
    split
    · rename_i ho
      rw [if_pos ho] at hno
      obtain ⟨q, hq, he⟩ := hno
      exact ⟨q, hu.stands hq, (hu.path p hp q).mpr he⟩
    · rename_i ho
      rw [if_neg ho] at hno
      exact fun q m hq => hno q m ((hu.nodes q m).mp hq)

/-- Files with nothing but a place of difference, through which no path leads or led, and at which
no file of the listener stands or stood. -/
theorem untouched_of_differ {q : Place} (hd : DifferAt q f f') (he : f.Ends q) (he' : f'.Ends q)
    (hl : ∀ m, f.at? q ≠ some (.socket m l.socket))
    (hl' : ∀ m, f'.at? q ≠ some (.socket m l.socket))
    (hp : ∀ p, l.file = some p → Plain p) : l.Untouched f f' where
  nodes q' m := by
    by_cases hq : q' = q
    · subst hq
      exact iff_of_false (hl' m) (hl m)
    · rw [hd.elsewhere q' hq]
  path p hf r := hd.entry_iff he he' (hp p hf) r

/-- The files after the file of a listener was removed. -/
theorem Filed.files_drop {h : Host} (hl : l.Filed h.files cut true) :
    (h.drop l).files = h.files ∧ (l.file = none ∨ cut) ∨
      ∃ q, ¬cut ∧ h.files.Stands q l.socket ∧ (h.drop l).files = h.files.clearAt q := by
  rw [Host.drop_eq]
  cases hf : l.file with
  | none => exact Or.inl ⟨Host.files_letGo h l, Or.inl rfl⟩
  | some p =>
    obtain ⟨hplain, hcut, hno⟩ := hl p hf
    dsimp only
    unfold Host.unlink
    rw [Host.files_letGo]
    by_cases hc : cut
    · refine Or.inl ⟨?_, Or.inr hc⟩
      obtain ⟨-, hr⟩ := hcut hc
      split
      · rename_i files hrem
        obtain ⟨q, _, he, -⟩ := remove_ok hrem
        exact absurd he (hr q)
      · exact Host.files_letGo h l
    · obtain ⟨q, hq, he⟩ := hno hc
      obtain ⟨m, hm⟩ := hq.node
      rw [remove_eq hplain he hm (by simp)]
      exact Or.inr ⟨q, hc, hq, rfl⟩

/-- Closing a listener removes its file, unless the path has been cut off. -/
theorem Filed.drop {h : Host} (hl : l.Filed h.files cut true) :
    l.Filed (h.drop l).files cut false := by
  intro p hp
  obtain ⟨hplain, hcut, hno⟩ := hl p hp
  refine ⟨hplain, fun hc => ?_, fun hc => ?_⟩
  · rcases hl.files_drop with ⟨he, -⟩ | ⟨q, hnc, -⟩
    · exact he ▸ hcut hc
    · exact absurd hc hnc
  · rcases hl.files_drop with ⟨-, hn | hc'⟩ | ⟨q, -, hq, he⟩
    · rw [hp] at hn
      cases hn
    · exact absurd hc' hc
    · intro q' m hm
      rw [he] at hm
      obtain ⟨hne, hm⟩ := at?_of_clearAt hq.ends.ne_nil hm
      exact hne (hq.only hm)

theorem Filed.untouched_drop {h : Host} (hl : l.Filed h.files cut true)
    (hne : m.socket ≠ l.socket) (hp : ∀ p, m.file = some p → Plain p) :
    m.Untouched h.files (h.drop l).files := by
  rcases hl.files_drop with ⟨he, -⟩ | ⟨q, -, hq, he⟩
  · exact Untouched.of_eq m he
  · have hgone := at?_clearAt_self h.files hq.ends.ne_nil
    rw [he]
    refine untouched_of_differ (differAt_clearAt _ hq.ends.ne_nil) hq.ends (ends_of_free hgone)
      ?_ ?_ hp
    · intro m' hm
      obtain ⟨n, hn⟩ := hq.node
      rw [hn] at hm
      simp only [Option.some.injEq, Node.socket.injEq] at hm
      exact hne hm.2.symm
    · intro m' hm
      rw [hgone] at hm
      cases hm

/-- Nodes that name no socket of the listener stay where they are when it is closed. -/
theorem Filed.at?_drop {h : Host} (hl : l.Filed h.files cut true) {q : Place} {n : Node}
    (hn : h.files.at? q = some n) (hne : ∀ m, n ≠ .socket m l.socket) :
    (h.drop l).files.at? q = some n := by
  rcases hl.files_drop with ⟨he, -⟩ | ⟨q', -, hq, he⟩
  · rw [he, hn]
  · rw [he, at?_clearAt _ hq.ends.ne_nil, if_neg, hn]
    rintro rfl
    obtain ⟨m, hm⟩ := hq.node
    rw [hn] at hm
    exact hne m (Option.some.inj hm)

theorem Filed.congr (hl : l.Filed f cut o) (hc : cut ↔ cut') : l.Filed f cut' o := by
  intro p hp
  obtain ⟨hplain, hcut, hno⟩ := hl p hp
  exact ⟨hplain, fun h => hcut (hc.mpr h), fun h => hno fun h' => h (hc.mp h')⟩

theorem filed_none (hl : l.file = none) : l.Filed f cut o := by
  intro p hp
  rw [hl] at hp
  cases hp

theorem Filed.plain (hl : l.Filed f cut o) : ∀ p, l.file = some p → Plain p :=
  fun p hp => (hl p hp).1

end Listener

namespace Host

variable {h : Host} {l : Listener} {ls : List Listener} {cut : Listener → Prop}

/-- The others are filed as before when the first of some listeners is closed. -/
theorem Holding.filed_tail (hh : h.Holding (l :: ls))
    (hf : ∀ m ∈ l :: ls, m.Filed h.files (cut m) true) :
    ∀ m ∈ ls, m.Filed (h.drop l).files (cut m) true := by
  intro m hm
  have hap := List.pairwise_cons.mp hh.apart
  have hm' := hf m (List.mem_cons_of_mem _ hm)
  have hne : m.socket ≠ l.socket := fun hc => hap.1 m hm hc.symm
  exact hm'.untouched ((hf l List.mem_cons_self).untouched_drop hne hm'.plain)

/-- A listener that is closed already, or not among those that are closed, keeps its file. -/
theorem filed_dropAll_of_ne {m : Listener} {o : Bool} {c : Prop} (hs : h.Sound)
    (hh : h.Holding ls) (hf : ∀ l ∈ ls, l.Filed h.files (cut l) true)
    (hne : ∀ l ∈ ls, m.socket ≠ l.socket) (hm : m.Filed h.files c o) :
    m.Filed (h.dropAll ls).files c o := by
  induction ls generalizing h with
  | nil => exact hm
  | cons l ls ih =>
    have hl := hf l List.mem_cons_self
    exact ih (hs.drop l) hh.tail (hh.filed_tail hf)
      (fun l' hl' => hne l' (List.mem_cons_of_mem _ hl'))
      (hm.untouched (hl.untouched_drop (hne l List.mem_cons_self) hm.plain))

/-- What closing listeners does to files. -/
theorem filed_dropAll (hs : h.Sound) (hh : h.Holding ls)
    (hf : ∀ l ∈ ls, l.Filed h.files (cut l) true) :
    (∀ l ∈ ls, l.Filed (h.dropAll ls).files (cut l) false) ∧
      (∀ q m id, (h.dropAll ls).files.at? q = some (.socket m id) →
        h.files.at? q = some (.socket m id)) ∧
      ∀ q n, h.files.at? q = some n → (∀ l ∈ ls, ∀ m, n ≠ .socket m l.socket) →
        (h.dropAll ls).files.at? q = some n := by
  induction ls generalizing h with
  | nil => exact ⟨by simp, fun _ _ _ hq => hq, fun _ _ hn _ => hn⟩
  | cons l ls ih =>
    have hap := List.pairwise_cons.mp hh.apart
    have hl := hf l List.mem_cons_self
    have hrest := hh.filed_tail hf
    obtain ⟨hclosed, hnodes, hkept⟩ := ih (hs.drop l) hh.tail hrest
    refine ⟨fun m hm => ?_, fun q m id hq => ?_, fun q n hn hne => ?_⟩
    · rcases List.mem_cons.mp hm with rfl | hm
      · have hkeep := filed_dropAll_of_ne (hs.drop m) hh.tail hrest hap.1 hl.drop
        exact hkeep
      · exact hclosed m hm
    · obtain ⟨files, he, hsub⟩ := h.drop_keeps l
      have hq := hnodes q m id hq
      rw [he] at hq
      exact hsub q m id hq
    · exact hkept q n (hl.at?_drop hn (hne l List.mem_cons_self))
        fun m hm => hne m (List.mem_cons_of_mem _ hm)

end Host

namespace Bind
open Files Listener

variable {k : Kind} {path : List Char} {h h' : Host} {l m : Listener} {r : Bound}

theorem unix_filed (hs : h.Sound) (hu : unix k path h = (.ok r, h')) (hl : l.socket = r.1)
    (hf : l.file = r.2) : l.Filed h'.files False true := by
  obtain ⟨h₁, q, -, hc, he, hn, hp, rfl, hfiles, -⟩ := unix_ok hu
  have hq : q ≠ [] := (ends_of_free hn).ne_nil
  intro p hp'
  obtain rfl : path = p := by
    rw [hf] at hp'
    exact Option.some.inj hp'
  have hat : h'.files.at? q = some (.socket socketMode l.socket) := by
    rw [hfiles, at?_put _ hq, if_pos rfl, hl]
  refine ⟨hp, False.elim, fun _ => ⟨q, ⟨⟨_, hat⟩, fun {q' m} hm => ?_⟩, ?_⟩⟩
  · rw [hfiles, at?_put _ hq] at hm
    split at hm
    · assumption
    · have hlt := hs.nodes (nodes_clear hc hm)
      rw [hl] at hlt
      exact absurd hlt (Nat.lt_irrefl _)
  · rw [hfiles] at hat ⊢
    exact ((differAt_put _ hq _).entry_iff (ends_of_free hn) (ends_of_socket hat) hp q).mpr he

theorem unix_untouched (hu : unix k path h = (.ok r, h')) (hm : m.socket < h.nextSocket)
    (hp : ∀ p, m.file = some p → Plain p) :
    ∃ h₁, missingParent h path = false ∧ clear k path h = .ok h₁ ∧
      m.Untouched h₁.files h'.files := by
  obtain ⟨h₁, q, hmp, hc, -, hn, -, -, hfiles, -⟩ := unix_ok hu
  have hq : q ≠ [] := (ends_of_free hn).ne_nil
  have hat : h'.files.at? q = some (.socket socketMode h.nextSocket) := by
    rw [hfiles, at?_put _ hq, if_pos rfl]
  refine ⟨h₁, hmp, hc, untouched_of_differ (hfiles ▸ differAt_put _ hq _) (ends_of_free hn)
    (ends_of_socket hat) (by simp [hn]) ?_ hp⟩
  intro n hn'
  rw [hat] at hn'
  simp only [Option.some.injEq, Node.socket.injEq] at hn'
  exact Nat.ne_of_lt hm hn'.2.symm

/-- Somebody answers for a socket file whose socket listens. -/
theorem not_refused {q : Place} {n : Nat} {id : SocketId} {name : SocketName} (hp : Plain path)
    (he : h.files.entry path = .ok q) (hq : h.files.at? q = some (.socket n id))
    (hsk : h.sockets.get? id = some ⟨name, .stream, true⟩) (hnul : '\x00' ∉ path) {e : IoError}
    (hc : h.connectUnix path = .error e) : e.kind ≠ .connectionRefused := by
  have h0 := hp.ne_nil
  have hhd : path.head? ≠ some '\x00' := fun hh => hnul (List.mem_of_mem_head? hh)
  unfold Host.connectUnix at hc
  rw [if_neg hhd] at hc
  split at hc
  · rename_i e' he'
    cases hc
    unfold Host.socketPathError? at he'
    rw [if_neg hnul] at he'
    split at he'
    · cases he'
      decide
    · cases he'
  · simp only [h0, if_false, Files.find, locate_follow hp he (by simp [hq]), hq, hsk] at hc
    cases hc

/-- What stands at the path of a listener that is open and answers is never cleared away for another
one. The listener's own path is cut off if it leads elsewhere afterwards. -/
theorem clear_filed (hc : clear k path h = .ok h') (hl : l.Filed h.files False true)
    {name : SocketName} (hsk : h.sockets.get? l.socket = some ⟨name, .stream, true⟩) {p : List Char}
    (hp : l.file = some p) : l.Filed h'.files (h'.files.entry p ≠ h.files.entry p) true := by
  intro p' hp'
  obtain rfl : p = p' := Option.some.inj (hp.symm.trans hp')
  obtain ⟨hplain, -, hno⟩ := hl p hp
  obtain ⟨q, hq, he⟩ := hno id
  refine ⟨hplain, ?_⟩
  rcases clear_ok hc with rfl | ⟨g, node, heg, hg, hd, hplain', hnul, ⟨e, hcon, hkind⟩, rfl⟩
  · exact ⟨fun hne => absurd rfl hne, fun _ => ⟨q, hq, he⟩⟩
  · have hg0 := ne_nil_of_at? hg hd
    have hne : q ≠ g := by
      rintro rfl
      obtain ⟨m, hm⟩ := hq.node
      exact not_refused hplain' heg hm hsk hnul hcon hkind
    have hgone := at?_clearAt_self h.files hg0
    have hstands : (h.files.clearAt g).Stands q l.socket := by
      obtain ⟨m, hm⟩ := hq.node
      exact ⟨⟨m, by rw [at?_clearAt _ hg0, if_neg hne, hm]⟩,
        fun hm' => hq.only (at?_of_clearAt hg0 hm').2⟩
    constructor
    · intro hdiff
      refine ⟨⟨q, hstands⟩, ?_⟩
      rcases (differAt_clearAt h.files hg0).entry_or_error (ends_of_free hgone) hplain he with
        hsame | ⟨-, hr⟩
      · exact absurd (hsame.trans he.symm) hdiff
      · exact hr
    · intro hsame
      exact ⟨q, hstands, (Classical.not_not.mp hsame).trans he⟩

/-- Other places keep what stands there when the way for a socket is cleared. -/
theorem clear_at? (hc : clear k path h = .ok h') {q : Place} (hq : h.files.entry path ≠ .ok q) :
    h'.files.at? q = h.files.at? q := by
  rcases clear_ok hc with rfl | ⟨g, node, heg, hg, hd, -, -, -, rfl⟩
  · rfl
  · have hg0 := ne_nil_of_at? hg hd
    rw [at?_clearAt _ hg0, if_neg]
    rintro rfl
    exact hq heg

/-- Only a link can have led elsewhere what is removed to make way. -/
theorem link_of_clear (hc : clear k path h = .ok h') {p : List Char} {q : Place} (hp : Plain p)
    (he : h.files.entry p = .ok q) (hne : h'.files.entry p ≠ h.files.entry p) :
    ∃ g t, h.files.entry path = .ok g ∧ h.files.at? g = some (.link t) := by
  rcases clear_ok hc with rfl | ⟨g, node, heg, hg, hd, -, -, -, rfl⟩
  · exact absurd rfl hne
  · have hg0 := ne_nil_of_at? hg hd
    have hgone := at?_clearAt_self h.files hg0
    by_cases hends : h.files.Ends g
    · have hdiff := differAt_clearAt h.files hg0
      have hsame := (hdiff.entry_iff hends (ends_of_free hgone) hp q).mpr he
      exact absurd (hsame.trans he.symm) hne
    · cases node with
      | directory => exact absurd rfl hd
      | link t => exact ⟨g, t, heg, hg⟩
      | file content => exact absurd ⟨by simp [hg], by simp [hg]⟩ hends
      | socket m id => exact absurd (ends_of_socket hg) hends

end Bind
end Portkeeper
