import Mathlib.Data.List.Find
import Portkeeper.Proofs.Host.Holding

/-!
A host on which some sockets have been closed, and the same host with them. As long as nobody asks for a
name that one of them stands in the way of, whatever is done comes to the same on both.
-/

set_option autoImplicit false

namespace Portkeeper
open Net

/-- The names that somebody may come to have who takes an address. -/
def Deed.Takes : Deed → SocketName → Prop
  | .take a => a.Yields
  | .takeVsock v => v.Yields
  | .give _ => fun _ => False

/-- Sockets that may have been closed: their numbers, and what they are. -/
structure Loss where
  ids : SocketId → Prop
  sockets : Socket → Prop

/-- None of them stands in the way of a name. -/
def Loss.Spares (x : Loss) (n : SocketName) : Prop := ∀ s, x.sockets s → s.bars n = false

theorem Table.filter_erase {κ α : Type} [DecidableEq κ] (t : Table κ α) (k : κ) (p : κ × α → Bool) :
    (t.erase k).filter p = Table.erase (t.filter p) k := by
  simp only [Table.erase, List.filter_filter, Bool.and_comm]

theorem Table.get?_filter {κ α : Type} [DecidableEq κ] {p : κ → Bool} (t : Table κ α) {k : κ}
    (hk : p k = true) : Table.get? (t.filter fun e => p e.1) k = t.get? k := by
  unfold Table.get?
  rw [List.find?_filter]
  refine congrArg _ (List.find?_congr fun e _ => ?_)
  by_cases he : e.1 = k
  · simp [he, hk]
  · simp [he]

namespace Host

/-- A host without some sockets and some descriptors, and with other files. -/
def without (h : Host) (gone : SocketId → Bool) (shut : Int → Bool) (files : Files) : Host :=
  { h with
    files
    sockets := h.sockets.filter fun e => !gone e.1
    descriptors := h.descriptors.filter fun e => !shut e.1 }

/-- The second host is the first one without some of the sockets in question, and nobody else is going to
ask for a name that one of them stands in the way of. -/
structure Lacks (x : Loss) (h h' : Host) : Prop where
  bounded : ∀ id, x.ids id → id < h.nextSocket
  known : ∀ e ∈ h.sockets, x.ids e.1 → x.sockets e.2
  agenda : ∀ t d, (t, d) ∈ h.agenda → ∀ n, d.Takes n → x.Spares n
  rest : ∃ gone shut files, (∀ id, gone id = true → x.ids id) ∧
    (∀ e ∈ h.descriptors, shut e.1 = true → ∃ id, x.ids id ∧ e.2.target = .socket id) ∧
    h' = h.without gone shut files

namespace Lacks

variable {x : Loss} {h h' : Host}

theorem refl (bounded : ∀ id, x.ids id → id < h.nextSocket)
    (known : ∀ e ∈ h.sockets, x.ids e.1 → x.sockets e.2)
    (agenda : ∀ t d, (t, d) ∈ h.agenda → ∀ n, d.Takes n → x.Spares n) : Lacks x h h := by
  refine ⟨bounded, known, agenda, fun _ => false, fun _ => false, h.files, by simp, by simp, ?_⟩
  unfold without
  rw [List.filter_eq_self.mpr (by simp), List.filter_eq_self.mpr (by simp)]

theorem now (hl : Lacks x h h') : h'.now = h.now := by
  obtain ⟨gone, shut, files, -, -, rfl⟩ := hl.rest
  rfl

theorem next (hl : Lacks x h h') : h'.nextSocket = h.nextSocket := by
  obtain ⟨gone, shut, files, -, -, rfl⟩ := hl.rest
  rfl

theorem picked (hl : Lacks x h h') : h'.picked = h.picked := by
  obtain ⟨gone, shut, files, -, -, rfl⟩ := hl.rest
  rfl

/-- A socket that is missing is in nobody's way. -/
theorem any_sockets (hl : Lacks x h h') {p : Socket → Bool} (hp : ∀ s, x.sockets s → p s = false) :
    (h'.sockets.any fun e => p e.2) = h.sockets.any fun e => p e.2 := by
  obtain ⟨gone, shut, files, hgone, -, rfl⟩ := hl.rest
  rw [Bool.eq_iff_iff, List.any_eq_true, List.any_eq_true]
  constructor
  · rintro ⟨e, he, hpe⟩
    exact ⟨e, (List.mem_filter.mp he).1, hpe⟩
  · rintro ⟨e, he, hpe⟩
    refine ⟨e, List.mem_filter.mpr ⟨he, ?_⟩, hpe⟩
    cases hge : gone e.1 with
    | false => rfl
    | true =>
      rw [hp e.2 (hl.known e he (hgone e.1 hge))] at hpe
      cases hpe

theorem inUse (hl : Lacks x h h') {n : SocketName} (hn : x.Spares n) : h'.inUse n = h.inUse n :=
  hl.any_sockets hn

/-! ### Opening and closing -/

theorem withPicked (hl : Lacks x h h') (picked : List SocketName) :
    Lacks x { h with picked } { h' with picked } := by
  obtain ⟨gone, shut, files, hgone, hshut, rfl⟩ := hl.rest
  exact ⟨hl.bounded, hl.known, hl.agenda, gone, shut, files, hgone, hshut, rfl⟩

theorem withFiles (hl : Lacks x h h') (files files' : Files) :
    Lacks x { h with files } { h' with files := files' } := by
  obtain ⟨gone, shut, files₀, hgone, hshut, rfl⟩ := hl.rest
  exact ⟨hl.bounded, hl.known, hl.agenda, gone, shut, files', hgone, hshut, rfl⟩

theorem openSocket (hl : Lacks x h h') (s : Socket) :
    Lacks x (h.openSocket s).2 (h'.openSocket s).2 := by
  obtain ⟨gone, shut, files, hgone, hshut, rfl⟩ := hl.rest
  have hfresh : ¬x.ids h.nextSocket := fun hc => Nat.lt_irrefl _ (hl.bounded _ hc)
  have hkept : gone h.nextSocket = false := by
    cases hg : gone h.nextSocket with
    | false => rfl
    | true => exact absurd (hgone _ hg) hfresh
  refine ⟨fun id hid => Nat.lt_succ_of_lt (hl.bounded id hid), fun e he hid => ?_, hl.agenda, gone,
    shut, files, hgone, hshut, ?_⟩
  · rcases List.mem_cons.mp he with rfl | he
    · exact absurd hid hfresh
    · exact hl.known e (Table.mem_erase.mp he).1 hid
  · simp [Host.openSocket, without, Table.insert, hkept, Table.filter_erase]

theorem closeSocket (hl : Lacks x h h') (id : SocketId) :
    Lacks x (h.closeSocket id) (h'.closeSocket id) := by
  obtain ⟨gone, shut, files, hgone, hshut, rfl⟩ := hl.rest
  refine ⟨hl.bounded, fun e he => hl.known e (Table.mem_erase.mp he).1, hl.agenda, gone, shut, files,
    hgone, hshut, ?_⟩
  simp [Host.closeSocket, without, Table.filter_erase]

/-! ### Listening -/

theorem attempt (hl : Lacks x h h') (address : List Char) :
    (h'.attempt address).1 = (h.attempt address).1 ∧
      Lacks x (h.attempt address).2 (h'.attempt address).2 := by
  obtain ⟨gone, shut, files, hgone, hshut, rfl⟩ := hl.rest
  unfold Host.attempt
  simp only [without]
  split <;> exact ⟨rfl, hl.bounded, hl.known, hl.agenda, gone, shut, files, hgone, hshut, rfl⟩

/-- What is claimed on one host is claimed on the other, if nobody who is missing has been in the way. -/
theorem claim (hl : Lacks x h h') (picks : Bool) {names : List SocketName}
    (hn : ∀ n ∈ names, x.Spares n) :
    (h.claim picks names = none ∧ h'.claim picks names = none) ∨
      ∃ id g g', h.claim picks names = some (id, g) ∧ h'.claim picks names = some (id, g') ∧
        Lacks x g g' := by
  have hfind : names.find? (fun n => !h'.inUse n) = names.find? fun n => !h.inUse n :=
    List.find?_congr fun n hmem => by rw [hl.inUse (hn n hmem)]
  unfold Host.claim
  rw [hfind]
  cases names.find? fun n => !h.inUse n with
  | none => exact Or.inl ⟨rfl, rfl⟩
  | some n =>
    rw [hl.picked]
    exact Or.inr ⟨_, _, _, rfl, congrArg some (Prod.ext hl.next rfl),
      (hl.withPicked _).openSocket _⟩

theorem elim (hl : Lacks x h h') {o o' : Option (SocketId × Host)}
    (ho : (o = none ∧ o' = none) ∨
      ∃ id g g', o = some (id, g) ∧ o' = some (id, g') ∧ Lacks x g g') :
    Lacks x (o.elim h (·.2)) (o'.elim h' (·.2)) := by
  rcases ho with ⟨rfl, rfl⟩ | ⟨id, g, g', rfl, rfl, hg⟩
  · exact hl
  · exact hg

section
variable [Platform]

theorem claimTcp (hl : Lacks x h h') {a : SocketAddress} (ha : ∀ n, a.Yields n → x.Spares n) :
    (h.claimTcp a = none ∧ h'.claimTcp a = none) ∨
      ∃ id g g', h.claimTcp a = some (id, g) ∧ h'.claimTcp a = some (id, g') ∧ Lacks x g g' := by
  have hnames : h'.names a = h.names a := by rw [Host.names, hl.picked, Host.names]
  unfold Host.claimTcp
  rw [hnames]
  exact hl.claim _ fun n hn => ha n (yields_of_mem_names hn)

theorem claimVsock (hl : Lacks x h h') {v : Vsock} (hv : ∀ n, v.Yields n → x.Spares n) :
    (h.claimVsock v = none ∧ h'.claimVsock v = none) ∨
      ∃ id g g', h.claimVsock v = some (id, g) ∧ h'.claimVsock v = some (id, g') ∧ Lacks x g g' := by
  have hnames : h'.vsockNames v = h.vsockNames v := by
    rw [Host.vsockNames, hl.picked, Host.vsockNames]
  unfold Host.claimVsock
  rw [hnames]
  exact hl.claim _ fun n hn => hv n (yields_of_mem_vsockNames hn)

theorem listenTcp (hl : Lacks x h h') {a : SocketAddress} (ha : ∀ n, a.Yields n → x.Spares n) :
    (∃ e, h.listenTcp a = .error e ∧ h'.listenTcp a = .error e) ∨
      ∃ id g g', h.listenTcp a = .ok (id, g) ∧ h'.listenTcp a = .ok (id, g') ∧ Lacks x g g' := by
  unfold Host.listenTcp
  rw [hl.now]
  cases Platform.bars? h.now a with
  | some e => exact Or.inl ⟨e, rfl, rfl⟩
  | none =>
    rcases hl.claimTcp ha with ⟨hc, hc'⟩ | ⟨id, g, g', hc, hc', hg⟩
    · exact Or.inl ⟨_, by rw [hc]; rfl, by rw [hc']; rfl⟩
    · exact Or.inr ⟨id, g, g', by rw [hc]; rfl, by rw [hc']; rfl, hg⟩

theorem listenFirst (hl : Lacks x h h') (last : IoError) {as : List SocketAddress}
    (ha : ∀ a ∈ as, ∀ n, a.Yields n → x.Spares n) :
    (∃ e, h.listenFirst last as = .error e ∧ h'.listenFirst last as = .error e) ∨
      ∃ id g g', h.listenFirst last as = .ok (id, g) ∧ h'.listenFirst last as = .ok (id, g') ∧
        Lacks x g g' := by
  induction as generalizing last with
  | nil => exact Or.inl ⟨last, rfl, rfl⟩
  | cons a as ih =>
    unfold Host.listenFirst
    rcases hl.listenTcp (ha a List.mem_cons_self) with ⟨e, he, he'⟩ | ⟨id, g, g', he, he', hg⟩
    · rw [he, he']
      exact ih (.number e) fun b hb => ha b (List.mem_cons_of_mem a hb)
    · rw [he, he']
      exact Or.inr ⟨id, g, g', rfl, rfl, hg⟩

theorem listenVsock (hl : Lacks x h h') {v : Vsock} (hv : ∀ n, v.Yields n → x.Spares n) :
    (∃ e, h.listenVsock v = .error e ∧ h'.listenVsock v = .error e) ∨
      ∃ id g g', h.listenVsock v = .ok (id, g) ∧ h'.listenVsock v = .ok (id, g') ∧ Lacks x g g' := by
  unfold Host.listenVsock
  rw [hl.now]
  cases Platform.vsockBars? h.now v with
  | some e => exact Or.inl ⟨e, rfl, rfl⟩
  | none =>
    rcases hl.claimVsock hv with ⟨hc, hc'⟩ | ⟨id, g, g', hc, hc', hg⟩
    · exact Or.inl ⟨_, by rw [hc]; rfl, by rw [hc']; rfl⟩
    · exact Or.inr ⟨id, g, g', by rw [hc]; rfl, by rw [hc']; rfl, hg⟩

/-! ### Time -/

theorem perform (hl : Lacks x h h') {d : Deed} (hd : ∀ n, d.Takes n → x.Spares n) :
    Lacks x (h.perform d) (h'.perform d) := by
  cases d with
  | take a => exact hl.elim (hl.claimTcp hd)
  | takeVsock v => exact hl.elim (hl.claimVsock hd)
  | give id => exact hl.closeSocket id

theorem performs (hl : Lacks x h h') (due : List (Nat × Deed)) (hdue : ∀ e ∈ due, e ∈ h.agenda) :
    Lacks x (due.foldl (fun h e => h.perform e.2) h) (due.foldl (fun h e => h.perform e.2) h') := by
  induction due generalizing h h' with
  | nil => exact hl
  | cons e due ih =>
    have hone : Lacks x (h.perform e.2) (h'.perform e.2) :=
      hl.perform (hl.agenda e.1 e.2 (hdue e List.mem_cons_self))
    refine ih hone fun e' he' => ?_
    rw [(h.perform_keeps e.2).2.1]
    exact hdue e' (List.mem_cons_of_mem e he')

theorem sleep (hl : Lacks x h h') (time : Nat) : Lacks x (h.sleep time) (h'.sleep time) := by
  have hagenda : h'.agenda = h.agenda := by
    obtain ⟨gone, shut, files, -, -, rfl⟩ := hl.rest
    rfl
  unfold Host.sleep catchUp
  rw [hl.now, hagenda]
  dsimp only
  generalize hdue : (h.agenda.filter (·.1 ≤ h.now + time)).mergeSort _ = due
  have hmem : ∀ e ∈ due, e ∈ h.agenda := by
    intro e he
    rw [← hdue] at he
    exact (List.mem_filter.mp (List.mem_mergeSort.mp he)).1
  have hfold := hl.performs due hmem
  generalize due.foldl (fun h e => h.perform e.2) h = g at hfold
  generalize due.foldl (fun h e => h.perform e.2) h' = g' at hfold
  obtain ⟨gone, shut, files, hgone, hshut, rfl⟩ := hfold.rest
  exact ⟨hfold.bounded, hfold.known, fun t a ht => hl.agenda t a (List.mem_filter.mp ht).1, gone, shut,
    files, hgone, hshut, rfl⟩

end

/-! ### Letting go -/

/-- The descriptor of a socket that is not in question is closed on both hosts, and the socket with it on
both or on neither. -/
theorem closeDescriptor (hl : Lacks x h h') {fd : Int} {b : Bool} {id : SocketId}
    (hfd : h.descriptors.get? fd = some ⟨b, .socket id⟩) (hx : ¬x.ids id) :
    Lacks x (h.closeDescriptor fd) (h'.closeDescriptor fd) := by
  obtain ⟨gone, shut, files, hgone, hshut, rfl⟩ := hl.rest
  have hkept {e : Int × Descriptor} (he : e ∈ h.descriptors) (ht : e.2.target = .socket id) :
      shut e.1 = false := by
    cases hs : shut e.1 with
    | false => rfl
    | true =>
      obtain ⟨id', hid', ht'⟩ := hshut e he hs
      rw [ht] at ht'
      cases ht'
      exact absurd hid' hx
  have hfd' : (h.without gone shut files).descriptors.get? fd = some ⟨b, .socket id⟩ := by
    refine (Table.get?_filter (p := fun fd => !shut fd) h.descriptors ?_).trans hfd
    simp [hkept (Table.mem_of_get? hfd) rfl]
  have herase : (h.without gone shut files).descriptors.erase fd =
      (h.descriptors.erase fd).filter fun e => !shut e.1 :=
    (Table.filter_erase h.descriptors fd _).symm
  have hrest (g : Host) (hd : g.descriptors = h.descriptors.erase fd) :
      ∀ e ∈ g.descriptors, shut e.1 = true → ∃ id, x.ids id ∧ e.2.target = .socket id := by
    intro e he
    exact hshut e (Table.mem_erase.mp (hd ▸ he)).1
  rcases h.closeDescriptor_cases fd with ⟨he, hother⟩ | ⟨b₁, id₁, hg, hno, he⟩ <;>
    rcases (h.without gone shut files).closeDescriptor_cases fd with
      ⟨he', hother'⟩ | ⟨b₂, id₂, hg', hno', he'⟩
  · rw [he, he', herase]
    exact ⟨hl.bounded, hl.known, hl.agenda, gone, shut, files, hgone, hrest _ rfl, rfl⟩
  · obtain ⟨e, hm, ht⟩ := hother b id hfd
    rw [hfd'] at hg'
    cases hg'
    refine absurd ht (hno' e ?_)
    rw [herase]
    exact List.mem_filter.mpr ⟨hm, by simp [hkept (Table.mem_erase.mp hm).1 ht]⟩
  · obtain ⟨e, hm, ht⟩ := hother' b id hfd'
    rw [hfd] at hg
    cases hg
    rw [herase] at hm
    exact absurd ht (hno e (List.mem_filter.mp hm).1)
  · rw [hfd] at hg
    rw [hfd'] at hg'
    cases hg
    cases hg'
    rw [he, he', herase]
    refine ⟨hl.bounded, fun e hm => hl.known e (Table.mem_erase.mp hm).1, hl.agenda, gone, shut, files,
      hgone, hrest _ rfl, ?_⟩
    simp [without, Table.filter_erase]

theorem drop (hl : Lacks x h h') {l : Listener} (hh : ∀ fd, l.descriptor = some fd →
    (∃ b, h.descriptors.get? fd = some ⟨b, .socket l.socket⟩) ∧ ¬x.ids l.socket) :
    Lacks x (h.drop l) (h'.drop l) := by
  obtain ⟨files, he, -⟩ := h.drop_keeps l
  obtain ⟨files', he', -⟩ := h'.drop_keeps l
  rw [he, he']
  refine withFiles ?_ files files'
  unfold letGo
  cases hd : l.descriptor with
  | none => exact hl.closeSocket l.socket
  | some fd =>
    obtain ⟨⟨b, hg⟩, hx⟩ := hh fd hd
    exact hl.closeDescriptor hg hx

theorem lose_socket (hl : Lacks x h h') {id : SocketId} (hx : x.ids id) :
    Lacks x h (h'.closeSocket id) := by
  obtain ⟨gone, shut, files, hgone, hshut, rfl⟩ := hl.rest
  refine ⟨hl.bounded, hl.known, hl.agenda, fun i => gone i || i = id, shut, files, fun i hi => ?_,
    hshut, ?_⟩
  · rcases (Bool.or_eq_true _ _).mp hi with hi | hi
    · exact hgone i hi
    · exact of_decide_eq_true hi ▸ hx
  · simp [Host.closeSocket, without, Table.erase, List.filter_filter, Bool.and_comm]

theorem lose_descriptor (hl : Lacks x h h') {fd : Int}
    (hfd : ∀ d, (fd, d) ∈ h.descriptors → ∃ id, x.ids id ∧ d.target = .socket id) :
    Lacks x h { h' with descriptors := h'.descriptors.erase fd } := by
  obtain ⟨gone, shut, files, hgone, hshut, rfl⟩ := hl.rest
  refine ⟨hl.bounded, hl.known, hl.agenda, gone, fun i => shut i || i = fd, files, hgone,
    fun e he hs => ?_, ?_⟩
  · rcases (Bool.or_eq_true _ _).mp hs with hs | hs
    · exact hshut e he hs
    · obtain ⟨i, d⟩ := e
      obtain rfl : i = fd := of_decide_eq_true hs
      exact hfd d he
  · simp [without, Table.erase, List.filter_filter, Bool.and_comm]

/-- A listener is closed on one host alone, whose socket is in question. -/
theorem drop_lost (hl : Lacks x h h') (hs : h.Sound) {l : Listener} (hh : l.Holds h')
    (hx : x.ids l.socket) : Lacks x h (h'.drop l) := by
  obtain ⟨files, he, -⟩ := h'.drop_keeps l
  rw [he]
  suffices hlet : Lacks x h (h'.letGo l) from hlet.withFiles h.files files
  unfold letGo
  cases hd : l.descriptor with
  | none => exact hl.lose_socket hx
  | some fd =>
    obtain ⟨b, hg⟩ := hh.inherited fd hd
    have hmem : (fd, ⟨b, .socket l.socket⟩) ∈ h.descriptors := by
      have hm := Table.mem_of_get? hg
      obtain ⟨gone, shut, files, -, -, rfl⟩ := hl.rest
      exact (List.mem_filter.mp hm).1
    have hone : ∀ d, (fd, d) ∈ h.descriptors → ∃ id, x.ids id ∧ d.target = .socket id := by
      intro d hm
      have hd' : h.descriptors.get? fd = some d := Table.get?_of_mem hs.distinct hm
      rw [show h.descriptors.get? fd = some _ from Table.get?_of_mem hs.distinct hmem] at hd'
      cases hd'
      exact ⟨l.socket, hx, rfl⟩
    have hlost := hl.lose_descriptor hone
    dsimp only
    rcases h'.closeDescriptor_cases fd with ⟨he, -⟩ | ⟨b', id, hg', -, he⟩
    · rw [he]
      exact hlost
    · rw [hg] at hg'
      cases hg'
      rw [he]
      exact hlost.lose_socket hx

/-! ### Listeners -/

variable [Platform]

theorem tcp (hl : Lacks x h h') (k : Kind) {address : List Char}
    (ha : ∀ a : SocketAddress, a.Behind address → ∀ n, a.Yields n → x.Spares n) :
    (Bind.tcp k address h').1 = (Bind.tcp k address h).1 ∧
      Lacks x (Bind.tcp k address h).2 (Bind.tcp k address h').2 := by
  obtain ⟨hsame, hatt⟩ := hl.attempt address
  unfold Bind.tcp
  dsimp only
  generalize h.attempt address = r at hsame hatt
  generalize h'.attempt address = r' at hsame hatt
  obtain ⟨o, g⟩ := r
  obtain ⟨o', g'⟩ := r'
  obtain rfl : o' = o := hsame
  cases o' with
  | some e => exact ⟨rfl, hatt⟩
  | none =>
    dsimp only at hatt ⊢
    rw [hatt.now]
    cases has : addresses g.now address with
    | error e => exact ⟨rfl, hatt⟩
    | ok as =>
      rcases hatt.listenFirst noAddress fun a hmem => ha a ⟨_, as, has, hmem⟩ with
        ⟨e, he, he'⟩ | ⟨id, j, j', he, he', hj⟩
      · simpa only [bind, Except.bind, he, he', true_and] using hatt
      · simpa only [bind, Except.bind, he, he', true_and] using hj

theorem vsock (hl : Lacks x h h') (k : Kind) {address : List Char}
    (hv : ∀ v, Listen.vsock 0 address = .ok v → ∀ n, v.Yields n → x.Spares n) :
    (Bind.vsock k address h').1 = (Bind.vsock k address h).1 ∧
      Lacks x (Bind.vsock k address h).2 (Bind.vsock k address h').2 := by
  obtain ⟨hsame, hatt⟩ := hl.attempt address
  unfold Bind.vsock
  dsimp only
  cases hread : Listen.vsock 0 address with
  | error e => exact ⟨rfl, hl⟩
  | ok v =>
    dsimp only
    generalize h.attempt address = r at hsame hatt
    generalize h'.attempt address = r' at hsame hatt
    obtain ⟨o, g⟩ := r
    obtain ⟨o', g'⟩ := r'
    obtain rfl : o' = o := hsame
    cases o' with
    | some e => exact ⟨rfl, hatt⟩
    | none =>
      dsimp only at hatt ⊢
      rcases hatt.listenVsock (hv v hread) with ⟨e, he, he'⟩ | ⟨id, j, j', he, he', hj⟩
      · simpa only [he, he', true_and] using hatt
      · simpa only [he, he', true_and] using hj

/-- An attempt to listen comes to the same, unless it asks for a name that a missing socket stood in the
way of. -/
theorem listen (hl : Lacks x h h') {k : Kind} {address : String} (hk : k.isNetwork = true)
    (ha : ∀ n, k.Asks address n → x.Spares n) (b : Bundle) :
    (h'.listen k address b).1 = (h.listen k address b).1 ∧
      Lacks x (h.listen k address b).2 (h'.listen k address b).2 := by
  unfold Host.listen
  cases hc : k.canonicalize address with
  | error e => exact ⟨rfl, hl⟩
  | ok c =>
    dsimp only
    by_cases hne : c = ""
    · rw [if_pos hne, if_pos hne]
      exact ⟨rfl, hl⟩
    · rw [if_neg hne, if_neg hne]
      have hsocket : (Bind.socket k c.toList h').1 = (Bind.socket k c.toList h).1 ∧
          Lacks x (Bind.socket k c.toList h).2 (Bind.socket k c.toList h').2 := by
        unfold Bind.socket
        cases ht : k.transport with
        | unix => simp [Kind.isNetwork, ht] at hk
        | tls =>
          refine hl.tcp k fun a hbehind n hn => ha n ⟨c, hc, ?_⟩
          unfold Kind.Yields
          rw [ht]
          exact ⟨a, hbehind, hn⟩
        | vsock =>
          refine hl.vsock k fun v hv n hn => ha n ⟨c, hc, ?_⟩
          unfold Kind.Yields
          rw [ht]
          exact ⟨v, hv, hn⟩
      obtain ⟨hsame, hs⟩ := hsocket
      generalize Bind.socket k c.toList h = r at hsame hs
      generalize Bind.socket k c.toList h' = r' at hsame hs
      obtain ⟨o, g⟩ := r
      obtain ⟨o', g'⟩ := r'
      obtain rfl : o' = o := hsame
      cases o' with
      | error e => exact ⟨rfl, hs⟩
      | ok bound =>
        obtain ⟨id, file⟩ := bound
        dsimp only at hs ⊢
        cases b.acceptorFor k with
        | ok tls => exact ⟨rfl, hs⟩
        | error e => exact ⟨rfl, hs.drop fun fd hfd => by cases hfd⟩

end Lacks
end Host
end Portkeeper
