import Mathlib.Control.Monad.Basic
import Portkeeper.Proofs.Host.SocketFiles
import Portkeeper.Sandbox

/-!
Making way for the file of a unix socket. Whether somebody listens at a path is told by connecting to
it, and the system refuses a connection at a file or a link to one as it does at a socket that nobody
listens on: all of these are removed. What answers in any other way stays, and so does a directory.
-/

set_option autoImplicit false

namespace Portkeeper

/-! ### What a lookup can fail with -/

namespace Files

variable {f : Files} {b : Bool} {n : Nat} {base : Place} {steps : List (List Char)} {p : List Char}
  {e : Nat}

/-- The errors with which a path can lead nowhere. -/
def lookupErrors : List Nat :=
  [ErrorNumber.noSuchFile, ErrorNumber.nameTooLong, ErrorNumber.notADirectory,
    ErrorNumber.tooManyLevels]

theorem stretch_error (h : f.stretch b base steps = .straight (.error e)) : e ∈ lookupErrors := by
  fun_induction Files.stretch f b base steps with
  | case1 base => cases h
  | case2 base rest ih => exact ih h
  | case3 base step rest hs hl =>
    cases h
    decide
  | case4 base step rest hs hl place hn =>
    split at h
    · cases h
    · cases h
      decide
  | case5 base step rest hs hl place hd ih => exact ih h
  | case6 base step rest hs hl place t ht hr => cases h
  | case7 base step rest hs hl place t ht hr => cases h
  | case8 base step rest hs hl place node hd hk hn =>
    split at h
    · cases h
    · cases h
      decide

theorem walk_error (h : f.walk b n base steps = .error e) : e ∈ lookupErrors := by
  induction n generalizing base steps with
  | zero =>
    cases hs : f.stretch b base steps with
    | straight o =>
      rw [walk_straight hs] at h
      exact stretch_error (hs.trans (congrArg Stretch.straight h))
    | bend base' steps' =>
      simp only [walk, hs] at h
      cases h
      decide
  | succ n ih =>
    cases hs : f.stretch b base steps with
    | straight o =>
      rw [walk_straight hs] at h
      exact stretch_error (hs.trans (congrArg Stretch.straight h))
    | bend base' steps' =>
      rw [walk_bend hs] at h
      exact ih h

theorem locate_error (h : f.locate b p = .error e) : e ∈ lookupErrors := by
  unfold locate at h
  split at h
  · cases h
    decide
  · split at h
    · cases h
      decide
    · dsimp only at h
      split at h
      · rename_i e' hw
        cases h
        exact walk_error hw
      · split at h
        · split at h
          · cases h
          · cases h
            decide
          · cases h
            decide
        · cases h

theorem find_error (h : f.find b p = .error e) : e ∈ lookupErrors := by
  unfold find at h
  split at h
  · rename_i hl
    cases h
    exact locate_error hl
  · split at h
    · cases h
    · cases h
      decide

/-- A walk that follows a last link stops at the link when it does not. -/
theorem walk_stop {r : Place} (h : f.walk true n base steps = .ok r) :
    ∃ r', f.walk false n base steps = .ok r' ∧ (r' = r ∨ ∃ t, f.at? r' = some (.link t)) := by
  induction n using Nat.strongRecOn generalizing base steps with
  | ind n ih =>
    by_cases hlink : ∃ r' t, f.stretch false base steps = .straight (.ok r') ∧
        f.at? r' = some (.link t)
    · obtain ⟨r', t, hs, ht⟩ := hlink
      exact ⟨r', walk_straight hs, Or.inr ⟨t, ht⟩⟩
    · have hsame : f.stretch true base steps = f.stretch false base steps :=
        stretch_follow fun r' hs t ht => hlink ⟨r', t, hs, ht⟩
      obtain hst | ⟨m, base', steps', rfl, hst, hw⟩ := walk_ok h
      · exact ⟨r, walk_straight (hsame.symm.trans hst), Or.inl rfl⟩
      · rw [walk_bend (hsame.symm.trans hst)]
        exact ih m (Nat.lt_succ_self m) hw

/-- Where a path leads to something, something stands at the path. -/
theorem find_stop {node : Node} (h : f.find true p = .ok node) :
    ∃ node', f.find false p = .ok node' := by
  cases hd : PathText.endsInDirectory p with
  | true =>
    have hsame : f.locate false p = f.locate true p := by simp only [locate, hd, Bool.or_true]
    exact ⟨node, by rwa [find, hsame]⟩
  | false =>
    unfold find locate at h ⊢
    rw [hd] at h ⊢
    simp only [Bool.or_false, Bool.false_eq_true, if_false] at h ⊢
    by_cases h0 : p = []
    · rw [if_pos h0] at h
      cases h
    by_cases h1 : 4095 < (Text.utf8 p).length
    · rw [if_neg h0, if_pos h1] at h
      cases h
    rw [if_neg h0, if_neg h1] at h ⊢
    generalize hw : f.walk true linkLimit _ _ = w at h
    cases w with
    | error e => cases h
    | ok r =>
      obtain ⟨r', hw', hr'⟩ := walk_stop hw
      rw [hw']
      rcases hr' with rfl | ⟨t, ht⟩
      · exact ⟨node, h⟩
      · exact ⟨.link t, by simp only [ht]⟩

/-- The path of a file is looked up as it stands. -/
theorem locate_of_entry {q : Place} (hp : Plain p) (he : f.entry p = .ok q) :
    f.locate false p = .ok q := by
  unfold entry at he
  rwa [withoutEnd_of_closed hp.closed] at he

end Files

/-! ### Who answers -/

/-- Somebody takes connections at a node. -/
def Node.Answers (h : Host) : Node → Prop
  | .socket _ id => ∃ name, h.sockets.get? id = some ⟨name, .stream, true⟩
  | _ => False

/-- The system refuses connections at a node: it is no socket, or one that is closed or does not
listen. -/
def Node.Refuses (h : Host) : Node → Prop
  | .socket _ id => ∀ sk, h.sockets.get? id = some sk → sk.type = .stream ∧ sk.listening = false
  | _ => True

namespace Host

variable {h : Host} {path : List Char}

theorem ne_nul_of_short (hs : socketPathError? path = none) : '\x00' ∉ path := by
  intro hn
  rw [socketPathError?, if_pos hn] at hs
  cases hs

/-- What connecting comes to, at a path that the system can be asked about. -/
theorem connectUnix_of_find (hs : socketPathError? path = none) {n : Node}
    (hf : h.files.find true path = .ok n) :
    (n.Answers h → ∃ id, h.connectUnix path = .ok id) ∧
      (n.Refuses h → h.connectUnix path = .error (.number ErrorNumber.connectionRefused)) := by
  have hhd : path.head? ≠ some '\x00' := fun hh => ne_nul_of_short hs (List.mem_of_mem_head? hh)
  have h0 : path ≠ [] := by
    rintro rfl
    cases hf
  unfold connectUnix
  simp only [hhd, hs, h0, hf, if_false]
  cases n with
  | directory => exact ⟨False.elim, fun _ => rfl⟩
  | file content => exact ⟨False.elim, fun _ => rfl⟩
  | link target => exact ⟨False.elim, fun _ => rfl⟩
  | socket mode id =>
    constructor
    · rintro ⟨name, hsk⟩
      exact ⟨id, by simp only [hsk]⟩
    · intro hr
      cases hsk : h.sockets.get? id with
      | none => simp only [hsk]
      | some sk =>
        obtain ⟨name, type, listening⟩ := sk
        obtain ⟨ht, hl⟩ := hr _ hsk
        obtain rfl : type = .stream := ht
        obtain rfl : listening = false := hl
        simp only [hsk]

/-- Nothing else is refused. -/
theorem refuses_of_connectUnix (hnul : '\x00' ∉ path) {e : IoError}
    (hc : h.connectUnix path = .error e) (he : e.kind = .connectionRefused) :
    socketPathError? path = none ∧ ∃ n, h.files.find true path = .ok n ∧ n.Refuses h := by
  have hhd : path.head? ≠ some '\x00' := fun hh => hnul (List.mem_of_mem_head? hh)
  unfold connectUnix at hc
  rw [if_neg hhd] at hc
  split at hc
  · rename_i e' hs
    cases hc
    rw [socketPathError?, if_neg hnul] at hs
    split at hs
    · cases hs
      cases he
    · cases hs
  · rename_i hs
    refine ⟨hs, ?_⟩
    split at hc
    · cases hc
      cases he
    · split at hc
      · rename_i e' hf
        cases hc
        have hall : ∀ e ∈ Files.lookupErrors, (IoError.number e).kind ≠ .connectionRefused := by decide
        exact absurd he (hall e' (Files.find_error hf))
      · rename_i mode id hf
        refine ⟨_, hf, fun sk hsk => ?_⟩
        obtain ⟨name, type, listening⟩ := sk
        rw [hsk] at hc
        cases type with
        | stream =>
          cases listening with
          | true => cases hc
          | false => exact ⟨rfl, rfl⟩
        | datagram =>
          cases hc
          cases he
      · rename_i n hn hf
        refine ⟨n, hf, ?_⟩
        cases n with
        | directory => trivial
        | file content => trivial
        | link target => trivial
        | socket mode id => exact absurd rfl (hn mode id)

end Host

/-- The system's own reasons have nothing to do with files. -/
theorem Host.attempt_files (h : Host) (files : Files) (path : List Char) :
    ({ h with files }.attempt path).1 = (h.attempt path).1 := by
  unfold attempt
  dsimp only
  split <;> rfl

/-! ### What gives way -/

namespace Bind

/-- What stands at the end of a path has to give way to a socket: it is no directory, and where the
path leads connections are refused. -/
structure GivesWay (h : Host) (path : List Char) (n : Node) : Prop where
  within : missingParent h path = false
  short : Host.socketPathError? path = none
  plain : Files.Plain path
  kind : n ≠ .directory
  refuses : ∃ m, h.files.find true path = .ok m ∧ m.Refuses h

/-- What comes of binding a unix socket to a path. -/
structure Settles (h : Host) (path : List Char) (r : Except EndpointError Listener) (h' : Host) :
    Prop where
  missing : missingParent h path = true →
    r = .error (.missingDirectory (String.ofList path)) ∧ h' = h
  inUse : missingParent h path = false → Host.socketPathError? path = none →
    (∃ m, h.files.find true path = .ok m ∧ m.Answers h) →
    r = .error (.socketInUse (String.ofList path)) ∧ h' = h
  made : ∀ l, r = .ok l → ∃ q, h.files.entry path = .ok q ∧ l.file = some path ∧
    h'.files.at? q = some (.socket socketMode l.socket) ∧
    h'.sockets.get? l.socket = some ⟨.unix (.path path), .stream, true⟩
  serves : ∀ q, missingParent h path = false → Host.socketPathError? path = none →
    Files.Plain path → h.files.entry path = .ok q →
    (h.files.at? q = none ∨ ∃ m id, h.files.at? q = some (.socket m id) ∧
      (Node.socket m id).Refuses h) →
    (h.attempt path).1 = none → ∃ l, r = .ok l
  removed : ∀ q n, h.files.entry path = .ok q → h.files.at? q = some n → GivesWay h path n →
    (∃ l, r = .ok l) ∨ (∃ e, r = .error e) ∧ h'.files.at? q = none
  kept : ∀ q n, h.files.entry path = .ok q → h.files.at? q = some n → ¬GivesWay h path n →
    (∃ e, r = .error e) ∧ h'.files = h.files
  elsewhere : ∀ q, h.files.entry path ≠ .ok q → h'.files.at? q = h.files.at? q
  others : ∀ id, id ≠ h.nextSocket → h'.sockets.get? id = h.sockets.get? id

variable {h h' : Host} {k : Kind} {path : List Char} {q : Place} {n : Node}

theorem clear_of_free (he : h.files.entry path = .ok q) (hn : h.files.at? q = none)
    (hp : Files.Plain path) : clear k path h = .ok h := by
  have hf : h.files.find false path = .error ErrorNumber.noSuchFile := by
    simp only [Files.find, Files.locate_of_entry hp he, hn]
  unfold clear
  dsimp only
  split
  · rfl
  · rename_i hok
    split at hok
    · cases hok
    · rw [hf] at hok
      cases hok

theorem clear_of_givesWay (he : h.files.entry path = .ok q) (hn : h.files.at? q = some n)
    (hg : GivesWay h path n) : clear k path h = .ok { h with files := h.files.clearAt q } := by
  obtain ⟨m, hm, hr⟩ := hg.refuses
  have hf : h.files.find false path = .ok n := by
    simp only [Files.find, Files.locate_of_entry hg.plain he, hn]
  unfold clear
  simp only [if_neg (Host.ne_nul_of_short hg.short), hf, (Host.connectUnix_of_find hg.short hm).2 hr,
    Files.remove_eq hg.plain he hn hg.kind]
  rw [if_pos (by decide)]

/-- The way is made by removing what gives way, and by nothing else. -/
theorem clear_cases (hm : missingParent h path = false) (hc : clear k path h = .ok h') :
    h' = h ∨ ∃ q n, h.files.entry path = .ok q ∧ h.files.at? q = some n ∧ GivesWay h path n ∧
      h' = { h with files := h.files.clearAt q } := by
  rcases clear_ok hc with rfl | ⟨q, n, he, hn, hd, hp, hnul, ⟨e, hcon, hkind⟩, rfl⟩
  · exact Or.inl rfl
  · obtain ⟨hs, hr⟩ := Host.refuses_of_connectUnix hnul hcon hkind
    exact Or.inr ⟨q, n, he, hn, ⟨hm, hs, hp, hd, hr⟩, rfl⟩

theorem unix_of_inUse (hm : missingParent h path = false)
    (hs : Host.socketPathError? path = none)
    (ha : ∃ m, h.files.find true path = .ok m ∧ m.Answers h) :
    unix k path h = (.error (.socketInUse (String.ofList path)), h) := by
  obtain ⟨m, hf, ha⟩ := ha
  obtain ⟨id, hcon⟩ := (Host.connectUnix_of_find hs hf).1 ha
  have hclear : clear k path h = .error (.socketInUse (String.ofList path)) := by
    obtain ⟨n, hn⟩ := Files.find_stop hf
    unfold clear
    simp only [if_neg (Host.ne_nul_of_short hs), hn, hcon]
  unfold unix
  simp only [hm, hclear, Bool.false_eq_true, if_false]

/-- Nothing hinders binding once there is room, unless the system has reasons of its own. -/
theorem unix_of_room {h₁ : Host} (hm : missingParent h path = false)
    (hs : Host.socketPathError? path = none) (hp : Files.Plain path)
    (hc : clear k path h = .ok h₁) (he : h₁.files.entry path = .ok q)
    (hn : h₁.files.at? q = none) (ha : (h₁.attempt path).1 = none) :
    ∃ r, (unix k path h).1 = .ok r := by
  obtain ⟨h₂, ha₂⟩ : ∃ h₂, h₁.attempt path = (none, h₂) := ⟨_, Prod.ext ha rfl⟩
  have hfiles : h₂.files = h₁.files := by
    have hkeeps := (h₁.attempt_keeps path).2.2
    rwa [ha₂] at hkeeps
  have hhd : path.head? ≠ some '\x00' :=
    fun hh => Host.ne_nul_of_short hs (List.mem_of_mem_head? hh)
  have hcreate (id : SocketId) : h₂.files.create path (.socket Host.freshMode id) =
      .ok (h₁.files.put q (.socket Host.freshMode id)) := by
    simp [Files.create, hfiles, he, hn, hp.closed]
  obtain ⟨q', -, -, -, hmode⟩ := setMode_create socketMode (hcreate h₂.nextSocket)
  unfold unix Host.bindUnix Host.openSocket
  simp only [hm, hc, ha₂, hhd, hs, hcreate, hmode, Bool.false_eq_true, if_false]
  exact ⟨_, rfl⟩

/-- There is room where nothing stands, and where a socket does that nobody listens on. -/
theorem unix_of_free_or_dead (hm : missingParent h path = false)
    (hs : Host.socketPathError? path = none) (hp : Files.Plain path) (he : h.files.entry path = .ok q)
    (hroom : h.files.at? q = none ∨ ∃ m id, h.files.at? q = some (.socket m id) ∧
      (Node.socket m id).Refuses h) (ha : (h.attempt path).1 = none) :
    ∃ r, (unix k path h).1 = .ok r := by
  rcases hroom with hn | ⟨m, id, hn, hr⟩
  · exact unix_of_room hm hs hp (clear_of_free he hn hp) he hn ha
  · have hfind : h.files.find true path = .ok (.socket m id) := by
      simp only [Files.find, Files.locate_follow hp he (by simp [hn]), hn]
    have hg : GivesWay h path (.socket m id) := ⟨hm, hs, hp, by simp, _, hfind, hr⟩
    have hq := (Files.ends_of_socket hn).ne_nil
    have hgone := Files.at?_clearAt_self h.files hq
    have he' := ((Files.differAt_clearAt h.files hq).entry_iff (Files.ends_of_socket hn)
      (Files.ends_of_free hgone) hp q).mpr he
    exact unix_of_room hm hs hp (clear_of_givesWay he hn hg) he' hgone
      ((h.attempt_files _ path).trans ha)

/-- The socket's file stands where the path led before the way was made. -/
theorem entry_of_clear {h₁ : Host} (hm : missingParent h path = false)
    (hc : clear k path h = .ok h₁) (he : h₁.files.entry path = .ok q) :
    h.files.entry path = .ok q := by
  rcases clear_cases hm hc with rfl | ⟨q₀, n, he₀, hn, hg, rfl⟩
  · exact he
  · have hq₀ := Files.ne_nil_of_at? hn hg.kind
    have hgone := Files.at?_clearAt_self h.files hq₀
    rcases (Files.differAt_clearAt h.files hq₀).entry_or_error (Files.ends_of_free hgone) hg.plain he₀
      with hsame | ⟨-, hno⟩
    · rw [he₀, ← hsame, ← he]
    · exact absurd he (hno q)

/-- What stands where the path leads is the one thing that making way can remove. -/
theorem files_of_clear {h₁ : Host} (hm : missingParent h path = false)
    (hc : clear k path h = .ok h₁) (he : h.files.entry path = .ok q) (hn : h.files.at? q = some n)
    (hg : ¬GivesWay h path n) : h₁ = h := by
  rcases clear_cases hm hc with rfl | ⟨q₀, n₀, he₀, hn₀, hg₀, -⟩
  · rfl
  · obtain rfl : q = q₀ := Except.ok.inj (he.symm.trans he₀)
    obtain rfl : n = n₀ := Option.some.inj (hn.symm.trans hn₀)
    exact absurd hg₀ hg

theorem unix_of_missing (hm : missingParent h path = true) :
    unix k path h = (.error (.missingDirectory (String.ofList path)), h) := by
  unfold unix
  simp only [hm, if_true]

theorem settles_ok {r : Bound} {l : Listener} (hu : unix k path h = (.ok r, h'))
    (hl : l.socket = r.1 ∧ l.file = r.2) : Settles h path (.ok l) h' := by
  obtain ⟨h₁, q, hm, hc, he₁, hn₁, hp, rfl, hfiles, hg⟩ := unix_ok hu
  have he := entry_of_clear hm hc he₁
  have hq : q ≠ [] := (Files.ends_of_free hn₁).ne_nil
  exact {
    missing := fun hm' => by
      rw [hm] at hm'
      cases hm'
    inUse := fun _ hs ha => by
      rw [unix_of_inUse hm hs ha] at hu
      cases hu
    made := fun l' hl' => by
      obtain rfl := Except.ok.inj hl'
      rw [hl.1, hl.2]
      refine ⟨q, he, rfl, ?_, hg.get?_self⟩
      rw [hfiles, Files.at?_put _ hq, if_pos rfl]
    serves := fun _ _ _ _ _ _ _ => ⟨l, rfl⟩
    removed := fun _ _ _ _ _ => Or.inl ⟨l, rfl⟩
    kept := fun q' n he' hn hno => by
      obtain rfl : q = q' := Except.ok.inj (he.symm.trans he')
      rw [files_of_clear hm hc he hn hno, hn] at hn₁
      cases hn₁
    elsewhere := fun q' hq' => by
      have hne : q' ≠ q := fun hc' => hq' (hc' ▸ he)
      rw [hfiles, Files.at?_put _ hq, if_neg hne]
      exact clear_at? hc hq'
    others := fun id hid => by rw [hg.sockets, if_neg hid] }

theorem settles_error {e : EndpointError} (hu : unix k path h = (.error e, h')) :
    Settles h path (.error e) h' := by
  obtain ⟨hst, hfiles, -⟩ := unix_error hu
  exact {
    missing := fun hm => by
      rw [unix_of_missing hm] at hu
      cases hu
      exact ⟨rfl, rfl⟩
    inUse := fun hm hs ha => by
      rw [unix_of_inUse hm hs ha] at hu
      cases hu
      exact ⟨rfl, rfl⟩
    made := nofun
    serves := fun q hm hs hp he hroom ha => by
      obtain ⟨r, hr⟩ := unix_of_free_or_dead (k := k) hm hs hp he hroom ha
      rw [hu] at hr
      cases hr
    removed := fun q n he hn hg => by
      refine Or.inr ⟨⟨e, rfl⟩, ?_⟩
      have hgone := Files.at?_clearAt_self h.files (Files.ne_nil_of_at? hn hg.kind)
      have hc := clear_of_givesWay (k := k) he hn hg
      rcases hfiles with ⟨-, hm | ⟨e', he'⟩⟩ | ⟨h₁, -, hc', hf⟩
      · rw [hg.within] at hm
        cases hm
      · rw [hc] at he'
        cases he'
      · obtain rfl := Except.ok.inj (hc.symm.trans hc')
        rw [hf, hgone]
    kept := fun q n he hn hno => by
      refine ⟨⟨e, rfl⟩, ?_⟩
      rcases hfiles with ⟨hf, -⟩ | ⟨h₁, hm, hc, hf⟩
      · exact hf
      · rw [hf, files_of_clear hm hc he hn hno]
    elsewhere := fun q hq => by
      rcases hfiles with ⟨hf, -⟩ | ⟨h₁, -, hc, hf⟩
      · rw [hf]
      · rw [hf]
        exact clear_at? hc hq
    others := fun id _ => hst.sockets id }

end Bind

namespace Host

variable [Platform]

theorem listen_makes_way {h : Host} {k : Kind} {address c : String} {b : Bundle}
    (hk : k.isNetwork = false) (hc : k.canonicalize address = .ok c) (hne : c ≠ "") :
    Bind.Settles h c.toList (h.listen k address b).1 (h.listen k address b).2 := by
  rw [listen_unix hk hc hne]
  cases hu : Bind.unix k c.toList h with
  | mk r h' =>
    cases r with
    | ok r => exact Bind.settles_ok hu ⟨rfl, rfl⟩
    | error e => exact Bind.settles_error hu

end Host

namespace Host

/-- A host on which a socket file, a file and a link to it lie about, and nobody listens. -/
def littered : Host :=
  { empty with
    files := ⟨[([['d', 'e', 'a', 'd']], .socket 0o755 0), ([['n', 'o', 't', 'e']], .file [104, 105]),
      ([['l', 'i', 'n', 'k']], .link ['n', 'o', 't', 'e'])], []⟩
    nextSocket := 1 }

theorem listen_makes_way_littered : Kind.localAdmin.isNetwork = false ∧
    Kind.localAdmin.canonicalize "dead" = .ok "dead" ∧
    ∃ l h', littered.listen .localAdmin "dead" ⟨[], ⟨[], []⟩, []⟩ = (.ok l, h') ∧
      Bind.Settles littered "dead".toList (.ok l) h' := by
  have hc : Kind.localAdmin.canonicalize "dead" = .ok "dead" := by decide +kernel
  have hsettles := listen_makes_way (h := littered) (b := ⟨[], ⟨[], []⟩, []⟩) (k := .localAdmin) rfl hc
    (by decide)
  have hplain : Files.Plain "dead".toList := ⟨by decide +kernel, by decide +kernel⟩
  obtain ⟨l, hl⟩ := hsettles.serves [['d', 'e', 'a', 'd']] (by decide +kernel) (by decide +kernel)
    hplain (by decide +kernel)
    (Or.inr ⟨0o755, 0, by decide +kernel, fun sk hsk => by cases hsk⟩) (by decide +kernel)
  rw [hl] at hsettles
  exact ⟨rfl, hc, l, _, Prod.ext hl rfl, hsettles⟩

/-- Sockets that nobody listens on are not the only things that are removed: a file is, with all that
it holds, and so is a link. -/
theorem listen_destroys :
    (¬∀ (h : Host) (k : Kind) (address c : String) (b : Bundle) (q : Place) (n : Node),
      k.isNetwork = false → k.canonicalize address = .ok c → h.files.entry c.toList = .ok q →
      h.files.at? q = some n → (∀ m id, n ≠ .socket m id) →
      (∃ e, (h.listen k address b).1 = .error e) ∧ (h.listen k address b).2.files.at? q = some n) ∧
    (littered.listen .localAdmin "link" ⟨[], ⟨[], []⟩, []⟩).2.files.at? [['l', 'i', 'n', 'k']] =
      some (.socket 0o660 1) := by
  refine ⟨fun hclaim => ?_, by decide +kernel⟩
  have hkept := (hclaim littered .localAdmin "note" "note" ⟨[], ⟨[], []⟩, []⟩ [['n', 'o', 't', 'e']]
    (.file [104, 105]) rfl (by decide +kernel) (by decide +kernel) (by decide +kernel)
    (by simp)).2
  have hlost : (littered.listen .localAdmin "note" ⟨[], ⟨[], []⟩, []⟩).2.files.at?
      [['n', 'o', 't', 'e']] = some (.socket 0o660 1) := by decide +kernel
  rw [hlost] at hkept
  cases hkept

end Host
end Portkeeper
