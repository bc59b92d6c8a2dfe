import Portkeeper.Proofs.Address.Targets

/-!
Which targets are found again in their text. The text of each that was read is read as some target, and it
is the same one unless its host has colons without being an IPv6 address: brackets are put around such a
host, and they are not taken off again, or its scope is lost with them.
-/

set_option autoImplicit false

namespace Portkeeper
open Text Net

namespace Target

/-- A TCP host is found again if it has no colon, or is an IPv6 address in its standard text. A path and
a vsock address always are. -/
def Faithful : Target → Prop
  | .tcp host _ => ':' ∉ host ∨ ∃ v : IPv6, host = v.text
  | .unix _ => True
  | .vsock _ => True

theorem read_unix (path : List Char) : read ("unix:".toList ++ path) = .ok (.unix path) := by
  unfold read
  rw [stripStart?_append]

/-- A text that starts with a slash is a path. -/
theorem read_slash (path : List Char) : read ('/' :: path) = .ok (.unix ('/' :: path)) := rfl

theorem read_named_vsock {cs : List Char} {v : Vsock} (hcolon : ':' ∈ cs)
    (h : Listen.vsock 0 cs = .ok v) : read ("vsock:".toList ++ cs) = .ok (.vsock v) := by
  have hread : read ("vsock:".toList ++ cs) =
    if ':' ∈ cs then (Listen.vsock 0 cs).map .vsock
    else .error (.vsockForm ("vsock:".toList ++ cs)) := rfl
  rw [hread, if_pos hcolon, h]
  rfl

/-! ### Hosts without colons -/

theorem read_plain {host ds : List Char} {p : UInt16} (hslash : host.head? ≠ some '/')
    (hcolon : ':' ∉ host) (hunix : host ≠ "unix".toList) (hvsock : host ≠ "vsock".toList)
    (hp : Numeral.Writes ds p.toNat) : read (host ++ ':' :: ds) = .ok (.tcp host p) := by
  have hhead : (host ++ ':' :: ds).head? ≠ some '/' := by
    cases host with
    | nil => simp
    | cons c host => simpa using hslash
  rw [read_of_host hhead hcolon hunix hvsock, hostPort_plain hcolon hp]

/-- A TCP target comes from a text that names no transport. -/
theorem hostPort_of_read {cs host : List Char} {p : UInt16} (h : read cs = .ok (.tcp host p)) :
    hostPort cs = .ok (.tcp host p) ∧ (∀ path, cs ≠ "unix:".toList ++ path) ∧
      cs.head? ≠ some '/' ∧ ∀ v, cs ≠ "vsock:".toList ++ v := by
  have hstart {name : List Char} (hs : stripStart? name cs = none) (r : List Char) :
      cs ≠ name ++ r := by
    rintro rfl
    rw [stripStart?_append] at hs
    cases hs
  unfold read at h
  split at h
  · cases h
  · rename_i hunix
    split at h
    · cases h
    · rename_i hslash
      split at h
      · rename_i hvsock
        exact ⟨h, hstart hunix, hslash, hstart hvsock⟩
      · split at h
        · rename_i v _ _
          cases hv : Listen.vsock 0 v with
          | error e => simp [hv, Except.map] at h
          | ok a => simp [hv, Except.map] at h
        · cases h

/-- A host without a colon stands in front of the port in the text it was read from. -/
theorem eq_of_hostPort {cs host : List Char} {p : UInt16} (h : hostPort cs = .ok (.tcp host p))
    (hcolon : ':' ∉ host) : ∃ ds, cs = host ++ ':' :: ds := by
  unfold hostPort at h
  split at h
  · rename_i a ha
    cases h
    obtain ⟨front, ds, rfl, hfront, -⟩ := SocketAddress.spelled_iff.mp
      (SocketAddress.ofText?_eq_some_iff.mp ha)
    cases hfront with
    | v4 v q => exact ⟨ds, rfl⟩
    | @v6 _ v q address => exact absurd v.colon_mem_text hcolon
    | @zoned _ _ v _ q address scope => exact absurd v.colon_mem_text hcolon
  · split at h
    · cases h
    · rename_i front ds hcut
      split at h
      · cases h
        exact ⟨ds, cutLast_eq hcut⟩
      · cases h

theorem reread_plain {cs host : List Char} {p : UInt16} (h : read cs = .ok (.tcp host p))
    (hcolon : ':' ∉ host) : read (tcp host p).text = .ok (.tcp host p) := by
  obtain ⟨hread, hunix, hslash, hvsock⟩ := hostPort_of_read h
  obtain ⟨ds, rfl⟩ := eq_of_hostPort hread hcolon
  rw [text_plain hcolon]
  refine read_plain (fun hc => ?_) hcolon (fun he => ?_) (fun he => ?_) ⟨_, digits_decimal _, .inl rfl⟩
  · exact hslash (by rw [List.head?_append, hc]; rfl)
  · exact hunix ds (by rw [he]; rfl)
  · exact hvsock ds (by rw [he]; rfl)

/-! ### Hosts with colons -/

theorem text_bracketed {host : List Char} (h : ':' ∈ host) (p : UInt16) :
    (tcp host p).text = '[' :: (host ++ [']']) ++ ':' :: decimal p.toNat := by
  change (if ':' ∈ host then '[' :: host ++ [']'] else host) ++ ':' :: decimal p.toNat = _
  rw [if_pos h]
  rfl

theorem reread_ipv6 (v : IPv6) (p : UInt16) : read (tcp v.text p).text = .ok (.tcp v.text p) := by
  rw [text_ipv6]
  exact (read_of_bracket _).trans (hostPort_text (.v6 v p 0))

/-- What is read in brackets has a host of its own, and is the host in them only if that is an IPv6
address in its standard text. -/
theorem reread_bracketed {host : List Char} (h : ':' ∈ host) (p : UInt16) :
    ∃ host', read (tcp host p).text = .ok (.tcp host' p) ∧
      (host' = host → ∃ v : IPv6, host = v.text) := by
  have hread : read (tcp host p).text = hostPort ('[' :: (host ++ [']']) ++ ':' :: decimal p.toNat) := by
    rw [text_bracketed h]
    exact read_of_bracket _
  have hport : Numeral.Writes (decimal p.toNat) p.toNat := ⟨_, digits_decimal _, .inl rfl⟩
  rw [hread]
  unfold hostPort
  split
  · rename_i a ha
    obtain ⟨hfront, hdigits⟩ := (SocketAddress.ofText?_eq_some_iff.mp ha).host
      (notMem_decimal (by decide))
    rw [UInt16.toNat_inj.mp (hport.unique ⟨_, hdigits, .inl rfl⟩)]
    refine ⟨a.ip.text, rfl, fun he => ?_⟩
    cases a with
    | v4 v q =>
      rw [← he] at h
      exact absurd h v.colon_notMem_text
    | v6 v q s => exact ⟨v, he.symm⟩
  · rw [cutLast_append (notMem_decimal (by decide))]
    dsimp only
    rw [Numeral.read_decimal (Listen.toNat_le p)]
    dsimp only
    rw [UInt16.ofNat_toNat]
    refine ⟨_, rfl, fun he => ?_⟩
    have hlen := congrArg List.length he
    simp only [List.length_cons, List.length_append, List.length_nil] at hlen
    omega

/-! ### Every target that was read -/

theorem reread {cs : List Char} {t : Target} (h : read cs = .ok t) :
    (∃ t', read t.text = .ok t') ∧ (read t.text = .ok t ↔ t.Faithful) := by
  cases t with
  | unix path => exact ⟨⟨_, read_unix path⟩, fun _ => trivial, fun _ => read_unix path⟩
  | vsock v => exact ⟨⟨_, read_vsock v⟩, fun _ => trivial, fun _ => read_vsock v⟩
  | tcp host p =>
    by_cases hcolon : ':' ∈ host
    · obtain ⟨host', hread, hsame⟩ := reread_bracketed hcolon p
      refine ⟨⟨_, hread⟩, fun hagain => ?_, fun hf => ?_⟩
      · rw [hread] at hagain
        cases hagain
        exact .inr (hsame rfl)
      · rcases hf with hno | ⟨v, rfl⟩
        · exact absurd hcolon hno
        · exact reread_ipv6 v p
    · have hagain := reread_plain h hcolon
      exact ⟨⟨_, hagain⟩, fun _ => .inl hcolon, fun _ => hagain⟩

/-- A text that is read as a target, which is found again in the text of the target. -/
structure Returns (cs : List Char) (t : Target) : Prop where
  read : Target.read cs = .ok t
  again : Target.read t.text = .ok t

theorem returns_of_read {cs : List Char} {t : Target} (h : read cs = .ok t) (hf : t.Faithful) :
    Returns cs t := ⟨h, (reread h).2.mpr hf⟩

theorem faithful_ip (a : SocketAddress) : (tcp a.ip.text a.port).Faithful := by
  cases a with
  | v4 v p => exact .inl v.colon_notMem_text
  | v6 v p s => exact .inr ⟨v, rfl⟩

theorem returns_socket {cs : List Char} {a : SocketAddress} (h : SocketAddress.Spelled cs a) :
    Returns cs (tcp a.ip.text a.port) := by
  have hhost : hostPort cs = .ok (.tcp a.ip.text a.port) := by
    unfold hostPort
    rw [SocketAddress.ofText?_eq_some_iff.mpr h]
  refine returns_of_read ?_ (faithful_ip a)
  cases h with
  | v4 v port => exact (read_dotted v _).trans hhost
  | v6 address port => exact (read_of_bracket _).trans hhost
  | zoned address scope port => exact (read_of_bracket _).trans hhost

/-- A host without a colon is read with its port, or as a path if it starts with a slash or is called
`unix`. Only `vsock` is short of a port then. -/
theorem returns_plain {host ds : List Char} {p : UInt16} (hcolon : ':' ∉ host)
    (hvsock : host ≠ "vsock".toList) (hp : Numeral.Writes ds p.toNat) :
    ∃ t, Returns (host ++ ':' :: ds) t := by
  by_cases hunix : host = "unix".toList
  · subst hunix
    exact ⟨_, returns_of_read (read_unix ds) trivial⟩
  · by_cases hslash : host.head? = some '/'
    · obtain ⟨rest, rfl⟩ : ∃ rest, host = '/' :: rest := List.head?_eq_some_iff.mp hslash
      exact ⟨_, returns_of_read (read_slash _) trivial⟩
    · exact ⟨_, returns_of_read (read_plain hslash hcolon hunix hvsock hp) (.inl hcolon)⟩

/-- The text of every target that was read is read again, and as the same target exactly if that is
faithful. Socket addresses, hosts without colons, paths and vsock addresses are. -/
theorem read_again (cs : List Char) :
    (∀ t, read cs = .ok t → (∃ t', read t.text = .ok t') ∧ (read t.text = .ok t ↔ t.Faithful)) ∧
    (∀ a, SocketAddress.Spelled cs a → Returns cs (tcp a.ip.text a.port)) ∧
    (∀ host ds (p : UInt16), cs = host ++ ':' :: ds → ':' ∉ host → host ≠ "vsock".toList →
      Numeral.Writes ds p.toNat → ∃ t, Returns cs t) ∧
    Returns ("unix:".toList ++ cs) (unix cs) ∧ Returns ('/' :: cs) (unix ('/' :: cs)) ∧
    ∀ v, ':' ∈ cs → Listen.vsock 0 cs = .ok v → Returns ("vsock:".toList ++ cs) (vsock v) := by
  refine ⟨fun t h => reread h, fun a h => returns_socket h, ?_, returns_of_read (read_unix cs) trivial,
    returns_of_read (read_slash cs) trivial, fun v hcolon h =>
      returns_of_read (read_named_vsock hcolon h) trivial⟩
  rintro host ds p rfl hcolon hvsock hp
  exact returns_plain hcolon hvsock hp

/-- A scope is lost on the way, and the zeros of a port are not. -/
theorem read_again_scoped :
    (∃ t, read "[fe80::1%3]:80".toList = .ok t ∧ read t.text = .ok t) ∧
    read (tcp "fe80::1%3".toList 80).text ≠ .ok (tcp "fe80::1%3".toList 80) ∧
    Returns "vsock:any:007".toList (vsock ⟨Vsock.anyCid, 7⟩) := by
  refine ⟨?_, ?_, ?_⟩
  · have h : SocketAddress.ofText? "[fe80::1%3]:80".toList =
        some (.v6 ⟨[0xfe80, 0, 0, 0, 0, 0, 0, 1], rfl⟩ 80 3) := by decide +kernel
    have hreturns := (read_again _).2.1 _ (SocketAddress.ofText?_eq_some_iff.mp h)
    exact ⟨_, hreturns.read, hreturns.again⟩
  · have hread : read "fe80::1%3:80".toList = .ok (tcp "fe80::1%3".toList 80) := by decide +kernel
    intro hagain
    rcases (((read_again _).1 _ hread).2.mp hagain) with hcolon | ⟨v, hv⟩
    · exact hcolon (by decide)
    · have hwhole := IPv6.whole?_eq_some_iff.mpr v.spelled_text
      rw [← hv, (by decide +kernel : IPv6.read.whole? "fe80::1%3".toList = none)] at hwhole
      cases hwhole
  · exact (read_again "any:007".toList).2.2.2.2.2 _ (by decide) rfl

end Target
end Portkeeper
