import Portkeeper.Address.Target
import Portkeeper.Proofs.Address.Fixpoint

/-!
A listen address in canonical form is a place to connect to: the reader of targets finds the same host
and the same port in it, and writes it down as it was. Two host names are taken, since a target may name
its transport where others name their host: `unix:80` is the path of a socket, and `vsock:80` is short of
a port.
-/

set_option autoImplicit false

namespace Portkeeper
open Text Net

namespace Net

theorem IPv6.colon_mem_text (v : IPv6) : ':' ∈ v.text := v.spelled_text.colon_mem

/-- An IPv4 address has points in it. -/
theorem IPv4.text_ne (v : IPv4) {cs : List Char} (h : '.' ∉ cs) : v.text ≠ cs := by
  rintro rfl
  simp [IPv4.text] at h

/-- Only a scope puts a percent sign into an address. -/
theorem SocketAddress.scope_of_notMem {v : IPv6} {p : UInt16} {s : UInt32}
    (h : '%' ∉ (SocketAddress.v6 v p s).text) : s = 0 := by
  by_contra hs
  exact h (by simp [SocketAddress.text, SocketAddress.scopeText, hs])

end Net

namespace Target

/-- Nothing in front of its colon names a transport. -/
theorem read_of_host {host rest : List Char} (hslash : (host ++ ':' :: rest).head? ≠ some '/')
    (hcolon : ':' ∉ host) (hunix : host ≠ "unix".toList) (hvsock : host ≠ "vsock".toList) :
    read (host ++ ':' :: rest) = hostPort (host ++ ':' :: rest) := by
  have hcut := cutFirst_append hcolon rest
  have hnamed {name : List Char} (hmark : ':' ∉ name) (hne : host ≠ name) :
      stripStart? (name ++ [':']) (host ++ ':' :: rest) = none := by
    cases hs : stripStart? (name ++ [':']) (host ++ ':' :: rest) with
    | none => rfl
    | some r =>
      have he : host ++ ':' :: rest = name ++ ':' :: r := by
        simpa using eq_append_of_stripStart? hs
      rw [he, cutFirst_append hmark] at hcut
      cases hcut
      exact absurd rfl hne
  unfold read
  rw [show "unix:".toList = "unix".toList ++ [':'] from rfl,
    show "vsock:".toList = "vsock".toList ++ [':'] from rfl,
    hnamed (by decide) hunix, if_neg hslash, hnamed (by decide) hvsock]

/-- A text in brackets names no transport. -/
theorem read_of_bracket (cs : List Char) : read ('[' :: cs) = hostPort ('[' :: cs) := rfl

/-- An IPv4 address names no transport. -/
theorem read_dotted (v : IPv4) (rest : List Char) :
    read (v.text ++ ':' :: rest) = hostPort (v.text ++ ':' :: rest) := by
  refine read_of_host ?_ v.colon_notMem_text (v.text_ne (by decide)) (v.text_ne (by decide))
  obtain ⟨d, ds, hd⟩ := List.exists_cons_of_ne_nil (decimal_ne_nil v.a.toNat)
  have hdigit : d.isDigit = true := isDigit_of_mem_decimal (hd ▸ List.mem_cons_self)
  intro hc
  simp only [IPv4.text, hd, List.cons_append, List.head?_cons, Option.some.injEq] at hc
  rw [hc] at hdigit
  cases hdigit

/-- The text of a socket address is a target with its address and its port. Its scope is not kept. -/
theorem hostPort_text (a : SocketAddress) : hostPort a.text = .ok (.tcp a.ip.text a.port) := by
  unfold hostPort
  rw [SocketAddress.ofText?_text]

/-- A host without a colon is written as it is. -/
theorem text_plain {host : List Char} (h : ':' ∉ host) (p : UInt16) :
    (tcp host p).text = host ++ ':' :: decimal p.toNat := by
  change (if ':' ∈ host then '[' :: host ++ [']'] else host) ++ ':' :: decimal p.toNat = _
  rw [if_neg h]

/-- An IPv6 address is written in brackets. -/
theorem text_ipv6 (v : IPv6) (p : UInt16) :
    (tcp v.text p).text = (SocketAddress.v6 v p 0).text := by
  have hplain : (SocketAddress.v6 v p 0).text = '[' :: v.text ++ ']' :: ':' :: decimal p.toNat := by
    have hscope : SocketAddress.scopeText 0 = [] := rfl
    rw [SocketAddress.text, hscope, List.append_nil]
  change (if ':' ∈ v.text then '[' :: v.text ++ [']'] else v.text) ++ ':' :: decimal p.toNat = _
  rw [if_pos v.colon_mem_text, hplain, List.append_assoc]
  rfl

/-- Such a target is written as the socket address is, unless that has a scope. -/
theorem text_tcp (a : SocketAddress) (h : '%' ∉ a.text) : (tcp a.ip.text a.port).text = a.text := by
  cases a with
  | v4 v p => exact text_plain v.colon_notMem_text p
  | v6 v p s =>
    obtain rfl := SocketAddress.scope_of_notMem h
    exact text_ipv6 v p

/-- A host without a colon is found before the port, whether it is an IPv4 address or not. -/
theorem hostPort_plain {host ds : List Char} {p : UInt16} (h : ':' ∉ host)
    (hp : Numeral.Writes ds p.toNat) : hostPort (host ++ ':' :: ds) = .ok (.tcp host p) := by
  have hds : ':' ∉ ds := hp.notMem (by decide) (by decide)
  unfold hostPort
  split
  · rename_i a ha
    obtain ⟨hhost, hport⟩ := (SocketAddress.ofText?_eq_some_iff.mp ha).host hds
    have hp' : p = a.port := UInt16.toNat_inj.mp (hp.unique ⟨ds, hport, .inl rfl⟩)
    cases hhost with
    | v4 v q => rw [hp']; rfl
    | v6 q address => simp [address.colon_mem] at h
    | zoned q address scope => simp [address.colon_mem] at h
  · rw [cutLast_append hds]
    dsimp only
    rw [Numeral.read_eq_ok_iff.mpr ⟨hp, Listen.toNat_le p⟩]
    dsimp only
    rw [UInt16.ofNat_toNat]

/-- What a client reads in a listen address with this host and this port. The two names of transports are
read as such; any other host is one to connect to, and written as it was unless a scope follows it. -/
structure Agrees (host : List Char) (port : UInt16) (c : List Char) : Prop where
  ported : c = host ++ ':' :: decimal port.toNat
  unix : host = "unix".toList → read c = .ok (.unix (decimal port.toNat))
  vsock : host = "vsock".toList → read c = .error (.vsockForm c)
  tcp : host ≠ "unix".toList → host ≠ "vsock".toList →
    ∃ addr, read c = .ok (.tcp addr port) ∧ ('%' ∉ c → (Target.tcp addr port).text = c)

theorem agrees_named {host : List Char} (p : UInt16) (hn : Listen.isHostName host = true) :
    Agrees host p (host ++ ':' :: decimal p.toNat) where
  ported := rfl
  unix := by
    rintro rfl
    rfl
  vsock := by
    rintro rfl
    have hdigits : ':' ∉ decimal p.toNat := notMem_decimal (by decide)
    have hread : read ("vsock".toList ++ ':' :: decimal p.toNat) =
      if ':' ∈ decimal p.toNat then (Listen.vsock 0 (decimal p.toNat)).map .vsock
      else .error (.vsockForm ("vsock".toList ++ ':' :: decimal p.toNat)) := rfl
    rw [hread, if_neg hdigits]
  tcp hunix hvsock := by
    have hslash : (host ++ ':' :: decimal p.toNat).head? ≠ some '/' := by
      unfold Listen.isHostName at hn
      rw [Bool.and_eq_true, List.all_eq_true] at hn
      cases host with
      | nil => cases hn.1
      | cons c host =>
        intro hc
        cases hc
        exact absurd (hn.2 _ List.mem_cons_self) (by decide)
    have hcolon := Listen.colon_notMem_host hn
    rw [read_of_host hslash hcolon hunix hvsock, hostPort_plain hcolon ⟨_, digits_decimal _, .inl rfl⟩]
    exact ⟨host, rfl, fun _ => text_plain hcolon p⟩

theorem agrees_ip (a : SocketAddress) : ∃ host, Agrees host a.port a.text := by
  have htcp (hread : read a.text = hostPort a.text) :
      ∃ addr, read a.text = .ok (.tcp addr a.port) ∧
        ('%' ∉ a.text → (Target.tcp addr a.port).text = a.text) :=
    ⟨a.ip.text, hread.trans (hostPort_text a), text_tcp a⟩
  cases a with
  | v4 v p =>
    exact ⟨v.text, rfl, fun h => absurd h (v.text_ne (by decide)),
      fun h => absurd h (v.text_ne (by decide)), fun _ _ => htcp (read_dotted v _)⟩
  | v6 v p s =>
    refine ⟨'[' :: v.text ++ SocketAddress.scopeText s ++ [']'], ?_, ?_, ?_, fun _ _ =>
      htcp (read_of_bracket _)⟩
    · simp [SocketAddress.text, SocketAddress.port]
    · exact fun h => absurd (congrArg List.head? h) (by simp)
    · exact fun h => absurd (congrArg List.head? h) (by simp)

theorem agrees_canonical {c : List Char} (h : Listen.Canonical c) : ∃ host port, Agrees host port c := by
  cases h with
  | ip a =>
    obtain ⟨host, ha⟩ := agrees_ip a
    exact ⟨host, a.port, ha⟩
  | @named host p hn hp =>
    have ha := agrees_named (UInt16.ofNat p) hn
    rw [Listen.toNat_ofNat_of_le hp] at ha
    exact ⟨host, UInt16.ofNat p, ha⟩

theorem read_vsock (v : Vsock) : read ("vsock:".toList ++ v.text) = .ok (.vsock v) := by
  have hcolon : ':' ∈ v.text := by simp [Vsock.text]
  have hread : read ("vsock:".toList ++ v.text) =
    if ':' ∈ v.text then (Listen.vsock 0 v.text).map .vsock
    else .error (.vsockForm ("vsock:".toList ++ v.text)) := rfl
  rw [hread, if_pos hcolon, Listen.vsock_text]
  rfl

/-- Listen addresses and targets agree: a network address in canonical form is read as a place to connect
to, at the same port, and so is a vsock address once its transport is named. -/
theorem agrees (d : UInt16) (e : UInt32) (a c : List Char) :
    (Listen.network d a = .ok c → ∃ host port, Agrees host port c) ∧
    (Listen.vsockText e a = .ok c → ∃ v, Listen.vsock e a = .ok v ∧
      read ("vsock:".toList ++ c) = .ok (.vsock v) ∧
      (Target.vsock v).text = "vsock:".toList ++ c) := by
  refine ⟨fun h => agrees_canonical (Listen.canonical_network h), fun h => ?_⟩
  unfold Listen.vsockText at h
  cases hv : Listen.vsock e a with
  | error e => simp [hv, Except.map] at h
  | ok v =>
    obtain rfl : v.text = c := by simpa [hv, Except.map] using h
    exact ⟨v, rfl, read_vsock v, rfl⟩

theorem agrees_bracketed :
    (∃ host port, Agrees host port "[fe80::1]:80".toList) ∧
    ∃ v, Listen.vsock 8443 "local".toList = .ok v ∧
      read ("vsock:".toList ++ "1:8443".toList) = .ok (.vsock v) ∧
      (Target.vsock v).text = "vsock:".toList ++ "1:8443".toList :=
  ⟨(agrees 80 0 "fe80::1".toList _).1 (by decide +kernel),
    (agrees 0 8443 "local".toList _).2 (by decide +kernel)⟩

/-- A host may have the name of a transport, and is not read as a host then. -/
theorem agrees_elsewhere :
    Listen.network 80 "unix".toList = .ok "unix:80".toList ∧
    read "unix:80".toList = .ok (.unix "80".toList) ∧
    ¬ ∃ addr port, read "unix:80".toList = .ok (.tcp addr port) := by
  have hread : read "unix:80".toList = .ok (.unix "80".toList) := by decide +kernel
  refine ⟨by decide +kernel, hread, ?_⟩
  rintro ⟨addr, port, h⟩
  rw [hread] at h
  cases h

end Target
end Portkeeper
