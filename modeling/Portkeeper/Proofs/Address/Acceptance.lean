import Portkeeper.Proofs.Address.Groups

/-!
Which texts are network listen addresses, and what they denote: a socket address, or a host name with a
port. The texts are a grammar, in which each of them denotes one endpoint; its text is the canonical form,
and no two endpoints share it.
-/

set_option autoImplicit false

namespace Portkeeper
open Text Net

namespace Net

theorem IPv6.whole?_bracket (cs : List Char) : read.whole? ('[' :: cs) = none := by
  have hend : readGroups 8 true ('[' :: cs) = ([], false, '[' :: cs) :=
    readGroups_end (fun rest hrest c hc => by
      cases hrest
      cases hc
      decide) 8
  have hread : read ('[' :: cs) = none := by
    unfold read
    rw [hend]
    rfl
  simp [Reader.whole?, hread]

/-- No IP address starts with a bracket. -/
theorem IP.ofText?_bracket (cs : List Char) : IP.ofText? ('[' :: cs) = none := by
  have h4 : IPv4.read ('[' :: cs) = none :=
    IPv4.read_of_head fun c hc => by
      cases hc
      decide
  unfold IP.ofText?
  rw [Reader.whole?, h4, IPv6.whole?_bracket]
  rfl

/-- An IPv4 address has no colon, and an IPv6 address has two. -/
theorem IP.ofText?_of_one {cs : List Char} (h : cs.count ':' = 1) : IP.ofText? cs = none := by
  rw [Option.eq_none_iff_forall_not_mem]
  intro ip hip
  cases IP.ofText?_eq_some_iff.mp hip with
  | v4 v =>
    rw [List.count_eq_zero.mpr v.colon_notMem_text] at h
    omega
  | v6 spelled =>
    have htwo := spelled.two_colons
    omega

namespace SocketAddress

/-- What stands before the port of a socket address: an IPv4 address in its one text, or an IPv6 address
in brackets, with its scope if there is one. -/
inductive HostText : List Char → SocketAddress → Prop
  | v4 (v : IPv4) (p : UInt16) : HostText v.text (.v4 v p)
  | v6 {cs : List Char} {v : IPv6} (p : UInt16) (address : IPv6.Spelled cs v) :
      HostText ('[' :: (cs ++ [']'])) (.v6 v p 0)
  | zoned {cs ss : List Char} {v : IPv6} {s : UInt32} (p : UInt16) (address : IPv6.Spelled cs v)
      (scope : Digits ss s.toNat) : HostText ('[' :: (cs ++ '%' :: (ss ++ [']']))) (.v6 v p s)

/-- A socket address is a host and a port in digits, with a colon between them. -/
theorem spelled_iff {cs : List Char} {a : SocketAddress} :
    Spelled cs a ↔ ∃ host ds, cs = host ++ ':' :: ds ∧ HostText host a ∧ Digits ds a.port.toNat := by
  constructor
  · intro h
    cases h with
    | v4 v port => exact ⟨_, _, rfl, .v4 v _, port⟩
    | v6 address port => exact ⟨_, _, by simp, .v6 _ address, port⟩
    | zoned address scope port => exact ⟨_, _, by simp, .zoned _ address scope, port⟩
  · rintro ⟨host, ds, rfl, hh, hd⟩
    cases hh with
    | v4 v p => exact .v4 v hd
    | v6 p address =>
      rw [List.cons_append, List.append_assoc]
      exact .v6 address hd
    | zoned p address scope =>
      simp only [List.cons_append, List.append_assoc]
      exact .zoned address scope hd

theorem Spelled.host {host ds : List Char} {a : SocketAddress} (h : Spelled (host ++ ':' :: ds) a)
    (hds : ':' ∉ ds) : HostText host a ∧ Digits ds a.port.toNat := by
  obtain ⟨host', ds', he, hh, hd⟩ := spelled_iff.mp h
  obtain ⟨rfl, rfl⟩ := append_mark_inj hds (hd.notMem (by decide)) he
  exact ⟨hh, hd⟩

/-- A host without a bracket in front is an IPv4 address. -/
theorem HostText.eq_text {host : List Char} {a : SocketAddress} (h : HostText host a)
    (hb : host.head? ≠ some '[') : ∃ v : IPv4, host = v.text ∧ a = .v4 v a.port := by
  cases h with
  | v4 v p => exact ⟨v, rfl, rfl⟩
  | v6 p address => exact absurd rfl hb
  | zoned p address scope => exact absurd rfl hb

theorem text_injective {a b : SocketAddress} (h : a.text = b.text) : a = b := by
  have hread := ofText?_text a
  rw [h, ofText?_text b] at hread
  exact (Option.some.inj hread).symm

end SocketAddress
end Net

namespace Listen

theorem isHostName_iff {host : List Char} :
    isHostName host = true ↔ host ≠ [] ∧ ∀ c ∈ host, isHostChar c = true := by
  simp [isHostName]

/-- A mark of addresses that is no character of host names. -/
theorem notMem_host {host : List Char} (h : isHostName host = true) {c : Char}
    (hc : isHostChar c = false) : c ∉ host := by
  intro hm
  rw [(isHostName_iff.mp h).2 c hm] at hc
  cases hc

theorem colon_notMem_host {host : List Char} (h : isHostName host = true) : ':' ∉ host :=
  notMem_host h (by decide)

theorem head_host {host : List Char} (h : isHostName host = true) (rest : List Char) :
    (host ++ rest).head? ≠ some '[' := by
  intro hc
  obtain ⟨d, ds, rfl⟩ := List.exists_cons_of_ne_nil (isHostName_iff.mp h).1
  obtain rfl : d = '[' := Option.some.inj hc
  exact notMem_host h (by decide) List.mem_cons_self

theorem isHostName_text (v : IPv4) : isHostName v.text = true := by
  have hchar {c : Char} (h : c.isDigit = true) : isHostChar c = true := by
    simp [isHostChar, Char.isAlphanum, h]
  have hdec (n : Nat) : ∀ c ∈ decimal n, isHostChar c = true := fun c hc =>
    hchar (isDigit_of_mem_decimal hc)
  refine isHostName_iff.mpr ⟨by simp [IPv4.text], fun c hc => ?_⟩
  simp only [IPv4.text, List.mem_append, List.mem_cons] at hc
  rcases hc with ((hc | rfl | hc) | rfl | hc) | rfl | hc
  · exact hdec _ c hc
  · decide
  · exact hdec _ c hc
  · decide
  · exact hdec _ c hc
  · decide
  · exact hdec _ c hc

theorem unbracket?_eq_some_iff {cs inner : List Char} :
    unbracket? cs = some inner ↔ cs = '[' :: (inner ++ [']']) := by
  constructor
  · intro h
    obtain ⟨r, hs, he⟩ := Option.bind_eq_some_iff.mp h
    rw [eq_append_of_stripStart? hs, eq_append_of_stripEnd? he]
    rfl
  · rintro rfl
    exact stripEnd?_append [']'] inner

theorem unbracket?_of_head {cs : List Char} (h : cs.head? ≠ some '[') : unbracket? cs = none := by
  rw [Option.eq_none_iff_forall_not_mem]
  intro inner hi
  rw [unbracket?_eq_some_iff.mp hi] at h
  exact h rfl

/-- A text that is cut at its colon, and has a port behind it. -/
theorem hostPort_cut {ds : List Char} {p : UInt16} (hp : Numeral.Writes ds p.toNat) (d : UInt16)
    (host : List Char) : hostPort d (host ++ ':' :: ds) =
      if host = [] then .ok (SocketAddress.v6 .unspecified p 0).text else named host p.toNat := by
  unfold hostPort
  rw [cutLast_append (hp.notMem (by decide) (by decide))]
  dsimp only
  rw [Numeral.read_eq_ok_iff.mpr ⟨hp, toNat_le p⟩]
  dsimp only
  rw [UInt16.ofNat_toNat]

/-- A host name with a port, which may have zeros and a plus sign in front. -/
theorem network_named {host ds : List Char} {p : UInt16} (hn : isHostName host = true)
    (hp : Numeral.Writes ds p.toNat) (d : UInt16) :
    network d (host ++ ':' :: ds) = .ok (host ++ ':' :: decimal p.toNat) := by
  have hds : ':' ∉ ds := hp.notMem (by decide) (by decide)
  have hone : (host ++ ':' :: ds).count ':' = 1 := by
    simp [List.count_eq_zero.mpr (colon_notMem_host hn), List.count_eq_zero.mpr hds]
  unfold network
  rw [IP.ofText?_of_one hone, unbracket?_of_head (head_host hn _)]
  dsimp only
  split
  · rename_i a ha
    -- It is a socket address only if the name is an IPv4 address; the port is the same then.
    obtain ⟨hhost, hport⟩ := (SocketAddress.ofText?_eq_some_iff.mp ha).host hds
    have hb : host.head? ≠ some '[' := by simpa using head_host hn []
    obtain ⟨v, rfl, hv⟩ := hhost.eq_text hb
    rw [hv, Numeral.Writes.unique hp ⟨ds, hport, .inl rfl⟩]
    rfl
  · rw [hostPort_cut hp, if_neg (isHostName_iff.mp hn).1, named, if_pos hn]

/-- A port without a host means all interfaces, of both versions. -/
theorem network_everywhere {ds : List Char} {p : UInt16} (hp : Numeral.Writes ds p.toNat) (d : UInt16) :
    network d (':' :: ds) = .ok (SocketAddress.v6 .unspecified p 0).text := by
  have hds : ':' ∉ ds := hp.notMem (by decide) (by decide)
  have hone : (':' :: ds).count ':' = 1 := by simp [List.count_eq_zero.mpr hds]
  have hno : SocketAddress.ofText? (':' :: ds) = none := by
    rw [Option.eq_none_iff_forall_not_mem]
    intro a ha
    have hspelled : SocketAddress.Spelled ([] ++ ':' :: ds) a := SocketAddress.ofText?_eq_some_iff.mp ha
    obtain ⟨hhost, -⟩ := hspelled.host hds
    obtain ⟨v, hv, -⟩ := hhost.eq_text (by simp)
    simp [IPv4.text] at hv
  unfold network
  rw [IP.ofText?_of_one hone, unbracket?_of_head (by simp)]
  dsimp only
  rw [hno]
  exact hostPort_cut hp d []

theorem network_bracket {cs : List Char} {a : SocketAddress}
    (h : SocketAddress.Spelled ('[' :: cs) a) (d : UInt16) : network d ('[' :: cs) = .ok a.text := by
  have hb : unbracket? ('[' :: cs) = none := by
    rw [Option.eq_none_iff_forall_not_mem]
    intro inner hi
    -- It would end in a bracket, and not in the digits of its port.
    obtain ⟨host, ds, he, -, hd⟩ := SocketAddress.spelled_iff.mp h
    rw [unbracket?_eq_some_iff.mp hi] at he
    have hlast : (host ++ ':' :: ds).getLast? = some ']' := by
      rw [← he, ← List.cons_append, List.getLast?_concat]
    rw [List.getLast?_append, List.getLast?_cons, List.getLast?_eq_some_getLast hd.nonempty] at hlast
    have hend : ds.getLast hd.nonempty = ']' := by simpa using hlast
    have hdigit := hd.digit _ (List.getLast_mem hd.nonempty)
    rw [hend] at hdigit
    cases hdigit
  unfold network
  rw [IP.ofText?_bracket, hb]
  dsimp only
  rw [SocketAddress.ofText?_eq_some_iff.mpr h]

/-- Where to listen: at a socket address, or at a port of the host with some name. -/
inductive Endpoint where
  | ip (address : SocketAddress)
  | named (host : List Char) (port : UInt16)
  deriving DecidableEq, Repr

/-- The canonical form of an endpoint. -/
def Endpoint.text : Endpoint → List Char
  | .ip a => a.text
  | .named host port => host ++ ':' :: decimal port.toNat

/-- A host name that is no IPv4 address: letters, digits, hyphens and points. -/
structure Name (host : List Char) : Prop where
  nonempty : host ≠ []
  chars : ∀ c ∈ host, c.isAlphanum = true ∨ c = '-' ∨ c = '.'
  notIP : ∀ v : IPv4, host ≠ v.text

/-- The listen addresses and what each denotes. Addresses without a port take the default one. -/
inductive Denotes (d : UInt16) : List Char → Endpoint → Prop
  | address {cs : List Char} {ip : IP} (spelled : IP.Spelled cs ip) : Denotes d cs (.ip (.ofIP d ip))
  | bracketed {cs : List Char} {v : IPv6} (spelled : IPv6.Spelled cs v) :
      Denotes d ('[' :: (cs ++ [']'])) (.ip (.v6 v d 0))
  | socket {cs : List Char} {a : SocketAddress} (spelled : SocketAddress.Spelled cs a) :
      Denotes d cs (.ip a)
  | everywhere {ds : List Char} {p : UInt16} (port : Numeral.Writes ds p.toNat) :
      Denotes d (':' :: ds) (.ip (.v6 .unspecified p 0))
  | dotted (v : IPv4) {ds : List Char} {p : UInt16} (port : Numeral.Writes ds p.toNat) :
      Denotes d (v.text ++ ':' :: ds) (.ip (.v4 v p))
  | host {host : List Char} (name : Name host) : Denotes d host (.named host d)
  | hostPort {host ds : List Char} {p : UInt16} (name : Name host) (port : Numeral.Writes ds p.toNat) :
      Denotes d (host ++ ':' :: ds) (.named host p)

/-- A host name is an IPv4 address or no IP address at all. -/
theorem name_or_text {host : List Char} (h : isHostName host = true) :
    (∃ v : IPv4, host = v.text) ∨ Name host := by
  by_cases hip : ∃ v : IPv4, host = v.text
  · exact .inl hip
  · refine .inr ⟨(isHostName_iff.mp h).1, fun c hc => ?_, fun v hv => hip ⟨v, hv⟩⟩
    simpa [isHostChar, or_assoc] using (isHostName_iff.mp h).2 c hc

theorem Name.isHostName {host : List Char} (h : Name host) : isHostName host = true :=
  isHostName_iff.mpr ⟨h.nonempty, fun c hc => by simpa [isHostChar, or_assoc] using h.chars c hc⟩

theorem Name.network {host : List Char} (h : Name host) (d : UInt16) :
    network d host = .ok (host ++ ':' :: decimal d.toNat) := by
  have hcolon : ':' ∉ host := colon_notMem_host h.isHostName
  have hip : IP.ofText? host = none := by
    rw [Option.eq_none_iff_forall_not_mem]
    intro ip hip
    cases IP.ofText?_eq_some_iff.mp hip with
    | v4 v => exact h.notIP v rfl
    | v6 spelled => exact hcolon spelled.colon_mem
  have hsocket : SocketAddress.ofText? host = none := by
    rw [Option.eq_none_iff_forall_not_mem]
    intro a ha
    obtain ⟨front, ds, rfl, -⟩ := SocketAddress.spelled_iff.mp
      (SocketAddress.ofText?_eq_some_iff.mp ha)
    simp at hcolon
  have hb : unbracket? host = none := unbracket?_of_head (by simpa using head_host h.isHostName [])
  unfold Listen.network
  rw [hip, hb]
  dsimp only
  rw [hsocket]
  dsimp only
  unfold hostPort
  rw [cutLast_eq_none_iff.mpr hcolon]
  dsimp only
  rw [named, if_pos h.isHostName]

/-- The canonical form of a listen address is the text of what it denotes. -/
theorem Denotes.network {d : UInt16} {cs : List Char} {e : Endpoint} (h : Denotes d cs e) :
    network d cs = .ok e.text := by
  cases h with
  | @address _ ip spelled =>
    unfold Listen.network
    rw [IP.ofText?_eq_some_iff.mpr spelled]
    rfl
  | @bracketed inner v spelled =>
    unfold Listen.network
    rw [IP.ofText?_bracket, unbracket?_eq_some_iff.mpr rfl]
    dsimp only
    rw [IPv6.whole?_eq_some_iff.mpr spelled]
    rfl
  | @socket _ a spelled =>
    obtain ⟨host, ds, rfl, hhost, hport⟩ := SocketAddress.spelled_iff.mp spelled
    cases hhost with
    | v4 v p => exact network_named (isHostName_text v) ⟨ds, hport, .inl rfl⟩ d
    | v6 p address => exact network_bracket spelled d
    | zoned p address scope => exact network_bracket spelled d
  | everywhere port => exact network_everywhere port d
  | dotted v port => exact network_named (isHostName_text v) port d
  | host name => exact name.network d
  | hostPort name port => exact network_named name.isHostName port d

theorem denotes_named {host ds : List Char} {p : UInt16} (hn : isHostName host = true)
    (hp : Numeral.Writes ds p.toNat) (d : UInt16) : ∃ e, Denotes d (host ++ ':' :: ds) e := by
  rcases name_or_text hn with ⟨v, rfl⟩ | hname
  · exact ⟨_, .dotted v hp⟩
  · exact ⟨_, .hostPort hname hp⟩

/-- Every text that has a canonical form denotes something. -/
theorem exists_denotes {d : UInt16} {cs c : List Char} (h : network d cs = .ok c) :
    ∃ e, Denotes d cs e := by
  unfold Listen.network at h
  split at h
  · rename_i ip hip
    exact ⟨_, .address (IP.ofText?_eq_some_iff.mp hip)⟩
  · rename_i hip
    split at h
    · rename_i inner hi
      split at h
      · rename_i v hv
        rw [unbracket?_eq_some_iff.mp hi]
        exact ⟨_, .bracketed (IPv6.whole?_eq_some_iff.mp hv)⟩
      · cases h
    · split at h
      · rename_i a ha
        exact ⟨_, .socket (SocketAddress.ofText?_eq_some_iff.mp ha)⟩
      · unfold hostPort at h
        split at h
        · unfold named at h
          split at h
          · rename_i hn
            rcases name_or_text hn with ⟨v, rfl⟩ | hname
            · exact ⟨_, .address (.v4 v)⟩
            · exact ⟨_, .host hname⟩
          · cases h
        · rename_i host port hcut
          rw [cutLast_eq hcut]
          split at h
          · cases h
          · rename_i n hread
            obtain ⟨hw, hle⟩ := Numeral.read_eq_ok_iff.mp hread
            rw [← toNat_ofNat_of_le hle] at hw
            split at h
            · rename_i hnil
              rw [hnil]
              exact ⟨_, .everywhere hw⟩
            · unfold named at h
              split at h
              · rename_i hn
                exact denotes_named hn hw d
              · cases h

/-- The host of an endpoint is no name if it is an IP address. -/
theorem Denotes.name {d : UInt16} {cs host : List Char} {p : UInt16} (h : Denotes d cs (.named host p)) :
    Name host := by
  cases h with
  | host name => exact name
  | hostPort name port => exact name

theorem Name.text_ne {host : List Char} (h : Name host) (a : SocketAddress) (p : UInt16) :
    a.text ≠ host ++ ':' :: decimal p.toNat := by
  intro he
  have hspelled := a.spelled_text
  rw [he] at hspelled
  obtain ⟨hhost, -⟩ := hspelled.host (notMem_decimal (by decide))
  obtain ⟨v, hv, -⟩ := hhost.eq_text (by simpa using head_host h.isHostName [])
  exact h.notIP v hv

/-- No two endpoints have the same canonical form. -/
theorem Denotes.text_injective {d d' : UInt16} {cs cs' : List Char} {e e' : Endpoint}
    (h : Denotes d cs e) (h' : Denotes d' cs' e') (ht : e.text = e'.text) : e = e' := by
  cases e with
  | ip a =>
    cases e' with
    | ip b => rw [SocketAddress.text_injective ht]
    | named host p => exact absurd ht (h'.name.text_ne a p)
  | named host p =>
    cases e' with
    | ip b => exact absurd ht.symm (h.name.text_ne b p)
    | named host' p' =>
      obtain ⟨rfl, hp⟩ := append_mark_inj (notMem_decimal (by decide))
        (notMem_decimal (by decide)) ht
      rw [UInt16.toNat_inj.mp (decimal_injective hp)]

/-- Exactly the texts of the grammar have a canonical form. It is the text of the endpoint that they
denote, so that two of them have the same one if and only if they denote the same endpoint. -/
theorem canonical_form (d : UInt16) (cs : List Char) :
    ((∃ c, network d cs = .ok c) ↔ ∃ e, Denotes d cs e) ∧
    ∀ e, Denotes d cs e → network d cs = .ok e.text ∧
      ∀ (d' : UInt16) (cs' : List Char) (e' : Endpoint), Denotes d' cs' e' →
        (network d cs = network d' cs' ↔ e = e') := by
  refine ⟨⟨fun ⟨c, h⟩ => exists_denotes h, fun ⟨e, h⟩ => ⟨_, h.network⟩⟩, fun e h =>
    ⟨h.network, fun d' cs' e' h' => ?_⟩⟩
  rw [h.network, h'.network, Except.ok.injEq]
  exact ⟨h.text_injective h', fun he => by rw [he]⟩

/-- Two spellings of one address with one scope, and an IPv4 address beside the IPv6 address it is
mapped to. -/
theorem canonical_form_mapped :
    network 443 "[0:0::FFFF:1.2.3.4%07]:080".toList = network 9 "[::ffff:102:304%7]:80".toList ∧
    network 80 "1.2.3.4".toList ≠ network 9 "[::ffff:1.2.3.4]:80".toList := by
  have denotes (d : UInt16) (cs : List Char) {a : SocketAddress}
      (h : SocketAddress.ofText? cs = some a) : Denotes d cs (.ip a) :=
    .socket (SocketAddress.ofText?_eq_some_iff.mp h)
  let mapped : IPv6 := ⟨[0, 0, 0, 0, 0, 0xffff, 0x102, 0x304], rfl⟩
  have hlong := denotes 443 "[0:0::FFFF:1.2.3.4%07]:080".toList
    (by decide +kernel : _ = some (.v6 mapped 80 7))
  have hshort := denotes 9 "[::ffff:102:304%7]:80".toList
    (by decide +kernel : _ = some (.v6 mapped 80 7))
  have hplain : Denotes 80 "1.2.3.4".toList (.ip (.v4 ⟨1, 2, 3, 4⟩ 80)) :=
    .address (IP.ofText?_eq_some_iff.mp (by decide +kernel : _ = some (.v4 ⟨1, 2, 3, 4⟩)))
  have hmapped := denotes 9 "[::ffff:1.2.3.4]:80".toList
    (by decide +kernel : _ = some (.v6 mapped 80 0))
  refine ⟨(((canonical_form _ _).2 _ hlong).2 _ _ _ hshort).mpr rfl, ?_⟩
  rw [ne_eq, ((canonical_form _ _).2 _ hplain).2 _ _ _ hmapped]
  simp

end Listen
end Portkeeper
