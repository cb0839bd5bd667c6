/-
RtspServer/Proofs/Advertised.lean

Which address a session description names.  A client asks for a stream by its URI,
`rtsp://` or `rtsps://`, then the host with user information before it and a port
and a path after it, each of which may be missing (`StreamUri`).  Unless the owner
has chosen a host, the address in the origin line and in the connection line of the
description is the host of the URI, and where the URI has none it is the address of
the client (`Hub.description_advertises`).

The host ends at the first colon.  No name and no IPv4 address holds one, but an IPv6
address in brackets does, so of such a host only what stands before that colon is
advertised: the opening bracket and the first group, which is the address neither
with brackets nor without.
-/
import RtspServer.Proofs.Literal
import RtspServer.Proofs.Reply
import RtspServer.Proofs.Utf8

namespace RtspServer

namespace Text

/-! ### Cutting -/

theorem takeWhile_of_notMem {c : Char} {s : Text} (hs : c ∉ s) : s.takeWhile (· != c) = s :=
  List.takeWhile_eq_self_iff.mpr fun _ hd => bne_iff_ne.mpr fun he => hs (he ▸ hd)

/-- What stands before the first separator does not depend on what stands after it. -/
theorem takeWhile_append_cons (c : Char) (s t : Text) :
    (s ++ c :: t).takeWhile (· != c) = s.takeWhile (· != c) := by
  induction s with
  | nil => simp
  | cons d s ih =>
    by_cases hd : d = c
    · simp [hd]
    · simp [hd, ih]

theorem afterLast_of_notMem {c : Char} {t : Text} (ht : c ∉ t) : afterLast c t = t := by
  rw [afterLast, takeWhile_of_notMem (mt List.mem_reverse.mp ht), List.reverse_reverse]

theorem afterLast_append_cons {c : Char} {t : Text} (ht : c ∉ t) (s : Text) :
    afterLast c (s ++ c :: t) = t := by
  have hreverse : (s ++ c :: t).reverse = t.reverse ++ c :: s.reverse := by simp
  rw [afterLast, hreverse, takeWhile_append_cons, ← afterLast, afterLast_of_notMem ht]

theorem dropLead_append (lead t : Text) : dropLead lead (lead ++ t) = some t := by
  rw [dropLead, if_pos (List.isPrefixOf_iff_prefix.mpr (List.prefix_append lead t)),
    List.drop_left]

theorem dropLead_eq_none {lead t : Text} (h : ¬lead <+: t) : dropLead lead t = none :=
  if_neg fun hlead => h (List.isPrefixOf_iff_prefix.mp hlead)

end Text

/-! ### URIs -/

/-- The two beginnings of the URI of a stream. -/
def streamScheme (secure : Bool) : Text := if secure then "rtsps://".toList else "rtsp://".toList

/-- A URI of a stream, in its parts. User information may hold colons and at signs, but no slash, and
a port holds none of the three. -/
structure StreamUri where
  secure : Bool
  userInfo : Option Text
  host : Text
  port : Option Text
  path : Option Text
  userInfo_free : ∀ info ∈ userInfo, '/' ∉ info
  port_free : ∀ digits ∈ port, '/' ∉ digits ∧ '@' ∉ digits

namespace StreamUri

/-- The host, and the port after a colon. -/
def hostPort (u : StreamUri) : Text := u.host ++ u.port.elim [] (':' :: ·)

/-- The user information before an at sign, the host and the port. -/
def authority (u : StreamUri) : Text := u.userInfo.elim [] (· ++ ['@']) ++ u.hostPort

/-- The URI as it is written. -/
def text (u : StreamUri) : Text :=
  streamScheme u.secure ++ (u.authority ++ u.path.elim [] ('/' :: ·))

/-- No character of the host ends it, or would be trimmed. -/
def PlainHost (u : StreamUri) : Prop := ∀ c ∈ u.host, isBlank c = false ∧ c ∉ ['/', '@']

variable {u : StreamUri}

theorem PlainHost.notMem_hostPort (hu : u.PlainHost) : '/' ∉ u.hostPort ∧ '@' ∉ u.hostPort := by
  have hhost : '/' ∉ u.host ∧ '@' ∉ u.host :=
    ⟨fun h => (hu _ h).2 (by decide), fun h => (hu _ h).2 (by decide)⟩
  unfold hostPort
  rcases hport : u.port with - | digits
  · simpa using hhost
  · have hdigits := u.port_free digits hport
    simp [hhost, hdigits]

theorem PlainHost.notMem_authority (hu : u.PlainHost) : '/' ∉ u.authority := by
  unfold authority
  rcases hinfo : u.userInfo with - | info
  · exact hu.notMem_hostPort.1
  · have hfree := u.userInfo_free info hinfo
    simp [hfree, hu.notMem_hostPort.1]

/-- A host is found up to its first colon. -/
theorem hostOf?_text (hu : u.PlainHost) :
    hostOf? u.text =
      if (u.host.takeWhile (· != ':')).isEmpty then none
      else some (u.host.takeWhile (· != ':')) := by
  have hrest : (Text.dropLead "rtsp://".toList u.text).or (Text.dropLead "rtsps://".toList u.text) =
      some (u.authority ++ u.path.elim [] ('/' :: ·)) := by
    unfold text streamScheme
    cases u.secure with
    | false => rw [if_neg nofun, Text.dropLead_append]; rfl
    | true =>
      rw [if_pos rfl, Text.dropLead_append]
      rfl
  have hauthority : (u.authority ++ u.path.elim [] ('/' :: ·)).takeWhile (· != '/') =
      u.authority := by
    rcases u.path with - | path
    · rw [Option.elim_none, List.append_nil, Text.takeWhile_of_notMem hu.notMem_authority]
    · rw [Option.elim_some, Text.takeWhile_append_cons,
        Text.takeWhile_of_notMem hu.notMem_authority]
  have hhostPort : Text.afterLast '@' u.authority = u.hostPort := by
    unfold authority
    rcases u.userInfo with - | info
    · exact Text.afterLast_of_notMem hu.notMem_hostPort.2
    · rw [Option.elim_some, List.append_assoc]
      exact Text.afterLast_append_cons hu.notMem_hostPort.2 info
  have hhost : u.hostPort.takeWhile (· != ':') = u.host.takeWhile (· != ':') := by
    unfold hostPort
    rcases u.port with - | digits
    · rw [Option.elim_none, List.append_nil]
    · rw [Option.elim_some, Text.takeWhile_append_cons]
  have htrim : Text.trim (u.host.takeWhile (· != ':')) = u.host.takeWhile (· != ':') :=
    Text.trim_of_forall fun c hc => (hu c (List.takeWhile_subset _ hc)).1
  rw [hostOf?, hrest]
  simp only [Option.bind_eq_bind, Option.bind_some, hauthority, hhostPort, hhost, htrim]

end StreamUri

/-- An address that does not begin as the URI of a stream has no host. -/
theorem hostOf?_eq_none {target : Text}
    (h : ∀ secure, ¬streamScheme secure <+: target) : hostOf? target = none := by
  have hplain : Text.dropLead "rtsp://".toList target = none :=
    Text.dropLead_eq_none (h false)
  have hsecure : Text.dropLead "rtsps://".toList target = none :=
    Text.dropLead_eq_none (h true)
  rw [hostOf?, hplain, hsecure]
  rfl

/-! ### Hosts -/

/-- A name of a host: not empty, without blanks, and without the separators of a URI. -/
structure IsHostName (t : Text) : Prop where
  nonempty : t ≠ []
  plain : ∀ c ∈ t, isBlank c = false ∧ c ∉ ['/', '@', ':', '[', ']']

instance (t : Text) : Decidable (IsHostName t) :=
  decidable_of_iff
    (t ≠ [] ∧ t.all (fun c => !isBlank c && !(['/', '@', ':', '[', ']'].contains c)) = true)
    ⟨fun h => ⟨h.1, by simpa using h.2⟩, fun h => ⟨h.nonempty, by simpa using h.plain⟩⟩

/-- An IPv4 address, as it is written. -/
def IsV4Literal (t : Text) : Prop := ∃ a b c d, IpAddress.read? t = some (.v4 a b c d)

/-- An IPv6 address, as it is written. -/
def IsV6Literal (t : Text) : Prop := ∃ groups, IpAddress.read? t = some (.v6 groups)

/-- A literal in brackets. -/
def inBrackets (t : Text) : Text := '[' :: (t ++ [']'])

theorem IsV4Literal.isHostName {t : Text} (h : IsV4Literal t) : IsHostName t := by
  obtain ⟨a, b, c, d, hread⟩ := h
  refine ⟨?_, fun c hc => (IpAddress.isDotted_of_read? hread c hc).plain⟩
  rintro rfl
  cases hread

/-- An IPv6 address is plain, but for its colons, of which there is one. -/
theorem IsV6Literal.plain {t : Text} (h : IsV6Literal t) :
    ':' ∈ t ∧ ∀ c ∈ t, isBlank c = false ∧ c ∉ ['/', '@', '[', ']'] := by
  obtain ⟨groups, hread⟩ := h
  obtain ⟨gs, hgs, hlength⟩ := IpAddress.readV6?_of_read? hread
  refine ⟨IpAddress.colon_mem_of_readV6? hgs hlength, fun c hc => ?_⟩
  rcases IpAddress.isGrouped_of_readV6? hgs c hc with hdotted | rfl
  · have hsub : ['/', '@', '[', ']'] ⊆ ['/', '@', ':', '[', ']'] := by decide
    exact ⟨hdotted.plain.1, fun hmem => hdotted.plain.2 (hsub hmem)⟩
  · decide

/-! ### Descriptions -/

/-- The origin line up to the address. -/
def originLead (settings : Settings) : Text :=
  "o=".toList ++ settings.originUser ++ ' ' :: settings.originSession ++
    ' ' :: settings.originVersion ++ " IN IP4 ".toList

/-- The body of a description whose origin line and connection line name an address. -/
def Advertises (settings : Settings) (body : Bytes) (address : Text) : Prop :=
  ∃ rest, body = Utf8.encode (Text.unlines (["v=0".toList,
    originLead settings ++ address,
    "s=".toList ++ settings.streamName,
    "c=IN IP4 ".toList ++ address] ++ rest))

/-- A description names one address. -/
theorem Advertises.unique {settings : Settings} {body : Bytes} {a b : Text}
    (ha : Advertises settings body a) (hb : Advertises settings body b) (haline : '\r' ∉ a)
    (hbline : '\r' ∉ b) : a = b := by
  obtain ⟨rest, rfl⟩ := ha
  obtain ⟨rest', h⟩ := hb
  have htext := congrArg Utf8.decodeLenient h
  rw [Utf8.decodeLenient_encode, Utf8.decodeLenient_encode] at htext
  -- both texts are the same up to the address in the origin line
  simp only [List.cons_append, Text.unlines_cons, List.append_assoc, List.append_cancel_left_eq,
    List.cons.injEq, true_and] at htext
  rcases Text.append_cons_cases haline htext with ⟨hsame, -⟩ | ⟨u, hu, -⟩
  · exact hsame
  · exact absurd (hu ▸ List.mem_append_right a List.mem_cons_self) hbline

namespace Hub

/-- The answer to DESCRIBE names the host that the hub takes the URI to name. -/
theorem advertises_hostFor {h : Hub} {r : Request} (hmethod : r.method = .describe)
    (hpass : h.isAuthorized r = true) (c : Client) (now : Nat) :
    Advertises h.settings (h.answer c r now).1.body (h.hostFor c r.target) := by
  rw [describe_of_authorized hpass hmethod]
  exact ⟨_, rfl⟩

variable {h : Hub} {r : Request} (hmethod : r.method = .describe) (hpass : h.isAuthorized r = true)
  (hpublic : h.settings.publicHost = none)

include hmethod hpass hpublic

/-- A host without colons is advertised. -/
theorem advertises_of_hostName {u : StreamUri} (hu : r.target = u.text) (hname : IsHostName u.host)
    (c : Client) (now : Nat) :
    Advertises h.settings (h.answer c r now).1.body u.host := by
  have hsub : ['/', '@'] ⊆ ['/', '@', ':', '[', ']'] := by decide
  have hplain : u.PlainHost := fun c hc =>
    ⟨(hname.plain c hc).1, fun hmem => (hname.plain c hc).2 (hsub hmem)⟩
  have hwhole : u.host.takeWhile (· != ':') = u.host :=
    Text.takeWhile_of_notMem fun hc => (hname.plain _ hc).2 (by decide)
  have hfound : h.hostFor c r.target = u.host := by
    rw [hostFor, hpublic, hu, StreamUri.hostOf?_text hplain, hwhole,
      if_neg (mt List.isEmpty_iff.mp hname.nonempty)]
    rfl
  exact hfound ▸ advertises_hostFor hmethod hpass c now

/-- Of an IPv6 address in brackets, the bracket and the first group are advertised. -/
theorem advertises_of_inBrackets {u : StreamUri} {literal : Text} (hu : r.target = u.text)
    (hhost : u.host = inBrackets literal) (hliteral : IsV6Literal literal) (c : Client)
    (now : Nat) :
    Advertises h.settings (h.answer c r now).1.body ('[' :: literal.takeWhile (· != ':')) := by
  obtain ⟨hcolon, hchars⟩ := hliteral.plain
  have hsub : ['/', '@'] ⊆ ['/', '@', '[', ']'] := by decide
  have hplain : u.PlainHost := by
    intro c hc
    rw [hhost, inBrackets, List.mem_cons, List.mem_append, List.mem_singleton] at hc
    rcases hc with rfl | hc | rfl
    · decide
    · exact ⟨(hchars c hc).1, fun hmem => (hchars c hc).2 (hsub hmem)⟩
    · decide
  -- the host is cut inside the brackets, where the first colon is
  have hcut : u.host.takeWhile (· != ':') = '[' :: literal.takeWhile (· != ':') := by
    obtain ⟨first, rest, rfl, hfirst⟩ := List.eq_append_cons_of_mem hcolon
    rw [hhost, inBrackets, List.append_assoc, List.cons_append,
      List.takeWhile_cons_of_pos (by decide), Text.takeWhile_append_cons,
      Text.takeWhile_append_cons]
  have hfound : h.hostFor c r.target = '[' :: literal.takeWhile (· != ':') := by
    rw [hostFor, hpublic, hu, StreamUri.hostOf?_text hplain, hcut]
    rfl
  exact hfound ▸ advertises_hostFor hmethod hpass c now

/-- Without a host the client's own address is advertised. -/
theorem advertises_peer (hnone : hostOf? r.target = none) (c : Client) (now : Nat) :
    Advertises h.settings (h.answer c r now).1.body c.peer.ip.text := by
  have hfound : h.hostFor c r.target = c.peer.ip.text := by
    rw [hostFor, hpublic, hnone]
    rfl
  exact hfound ▸ advertises_hostFor hmethod hpass c now

omit hmethod hpass hpublic

/-- What is advertised of an IPv6 address is not the address, with brackets or without. -/
theorem not_advertises_literal {literal : Text} (hliteral : IsV6Literal literal)
    {settings : Settings} {body : Bytes}
    (h : Advertises settings body ('[' :: literal.takeWhile (· != ':'))) :
    ¬Advertises settings body literal ∧ ¬Advertises settings body (inBrackets literal) := by
  obtain ⟨-, hchars⟩ := hliteral.plain
  have hblank : '\r' ∉ literal := fun hc => absurd (hchars _ hc).1 (by decide)
  have hopening : '[' ∉ literal := fun hc => (hchars _ hc).2 (by decide)
  have hclosing : ']' ∉ literal := fun hc => (hchars _ hc).2 (by decide)
  have hcut : '\r' ∉ '[' :: literal.takeWhile (· != ':') := by
    rw [List.mem_cons, not_or]
    exact ⟨by decide, fun hc => hblank (List.takeWhile_subset _ hc)⟩
  constructor
  · intro hwhole
    have hsame := h.unique hwhole hcut hblank
    exact hopening (hsame ▸ List.mem_cons_self)
  · intro hwhole
    have hsame := h.unique hwhole hcut (by simp [inBrackets, hblank])
    have hmem : ']' ∈ '[' :: literal.takeWhile (· != ':') := by
      rw [hsame, inBrackets]
      simp
    rw [List.mem_cons] at hmem
    exact hmem.elim (by decide) fun hc => hclosing (List.takeWhile_subset _ hc)

/-- **The advertised address.**  No host has been chosen.  A name, or an IPv4 address, is advertised
as it stands in the URI of the request, whatever stands around it.  If the URI has no host, or is
none of a stream, the client's own address is.  Of an IPv6 address in brackets only the opening
bracket and the first group are advertised, so the address is not, with brackets or without. -/
theorem description_advertises (h : Hub) (c : Client) (r : Request) (now : Nat)
    (hmethod : r.method = .describe) (hpass : h.isAuthorized r = true)
    (hpublic : h.settings.publicHost = none) :
    let body := (h.answer c r now).1.body
    (∀ u : StreamUri, r.target = u.text →
      (IsHostName u.host ∨ IsV4Literal u.host → Advertises h.settings body u.host) ∧
      (∀ literal, u.host = inBrackets literal → IsV6Literal literal →
        Advertises h.settings body ('[' :: literal.takeWhile (· != ':')) ∧
          ¬Advertises h.settings body literal ∧
          ¬Advertises h.settings body (inBrackets literal)) ∧
      (u.host = [] → Advertises h.settings body c.peer.ip.text)) ∧
    ((∀ secure, ¬streamScheme secure <+: r.target) →
      Advertises h.settings body c.peer.ip.text) := by
  intro body
  refine ⟨fun u hu => ⟨?_, ?_, ?_⟩, fun hprefix => ?_⟩
  · rintro (hname | hv4)
    · exact advertises_of_hostName hmethod hpass hpublic hu hname c now
    · exact advertises_of_hostName hmethod hpass hpublic hu hv4.isHostName c now
  · intro literal hhost hliteral
    have hcut := advertises_of_inBrackets hmethod hpass hpublic hu hhost hliteral c now
    exact ⟨hcut, not_advertises_literal hliteral hcut⟩
  · intro hnil
    have hplain : u.PlainHost := fun c hc => by simp [hnil] at hc
    refine advertises_peer hmethod hpass hpublic ?_ c now
    rw [hu, StreamUri.hostOf?_text hplain, hnil]
    rfl
  · exact advertises_peer hmethod hpass hpublic (hostOf?_eq_none hprefix) c now

/-- A URI with separators in the user information and in the path. -/
def namedStream : StreamUri where
  secure := true
  userInfo := some "viewer:p@ss".toList
  host := "cam".toList
  port := some "554".toList
  path := some "live:1@2".toList
  userInfo_free := by decide
  port_free := by decide

theorem namedStream_advertised :
    let entropy : Entropy := ⟨UInt16.ofNat, UInt32.ofNat, UInt64.ofNat, 0, 0, 0⟩
    let h := opened {} none { mtu_pos := Nat.succ_pos 1399 } entropy {} none
    let client : Client := { conn := 1, peer := ⟨.v4 127 0 0 1, 4000, 0⟩, outlet := 0 }
    let r : Request := { method := .describe, target := namedStream.text }
    h.isAuthorized r = true ∧ Advertises h.settings (h.answer client r 0).1.body "cam".toList := by
  intro entropy h client r
  have hname : IsHostName "cam".toList := by decide
  obtain ⟨hforms, -⟩ := description_advertises h client r 0 rfl rfl rfl
  exact ⟨rfl, (hforms namedStream rfl).1 (.inl hname)⟩

/-- A URI of a stream on the loopback address of IPv6. -/
def loopbackStream : StreamUri where
  secure := false
  userInfo := none
  host := "[::1]".toList
  port := some "554".toList
  path := some "x".toList
  userInfo_free := by decide
  port_free := by decide

theorem loopbackStream_not_advertised :
    let entropy : Entropy := ⟨UInt16.ofNat, UInt32.ofNat, UInt64.ofNat, 0, 0, 0⟩
    let h := opened {} none { mtu_pos := Nat.succ_pos 1399 } entropy {} none
    let client : Client := { conn := 1, peer := ⟨.v4 10 0 0 9, 4000, 0⟩, outlet := 0 }
    let r : Request := { method := .describe, target := "rtsp://[::1]:554/x".toList }
    r.target = loopbackStream.text ∧ loopbackStream.host = inBrackets "::1".toList ∧
      IsV6Literal "::1".toList ∧
      Advertises h.settings (h.answer client r 0).1.body "[".toList ∧
      ¬Advertises h.settings (h.answer client r 0).1.body "::1".toList ∧
      ¬Advertises h.settings (h.answer client r 0).1.body "[::1]".toList := by
  intro entropy h client r
  have hpath : r.target = loopbackStream.text := rfl
  have hliteral : IsV6Literal "::1".toList := ⟨#v[0, 0, 0, 0, 0, 0, 0, 1], by cbv⟩
  have hcut : Advertises h.settings (h.answer client r 0).1.body "[".toList :=
    advertises_of_inBrackets rfl rfl rfl hpath rfl hliteral client 0
  exact ⟨rfl, rfl, hliteral, hcut, not_advertises_literal hliteral hcut⟩

end Hub

end RtspServer
