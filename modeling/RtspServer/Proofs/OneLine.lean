/-
RtspServer/Proofs/OneLine.lean

Texts that stay on one line: they have neither CR nor LF (`Text.OneLine`).  Every
text that the server makes up by itself is one: numbers, addresses, names of
sessions, transports.

What a client has sent is cut into lines and words first.  A line has no LF,
though it may have a CR in the middle, and a word has no blank at all.  So the
values of headers have no LF (`Request.Tame.values`), and the address of a
request stays on one line (`Request.Tame.target`), whether the request could be
parsed or not.
-/
import RtspServer.Proofs.Draft
import RtspServer.Proofs.Naming

namespace RtspServer

namespace Text

/-- A text that stays on one line. -/
def OneLine (t : Text) : Prop := ∀ c ∈ t, c ≠ '\r' ∧ c ≠ '\n'

instance (t : Text) : Decidable (OneLine t) := List.decidableBAll _ t

theorem OneLine.notMem_feed {t : Text} (ht : t.OneLine) : '\n' ∉ t := fun h => (ht _ h).2 rfl

theorem OneLine.mono {s t : Text} (ht : t.OneLine) (hst : s ⊆ t) : s.OneLine :=
  fun c hc => ht c (hst hc)

theorem OneLine.append {s t : Text} (hs : s.OneLine) (ht : t.OneLine) : OneLine (s ++ t) :=
  fun c hc => (List.mem_append.mp hc).elim (hs c) (ht c)

theorem OneLine.cons {c : Char} {t : Text} (hc : c ≠ '\r' ∧ c ≠ '\n') (ht : t.OneLine) :
    OneLine (c :: t) :=
  fun _ hd => (List.mem_cons.mp hd).elim (fun he => he ▸ hc) (ht _)

/-- Line ends are blanks. -/
theorem oneLine_of_forall {t : Text} (ht : ∀ c ∈ t, isBlank c = false) : t.OneLine := by
  intro c hc
  have hblank := ht c hc
  constructor <;> rintro rfl <;> exact absurd hblank (by decide)

theorem oneLine_intercalate {sep : Text} (hsep : sep.OneLine) {ts : List Text}
    (hts : ∀ t ∈ ts, t.OneLine) : OneLine (List.intercalate sep ts) := by
  induction ts with
  | nil => exact fun _ hc => absurd hc List.not_mem_nil
  | cons t rest ih =>
    have ht := hts t List.mem_cons_self
    have hrest := ih fun s hs => hts s (List.mem_cons_of_mem _ hs)
    rcases rest with - | ⟨s, rest⟩
    · simpa using ht
    · rw [List.intercalate_cons_cons]
      exact (ht.append hsep).append hrest

/-! ### Numbers -/

/-- There are sixteen digits, written in two ways. -/
theorem oneLine_digitChar {d : Nat} (hd : d < 16) :
    OneLine [Nat.digitChar d] ∧ OneLine [(Nat.digitChar d).toUpper] := by
  have hall : ∀ i : Fin 16, OneLine [Nat.digitChar i] ∧ OneLine [(Nat.digitChar i).toUpper] := by
    decide
  exact hall ⟨d, hd⟩

theorem oneLine_toDigits {base : Nat} (hbase : 1 < base) (hsixteen : base ≤ 16) (n : Nat) :
    OneLine (Nat.toDigits base n) := by
  have hdigit : ∀ {d}, d < base → OneLine [Nat.digitChar d] := fun hd =>
    (oneLine_digitChar (Nat.lt_of_lt_of_le hd hsixteen)).1
  induction n using Nat.strongRecOn with
  | ind n ih =>
    rcases Nat.lt_or_ge n base with hlt | hge
    · rw [Nat.toDigits_of_lt_base hlt]
      exact hdigit hlt
    · -- the last digit comes after the digits of the quotient
      have hzero : 0 < base := Nat.zero_lt_of_lt hbase
      have hquotient : n / base < n := Nat.div_lt_self (Nat.lt_of_lt_of_le hzero hge) hbase
      rw [Nat.toDigits_of_base_le hbase hge]
      exact (ih _ hquotient).append (hdigit (Nat.mod_lt n hzero))

theorem oneLine_decimal (n : Nat) : OneLine (decimal n) :=
  oneLine_toDigits (by decide) (by decide) n

theorem oneLine_hexUpper (width n : Nat) : OneLine (hexUpper width n) := by
  intro c hc
  obtain ⟨d, hd, rfl⟩ := of_mem_hexUpper hc
  exact (oneLine_digitChar hd).2 _ List.mem_cons_self

/-! ### Pieces, lines and words -/

/-- A piece holds no separator, and nothing that was not there. -/
theorem of_mem_splitBy {p : Char → Bool} {t piece : Text} (hpiece : piece ∈ splitBy p t) :
    ∀ c ∈ piece, p c = false ∧ c ∈ t := by
  induction t generalizing piece with
  | nil =>
    rw [splitBy_nil] at hpiece
    rw [List.mem_singleton.mp hpiece]
    exact fun _ hc => absurd hc List.not_mem_nil
  | cons d t ih =>
    have hold : ∀ {q}, q ∈ splitBy p t → ∀ c ∈ q, p c = false ∧ c ∈ d :: t :=
      fun hq c hc => ⟨(ih hq c hc).1, List.mem_cons_of_mem _ (ih hq c hc).2⟩
    cases hd : p d with
    | true =>
      rw [splitBy_cons_of_pos hd] at hpiece
      rcases List.mem_cons.mp hpiece with rfl | hpiece
      · exact fun _ hc => absurd hc List.not_mem_nil
      · exact hold hpiece
    | false =>
      obtain ⟨first, rest, hsplit⟩ := List.exists_cons_of_ne_nil (splitBy_ne_nil p t)
      rw [splitBy_cons_of_neg hd hsplit] at hpiece
      rw [hsplit] at hold
      rcases List.mem_cons.mp hpiece with rfl | hpiece
      · intro c hc
        rcases List.mem_cons.mp hc with rfl | hc
        · exact ⟨hd, List.mem_cons_self⟩
        · exact hold List.mem_cons_self c hc
      · exact hold (List.mem_cons_of_mem _ hpiece)

/-- No line holds a line feed. -/
theorem notMem_of_mem_lines {t l : Text} (hl : l ∈ lines t) : '\n' ∉ l := by
  have hpiece : ∀ piece ∈ t.splitOn '\n', '\n' ∉ piece := fun piece hp h =>
    absurd (of_mem_splitBy hp _ h).1 (by decide)
  unfold lines at hl
  rcases List.mem_append.mp hl with hl | hl
  · obtain ⟨piece, hmem, rfl⟩ := List.mem_map.mp hl
    have hno := hpiece piece (List.dropLast_subset _ hmem)
    unfold dropReturn
    split
    · exact fun h => hno (List.dropLast_subset _ h)
    · exact hno
  · obtain ⟨hmem, -⟩ := List.mem_filter.mp hl
    exact hpiece l (List.mem_of_getLast? (Option.mem_toList.mp hmem))

/-- A word holds no blank. -/
theorem isBlank_of_mem_words {t w : Text} (hw : w ∈ words t) : ∀ c ∈ w, isBlank c = false :=
  fun c hc => (of_mem_splitBy (List.mem_filter.mp hw).1 c hc).1

theorem trim_subset (t : Text) : trim t ⊆ t := by
  intro c hc
  have hend : c ∈ t.trimStart := by
    have := List.dropWhile_subset _ (List.mem_reverse.mp hc)
    exact List.mem_reverse.mp this
  exact List.dropWhile_subset _ hend

theorem subset_of_cut {c : Char} {t : Text} {p : Text × Text} (h : cut c t = some p) :
    p.1 ⊆ t ∧ p.2 ⊆ t := by
  unfold cut at h
  split at h
  · cases h
  · next rest hrest =>
    obtain rfl := Option.some.inj h
    refine ⟨List.takeWhile_subset _, fun d hd => ?_⟩
    exact List.dropWhile_subset _ (hrest ▸ List.mem_cons_of_mem _ hd)

theorem subset_of_dropLead {lead t rest : Text} (h : dropLead lead t = some rest) : rest ⊆ t := by
  unfold dropLead at h
  split at h
  · exact Option.some.inj h ▸ List.drop_subset _ t
  · cases h

theorem afterLast_subset (c : Char) (t : Text) : afterLast c t ⊆ t := by
  intro d hd
  exact List.mem_reverse.mp (List.takeWhile_subset _ (List.mem_reverse.mp hd))

end Text

/-! ### What the server makes up -/

theorem IpAddress.oneLine_text (ip : IpAddress) : Text.OneLine ip.text := by
  have hdotted : ∀ a b c d, Text.OneLine (IpAddress.dotted a b c d) := by
    intro a b c d
    refine Text.oneLine_intercalate (by decide) fun t ht => ?_
    obtain ⟨x, -, rfl⟩ := List.mem_map.mp ht
    exact Text.oneLine_decimal _
  have hgroups : ∀ groups, Text.OneLine (IpAddress.colonGroups groups) := by
    intro groups
    refine Text.oneLine_intercalate (by decide) fun t ht => ?_
    obtain ⟨x, -, rfl⟩ := List.mem_map.mp ht
    exact Text.oneLine_toDigits (by decide) (by decide) _
  cases ip with
  | v4 a b c d => exact hdotted a b c d
  | v6 groups =>
    show Text.OneLine (IpAddress.groupsText groups.toList)
    unfold IpAddress.groupsText
    split
    · exact Text.OneLine.append (by decide) (hdotted _ _ _ _)
    · simp only
      split
      · exact ((hgroups _).append (by decide)).append (hgroups _)
      · exact hgroups _

theorem Entropy.oneLine_sessionName (w : UInt64) : Text.OneLine (Entropy.sessionName w) :=
  Text.oneLine_hexUpper _ _

/-- A parameter stays on one line if its name and its values do. -/
theorem TransportOffer.oneLine_parameter {α : Type} {name : String} {write : α → Text}
    (hname : Text.OneLine name.toList) (hwrite : ∀ value, Text.OneLine (write value))
    (value? : Option α) : Text.OneLine (TransportOffer.parameter name write value?) := by
  rcases value? with - | value
  · exact fun _ hc => absurd hc List.not_mem_nil
  · have hname' : Text.OneLine (';' :: name.toList) := .cons (by decide) hname
    exact hname'.append (.cons (by decide) (hwrite value))

theorem TransportOffer.oneLine_text (o : TransportOffer) : Text.OneLine o.text := by
  have hports : ∀ p : PortPair, Text.OneLine p.text := fun p =>
    (Text.oneLine_decimal _).append (.cons (by decide) (Text.oneLine_decimal _))
  have hchannels : ∀ p : ChannelPair, Text.OneLine p.text := fun p =>
    (Text.oneLine_decimal _).append (.cons (by decide) (Text.oneLine_decimal _))
  have hprofile : Text.OneLine (profile o.lower) := by cases o.lower <;> decide
  have hcast : Text.OneLine
      (if o.multicast then ";multicast".toList else ";unicast".toList) := by
    split <;> decide
  exact (((((hprofile.append hcast).append
    (oneLine_parameter (by decide) hchannels _)).append
    (oneLine_parameter (by decide) hports _)).append
    (oneLine_parameter (by decide) hports _)).append
    (oneLine_parameter (by decide) hports _)).append
    (oneLine_parameter (by decide) (fun _ => Text.oneLine_hexUpper _ _) _)

/-! ### What the owner has chosen -/

/-- No text of the settings leaves its line. -/
structure Settings.OneLine (s : Settings) : Prop where
  publicHost : ∀ host ∈ s.publicHost, Text.OneLine host
  originUser : Text.OneLine s.originUser
  originSession : Text.OneLine s.originSession
  originVersion : Text.OneLine s.originVersion
  streamName : Text.OneLine s.streamName

/-- No text that the challenge is made of leaves its line. -/
def Authenticator.OneLine : Authenticator → Prop
  | .basic c => Text.OneLine c.realm
  | .digest k => Text.OneLine k.credential.realm ∧ Text.OneLine k.nonce ∧
    ∀ name ∈ k.algorithm, Text.OneLine name

theorem oneLine_inQuotes {t : Text} (ht : t.OneLine) : Text.OneLine (inQuotes t) :=
  .append (.cons (by decide) ht) (by decide)

theorem DigestKey.oneLine_parameter {name : String} (hname : Text.OneLine name.toList)
    {value : Text} (hvalue : value.OneLine) : Text.OneLine (DigestKey.parameter name value) :=
  hname.append (.cons (by decide) (oneLine_inQuotes hvalue))

theorem Authenticator.oneLine_challenge {a : Authenticator} (ha : a.OneLine) :
    Text.OneLine a.challenge := by
  cases a with
  | basic c => exact .append (by decide) (oneLine_inQuotes ha)
  | digest k =>
    obtain ⟨hrealm, hnonce, halgorithm⟩ := ha
    have hlast : Text.OneLine k.algorithmParameter := by
      unfold DigestKey.algorithmParameter
      split
      · next name hname =>
        exact .append (by decide) (DigestKey.oneLine_parameter (by decide) (halgorithm name hname))
      · exact fun _ hc => absurd hc List.not_mem_nil
    have hrealm' :
        Text.OneLine ("Digest ".toList ++ DigestKey.parameter "realm" k.credential.realm) :=
      .append (by decide) (DigestKey.oneLine_parameter (by decide) hrealm)
    have hnonce' : Text.OneLine (DigestKey.parameter "nonce" k.nonce) :=
      DigestKey.oneLine_parameter (by decide) hnonce
    exact (((hrealm'.append (by decide)).append hnonce').append hlast).append (by decide)

/-! ### What a client has sent -/

namespace Request

/-- The values of the headers have no line feed, and the address stays on one line. -/
structure Tame (r : Request) : Prop where
  values : ∀ e ∈ r.headers.entries, '\n' ∉ e.2
  target : Text.OneLine r.target

theorem Tame.header? {r : Request} (hr : r.Tame) {name : String} {value : Text}
    (hv : r.header? name = some value) : '\n' ∉ value := by
  obtain ⟨e, he, rfl⟩ := Option.map_eq_some_iff.mp hv
  exact hr.values e (List.mem_of_find?_eq_some he)

/-- Values that are put on header lines have no line feed. -/
theorem values_put {name value : Text} {entries : List (Text × Text)}
    (h : ∀ e ∈ entries, '\n' ∉ e.2) (hv : '\n' ∉ value) :
    ∀ e ∈ Headers.put name value entries, '\n' ∉ e.2 := by
  have hput : ∀ e ∈ Headers.put name value entries, True ∧ '\n' ∉ e.2 :=
    Headers.forall_put (P := fun _ => True) (Q := fun v => '\n' ∉ v) trivial hv
      fun e he => ⟨trivial, h e he⟩
  exact fun e he => (hput e he).2

theorem values_readHeaders {ls : List Text} (hls : ∀ l ∈ ls, '\n' ∉ l) {headers read : Headers}
    (hh : ∀ e ∈ headers.entries, '\n' ∉ e.2) (hread : readHeaders headers ls = .ok read) :
    ∀ e ∈ read.entries, '\n' ∉ e.2 := by
  refine readHeaders_induct (P := fun h => ∀ e ∈ h.entries, '\n' ∉ e.2) ?_ hh hread
  intro l hl name value hcut h hvalues
  -- a value is a piece of its line
  exact values_put hvalues fun h => hls l hl ((Text.subset_of_cut hcut).2 (Text.trim_subset _ h))

theorem tame_ofLines {first : Text} {rest : List Text} (hrest : ∀ l ∈ rest, '\n' ∉ l)
    {r : Request} (hr : ofLines first rest = .ok r) : r.Tame := by
  obtain ⟨hread, -, -, htarget, -⟩ := of_ofLines hr
  refine ⟨values_readHeaders hrest (fun _ he => absurd he List.not_mem_nil) hread, ?_⟩
  rw [htarget]
  show Text.OneLine ((Text.words first)[1]?.getD ['*'])
  rcases hword : (Text.words first)[1]? with - | w
  · show Text.OneLine ['*']
    decide
  · exact Text.oneLine_of_forall (Text.isBlank_of_mem_words (List.mem_of_getElem? hword))

theorem tame_parse {raw : Text} {r : Request} (hr : parse raw = .ok r) : r.Tame := by
  rcases hsplit : splitHead raw with ⟨front, after⟩
  obtain ⟨hhead, -⟩ := of_parse hsplit hr
  rcases hlines : Text.lines front with - | ⟨first, rest⟩
  · rw [hlines] at hhead
    cases hhead
  · rw [hlines] at hhead
    have hrest : ∀ l ∈ rest, '\n' ∉ l := fun l hl =>
      Text.notMem_of_mem_lines (hlines ▸ List.mem_cons_of_mem _ hl)
    -- the body is no part of what is asked
    have hread := tame_ofLines hrest hhead
    exact ⟨hread.values, hread.target⟩

theorem tame_salvage (raw : Text) : (salvage raw).Tame := by
  have htarget : Text.OneLine ['*'] := by decide
  simp only [salvage]
  split
  · next value hvalue =>
    obtain ⟨l, hl, hcseq⟩ := List.exists_of_findSome?_eq_some hvalue
    unfold cseqOfLine? at hcseq
    rcases hcut : Text.cut ':' l with - | ⟨name, v⟩
    · simp [hcut] at hcseq
    · simp only [hcut, Option.bind_eq_bind, Option.bind_some, Option.ite_none_right_eq_some,
        Option.some.injEq] at hcseq
      obtain ⟨-, rfl⟩ := hcseq
      refine ⟨values_put (fun _ he => absurd he List.not_mem_nil) fun h => ?_, htarget⟩
      exact Text.notMem_of_mem_lines hl ((Text.subset_of_cut hcut).2 (Text.trim_subset _ h))
  · exact ⟨fun _ he => absurd he List.not_mem_nil, htarget⟩

/-- **Whatever a client sends, the request it stands for is tame.** -/
theorem tame_ofText (raw : Text) : (ofText raw).Tame := by
  unfold ofText
  split
  · next hr => exact tame_parse hr
  · exact tame_salvage raw

end Request

/-- The host in an address that stays on one line does so too. -/
theorem oneLine_hostOf? {target host : Text} (ht : target.OneLine)
    (hhost : hostOf? target = some host) : host.OneLine := by
  obtain ⟨rest, hlead, hhost⟩ := Option.bind_eq_some_iff.mp hhost
  simp only [Option.ite_none_left_eq_some, Option.some.injEq] at hhost
  obtain ⟨-, rfl⟩ := hhost
  have hrest : rest ⊆ target := by
    rcases Option.or_eq_some_iff.mp hlead with h | ⟨-, h⟩ <;> exact Text.subset_of_dropLead h
  refine ht.mono fun c hc => hrest ?_
  have hauthority := Text.afterLast_subset _ _ (List.takeWhile_subset _ (Text.trim_subset _ hc))
  exact List.takeWhile_subset _ hauthority

end RtspServer
