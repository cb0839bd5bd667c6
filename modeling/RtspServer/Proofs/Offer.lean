/-
RtspServer/Proofs/Offer.lean

An offer that is written is read back as it was (`TransportOffer.read?_text`):
the profile and the parameters hold no semicolon and no blank, every parameter
is read by its name, and numbers are read as they were written.

No offer that is written holds a comma, and a list of offers is read piece by
piece between the commas.  So what is read of a list is what is read of its
parts, one after the other, and offers that are written with commas between them
are read back in order (`TransportOffer.offers_read_back`).
-/
import RtspServer.Proofs.Rendering
import Mathlib.Algebra.Group.Nat.Defs

namespace RtspServer

namespace Text

/-! ### Tokens -/

/-- A text without blanks and semicolons. -/
def Token (t : Text) : Prop := ∀ c ∈ t, isBlank c = false ∧ c ≠ ';'

instance (t : Text) : Decidable (Token t) :=
  decidable_of_iff (t.all (fun c => !isBlank c && c != ';') = true) (by simp [Token])

theorem Token.append {s t : Text} (hs : s.Token) (ht : t.Token) : Token (s ++ t) :=
  fun c hc => (List.mem_append.mp hc).elim (hs c) (ht c)

theorem Token.cons {c : Char} {t : Text} (hc : isBlank c = false ∧ c ≠ ';') (ht : t.Token) :
    Token (c :: t) :=
  List.forall_mem_cons.mpr ⟨hc, ht⟩

theorem Token.trim {t : Text} (ht : t.Token) : t.trim = t :=
  trim_of_forall fun c hc => (ht c hc).1

theorem token_decimal (n : Nat) : Token (decimal n) := by
  intro c hc
  have hdigit := isDigit_of_mem_decimal hc
  refine ⟨isBlank_of_isDigit hdigit, fun h => ?_⟩
  rw [h] at hdigit
  cases hdigit

theorem token_hexUpper (width n : Nat) : Token (hexUpper width n) := by
  intro c hc
  obtain ⟨d, hd, rfl⟩ := of_mem_hexUpper hc
  have hall : ∀ i : Fin 16, isBlank (Nat.digitChar i).toUpper = false ∧
      (Nat.digitChar i).toUpper ≠ ';' := by decide
  exact hall ⟨d, hd⟩

/-- Tokens with semicolons before all but the first are the pieces between semicolons. -/
theorem splitOn_tokens {first : Text} {rest : List Text} (hfirst : first.Token)
    (hrest : ∀ t ∈ rest, t.Token) : splitOn ';' (first ++ rest.flatMap (';' :: ·)) = first :: rest := by
  have hfree : ∀ {t : Text}, t.Token → ∀ c ∈ t, (c == ';') = false := fun ht c hc =>
    beq_false_of_ne (ht c hc).2
  induction rest generalizing first with
  | nil =>
    rw [List.flatMap_nil, List.append_nil]
    exact splitBy_of_forall (hfree hfirst)
  | cons t rest ih =>
    obtain ⟨ht, hrest⟩ := List.forall_mem_cons.mp hrest
    rw [List.flatMap_cons, List.cons_append, splitOn, splitBy_append_cons (hfree hfirst) rfl]
    exact congrArg _ (ih ht hrest)

/-! ### Numbers -/

theorem digitValue?_digitChar_upper {d : Nat} (hd : d < 16) :
    digitValue? 16 (Nat.digitChar d).toUpper = some d := by
  have hall : ∀ i : Fin 16, digitValue? 16 (Nat.digitChar i).toUpper = some i.val := by decide
  exact hall ⟨d, hd⟩

/-- The hexadecimal digits of a number are read as the number. -/
theorem digitsFrom?_hexUpper {bound width n : Nat} (hwidth : n < 16 ^ width) (hn : n < bound) :
    digitsFrom? 16 bound 0 (hexUpper width n) = some n := by
  induction width generalizing n with
  | zero =>
    obtain rfl : n = 0 := Nat.lt_one_iff.mp hwidth
    rfl
  | succ width ih =>
    -- the last digit comes after the digits of the quotient
    have hquotient : n / 16 < 16 ^ width := by
      rw [Nat.pow_succ] at hwidth
      exact Nat.div_lt_of_lt_mul (Nat.mul_comm _ 16 ▸ hwidth)
    have hmod : n % 16 < 16 := Nat.mod_lt _ (by decide)
    have hvalue : n / 16 * 16 + n % 16 = n := by omega
    rw [hexUpper_succ, digitsFrom?_append, ih hquotient (by omega)]
    show digitsFrom? 16 bound (n / 16) [(Nat.digitChar (n % 16)).toUpper] = some n
    rw [digitsFrom?, digitValue?_digitChar_upper hmod]
    dsimp only
    rw [hvalue, if_pos hn, digitsFrom?]

theorem hexWord32?_hexUpper (w : UInt32) : hexWord32? (hexUpper 8 w.toNat) = some w := by
  have hdigits : digits? 16 UInt32.size (hexUpper 8 w.toNat) = some w.toNat := by
    have hne : hexUpper 8 w.toNat ≠ [] := by
      rw [hexUpper_succ]
      exact List.append_ne_nil_of_right_ne_nil _ (List.cons_ne_nil _ _)
    rw [digits?, if_neg (by simpa using hne), digitsFrom?_hexUpper w.toNat_lt w.toNat_lt]
  have hnumeral : numeral? 16 UInt32.size (hexUpper 8 w.toNat) = some w.toNat := by
    unfold numeral?
    split
    · next t ht =>
      -- no digit is a plus sign
      obtain ⟨d, hd, hplus⟩ := of_mem_hexUpper (ht ▸ List.mem_cons_self : '+' ∈ _)
      have hall : ∀ i : Fin 16, '+' ≠ (Nat.digitChar i).toUpper := by decide
      exact (hall ⟨d, hd⟩ hplus).elim
    · exact hdigits
  rw [hexWord32?, hnumeral, Option.map_some, UInt32.ofNat_toNat]

theorem word16?_decimal (w : UInt16) : word16? (decimal w.toNat) = some w := by
  rw [word16?, numeral?_decimal w.toNat_lt, Option.map_some, UInt16.ofNat_toNat]

theorem octet?_decimal (w : UInt8) : octet? (decimal w.toNat) = some w := by
  rw [octet?, numeral?_decimal w.toNat_lt, Option.map_some, UInt8.ofNat_toNat]

theorem notMem_decimal {c : Char} (hc : c.isDigit = false) (n : Nat) : c ∉ decimal n := fun h => by
  rw [isDigit_of_mem_decimal h] at hc
  cases hc

end Text

/-! ### Pairs -/

theorem PortPair.token_text (p : PortPair) : p.text.Token :=
  (Text.token_decimal _).append (.cons (by decide) (Text.token_decimal _))

theorem PortPair.read?_text (p : PortPair) : PortPair.read? p.text = some p := by
  rw [PortPair.read?, PortPair.text, Text.cut_append (Text.notMem_decimal (by decide) _)]
  simp only [(Text.token_decimal _).trim, Text.word16?_decimal]
  rfl

theorem ChannelPair.token_text (p : ChannelPair) : p.text.Token :=
  (Text.token_decimal _).append (.cons (by decide) (Text.token_decimal _))

theorem ChannelPair.read?_text (p : ChannelPair) : ChannelPair.read? p.text = some p := by
  rw [ChannelPair.read?, ChannelPair.text, Text.cut_append (Text.notMem_decimal (by decide) _)]
  simp only [(Text.token_decimal _).trim, Text.octet?_decimal]
  rfl

namespace TransportOffer

/-! ### Parameters -/

/-- A parameter without the semicolon before it, if there is one. -/
def parts {α : Type} (name : String) (write : α → Text) (value : Option α) : List Text :=
  (value.map fun x => name.toList ++ '=' :: write x).toList

theorem parameter_eq {α : Type} (name : String) (write : α → Text) (value : Option α) :
    parameter name write value = (parts name write value).flatMap (';' :: ·) := by
  cases value <;> simp [parameter, parts]

theorem token_parts {α : Type} {name : String} (hname : Text.Token name.toList) {write : α → Text}
    (hwrite : ∀ x, (write x).Token) (value : Option α) : ∀ t ∈ parts name write value, t.Token := by
  rcases value with - | x
  · exact fun t ht => absurd ht List.not_mem_nil
  · intro t ht
    rw [List.mem_singleton.mp ht]
    exact hname.append (.cons (by decide) (hwrite x))

/-- A parameter sets its field. -/
theorem foldlM_parts {α : Type} {name : String} {write : α → Text}
    (set : Option α → TransportOffer)
    (hset : ∀ x, addParameter? (set none) (name.toList ++ '=' :: write x) = some (set (some x)))
    (value : Option α) :
    (parts name write value).foldlM addParameter? (set none) = some (set value) := by
  rcases value with - | x
  · rfl
  · rw [parts, Option.map_some, Option.toList_some, List.foldlM_cons, hset]
    rfl

/-- A parameter is read by its name. -/
theorem addParameter?_eq (o : TransportOffer) {name : Text} (hname : '=' ∉ name) (value : Text) :
    addParameter? o (name ++ '=' :: value) =
      let name := Text.lower name
      if name == "unicast".toList then some { o with multicast := false }
      else if name == "multicast".toList then some { o with multicast := true }
      else if name == "interleaved".toList then do
        some { o with interleaved := some (← ChannelPair.read? value) }
      else if name == "client_port".toList then do
        some { o with clientPort := some (← PortPair.read? value) }
      else if name == "server_port".toList then do
        some { o with serverPort := some (← PortPair.read? value) }
      else if name == "port".toList then do some { o with port := some (← PortPair.read? value) }
      else if name == "ssrc".toList then do
        some { o with ssrc := some (← Text.hexWord32? (Text.trim value)) }
      else some o := by
  unfold addParameter?
  rw [Text.cut_append hname]
  rfl

section Names

variable (o : TransportOffer)

theorem addParameter?_interleaved (p : ChannelPair) :
    addParameter? o ("interleaved".toList ++ '=' :: p.text) = some { o with interleaved := p } := by
  rw [addParameter?_eq o (by decide)]
  show (ChannelPair.read? p.text).bind _ = _
  rw [ChannelPair.read?_text]
  rfl

theorem addParameter?_clientPort (p : PortPair) :
    addParameter? o ("client_port".toList ++ '=' :: p.text) = some { o with clientPort := p } := by
  rw [addParameter?_eq o (by decide)]
  show (PortPair.read? p.text).bind _ = _
  rw [PortPair.read?_text]
  rfl

theorem addParameter?_serverPort (p : PortPair) :
    addParameter? o ("server_port".toList ++ '=' :: p.text) = some { o with serverPort := p } := by
  rw [addParameter?_eq o (by decide)]
  show (PortPair.read? p.text).bind _ = _
  rw [PortPair.read?_text]
  rfl

theorem addParameter?_port (p : PortPair) :
    addParameter? o ("port".toList ++ '=' :: p.text) = some { o with port := p } := by
  rw [addParameter?_eq o (by decide)]
  show (PortPair.read? p.text).bind _ = _
  rw [PortPair.read?_text]
  rfl

theorem addParameter?_ssrc (w : UInt32) :
    addParameter? o ("ssrc".toList ++ '=' :: Text.hexUpper 8 w.toNat) =
      some { o with ssrc := w } := by
  rw [addParameter?_eq o (by decide)]
  show (Text.hexWord32? (Text.trim _)).bind _ = _
  rw [(Text.token_hexUpper _ _).trim, Text.hexWord32?_hexUpper]
  rfl

end Names

/-! ### Offers -/

/-- The parameters of an offer, in order. -/
def parameters (o : TransportOffer) : List Text :=
  [if o.multicast then "multicast".toList else "unicast".toList]
    ++ parts "interleaved" ChannelPair.text o.interleaved
    ++ parts "client_port" PortPair.text o.clientPort
    ++ parts "server_port" PortPair.text o.serverPort
    ++ parts "port" PortPair.text o.port
    ++ parts "ssrc" (fun s => Text.hexUpper 8 s.toNat) o.ssrc

theorem text_eq (o : TransportOffer) :
    o.text = profile o.lower ++ o.parameters.flatMap (';' :: ·) := by
  simp only [text, parameters, parameter_eq, List.flatMap_append, List.append_assoc]
  cases o.multicast <;> rfl

theorem token_parameters (o : TransportOffer) : ∀ t ∈ o.parameters, t.Token := by
  have hmode : ∀ t ∈ [if o.multicast then "multicast".toList else "unicast".toList],
      Text.Token t := by
    cases o.multicast <;> decide
  intro t ht
  simp only [parameters, List.mem_append] at ht
  rcases ht with ((((ht | ht) | ht) | ht) | ht) | ht
  · exact hmode t ht
  · exact token_parts (by decide) ChannelPair.token_text _ t ht
  · exact token_parts (by decide) PortPair.token_text _ t ht
  · exact token_parts (by decide) PortPair.token_text _ t ht
  · exact token_parts (by decide) PortPair.token_text _ t ht
  · exact token_parts (by decide) (fun _ => Text.token_hexUpper _ _) _ t ht

/-- **An offer that is written is read back.** -/
theorem read?_text (o : TransportOffer) : read? o.text = some o := by
  have hprofile : (profile o.lower).Token ∧ readProfile? (profile o.lower) = some o.lower := by
    cases o.lower <;> decide
  have htrim : (profile o.lower :: o.parameters).map Text.trim =
      profile o.lower :: o.parameters := by
    refine (List.map_congr_left fun t ht => ?_).trans (List.map_id _)
    rcases List.mem_cons.mp ht with rfl | ht
    · exact hprofile.1.trim
    · exact (o.token_parameters t ht).trim
  rw [read?, text_eq, Text.splitOn_tokens hprofile.1 o.token_parameters, htrim]
  show (readProfile? (profile o.lower)).bind _ = _
  rw [hprofile.2]
  -- each parameter in turn
  have hmode : [if o.multicast then "multicast".toList else "unicast".toList].foldlM addParameter?
      { lower := o.lower } = some { lower := o.lower, multicast := o.multicast } := by
    cases o.multicast <;> rfl
  have h₁ := foldlM_parts (fun v =>
    { lower := o.lower, multicast := o.multicast, interleaved := v })
    (addParameter?_interleaved _) o.interleaved
  have h₂ := foldlM_parts (fun v =>
    { lower := o.lower, multicast := o.multicast, interleaved := o.interleaved, clientPort := v })
    (addParameter?_clientPort _) o.clientPort
  have h₃ := foldlM_parts (fun v =>
    { lower := o.lower, multicast := o.multicast, interleaved := o.interleaved,
      clientPort := o.clientPort, serverPort := v })
    (addParameter?_serverPort _) o.serverPort
  have h₄ := foldlM_parts (fun v => { o with port := v, ssrc := none })
    (addParameter?_port _) o.port
  have h₅ := foldlM_parts (fun v => { o with ssrc := v }) (addParameter?_ssrc _) o.ssrc
  show o.parameters.foldlM addParameter? { lower := o.lower } = some o
  simp only [parameters, List.foldlM_append, hmode, Option.bind_eq_bind, Option.bind_some, h₁, h₂,
    h₃, h₄, h₅]

/-! ### Lists of offers -/

theorem comma_notMem_parts {α : Type} {name : String} (hname : ',' ∉ name.toList)
    {write : α → Text} (hwrite : ∀ x, ',' ∉ write x) (value : Option α) :
    ∀ t ∈ parts name write value, ',' ∉ t := by
  rcases value with - | x
  · exact fun t ht => absurd ht List.not_mem_nil
  · intro t ht hc
    rw [List.mem_singleton.mp ht] at hc
    rcases List.mem_append.mp hc with hc | hc
    · exact hname hc
    · exact (List.mem_cons.mp hc).elim (by decide) (hwrite x)

theorem comma_notMem_hexUpper (width n : Nat) : ',' ∉ Text.hexUpper width n := fun hc => by
  obtain ⟨d, hd, hcomma⟩ := Text.of_mem_hexUpper hc
  have hall : ∀ i : Fin 16, ',' ≠ (Nat.digitChar i).toUpper := by decide
  exact hall ⟨d, hd⟩ hcomma

/-- Two numbers with a hyphen between them hold no comma. -/
theorem comma_notMem_pair (m n : Nat) : ',' ∉ Text.decimal m ++ '-' :: Text.decimal n := fun hc => by
  rcases List.mem_append.mp hc with hc | hc
  · exact Text.notMem_decimal (by decide) m hc
  · exact (List.mem_cons.mp hc).elim (by decide) (Text.notMem_decimal (by decide) n)

theorem comma_notMem_parameters (o : TransportOffer) : ∀ t ∈ o.parameters, ',' ∉ t := by
  have hmode : ∀ t ∈ [if o.multicast then "multicast".toList else "unicast".toList],
      ',' ∉ t := by
    cases o.multicast <;> decide
  have hports : ∀ p : PortPair, ',' ∉ p.text := fun p => comma_notMem_pair _ _
  intro t ht
  simp only [parameters, List.mem_append] at ht
  rcases ht with ((((ht | ht) | ht) | ht) | ht) | ht
  · exact hmode t ht
  · exact comma_notMem_parts (by decide) (fun p => comma_notMem_pair _ _) _ t ht
  · exact comma_notMem_parts (by decide) hports _ t ht
  · exact comma_notMem_parts (by decide) hports _ t ht
  · exact comma_notMem_parts (by decide) hports _ t ht
  · exact comma_notMem_parts (by decide) (fun _ => comma_notMem_hexUpper _ _) _ t ht

/-- An offer that is written holds no comma. -/
theorem comma_notMem_text (o : TransportOffer) : ',' ∉ o.text := by
  have hprofile : ',' ∉ profile o.lower := by cases o.lower <;> decide
  rw [text_eq]
  intro hc
  rcases List.mem_append.mp hc with hc | hc
  · exact hprofile hc
  · obtain ⟨t, ht, hc⟩ := List.mem_flatMap.mp hc
    exact (List.mem_cons.mp hc).elim (by decide) (o.comma_notMem_parameters t ht)

/-- What stands on either side of a comma is read as if it stood alone. -/
theorem readOffers_append (a b : Text) :
    readOffers (a ++ ',' :: b) = readOffers a ++ readOffers b := by
  have hsplit : Text.splitOn ',' (a ++ ',' :: b) = Text.splitOn ',' a ++ Text.splitOn ',' b :=
    Text.splitBy_append rfl a b
  rw [readOffers, hsplit, List.filterMap_append]
  rfl

/-- Without a comma there is one offer, if it can be read. -/
theorem readOffers_of_notMem {t : Text} (ht : ',' ∉ t) : readOffers t = (read? t).toList := by
  have hsplit : Text.splitOn ',' t = [t] :=
    Text.splitBy_of_forall fun c hc => beq_eq_false_iff_ne.mpr fun he => ht (he ▸ hc)
  rw [readOffers, hsplit]
  rcases hread : read? t with - | o <;> simp [hread]

theorem readOffers_text (o : TransportOffer) : readOffers o.text = [o] := by
  rw [readOffers_of_notMem o.comma_notMem_text, read?_text]
  rfl

/-- Offers that are written with commas between them are read back in order. -/
theorem readOffers_intercalate (offers : List TransportOffer) :
    readOffers (List.intercalate [','] (offers.map text)) = offers := by
  induction offers with
  | nil => rfl
  | cons o rest ih =>
    rcases rest with - | ⟨next, rest⟩
    · rw [List.map_singleton, List.intercalate_singleton]
      exact readOffers_text o
    · have hjoin : List.intercalate [','] ((o :: next :: rest).map text) =
          o.text ++ ',' :: List.intercalate [','] ((next :: rest).map text) := by
        simp [List.intercalate]
      rw [hjoin, readOffers_append, readOffers_text, ih, List.singleton_append]

/-- **A list of offers is read as it was written.**  Offers with commas between them come back in
order, each of them whatever it asks for.  Of any two texts with a comma between them the offers of
the first are read and then those of the second, so an offer that cannot be read is left out and its
neighbours are what they would be without it. -/
theorem offers_read_back :
    (∀ offers : List TransportOffer,
      readOffers (List.intercalate [','] (offers.map text)) = offers) ∧
    (∀ o : TransportOffer, read? o.text = some o) ∧
    (∀ a b : Text, readOffers (a ++ ',' :: b) = readOffers a ++ readOffers b) ∧
    (∀ before broken after : Text, ',' ∉ broken → read? broken = none →
      readOffers (before ++ ',' :: (broken ++ ',' :: after)) =
        readOffers before ++ readOffers after) := by
  refine ⟨readOffers_intercalate, read?_text, readOffers_append, ?_⟩
  intro before broken after hcomma hbroken
  have hnone : readOffers broken = [] := by
    rw [readOffers_of_notMem hcomma, hbroken]
    rfl
  rw [readOffers_append, readOffers_append, hnone, List.nil_append]

/-- A multicast offer, something foreign, and an offer to answer on the control connection. -/
theorem bogus_offer_left_out :
    ',' ∉ " bogus".toList ∧ read? " bogus".toList = none ∧
      readOffers "RTP/AVP;multicast, bogus, RTP/AVP/TCP;unicast;interleaved=0-1".toList =
        [{ lower := .udp, multicast := true },
          { lower := .tcp, interleaved := some ⟨0, 1⟩ }] :=
  ⟨by decide, by decide, (offers_read_back.2.2.2 "RTP/AVP;multicast".toList " bogus".toList
    " RTP/AVP/TCP;unicast;interleaved=0-1".toList (by decide) (by decide)).trans (by decide)⟩

end TransportOffer

end RtspServer
