/-
RtspServer/Proofs/Parameters.lean

The parameters of a header value.  A value between quotes may hold anything but
a quote, commas and equals signs too, and a list of such parameters is read back
as it was written (`DigestKey.readParameters_eq`).

What a header of the scheme Digest presents are the first parameters of three
names, if two others are there (`DigestKey.Presents`), and that is all its
acceptance depends on (`DigestKey.accepts_iff`).
-/
import RtspServer.Auth.Digest
import RtspServer.Proofs.Scheme

namespace RtspServer.DigestKey

/-! ### Commas and quotes -/

theorem splitUnquoted_cons {quoted : Bool} {c : Char} (hc : ¬(c = ',' ∧ quoted = false))
    {t piece : Text} {rest : List Text}
    (ht : splitUnquoted (if c = '"' then !quoted else quoted) t = piece :: rest) :
    splitUnquoted quoted (c :: t) = (c :: piece) :: rest := by
  rw [splitUnquoted, if_neg hc, ht]

/-- A text without quotes, and outside quotes without commas, belongs to one piece. -/
theorem splitUnquoted_append {quoted : Bool} {s : Text} (hquote : '"' ∉ s)
    (hcomma : quoted = false → ',' ∉ s) {t piece : Text} {rest : List Text}
    (ht : splitUnquoted quoted t = piece :: rest) :
    splitUnquoted quoted (s ++ t) = (s ++ piece) :: rest := by
  induction s with
  | nil => exact ht
  | cons c s ih =>
    obtain ⟨hc, hquote⟩ := List.ne_and_not_mem_of_not_mem_cons hquote
    refine splitUnquoted_cons ?_ ?_
    · rintro ⟨rfl, houtside⟩
      exact hcomma houtside List.mem_cons_self
    · rw [if_neg (Ne.symm hc)]
      exact ih hquote fun houtside hmem => hcomma houtside (List.mem_cons_of_mem _ hmem)

theorem splitUnquoted_inQuotes {value : Text} (hvalue : '"' ∉ value) {t piece : Text}
    {rest : List Text} (ht : splitUnquoted false t = piece :: rest) :
    splitUnquoted false (inQuotes value ++ t) = (inQuotes value ++ piece) :: rest := by
  have hclose : splitUnquoted true ('"' :: t) = ('"' :: piece) :: rest :=
    splitUnquoted_cons (by decide) ht
  have hinside : splitUnquoted true (value ++ '"' :: t) = (value ++ '"' :: piece) :: rest :=
    splitUnquoted_append hvalue (fun houtside => absurd houtside (by decide)) hclose
  have hopen : splitUnquoted false ('"' :: (value ++ '"' :: t)) =
      ('"' :: (value ++ '"' :: piece)) :: rest := splitUnquoted_cons (by decide) hinside
  simpa [inQuotes] using hopen

/-! ### One parameter -/

/-- A text that a parameter can be named with. -/
def IsName (t : Text) : Prop := ∀ c ∈ t, isBlank c = false ∧ c ∉ ['=', ',', '"']

instance (t : Text) : Decidable (IsName t) :=
  decidable_of_iff (t.all (fun c => !isBlank c && !(['=', ',', '"'].contains c)) = true)
    (by simp [IsName])

theorem IsName.notMem {t : Text} (ht : IsName t) {c : Char} (hc : c ∈ ['=', ',', '"']) : c ∉ t :=
  fun h => (ht c h).2 hc

theorem notMem_of_isBlankLine {lead : Text} (hlead : lead.isBlankLine = true) {c : Char}
    (hc : isBlank c = false) : c ∉ lead := fun h => by
  rw [List.all_eq_true.mp hlead c h] at hc
  cases hc

theorem trim_inQuotes (value : Text) : Text.trim (inQuotes value) = inQuotes value := by
  have hstart : ∀ t : Text, Text.trimStart ('"' :: t) = '"' :: t := fun t =>
    List.dropWhile_cons_of_neg (by decide)
  have hend : ∀ t : Text, Text.trimEnd (t ++ ['"']) = t ++ ['"'] := by
    intro t
    rw [Text.trimEnd, List.reverse_append, List.reverse_singleton, List.singleton_append,
      List.dropWhile_cons_of_neg (by decide), List.reverse_cons, List.reverse_reverse]
  calc Text.trim (inQuotes value)
      = Text.trimEnd ('"' :: value ++ ['"']) := congrArg Text.trimEnd (hstart _)
    _ = inQuotes value := hend _

theorem trimQuotes_inQuotes {value : Text} (hvalue : '"' ∉ value) :
    trimQuotes (inQuotes value) = value := by
  have hfree : ∀ {t : Text}, '"' ∉ t → t.dropWhile (· == '"') = t := by
    intro t ht
    rcases t with - | ⟨c, t⟩
    · rfl
    · refine List.dropWhile_cons_of_neg ?_
      rw [beq_iff_eq]
      exact Ne.symm (List.ne_of_not_mem_cons ht)
  have hopen : (inQuotes value).dropWhile (· == '"') = (value ++ ['"']).dropWhile (· == '"') :=
    List.dropWhile_cons_of_pos (by decide)
  rw [trimQuotes, hopen, List.dropWhile_append, hfree hvalue]
  rcases value with - | ⟨c, value⟩
  · rfl
  · rw [List.isEmpty_cons, if_neg Bool.false_ne_true, List.reverse_append, List.reverse_singleton,
      List.singleton_append, List.dropWhile_cons_of_pos (by decide),
      hfree (mt List.mem_reverse.mp hvalue), List.reverse_reverse]

theorem readParameter?_append {lead : Text} (hlead : lead.isBlankLine = true) {name : String}
    (hname : IsName name.toList) {value : Text} (hvalue : '"' ∉ value) :
    readParameter? (lead ++ parameter name value) = some (name.toList, value) := by
  have hcut : Text.cut '=' (lead ++ parameter name value) =
      some (lead ++ name.toList, inQuotes value) := by
    rw [parameter, ← List.append_assoc]
    refine Text.cut_append (fun h => ?_) _
    exact (List.mem_append.mp h).elim (notMem_of_isBlankLine hlead (by decide))
      (hname.notMem (by decide))
  have htrim : Text.trim (lead ++ name.toList) = name.toList := by
    rw [Text.trim_append_left hlead]
    exact Text.trim_of_forall fun c hc => (hname c hc).1
  simp only [readParameter?, hcut, Option.map_some, htrim, trim_inQuotes,
    trimQuotes_inQuotes hvalue]

/-! ### A list of parameters -/

theorem splitUnquoted_parameter {lead : Text} (hlead : lead.isBlankLine = true) {name : String}
    (hname : IsName name.toList) {value : Text} (hvalue : '"' ∉ value) {t piece : Text}
    {rest : List Text} (ht : splitUnquoted false t = piece :: rest) :
    splitUnquoted false (lead ++ parameter name value ++ t) =
      (lead ++ parameter name value ++ piece) :: rest := by
  have hfree : ∀ {c : Char}, isBlank c = false → c ∈ ['=', ',', '"'] → c ≠ '=' →
      c ∉ lead ++ name.toList ++ ['='] := by
    intro c hblank hspecial hne h
    rcases List.mem_append.mp h with h | h
    · exact (List.mem_append.mp h).elim (notMem_of_isBlankLine hlead hblank)
        (hname.notMem hspecial)
    · exact hne (List.mem_singleton.mp h)
  have hwhole := splitUnquoted_append (hfree (c := '"') (by decide) (by decide) (by decide))
    (fun _ => hfree (c := ',') (by decide) (by decide) (by decide))
    (splitUnquoted_inQuotes hvalue ht)
  simpa [parameter] using hwhole

/-- A parameter behind a comma. -/
def further (p : String × Text) : Text := ", ".toList ++ parameter p.1 p.2

theorem readParameters_append {lead : Text} (hlead : lead.isBlankLine = true) {p : String × Text}
    {ps : List (String × Text)} (hps : ∀ q ∈ p :: ps, IsName q.1.toList ∧ '"' ∉ q.2) :
    readParameters (lead ++ parameter p.1 p.2 ++ ps.flatMap further) =
      (p :: ps).map fun q => (q.1.toList, q.2) := by
  induction ps generalizing lead p with
  | nil =>
    obtain ⟨hname, hvalue⟩ := hps p List.mem_cons_self
    have hone : splitUnquoted false (lead ++ parameter p.1 p.2 ++ []) =
        [lead ++ parameter p.1 p.2 ++ []] := splitUnquoted_parameter hlead hname hvalue rfl
    rw [List.flatMap_nil, readParameters, hone, List.append_nil, List.filterMap_cons_some
      (readParameter?_append hlead hname hvalue), List.filterMap_nil]
    rfl
  | cons q ps ih =>
    obtain ⟨⟨hname, hvalue⟩, hrest⟩ := List.forall_mem_cons.mp hps
    -- the comma ends the first piece, and the blank behind it leads the next parameter
    have hcomma : splitUnquoted false ((q :: ps).flatMap further) =
        [] :: splitUnquoted false (" ".toList ++ parameter q.1 q.2 ++ ps.flatMap further) := by
      rw [List.flatMap_cons, further]
      simp [splitUnquoted]
    have hfirst := splitUnquoted_parameter hlead hname hvalue hcomma
    rw [readParameters, hfirst, List.append_nil,
      List.filterMap_cons_some (readParameter?_append hlead hname hvalue), ← readParameters,
      ih (by decide) hrest]
    rfl

/-- **Parameters are read as they were written.** -/
theorem readParameters_eq {p : String × Text} {ps : List (String × Text)}
    (hps : ∀ q ∈ p :: ps, IsName q.1.toList ∧ '"' ∉ q.2) :
    readParameters (parameter p.1 p.2 ++ ps.flatMap further) =
      (p :: ps).map fun q => (q.1.toList, q.2) := by
  simpa using readParameters_append (show Text.isBlankLine [] = true from rfl) hps

/-! ### What a header presents -/

/-- A user name, an address and a proof. -/
structure Presented where
  username : Text
  target : Text
  response : Text
  deriving DecidableEq

theorem value?_cons_of_pos {parameters : List (Text × Text)} {written : Text} {name : String}
    (h : written.eqFold name.toList = true) (value : Text) :
    value? ((written, value) :: parameters) name = some value := by
  simp [value?, h]

theorem value?_cons_of_neg {parameters : List (Text × Text)} {written : Text} {name : String}
    (h : written.eqFold name.toList = false) (value : Text) :
    value? ((written, value) :: parameters) name = value? parameters name := by
  simp [value?, h]

/-- The first value of a name. -/
def IsFirst (parameters : List (Text × Text)) (name : String) (value : Text) : Prop :=
  ∃ before written after, parameters = before ++ (written, value) :: after ∧
    written.eqFold name.toList = true ∧ ∀ p ∈ before, p.1.eqFold name.toList = false

theorem value?_eq_some_iff {parameters : List (Text × Text)} {name : String} {value : Text} :
    value? parameters name = some value ↔ IsFirst parameters name value := by
  simp only [value?, Option.map_eq_some_iff, List.find?_eq_some_iff_append, IsFirst]
  constructor
  · rintro ⟨⟨written, _⟩, ⟨hname, before, after, rfl, hbefore⟩, rfl⟩
    exact ⟨before, written, after, rfl, hname, fun p hp => by simpa using hbefore p hp⟩
  · rintro ⟨before, written, after, rfl, hname, hbefore⟩
    exact ⟨(written, value), ⟨hname, before, after, rfl, fun p hp => by simp [hbefore p hp]⟩, rfl⟩

theorem IsFirst.unique {parameters : List (Text × Text)} {name : String} {v w : Text}
    (hv : IsFirst parameters name v) (hw : IsFirst parameters name w) : v = w :=
  Option.some.inj ((value?_eq_some_iff.mpr hv).symm.trans (value?_eq_some_iff.mpr hw))

/-- What a header value of the scheme Digest presents: a parameter counts where its name occurs
first, and realm and nonce have to be there. -/
def Presents (value : Text) (p : Presented) : Prop :=
  ∃ written realm nonce, dropScheme? "Digest" value = some written ∧
    IsFirst (readParameters written) "username" p.username ∧
    IsFirst (readParameters written) "realm" realm ∧
    IsFirst (readParameters written) "nonce" nonce ∧
    IsFirst (readParameters written) "uri" p.target ∧
    IsFirst (readParameters written) "response" p.response

/-- A header value presents one thing. -/
theorem Presents.unique {value : Text} {p q : Presented} (hp : Presents value p)
    (hq : Presents value q) : p = q := by
  obtain ⟨written, -, -, hwritten, husername, -, -, htarget, hresponse⟩ := hp
  obtain ⟨written', -, -, hwritten', husername', -, -, htarget', hresponse'⟩ := hq
  obtain rfl := Option.some.inj (hwritten.symm.trans hwritten')
  rcases p with ⟨username, target, response⟩
  obtain rfl := husername.unique husername'
  obtain rfl := htarget.unique htarget'
  obtain rfl := hresponse.unique hresponse'
  rfl

/-- A header value is accepted for what it presents. -/
theorem accepts_iff {k : DigestKey} {verb value : Text} :
    k.accepts verb value = true ↔ ∃ p, Presents value p ∧
      p.username.eqFold k.credential.username = true ∧
      (k.proof p.username verb p.target).eqFold p.response = true := by
  unfold accepts
  constructor
  · intro h
    split at h
    · cases h
    · next parameters hparameters =>
      obtain ⟨written, hwritten, rfl⟩ := Option.map_eq_some_iff.mp hparameters
      split at h
      · next username realm nonce target response husername hrealm hnonce htarget hresponse =>
        obtain ⟨hname, hproof⟩ := Bool.and_eq_true_iff.mp h
        rw [value?_eq_some_iff] at husername hrealm hnonce htarget hresponse
        exact ⟨⟨username, target, response⟩, ⟨written, realm, nonce, hwritten, husername, hrealm,
          hnonce, htarget, hresponse⟩, hname, hproof⟩
      · cases h
  · rintro ⟨p, ⟨written, realm, nonce, hwritten, husername, hrealm, hnonce, htarget, hresponse⟩,
      hname, hproof⟩
    rw [← value?_eq_some_iff] at husername hrealm hnonce htarget hresponse
    simp only [hwritten, Option.map_some, husername, hrealm, hnonce, htarget, hresponse, hname,
      hproof, Bool.and_self]

theorem Presents.accepts_iff {k : DigestKey} {verb value : Text} {p : Presented}
    (hp : Presents value p) : k.accepts verb value = true ↔
      p.username.eqFold k.credential.username = true ∧
        (k.proof p.username verb p.target).eqFold p.response = true := by
  rw [DigestKey.accepts_iff]
  constructor
  · rintro ⟨q, hq, haccepted⟩
    obtain rfl := hq.unique hp
    exact haccepted
  · exact fun haccepted => ⟨p, hp, haccepted⟩

end RtspServer.DigestKey
