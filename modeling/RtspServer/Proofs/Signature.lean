/-
RtspServer/Proofs/Signature.lean

Digest authentication.  A client and a server with one realm and one nonce agree
if and only if the password and the verb are the same and the user names agree up
to ASCII case (`Authenticator.digest_accepts`).

A proof is made of three texts (`DigestKey.hashed`).  The password is cut out of
the first one, since the user name and the realm in front of it are the same on
both sides, and the verb out of the second one (`DigestKey.proof_eq_iff`), as long
as no two of the texts that are compared have one hash (`DigestKey.NoCollision`).

The address in the second text is the one that the header presents, and it is not
compared with the address the request is about.  So a header is bound to the verb
of its request and to nothing else of it (`Authenticator.digest_bound_to_verb`).
-/
import RtspServer.Auth.Authenticator
import RtspServer.Proofs.Parameters

namespace RtspServer

/-! ### Hashes -/

theorem Text.length_hexLower (width n : Nat) : (Text.hexLower width n).length = width := by
  induction width generalizing n with
  | zero => rfl
  | succ width ih => rw [Text.hexLower, List.length_append, ih, List.length_singleton]

theorem Text.length_hexBytes (octets : Bytes) :
    (Text.hexBytes octets).length = 2 * octets.length := by
  induction octets with
  | nil => rfl
  | cons x octets ih =>
    have hcons : Text.hexBytes (x :: octets) = Text.hexLower 2 x.toNat ++ Text.hexBytes octets := rfl
    rw [hcons, List.length_append, Text.length_hexLower, ih, List.length_cons]
    omega

theorem Md5.length_octetsLE (count n : Nat) : (Md5.octetsLE count n).length = count := by
  induction count generalizing n with
  | zero => rfl
  | succ count ih => rw [Md5.octetsLE, List.length_cons, ih]

theorem Md5.length_digest (message : Bytes) : (Md5.digest message).length = 16 := by
  simp [Md5.digest, Md5.length_octetsLE]

namespace DigestKey

theorem length_hash (t : Text) : (hash t).length = 32 := by
  rw [hash, Md5.digestHex, Text.length_hexBytes, Md5.length_digest]

theorem of_mem_hash {t : Text} {c : Char} (hc : c ∈ hash t) :
    ∃ d, d < 16 ∧ c = Nat.digitChar d := by
  obtain ⟨x, -, hx⟩ := List.mem_flatMap.mp hc
  exact Text.of_mem_hexLower hx

theorem quote_notMem_hash (t : Text) : '"' ∉ hash t := fun h => by
  obtain ⟨d, hd, hquote⟩ := of_mem_hash h
  have hall : ∀ i : Fin 16, '"' ≠ Nat.digitChar i := by decide
  exact hall ⟨d, hd⟩ hquote

theorem lower_hash (t : Text) : (hash t).lower = hash t := by
  have hall : ∀ i : Fin 16, (Nat.digitChar i).toLower = Nat.digitChar i := by decide
  refine (List.map_congr_left fun c hc => ?_).trans (List.map_id _)
  obtain ⟨d, hd, rfl⟩ := of_mem_hash hc
  exact hall ⟨d, hd⟩

/-- There are no capitals in a hash. -/
theorem eqFold_hash {s t : Text} : (hash s).eqFold (hash t) = true ↔ hash s = hash t := by
  rw [Text.eqFold_iff, lower_hash, lower_hash]

/-! ### What is hashed -/

theorem joined_two (a b : Text) : joined [a, b] = a ++ ':' :: b := by
  simp [joined, List.intercalate]

theorem joined_three (a b c : Text) : joined [a, b, c] = a ++ ':' :: (b ++ ':' :: c) := by
  simp [joined, List.intercalate]

theorem eq_of_joined_two {a a' b : Text} (h : joined [a, b] = joined [a', b]) : a = a' := by
  rw [joined_two, joined_two] at h
  exact List.append_cancel_right h

theorem eq_of_joined_three {a a' b c c' : Text} (hlength : a.length = a'.length)
    (h : joined [a, b, c] = joined [a', b, c']) : a = a' ∧ c = c' := by
  rw [joined_three, joined_three] at h
  obtain ⟨hfirst, hrest⟩ := List.append_inj h hlength
  have hlast := List.append_cancel_left (List.cons.inj hrest).2
  exact ⟨hfirst, (List.cons.inj hlast).2⟩

/-- The texts that a proof is made of: who asks, what for, and both with the nonce. -/
def hashed (k : DigestKey) (username verb target : Text) : List Text :=
  let who := joined [username, k.credential.realm, k.credential.password]
  let what := joined [verb, target]
  [who, what, joined [hash who, k.nonce, hash what]]

/-- No text has the hash of another one at its place. -/
def NoCollision (ss ts : List Text) : Prop := ∀ p ∈ ss.zip ts, hash p.1 = hash p.2 → p.1 = p.2

instance (ss ts : List Text) : Decidable (NoCollision ss ts) :=
  inferInstanceAs (Decidable (∀ p ∈ ss.zip ts, hash p.1 = hash p.2 → p.1 = p.2))

section

variable {k client : DigestKey} {username verb signed target : Text}

theorem proof_congr (hrealm : client.credential.realm = k.credential.realm)
    (hnonce : client.nonce = k.nonce)
    (hpassword : client.credential.password = k.credential.password) :
    client.proof username verb target = k.proof username verb target := by
  simp only [proof, hrealm, hnonce, hpassword]

/-- **A proof tells the password and the verb.** -/
theorem proof_eq_iff (hrealm : client.credential.realm = k.credential.realm)
    (hnonce : client.nonce = k.nonce)
    (hfree : NoCollision (k.hashed username verb target) (client.hashed username signed target)) :
    k.proof username verb target = client.proof username signed target ↔
      client.credential.password = k.credential.password ∧ verb = signed := by
  constructor
  · intro h
    simp only [NoCollision, hashed, List.zip_cons_cons, List.zip_nil_left, List.forall_mem_cons,
      List.not_mem_nil, false_imp_iff, implies_true, and_true] at hfree
    obtain ⟨hwho, hwhat, hwhole⟩ := hfree
    have hparts := hwhole h
    rw [hnonce] at hparts
    -- hashes have one length, so the whole text is cut in one way
    obtain ⟨hfirst, hlast⟩ := eq_of_joined_three ((length_hash _).trans (length_hash _).symm) hparts
    have hclient := hwho hfirst
    rw [hrealm] at hclient
    obtain ⟨-, hpassword⟩ := eq_of_joined_three rfl hclient
    exact ⟨hpassword.symm, eq_of_joined_two (hwhat hlast)⟩
  · rintro ⟨hpassword, rfl⟩
    exact (proof_congr hrealm hnonce hpassword).symm

end

/-! ### What a client presents -/

/-- Nothing that a client writes between quotes holds a quote. -/
structure Quotable (k : DigestKey) : Prop where
  username : '"' ∉ k.credential.username
  realm : '"' ∉ k.credential.realm
  nonce : '"' ∉ k.nonce
  algorithm : ∀ name ∈ k.algorithm, '"' ∉ name

/-- The parameters behind the user name. -/
def others (k : DigestKey) (verb target : Text) : List (String × Text) :=
  [("realm", k.credential.realm), ("nonce", k.nonce), ("uri", target),
    ("response", k.proof k.credential.username verb target)] ++
    (k.algorithm.map fun name => ("algorithm", name)).toList

theorem authorization_eq (k : DigestKey) (verb target : Text) :
    k.authorization verb target = "Digest".toList ++ ' ' ::
      (parameter "username" k.credential.username ++ (k.others verb target).flatMap further) := by
  have hscheme : "Digest ".toList = "Digest".toList ++ [' '] := by decide
  unfold authorization algorithmParameter others
  -- the proof may be any text here, and is not to be computed
  generalize k.proof k.credential.username verb target = response
  rcases k.algorithm with - | name <;>
    simp only [further, hscheme, List.flatMap_cons, List.flatMap_nil, Option.map_none,
      Option.map_some, Option.toList_none, Option.toList_some, List.append_assoc, List.cons_append,
      List.nil_append, List.append_nil]

theorem Quotable.of_mem {k : DigestKey} (hk : k.Quotable) {verb target : Text}
    (htarget : '"' ∉ target) : ∀ q ∈ ("username", k.credential.username) :: k.others verb target,
      IsName q.1.toList ∧ '"' ∉ q.2 := by
  simp only [others, List.forall_mem_cons, List.cons_append, List.nil_append]
  refine ⟨⟨by decide, hk.username⟩, ⟨by decide, hk.realm⟩, ⟨by decide, hk.nonce⟩,
    ⟨by decide, htarget⟩, ⟨by decide, quote_notMem_hash _⟩, fun q hq => ?_⟩
  obtain ⟨name, hname, rfl⟩ := Option.map_eq_some_iff.mp (Option.mem_toList.mp hq)
  exact ⟨show IsName "algorithm".toList by decide, hk.algorithm name hname⟩

/-- **What a client writes is what its header presents.** -/
theorem Quotable.presents {k : DigestKey} (hk : k.Quotable) (verb : Text) {target : Text}
    (htarget : '"' ∉ target) : Presents (k.authorization verb target)
      ⟨k.credential.username, target, k.proof k.credential.username verb target⟩ := by
  have hstart : Text.trimStart (parameter "username" k.credential.username ++
      (k.others verb target).flatMap further) =
        parameter "username" k.credential.username ++ (k.others verb target).flatMap further := by
    have hname : IsName "username".toList := by decide
    rw [parameter, List.append_assoc]
    exact Text.trimStart_of_forall (fun c hc => (hname c hc).1) (by decide) _
  refine ⟨_, k.credential.realm, k.nonce, (dropScheme?_eq_some_iff (by decide) (by decide)).mpr
    ⟨[], "Digest".toList, _, rfl, by decide, authorization_eq k verb target, hstart.symm⟩, ?_⟩
  rw [readParameters_eq (hk.of_mem htarget)]
  simp only [others, List.cons_append, List.nil_append, List.map_cons, ← value?_eq_some_iff]
  simp (disch := decide) only [value?_cons_of_pos, value?_cons_of_neg, and_self]

/-- A header is accepted for the user name and the proof that its client wrote. -/
theorem Quotable.accepts_iff {k client : DigestKey} (hclient : client.Quotable)
    {verb signed target : Text} (htarget : '"' ∉ target) :
    k.accepts verb (client.authorization signed target) = true ↔
      client.credential.username.eqFold k.credential.username = true ∧
        k.proof client.credential.username verb target =
          client.proof client.credential.username signed target := by
  rw [(hclient.presents signed htarget).accepts_iff]
  exact and_congr_right' eqFold_hash

end DigestKey

namespace Authenticator

open DigestKey

theorem validate_digest {k : DigestKey} {r : Request} {value : Text}
    (hvalue : r.header? "Authorization" = some value) :
    (Authenticator.digest k).validate r = k.accepts r.verb value := by
  rw [validate, hvalue]

/-- **Client and server agree** on the password, the verb and, up to ASCII case, the user name. -/
theorem digest_accepts (k client : DigestKey)
    (hrealm : client.credential.realm = k.credential.realm) (hnonce : client.nonce = k.nonce)
    (hclient : client.Quotable) {signed target : Text} (htarget : '"' ∉ target) {r : Request}
    (hheader : r.header? "Authorization" =
      some ((Authenticator.digest client).authorization signed target)) :
    (client.credential.username.eqFold k.credential.username = true →
      client.credential.password = k.credential.password → r.verb = signed →
        (Authenticator.digest k).validate r = true) ∧
    (NoCollision (k.hashed client.credential.username r.verb target)
        (client.hashed client.credential.username signed target) →
      ((Authenticator.digest k).validate r = true ↔
        client.credential.username.eqFold k.credential.username = true ∧
          client.credential.password = k.credential.password ∧ r.verb = signed)) := by
  have hiff : k.accepts r.verb (client.authorization signed target) = true ↔ _ :=
    hclient.accepts_iff htarget
  rw [validate_digest hheader]
  refine ⟨fun hname hpassword hverb => ?_, fun hfree => ?_⟩
  · refine hiff.mpr ⟨hname, ?_⟩
    rw [hverb]
    exact (proof_congr hrealm hnonce hpassword).symm
  · rw [authorization, hiff, proof_eq_iff hrealm hnonce hfree]

/-- A request to describe an address, with a header value. -/
def describeWith (target value : Text) : Request :=
  ({ method := .describe, target } : Request).withHeader "Authorization".toList value

theorem header?_describeWith (target value : Text) :
    (describeWith target value).header? "Authorization" = some value :=
  Headers.get?_insert_self Headers.empty _ _

/-- A key of a server. -/
def cameraKey : DigestKey := ⟨⟨"admin".toList, "pw".toList, "cam".toList⟩, "abc123".toList, none⟩

/-- The key of a client that writes the user name in its own way and names an algorithm. -/
def shoutingKey : DigestKey :=
  ⟨⟨"ADMIN".toList, "pw".toList, "cam".toList⟩, "abc123".toList, some "MD5, plain".toList⟩

/-- The key of a client with another password. -/
def strangerKey : DigestKey :=
  ⟨⟨"admin".toList, "PW".toList, "cam".toList⟩, "abc123".toList, none⟩

theorem cameraKey_quotable : cameraKey.Quotable :=
  ⟨by decide, by decide, by decide, by decide⟩

theorem clients_told_apart :
    (Authenticator.digest cameraKey).validate (describeWith "*".toList
        ((Authenticator.digest shoutingKey).authorization "DESCRIBE".toList "a, b=c".toList)) = true ∧
      (Authenticator.digest cameraKey).validate (describeWith "*".toList
        ((Authenticator.digest shoutingKey).authorization "PLAY".toList "a, b=c".toList)) = false ∧
      (Authenticator.digest cameraKey).validate (describeWith "*".toList
        ((Authenticator.digest strangerKey).authorization "DESCRIBE".toList "a, b=c".toList)) =
          false := by
  have hshouting : shoutingKey.Quotable := ⟨by decide, by decide, by decide, by decide⟩
  have hstranger : strangerKey.Quotable := ⟨by decide, by decide, by decide, by decide⟩
  have htarget : '"' ∉ "a, b=c".toList := by decide
  have hshout := fun verb => digest_accepts cameraKey shoutingKey rfl rfl hshouting htarget
    (header?_describeWith "*".toList
      ((Authenticator.digest shoutingKey).authorization verb "a, b=c".toList))
  have hstrange := digest_accepts cameraKey strangerKey rfl rfl hstranger htarget
    (header?_describeWith "*".toList
      ((Authenticator.digest strangerKey).authorization "DESCRIBE".toList "a, b=c".toList))
  refine ⟨(hshout "DESCRIBE".toList).1 (by decide) rfl rfl, Bool.eq_false_iff.mpr fun hvalid => ?_,
    Bool.eq_false_iff.mpr fun hvalid => ?_⟩
  · have hagree := ((hshout "PLAY".toList).2 (by decide +kernel)).mp hvalid
    exact absurd hagree.2.2 (by decide)
  · have hagree := (hstrange.2 (by decide +kernel)).mp hvalid
    exact absurd hagree.2.1 (by decide)

/-- **A header is bound to the verb it was made for**, and to no address.  The address that is signed
is the one the header presents, whatever the request is about. -/
theorem digest_bound_to_verb (k : DigestKey) :
    (∀ r : Request, (Authenticator.digest k).validate r = true ↔
      ∃ value p, r.header? "Authorization" = some value ∧ Presents value p ∧
        p.username.eqFold k.credential.username = true ∧
        (k.proof p.username r.verb p.target).eqFold p.response = true) ∧
    (∀ (r : Request) (b : Text), (Authenticator.digest k).validate { r with target := b } =
      (Authenticator.digest k).validate r) ∧
    (∀ {value : Text} {p : Presented} {r r' : Request}, Presents value p →
      r.header? "Authorization" = some value → r'.header? "Authorization" = some value →
      (Authenticator.digest k).validate r = true →
        (r'.verb = r.verb → (Authenticator.digest k).validate r' = true) ∧
        (r'.verb ≠ r.verb → NoCollision (k.hashed p.username r'.verb p.target)
          (k.hashed p.username r.verb p.target) → (Authenticator.digest k).validate r' = false)) ∧
    (k.Quotable → ∀ {verb a : Text} {r : Request}, '"' ∉ a →
      r.header? "Authorization" = some ((Authenticator.digest k).authorization verb a) →
        (r.verb = verb → (Authenticator.digest k).validate r = true) ∧
        (r.verb ≠ verb → NoCollision (k.hashed k.credential.username r.verb a)
          (k.hashed k.credential.username verb a) →
            (Authenticator.digest k).validate r = false)) := by
  refine ⟨fun r => ?_, fun _ _ => rfl, ?_, ?_⟩
  · rw [validate]
    rcases r.header? "Authorization" with - | value
    · simp
    · simp [DigestKey.accepts_iff]
  · intro value p r r' hp hvalue hvalue' hvalid
    rw [validate_digest hvalue, hp.accepts_iff] at hvalid
    obtain ⟨hname, hproof⟩ := hvalid
    rw [validate_digest hvalue']
    refine ⟨fun hverb => ?_, fun hverb hfree => Bool.eq_false_iff.mpr fun hvalid' => ?_⟩
    · rw [hverb]
      exact hp.accepts_iff.mpr ⟨hname, hproof⟩
    · -- one response for two verbs is one hash of two texts
      obtain ⟨-, hproof'⟩ := hp.accepts_iff.mp hvalid'
      rw [Text.eqFold_comm] at hproof
      have hsame := eqFold_hash.mp (Text.eqFold_trans hproof' hproof)
      exact hverb ((proof_eq_iff rfl rfl hfree).mp hsame).2
  · intro hk verb a r ha hvalue
    have hiff : k.accepts r.verb (k.authorization verb a) = true ↔ _ := hk.accepts_iff ha
    rw [validate_digest hvalue]
    refine ⟨fun hverb => ?_, fun hverb hfree => Bool.eq_false_iff.mpr fun hvalid => ?_⟩
    · exact hiff.mpr ⟨Text.eqFold_self _, by rw [hverb]⟩
    · obtain ⟨-, hsame⟩ := hiff.mp hvalid
      exact hverb ((proof_eq_iff rfl rfl hfree).mp hsame).2

theorem cameraKey_bound_to_verb :
    (Authenticator.digest cameraKey).validate (describeWith "rtsp://h/b".toList
        ((Authenticator.digest cameraKey).authorization "DESCRIBE".toList "rtsp://h/a".toList)) =
          true ∧
      (Authenticator.digest cameraKey).validate (describeWith "rtsp://h/a".toList
        ((Authenticator.digest cameraKey).authorization "PLAY".toList "rtsp://h/a".toList)) =
          false := by
  obtain ⟨-, -, -, hsigns⟩ := digest_bound_to_verb cameraKey
  exact ⟨(hsigns cameraKey_quotable (by decide) (header?_describeWith _ _)).1 rfl,
    (hsigns cameraKey_quotable (by decide) (header?_describeWith _ _)).2 (by decide)
      (by decide +kernel)⟩

/-- A header that is accepted may present another address than the one its request is about. -/
theorem accepted_for_another_target : ¬∀ (k : DigestKey) (r : Request) (value : Text) (p : Presented),
    r.header? "Authorization" = some value → Presents value p →
      (Authenticator.digest k).validate r = true → p.target = r.target := by
  intro h
  have hmoved := h cameraKey
    (describeWith "rtsp://h/b".toList (cameraKey.authorization "DESCRIBE".toList "rtsp://h/a".toList))
    _ _ (header?_describeWith _ _) (cameraKey_quotable.presents _ (by decide)) (by decide +kernel)
  exact absurd hmoved (by decide)

end Authenticator

end RtspServer
