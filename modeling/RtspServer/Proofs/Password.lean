/-
RtspServer/Proofs/Password.lean

Basic authentication.  A header value is accepted if and only if it holds, in
Base64, the password of the credential behind a user name that agrees with the
one of the credential up to ASCII case, and the colon between them is the only
one (`Authenticator.basic_accepts`).

There is one way to write the text in Base64, so the blanks around it and the
case of the scheme are all that a client may choose (`BasicAuth.Holds`).
-/
import RtspServer.Auth.Authenticator
import RtspServer.Proofs.Base64
import RtspServer.Proofs.Scheme
import RtspServer.Proofs.Utf8

namespace RtspServer

/-! ### The colon -/

/-- A text with one colon is cut there. -/
theorem Text.cut_of_count {t before after : Text} :
    (if t.count ':' = 1 then Text.cut ':' t else none) = some (before, after) ↔
      t = before ++ ':' :: after ∧ ':' ∉ before ∧ ':' ∉ after := by
  rw [Option.ite_none_right_eq_some]
  constructor
  · rintro ⟨hcount, hcut⟩
    have hmem : ':' ∈ t := List.count_pos_iff.mp (by omega)
    obtain ⟨s, u, rfl, hs⟩ := List.eq_append_cons_of_mem hmem
    obtain ⟨rfl, rfl⟩ := Prod.mk.inj (Option.some.inj ((Text.cut_append hs u).symm.trans hcut))
    rw [List.count_append, List.count_cons_self] at hcount
    exact ⟨rfl, hs, List.count_eq_zero.mp (by omega)⟩
  · rintro ⟨rfl, hbefore, hafter⟩
    refine ⟨?_, Text.cut_append hbefore after⟩
    rw [List.count_append, List.count_cons_self, List.count_eq_zero.mpr hbefore,
      List.count_eq_zero.mpr hafter]

/-- A text with one colon has no other one on either side of any. -/
theorem Text.colon_unique {s t before after : Text} (hbefore : ':' ∉ before) (hafter : ':' ∉ after)
    (h : s ++ ':' :: t = before ++ ':' :: after) : s = before ∧ t = after := by
  rcases Text.append_cons_cases hbefore h.symm with ⟨hs, ht⟩ | ⟨u, -, hu⟩
  · exact ⟨hs.symm, ht.symm⟩
  · exact absurd (hu ▸ List.mem_append_right u List.mem_cons_self) hafter

namespace BasicAuth

/-! ### Header values -/

/-- A header value that holds a text: the word Basic in any ASCII case, a space, and the text in
Base64, with any blanks around them. -/
def Holds (value text : Text) : Prop :=
  ∃ lead scheme gap tail : Text,
    value = lead ++ (scheme ++ ' ' :: (gap ++ (Base64.encode (Utf8.encode text) ++ tail))) ∧
      scheme.eqFold "Basic".toList = true ∧ lead.isBlankLine = true ∧ gap.isBlankLine = true ∧
      tail.isBlankLine = true

/-- The text that a header value holds. -/
def text? (value : Text) : Option Text := do
  let written ← dropScheme? "Basic" value
  let octets ← Base64.decode? (Text.trim written)
  Utf8.decode? octets

theorem text?_eq_some_iff {value text : Text} : text? value = some text ↔ Holds value text := by
  have htrim : ∀ after : Text, Text.trim after.trimStart = Text.trim after := by
    intro after
    obtain ⟨lead, hlead, hafter⟩ := Text.exists_of_trimStart after
    have htrimmed := Text.trim_append_left hlead after.trimStart
    rw [← hafter] at htrimmed
    exact htrimmed.symm
  simp only [text?, Option.bind_eq_bind, Option.bind_eq_some_iff,
    dropScheme?_eq_some_iff (show "Basic".toList.any isBlank = false by decide)
      (show "Basic".toList ≠ [] by decide), Base64.decode?_eq_some_iff, Utf8.decode?_eq_some_iff]
  constructor
  · rintro ⟨written, ⟨lead, scheme, after, hlead, hscheme, rfl, rfl⟩, octets, hwritten, rfl⟩
    obtain ⟨gap, tail, hgap, htail, hafter⟩ := Text.exists_of_trim after
    rw [htrim] at hwritten
    rw [hwritten] at hafter
    exact ⟨lead, scheme, gap, tail, by rw [← hafter], hscheme, hlead, hgap, htail⟩
  · rintro ⟨lead, scheme, gap, tail, rfl, hscheme, hlead, hgap, htail⟩
    refine ⟨_, ⟨lead, scheme, _, hlead, hscheme, rfl, rfl⟩, _, ?_, rfl⟩
    rw [htrim, Text.trim_between hgap htail]
    exact Text.trim_of_forall fun c hc => Base64.isBlank_of_mem_encode hc

theorem read?_eq_some_iff {value username password : Text} :
    read? value = some (username, password) ↔
      Holds value (username ++ ':' :: password) ∧ ':' ∉ username ∧ ':' ∉ password := by
  have hread : read? value = (text? value).bind fun text =>
      if text.count ':' = 1 then Text.cut ':' text else none := by
    simp only [read?, text?, Option.bind_eq_bind, Option.bind_assoc]
  simp only [hread, Option.bind_eq_some_iff, text?_eq_some_iff, Text.cut_of_count]
  constructor
  · rintro ⟨text, hholds, rfl, husername, hpassword⟩
    exact ⟨hholds, husername, hpassword⟩
  · rintro ⟨hholds, husername, hpassword⟩
    exact ⟨_, hholds, rfl, husername, hpassword⟩

/-- A header value holds one text. -/
theorem Holds.unique {value s t : Text} (hs : Holds value s) (ht : Holds value t) : s = t :=
  Option.some.inj ((text?_eq_some_iff.mpr hs).symm.trans (text?_eq_some_iff.mpr ht))

theorem holds_authorization (c : Credential) :
    Holds (authorization c) (c.username ++ ':' :: c.password) :=
  ⟨[], "Basic".toList, [], [], by simp [authorization], by decide, rfl, rfl, rfl⟩

/-! ### What is accepted -/

theorem accepts_iff {c : Credential} {value : Text} :
    accepts c value = true ↔ ∃ username, Holds value (username ++ ':' :: c.password) ∧
      username.eqFold c.username = true ∧ ':' ∉ username ∧ ':' ∉ c.password := by
  unfold accepts
  constructor
  · intro h
    split at h
    · next username password hread =>
      obtain ⟨hname, hpassword⟩ := Bool.and_eq_true_iff.mp h
      obtain rfl := beq_iff_eq.mp hpassword
      obtain ⟨hholds, husername, hcolon⟩ := read?_eq_some_iff.mp hread
      exact ⟨username, hholds, hname, husername, hcolon⟩
    · cases h
  · rintro ⟨username, hholds, hname, husername, hcolon⟩
    rw [read?_eq_some_iff.mpr ⟨hholds, husername, hcolon⟩]
    simp [hname]

/-- **Who is let in with the header of another credential.** -/
theorem accepts_authorization_iff {c client : Credential} :
    accepts c (authorization client) = true ↔ client.username.eqFold c.username = true ∧
      client.password = c.password ∧ ':' ∉ client.username ∧ ':' ∉ client.password := by
  rw [accepts_iff]
  constructor
  · rintro ⟨username, hholds, hname, husername, hcolon⟩
    obtain ⟨rfl, hpassword⟩ := Text.colon_unique husername hcolon
      ((holds_authorization client).unique hholds)
    exact ⟨hname, hpassword, husername, hpassword ▸ hcolon⟩
  · rintro ⟨hname, hpassword, husername, hcolon⟩
    refine ⟨client.username, ?_, hname, husername, hpassword ▸ hcolon⟩
    rw [← hpassword]
    exact holds_authorization client

end BasicAuth

namespace Authenticator

/-- A request is validated by its Authorization header, if it has one. -/
theorem validate_basic {c : Credential} {r : Request} :
    (Authenticator.basic c).validate r = true ↔
      ∃ value, r.header? "Authorization" = some value ∧ BasicAuth.accepts c value = true := by
  unfold validate
  rcases r.header? "Authorization" with - | value <;> simp

/-- **Basic authentication accepts exactly the headers that hold the password** behind a user name
that agrees up to case.  Of the headers that clients make from credentials of their own, these are
the ones with that password and such a user name, if there is no colon in them. -/
theorem basic_accepts (c : Credential) (r : Request) :
    ((Authenticator.basic c).validate r = true ↔
      ∃ value username : Text, r.header? "Authorization" = some value ∧
        BasicAuth.Holds value (username ++ ':' :: c.password) ∧
        username.eqFold c.username = true ∧ ':' ∉ username ∧ ':' ∉ c.password) ∧
    (∀ (client : Credential) (verb target : Text),
      (Authenticator.basic c).validate (r.withHeader "Authorization".toList
          ((Authenticator.basic client).authorization verb target)) = true ↔
        client.username.eqFold c.username = true ∧ client.password = c.password ∧
          ':' ∉ client.username ∧ ':' ∉ client.password) ∧
    (∀ (client : Credential) (verb target : Text) (i : Nat) (d : Char),
      client.password = c.password.set i d → i < c.password.length → c.password[i]? ≠ some d →
        (Authenticator.basic c).validate (r.withHeader "Authorization".toList
          ((Authenticator.basic client).authorization verb target)) = false) := by
  have hclient : ∀ (client : Credential) (verb target : Text),
      (Authenticator.basic c).validate (r.withHeader "Authorization".toList
          ((Authenticator.basic client).authorization verb target)) = true ↔
        client.username.eqFold c.username = true ∧ client.password = c.password ∧
          ':' ∉ client.username ∧ ':' ∉ client.password := by
    intro client verb target
    have hheader : (r.withHeader "Authorization".toList
        ((Authenticator.basic client).authorization verb target)).header? "Authorization" =
          some (BasicAuth.authorization client) := Headers.get?_insert_self r.headers _ _
    rw [validate_basic, hheader, ← BasicAuth.accepts_authorization_iff]
    simp
  refine ⟨?_, hclient, ?_⟩
  · simp only [validate_basic, BasicAuth.accepts_iff, exists_and_left]
  · intro client verb target i d hset hi hd
    rw [Bool.eq_false_iff]
    intro hvalid
    obtain ⟨-, hpassword, -⟩ := (hclient client verb target).mp hvalid
    -- the password with another character is another password
    rw [hset] at hpassword
    refine hd ?_
    rw [← hpassword, List.getElem?_set_self (by simpa using hi)]

/-- A credential to be asked for. -/
def adminCredential : Credential := ⟨"admin".toList, "s3cret!".toList, "cam".toList⟩

/-- A request that carries a header value. -/
def playWith (value : Text) : Request :=
  ({ method := .play, target := ['*'] } : Request).withHeader "Authorization".toList value

theorem admin_accepted :
    (Authenticator.basic adminCredential).validate
        (playWith "  bASIC  QURNSU46czNjcmV0IQ== ".toList) = true ∧
      (Authenticator.basic adminCredential).validate (playWith
        ((Authenticator.basic ⟨"Admin".toList, "s3cret!".toList, []⟩).authorization [] [])) = true ∧
      (Authenticator.basic adminCredential).validate (playWith
        ((Authenticator.basic ⟨"admin".toList, "s3cret?".toList, []⟩).authorization [] [])) =
          false := by
  refine ⟨?_, ?_, ?_⟩
  · refine (basic_accepts adminCredential _).1.mpr ⟨"  bASIC  QURNSU46czNjcmV0IQ== ".toList,
      "ADMIN".toList, by decide, ?_, by decide, by decide, by decide⟩
    exact ⟨"  ".toList, "bASIC".toList, " ".toList, " ".toList, by decide +kernel, by decide,
      by decide, by decide, by decide⟩
  · exact ((basic_accepts adminCredential _).2.1 ⟨"Admin".toList, "s3cret!".toList, []⟩ [] []).mpr
      (by decide)
  · exact (basic_accepts adminCredential _).2.2 ⟨"admin".toList, "s3cret?".toList, []⟩ [] [] 6 '?'
      (by decide) (by decide) (by decide)

end Authenticator

end RtspServer
