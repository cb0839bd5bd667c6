/-
RtspServer/Proofs/Echo.lean

The CSeq of a request comes back with its answer.

A CSeq is looked for in two ways.  A request that is read has the last one that
stands below the first line and above the first empty one
(`Request.cseq?_of_parse`); wherever the head is cut off its body, these are the
lines of the whole text (`Request.cseqsBelow_splitHead`).  A request that is
salvaged has the first one on any line.  So where there is one CSeq only, and it
stands among the headers, both find it (`Request.cseq?_ofText`).

Every answer is built on `Request.respond` by steps that leave the Server and the
CSeq alone (`Hub.builtOn_answer`).
-/
import RtspServer.Proofs.Arena
import RtspServer.Proofs.OneLine

namespace RtspServer

/-! ### Lines that say CSeq -/

/-- A line that says CSeq before its first colon, in any case and with any blanks around it, and a
value behind it. -/
def Text.SaysCSeq (line value : Text) : Prop :=
  ∃ name rest, line = name ++ ':' :: rest ∧ ':' ∉ name ∧
    (Text.trim name).eqFold "CSeq".toList = true ∧ value = Text.trim rest

namespace Request

theorem cseqOfLine?_of_cut {line name rest : Text}
    (hcut : Text.cut ':' line = some (name, rest)) :
    cseqOfLine? line =
      if (Text.trim name).eqFold "CSeq".toList then some (Text.trim rest) else none := by
  simp only [cseqOfLine?, hcut, Option.bind_eq_bind, Option.bind_some]

theorem cseqOfLine?_eq_some_iff {line value : Text} :
    cseqOfLine? line = some value ↔ line.SaysCSeq value := by
  constructor
  · intro h
    obtain ⟨⟨name, rest⟩, hcut, h⟩ := Option.bind_eq_some_iff.mp h
    simp only [Option.ite_none_right_eq_some, Option.some.injEq] at h
    obtain ⟨hline, hname⟩ := Text.cut_eq_some_iff.mp hcut
    exact ⟨name, rest, hline, hname, h.1, h.2.symm⟩
  · rintro ⟨name, rest, rfl, hname, hfold, rfl⟩
    rw [cseqOfLine?_of_cut (Text.cut_append hname rest), if_pos hfold]

/-- A carriage return at the end of a line is trimmed. -/
theorem cseqOfLine?_dropReturn (l : Text) : cseqOfLine? (Text.dropReturn l) = cseqOfLine? l := by
  rcases Text.dropReturn_cases l with hsame | hreturn
  · rw [hsame]
  · generalize Text.dropReturn l = m at hreturn
    subst hreturn
    have hcut : Text.cut ':' (m ++ ['\r']) = _ := Text.cut_append_of_notMem (by decide) m
    have htrim := fun value => Text.trim_append (show isBlank '\r' = true by decide) value
    simp only [cseqOfLine?, hcut]
    rcases Text.cut ':' m with - | ⟨name, value⟩
    · rfl
    · simp only [Option.map_some, Option.bind_eq_bind, Option.bind_some, htrim]

/-! ### The last one among the headers -/

/-- The values on the lines above the first empty one that say CSeq. -/
def cseqsAbove (ls : List Text) : List Text :=
  (ls.takeWhile fun l => !l.isEmpty).filterMap cseqOfLine?

theorem cseqsAbove_cons_nil (ls : List Text) : cseqsAbove ([] :: ls) = [] := rfl

theorem cseqsAbove_cons {l : Text} (hl : l ≠ []) (ls : List Text) :
    cseqsAbove (l :: ls) = (cseqOfLine? l).toList ++ cseqsAbove ls := by
  have htake : (l :: ls).takeWhile (fun l => !l.isEmpty) =
      l :: ls.takeWhile fun l => !l.isEmpty :=
    List.takeWhile_cons_of_pos (by simpa using hl)
  unfold cseqsAbove
  rw [htake, List.filterMap_cons]
  rcases cseqOfLine? l with - | value <;> rfl

/-- Lines that have the same CSeqs have them behind others too. -/
theorem cseqsAbove_congr {ms ms' : List Text} (h : cseqsAbove ms = cseqsAbove ms')
    (ls : List Text) : cseqsAbove (ls ++ ms) = cseqsAbove (ls ++ ms') := by
  induction ls with
  | nil => exact h
  | cons l ls ih =>
    rw [List.cons_append, List.cons_append]
    by_cases hl : l = []
    · rw [hl, cseqsAbove_cons_nil, cseqsAbove_cons_nil]
    · rw [cseqsAbove_cons hl, cseqsAbove_cons hl, ih]

/-- Without an empty line above it, a line that says CSeq is found. -/
theorem cseqsAbove_append_cons {above : List Text} (habove : [] ∉ above)
    (hnone : ∀ l ∈ above, cseqOfLine? l = none) {line value : Text}
    (hline : cseqOfLine? line = some value) {below : List Text}
    (hbelow : ∀ l ∈ below, cseqOfLine? l = none) :
    cseqsAbove (above ++ line :: below) = [value] := by
  induction above with
  | nil =>
    have hne : line ≠ [] := by
      rintro rfl
      cases hline
    have hrest : cseqsAbove below = [] :=
      List.filterMap_eq_nil_iff.mpr fun l hl => hbelow l (List.takeWhile_subset _ hl)
    rw [List.nil_append, cseqsAbove_cons hne, hline, hrest]
    rfl
  | cons l above ih =>
    have hl : l ≠ [] := fun h => habove (h ▸ List.mem_cons_self)
    rw [List.cons_append, cseqsAbove_cons hl, hnone l List.mem_cons_self]
    exact ih (fun h => habove (List.mem_cons_of_mem _ h))
      fun m hm => hnone m (List.mem_cons_of_mem _ hm)

end Request

theorem Headers.get?_congr (h : Headers) {a b : Text} (hab : a.eqFold b = true) :
    h.get? a = h.get? b := by
  have hsame : ∀ e : Text × Text, e.1.eqFold a = e.1.eqFold b := by
    intro e
    rw [Bool.eq_iff_iff]
    exact ⟨fun he => Text.eqFold_trans he hab,
      fun he => Text.eqFold_trans he (Text.eqFold_comm a b ▸ hab)⟩
  simp only [get?, hsame]

namespace Request

/-- **The last CSeq wins.** -/
theorem get?_readHeaders {ls : List Text} {headers read : Headers}
    (hread : readHeaders headers ls = .ok read) :
    read.get? "CSeq".toList =
      (cseqsAbove ls).getLast?.or (headers.get? "CSeq".toList) := by
  induction ls generalizing headers with
  | nil => exact Except.ok.inj hread ▸ rfl
  | cons l ls ih =>
    unfold readHeaders at hread
    split at hread
    · next hl =>
      rw [List.isEmpty_iff.mp hl, cseqsAbove_cons_nil]
      exact Except.ok.inj hread ▸ rfl
    · next hl =>
      rw [cseqsAbove_cons (by simpa using hl)]
      split at hread
      · next name value hcut =>
        rw [ih hread, List.getLast?_append, Option.or_assoc, cseqOfLine?_of_cut hcut]
        congr 1
        rcases hfold : (Text.trim name).eqFold "CSeq".toList with _ | _
        · rw [Headers.get?_insert_of_ne _ hfold]
          rfl
        · rw [← Headers.get?_congr _ hfold, Headers.get?_insert_self]
          rfl
      · cases hread

/-! ### Where the head is cut off -/

theorem of_splitHead {raw front after : Text} (hs : splitHead raw = (front, after)) :
    raw = front ++ ['\r', '\n', '\r', '\n'] ++ after ∨ raw = front ++ ['\n', '\n'] ++ after ∨
      raw = front := by
  unfold splitHead at hs
  split at hs
  · next parts hcut =>
    obtain rfl := hs
    exact .inl ((Text.of_cutAt (by decide) hcut).1.trans (List.append_assoc ..).symm)
  · rcases hcut : Text.cutAt ['\n', '\n'] raw with - | parts
    · rw [hcut] at hs
      exact .inr (.inr (congrArg Prod.fst hs))
    · rw [hcut] at hs
      obtain rfl : parts = (front, after) := hs
      exact .inr (.inl ((Text.of_cutAt (by decide) hcut).1.trans (List.append_assoc ..).symm))

/-- The lines of a head and those of the whole text: they are the same, or the whole text has an
empty line where the head ends.  The last line of the head may have kept a carriage return. -/
theorem lines_of_splitHead {raw front after : Text} (hs : splitHead raw = (front, after)) :
    Text.lines front = Text.lines raw ∨ ∃ above last l below,
      Text.lines front = above ++ [last].filter (!·.isEmpty) ∧
        Text.lines raw = above ++ l :: [] :: below ∧ (l = last ∨ l = Text.dropReturn last) := by
  obtain ⟨whole, init, last, -, -, hsplit⟩ := Text.exists_last_piece front
  have hpieces : Text.splitOn '\n' front = init ++ [last] := by
    simpa using hsplit [] List.not_mem_nil
  have hfront : Text.lines front = init.map Text.dropReturn ++ [last].filter (!·.isEmpty) := by
    simp [Text.lines, hpieces]
  rcases of_splitHead hs with rfl | rfl | rfl
  · refine .inr ⟨_, last, last, Text.lines after, hfront, ?_, .inl rfl⟩
    have hempty : Text.lines ('\r' :: '\n' :: after) = [] :: Text.lines after :=
      Text.lines_append_lineEnd List.not_mem_nil after
    rw [show front ++ ['\r', '\n', '\r', '\n'] ++ after =
        (front ++ ['\r']) ++ '\n' :: ('\r' :: '\n' :: after) by simp, Text.lines_append,
      hsplit ['\r'] (by decide), hempty, List.map_append, List.map_singleton,
      Text.dropReturn_append, List.append_assoc]
    rfl
  · refine .inr ⟨_, last, Text.dropReturn last, Text.lines after, hfront, ?_, .inr rfl⟩
    have hempty : Text.lines ('\n' :: after) = [] :: Text.lines after :=
      Text.lines_append [] after
    rw [show front ++ ['\n', '\n'] ++ after = front ++ '\n' :: ('\n' :: after) by simp,
      Text.lines_append, hpieces, hempty, List.map_append, List.map_singleton, List.append_assoc]
    rfl
  · exact .inl rfl

/-- The values on the lines below the first and above the first empty one that say CSeq. -/
def cseqsBelow (ls : List Text) : List Text := cseqsAbove ls.tail

/-- **Cutting the head off hides no CSeq and adds none.** -/
theorem cseqsBelow_splitHead {raw front after : Text} (hs : splitHead raw = (front, after)) :
    cseqsBelow (Text.lines front) = cseqsBelow (Text.lines raw) := by
  rcases lines_of_splitHead hs with hsame | ⟨above, last, l, below, hfront, hraw, hl⟩
  · rw [hsame]
  · have hvalue : cseqOfLine? l = cseqOfLine? last := by
      rcases hl with rfl | rfl
      · rfl
      · exact cseqOfLine?_dropReturn last
    have hlast : cseqsAbove ([last].filter (!·.isEmpty)) = (cseqOfLine? last).toList := by
      by_cases hne : last = []
      · rw [hne]
        rfl
      · rw [List.filter_cons_of_pos (by simpa using hne), List.filter_nil, cseqsAbove_cons hne]
        exact List.append_nil _
    have hline : cseqsAbove (l :: [] :: below) = (cseqOfLine? l).toList := by
      by_cases hne : l = []
      · rw [hne]
        rfl
      · rw [cseqsAbove_cons hne, cseqsAbove_cons_nil, List.append_nil]
    rw [hfront, hraw]
    rcases above with - | ⟨first, above⟩
    · -- nothing but the first line stands above the empty one
      by_cases hne : last = []
      · rw [hne]
        rfl
      · rw [List.filter_cons_of_pos (by simpa using hne)]
        rfl
    · exact cseqsAbove_congr (by rw [hlast, hline, hvalue]) above

/-- **The CSeq of a request that is read** is the last one that stands between its first line and
the first empty one. -/
theorem cseq?_of_parse {raw : Text} {r : Request} (h : parse raw = .ok r) :
    r.cseq? = (cseqsBelow (Text.lines raw)).getLast? := by
  rcases hsplit : splitHead raw with ⟨front, after⟩
  obtain ⟨first, rest, hlines, -, hofLines, -⟩ := exists_of_parse hsplit h
  have hread := get?_readHeaders (of_ofLines hofLines).1
  rw [Headers.get?_empty, Option.or_none] at hread
  rw [← cseqsBelow_splitHead hsplit, hlines]
  exact hread

/-- The CSeq of a request that is salvaged is the first one on any line. -/
theorem cseq?_salvage (raw : Text) :
    (salvage raw).cseq? = (Text.lines raw).findSome? cseqOfLine? := by
  simp only [salvage]
  split
  · next value hvalue =>
    rw [hvalue]
    exact Headers.get?_insert_self Headers.empty "CSeq".toList value
  · next hnone =>
    rw [hnone]
    rfl

/-- **Both ways find a CSeq that stands alone among the headers.** -/
theorem cseq?_ofText {raw line value : Text} {above below : List Text}
    (hlines : Text.lines raw = above ++ line :: below) (hfirst : above ≠ []) (hempty : [] ∉ above)
    (hline : line.SaysCSeq value) (hnone : ∀ l ∈ above ++ below, ∀ v, ¬l.SaysCSeq v) :
    (ofText raw).cseq? = some value := by
  have hsays : cseqOfLine? line = some value := cseqOfLine?_eq_some_iff.mpr hline
  have hsilent : ∀ l ∈ above ++ below, cseqOfLine? l = none := fun l hl =>
    Option.eq_none_iff_forall_ne_some.mpr fun v hv => hnone l hl v (cseqOfLine?_eq_some_iff.mp hv)
  have habove : ∀ l ∈ above, cseqOfLine? l = none := fun l hl =>
    hsilent l (List.mem_append_left _ hl)
  unfold ofText
  split
  · next r hr =>
    obtain ⟨first, rest, rfl⟩ := List.exists_cons_of_ne_nil hfirst
    have hfound : cseqsBelow (Text.lines raw) = [value] := by
      rw [hlines]
      exact cseqsAbove_append_cons (fun h => hempty (List.mem_cons_of_mem _ h))
        (fun l hl => habove l (List.mem_cons_of_mem _ hl)) hsays
        fun l hl => hsilent l (List.mem_append_right _ hl)
    rw [cseq?_of_parse hr, hfound]
    rfl
  · rw [cseq?_salvage, hlines, List.findSome?_append, List.findSome?_eq_none_iff.mpr habove,
      List.findSome?_cons, hsays]
    rfl

/-- What is salvaged asks for nothing, and without credentials. -/
theorem header?_salvage (raw : Text) :
    (salvage raw).method = .unknown ∧ (salvage raw).header? "Authorization" = none := by
  unfold salvage
  split
  · exact ⟨rfl, Headers.get?_insert_of_ne _ (by decide) _⟩
  · exact ⟨rfl, rfl⟩

end Request

/-! ### Answers -/

namespace Response

/-- The names of the headers that an answer gets after the Server and the CSeq. -/
def addedNames : List Text :=
  ["Session", "Public", "Content-Type", "Content-Base", "Transport", "Range", "RTP-Info",
    "WWW-Authenticate"].map String.toList

/-- A response that has been made of another by changing the status, setting the body and adding
headers. -/
inductive BuiltOn (base : Response) : Response → Prop
  | start : BuiltOn base base
  | withStatus {r : Response} (hr : BuiltOn base r) (status : Nat) :
      BuiltOn base (r.withStatus status)
  | withHeader {r : Response} (hr : BuiltOn base r) {name : Text} (hname : name ∈ addedNames)
      (value : Text) : BuiltOn base (r.withHeader name value)
  | withBody {r : Response} (hr : BuiltOn base r) (body : Bytes) : BuiltOn base (r.withBody body)

/-- The Server and this CSeq come first, and neither comes again. -/
def Echoes (value : Text) (r : Response) : Prop :=
  ∃ rest : List (Text × Text), r.headers.entries =
      ("Server".toList, serverAgent) :: ("CSeq".toList, value) :: rest ∧
    ∀ e ∈ rest, e.1.eqFold "Server".toList = false ∧ e.1.eqFold "CSeq".toList = false

/-- No header that is added is one of the first two. -/
theorem ne_of_mem_addedNames {name : Text} (h : name ∈ addedNames) :
    name.eqFold "Server".toList = false ∧ name.eqFold "CSeq".toList = false := by
  have hall : ∀ name ∈ addedNames,
      name.eqFold "Server".toList = false ∧ name.eqFold "CSeq".toList = false := by decide
  exact hall name h

theorem Echoes.withHeader {value : Text} {r : Response} (hr : r.Echoes value) {name : Text}
    (hname : name ∈ addedNames) (v : Text) : (r.withHeader name v).Echoes value := by
  obtain ⟨rest, hentries, hrest⟩ := hr
  obtain ⟨hserver, hcseq⟩ := ne_of_mem_addedNames hname
  refine ⟨Headers.put name v rest, ?_, ?_⟩
  · rw [Text.eqFold_comm] at hserver hcseq
    show Headers.put name v r.headers.entries = _
    rw [hentries, Headers.put_cons_of_ne hserver, Headers.put_cons_of_ne hcseq]
  · have hput : ∀ e ∈ Headers.put name v rest,
        (e.1.eqFold "Server".toList = false ∧ e.1.eqFold "CSeq".toList = false) ∧ True :=
      Headers.forall_put
        (P := fun n => n.eqFold "Server".toList = false ∧ n.eqFold "CSeq".toList = false)
        (Q := fun _ => True) ⟨hserver, hcseq⟩ trivial fun e he => ⟨hrest e he, trivial⟩
    exact fun e he => (hput e he).1

/-- What is built on a response echoes what that one echoes. -/
theorem BuiltOn.echoes {value : Text} {base r : Response} (h : BuiltOn base r)
    (hbase : base.Echoes value) : r.Echoes value := by
  induction h with
  | start => exact hbase
  | withStatus _ status ih => exact ih
  | withHeader _ hname v ih => exact ih.withHeader hname v
  | withBody _ body ih => exact ih

/-- A response that echoes has one Server and one CSeq. -/
theorem Echoes.filter_eq {value : Text} {r : Response} (hr : r.Echoes value) :
    r.headers.entries.filter (fun e => e.1.eqFold "Server".toList) =
        [("Server".toList, serverAgent)] ∧
      r.headers.entries.filter (fun e => e.1.eqFold "CSeq".toList) =
        [("CSeq".toList, value)] := by
  obtain ⟨rest, hentries, hrest⟩ := hr
  have hserver : rest.filter (fun e => e.1.eqFold "Server".toList) = [] :=
    List.filter_eq_nil_iff.mpr fun e he => Bool.eq_false_iff.mp (hrest e he).1
  have hcseq : rest.filter (fun e => e.1.eqFold "CSeq".toList) = [] :=
    List.filter_eq_nil_iff.mpr fun e he => Bool.eq_false_iff.mp (hrest e he).2
  have hapart : Text.eqFold "CSeq".toList "Server".toList = false ∧
      Text.eqFold "Server".toList "CSeq".toList = false := by decide
  simp only [hentries, List.filter_cons, Text.eqFold_self, hapart.1, hapart.2, hserver, hcseq,
    if_true, Bool.false_eq_true, if_false, and_self]

end Response

open Response

/-- The answer to a request echoes its CSeq before anything is made of it. -/
theorem Request.echoes_respond {r : Request} {value : Text} (hr : r.cseq? = some value) :
    r.respond.Echoes value := by
  have hfirst : (({} : Response).withHeader "CSeq".toList value).Echoes value :=
    ⟨[], rfl, fun _ he => absurd he List.not_mem_nil⟩
  have hsession : "Session".toList ∈ addedNames := by decide
  simp only [respond, hr]
  split
  · exact hfirst.withHeader hsession _
  · exact hfirst

namespace Hub

variable (h : Hub) (c : Client) (r : Request)

theorem builtOn_answerSetUp (offers : List TransportOffer) :
    BuiltOn r.respond (h.answerSetUp c r offers).1 := by
  induction offers with
  | nil => exact .withStatus .start 461
  | cons offer rest ih =>
    unfold answerSetUp
    split
    · exact ih
    · split
      · exact .withStatus .start 461
      · exact .withHeader (.withHeader .start (by decide) _) (by decide) _

theorem builtOn_answerPlay : BuiltOn r.respond (h.answerPlay r).1 := by
  unfold answerPlay
  split
  · exact .withStatus .start 454
  · split
    · exact .withHeader (.withHeader .start (by decide) _) (by decide) _
    · exact .withStatus .start 454
    · exact .withStatus .start 455

theorem builtOn_answerPause : BuiltOn r.respond (h.answerPause r).1 := by
  unfold answerPause
  split
  · exact .withStatus .start 454
  · split
    · exact .start
    · exact .withStatus .start 454

theorem builtOn_answerTeardown : BuiltOn r.respond (h.answerTeardown c r).1 := by
  unfold answerTeardown
  split <;> exact .start

theorem builtOn_dispatch : BuiltOn r.respond (h.dispatch c r).1 := by
  unfold dispatch
  split
  · exact .withHeader .start (by decide) _
  · exact .withBody (.withHeader (.withHeader .start (by decide) _) (by decide) _) _
  · exact h.builtOn_answerSetUp c r _
  · exact h.builtOn_answerPlay r
  · exact h.builtOn_answerPause r
  · exact h.builtOn_answerTeardown c r
  · exact .start
  all_goals exact .withStatus .start 501

/-- **Every answer is built on the one that echoes its request.** -/
theorem builtOn_answer (now : Nat) : BuiltOn r.respond (h.answer c r now).1 := by
  simp only [answer]
  split
  · exact (h.touch c.peer now).builtOn_dispatch c r
  · exact .withHeader (.withStatus .start 401) (by decide) _

/-- What cannot be read is not implemented; but who has to show credentials is asked for them
first. -/
theorem status_salvage (raw : Text) (now : Nat) :
    (h.answer c (Request.salvage raw) now).1.status =
      if h.authenticator.isSome then 401 else 501 := by
  obtain ⟨hmethod, hbare⟩ := Request.header?_salvage raw
  rcases hauth : h.authenticator with - | a
  · have hpass : h.isAuthorized (Request.salvage raw) = true := by simp [isAuthorized, hauth]
    rw [answer_of_passed hpass, dispatch, hmethod]
    rfl
  · have hstop : ¬h.isAuthorized (Request.salvage raw) = true := by
      simp [isAuthorized, hauth, Authenticator.validate, hbare, hmethod]
    rw [answer_of_refused hstop]
    rfl

/-- **Every answer echoes the CSeq of its request**, whether that could be read or not.  Take a text
in which one line says CSeq, which is not the first line and has no empty line above it.  In a hub
after any run, whoever sends the text gets an answer with this CSeq and no other, one Server, and
one of five statuses; for a text that cannot be read it is 501, or 401 if credentials are asked
for. -/
theorem answer_echoes (settings : Settings) (authenticator : Option Authenticator)
    (packetizer : Jpeg.Packetizer) (entropy : Entropy) (ports : PortPool)
    (linkFault : Option Text) (operations : List Operation) {raw line value : Text}
    {above below : List Text} (hlines : Text.lines raw = above ++ line :: below)
    (hfirst : above ≠ []) (hempty : [] ∉ above) (hline : line.SaysCSeq value)
    (hnone : ∀ l ∈ above ++ below, ∀ v, ¬l.SaysCSeq v) (client : Client) (now : Nat) :
    let h := (opened settings authenticator packetizer entropy ports linkFault).run operations
    let response := (h.answer client (Request.ofText raw) now).1
    response.headers.entries.filter (fun e => e.1.eqFold "CSeq".toList) =
        [("CSeq".toList, value)] ∧
      response.headers.entries.filter (fun e => e.1.eqFold "Server".toList) =
        [("Server".toList, serverAgent)] ∧
      response.status ∈ [200, 401, 454, 461, 501] ∧
      ∀ fault, Request.parse raw = .error fault →
        response.status = if authenticator.isSome then 401 else 501 := by
  intro h response
  have hn₀ := numbered_opened settings authenticator packetizer entropy ports linkFault
  have hcoherent : h.Coherent := run_induction (fun hn hp hc => hp.change hn hc) hn₀
    (coherent_opened settings authenticator packetizer entropy ports linkFault) operations
  have hauth : h.authenticator = authenticator := (choices_run hn₀ operations).2
  have hechoes : response.Echoes value :=
    (h.builtOn_answer client _ now).echoes
      (Request.echoes_respond (Request.cseq?_ofText hlines hfirst hempty hline hnone))
  refine ⟨hechoes.filter_eq.2, hechoes.filter_eq.1, status_answer hcoherent client _ now, ?_⟩
  intro fault hfault
  have hsalvage : Request.ofText raw = Request.salvage raw := by
    unfold Request.ofText
    rw [hfault]
  have hstatus := h.status_salvage client raw now
  rw [← hsalvage, hauth] at hstatus
  exact hstatus

/-- A PLAY whose head ends with line feeds, and a word for its body that says no CSeq. -/
def untidyPlay : Text := "PLAY * RTSP/1.0\nA: b\n\tcsEQ : 7 \r\n\nCSeq 9".toList

/-- A PLAY with a line that is no header. -/
def brokenPlay : Text := "PLAY * RTSP/1.0\r\nno header\r\ncseq:8\r\n\r\n".toList

/-- Both are answered by a hub that asks for a password: the one could be read, the other could
not. -/
theorem answer_echoes_plays :
    let authenticator : Authenticator := .basic ⟨"admin".toList, "secret".toList, "cam".toList⟩
    let packetizer : Jpeg.Packetizer := { mtu_pos := Nat.succ_pos 1399 }
    let entropy : Entropy := ⟨UInt16.ofNat, UInt32.ofNat, UInt64.ofNat, 0, 0, 0⟩
    let client : Client := { conn := 1, peer := ⟨.v4 127 0 0 1, 4000, 0⟩, outlet := 0 }
    let h := (opened {} (some authenticator) packetizer entropy {} none).run
      [.connect client.peer {} 0]
    let played := (h.answer client (Request.ofText untidyPlay) 1).1
    let broken := (h.answer client (Request.ofText brokenPlay) 1).1
    played.headers.entries.filter (fun e => e.1.eqFold "CSeq".toList) =
        [("CSeq".toList, "7".toList)] ∧
      broken.headers.entries.filter (fun e => e.1.eqFold "CSeq".toList) =
        [("CSeq".toList, "8".toList)] ∧
      broken.status = 401 := by
  intro authenticator packetizer entropy client h played broken
  have hsilent : ∀ {ls : List Text}, (ls.all fun l => (Request.cseqOfLine? l).isNone) = true →
      ∀ l ∈ ls, ∀ v, ¬l.SaysCSeq v := by
    intro ls hls l hl v hv
    have hnone := List.all_eq_true.mp hls l hl
    rw [Request.cseqOfLine?_eq_some_iff.mpr hv] at hnone
    cases hnone
  have huntidy : Text.lines untidyPlay =
      ["PLAY * RTSP/1.0".toList, "A: b".toList] ++
        "\tcsEQ : 7 ".toList :: [[], "CSeq 9".toList] := by
    decide +kernel
  have hbroken : Text.lines brokenPlay =
      ["PLAY * RTSP/1.0".toList, "no header".toList] ++ "cseq:8".toList :: [[]] := by
    decide +kernel
  have hseven : Text.SaysCSeq "\tcsEQ : 7 ".toList "7".toList :=
    ⟨"\tcsEQ ".toList, " 7 ".toList, by decide, by decide, by decide, by decide⟩
  have height : Text.SaysCSeq "cseq:8".toList "8".toList :=
    ⟨"cseq".toList, "8".toList, by decide, by decide, by decide, by decide⟩
  have hplayed := answer_echoes {} (some authenticator) packetizer entropy {} none
    [.connect client.peer {} 0] huntidy (by decide) (by decide) hseven
    (hsilent (by decide +kernel)) client 1
  have hrefused := answer_echoes {} (some authenticator) packetizer entropy {} none
    [.connect client.peer {} 0] hbroken (by decide) (by decide) height
    (hsilent (by decide +kernel)) client 1
  exact ⟨hplayed.1, hrefused.1, hrefused.2.2.2 (.malformed .invalidHeader) (by decide +kernel)⟩

end Hub

end RtspServer
