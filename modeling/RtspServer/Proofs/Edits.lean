/-
RtspServer/Proofs/Edits.lean

Headers as a map.  Whatever is inserted and removed, the headers hold what can be
read off the edits without them: under each name the value of the last edit that
is about it (`Headers.latest?`), and the names in the order of the edits that
founded them (`Headers.founders`).  An edit founds a name if it inserts it when it
is not there and no later edit removes it; the name keeps that spelling.

The names stay different up to case, so the entry that is found first is the only
one, and what is removed is the whole of what was there (`Distinct.eraseP_eq`).
Each edit does the same to the headers as to what is read off the edits
(`reflects_edited`).
-/
import RtspServer.Proofs.Echo

namespace RtspServer

namespace Headers

/-! ### What the edits say -/

/-- A change to some headers. -/
inductive Edit where
  | insert (name value : Text)
  | remove (name : Text)
  deriving DecidableEq, Repr

namespace Edit

/-- The name that an edit is about. -/
def name : Edit → Text
  | insert name _ => name
  | remove name => name

/-- The value that an edit leaves under its name. -/
def value? : Edit → Option Text
  | insert _ value => some value
  | remove _ => none

/-- Does an edit remove a name, in whatever spelling? -/
def removes (name : Text) : Edit → Bool
  | insert .. => false
  | remove other => other.eqFold name

end Edit

/-- Edit some headers. -/
def edit (h : Headers) : Edit → Headers
  | .insert name value => h.insert name value
  | .remove name => (h.pop name).2

/-- The headers after some edits, if there were none before. -/
def edited (edits : List Edit) : Headers := edits.foldl edit empty

/-- The value last inserted under a name, in whatever spelling, unless the name has been removed
after that. -/
def latest? (edits : List Edit) (name : Text) : Option Text :=
  (edits.reverse.find? fun e => e.name.eqFold name).bind Edit.value?

/-- The name that the edit in a place has founded, if it was the first to insert it since it was
last removed: the name was not there before, and no later edit removes it. -/
def founder? (edits : List Edit) (place : Nat) : Option Text :=
  match edits[place]? with
  | some (.insert name _) =>
    if latest? (edits.take place) name = none ∧
        (edits.drop (place + 1)).any (Edit.removes name) = false then some name
    else none
  | _ => none

/-- The names that some edits have founded, in the spelling and in the order of these edits. -/
def founders (edits : List Edit) : List Text :=
  (List.range edits.length).filterMap (founder? edits)

/-! ### One more edit -/

theorem edited_concat (edits : List Edit) (e : Edit) :
    edited (edits ++ [e]) = (edited edits).edit e :=
  List.foldl_concat ..

theorem latest?_concat (edits : List Edit) (e : Edit) (name : Text) :
    latest? (edits ++ [e]) name =
      if e.name.eqFold name then e.value? else latest? edits name := by
  rw [latest?, List.reverse_concat, List.find?_cons]
  split
  · next h =>
    rw [if_pos h]
    rfl
  · next h =>
    rw [if_neg (Bool.eq_false_iff.mp h)]
    rfl

/-- A name stays founded by an edit unless one more edit removes it. -/
theorem founder?_concat {edits : List Edit} {place : Nat} (hplace : place < edits.length)
    (e : Edit) :
    founder? (edits ++ [e]) place =
      (founder? edits place).filter fun name => !e.removes name := by
  rw [founder?, founder?, List.getElem?_append_left hplace,
    List.take_append_of_le_length (Nat.le_of_lt hplace),
    List.drop_append_of_le_length (Nat.succ_le_of_lt hplace)]
  rcases edits[place]? with - | ⟨name, value⟩ | name
  · rfl
  · simp only [List.any_append, List.any_cons, List.any_nil, Bool.or_false, Bool.or_eq_false_iff]
    by_cases hfounds : latest? (edits.take place) name = none ∧
        (edits.drop (place + 1)).any (Edit.removes name) = false
    · rw [if_pos hfounds, Option.filter_some]
      cases hremoves : e.removes name <;> simp [hfounds]
    · rw [if_neg hfounds, if_neg fun h => hfounds ⟨h.1, h.2.1⟩]
      rfl
  · rfl

theorem founder?_length (edits : List Edit) (e : Edit) :
    founder? (edits ++ [e]) edits.length =
      match e with
      | .insert name _ => if latest? edits name = none then some name else none
      | .remove _ => none := by
  rw [founder?, List.getElem?_concat_length, List.take_left, List.drop_eq_nil_of_le (by simp)]
  cases e with
  | insert name value => simp only [List.any_nil, and_true]
  | remove name => rfl

theorem founders_concat (edits : List Edit) (e : Edit) :
    founders (edits ++ [e]) =
      (founders edits).filter (fun name => !e.removes name) ++
        (match e with
          | .insert name _ => if latest? edits name = none then some name else none
          | .remove _ => none).toList := by
  have hbefore : (List.range edits.length).filterMap (founder? (edits ++ [e])) =
      (founders edits).filter fun name => !e.removes name := by
    rw [founders, List.filter_filterMap]
    exact List.filterMap_congr fun place hplace => founder?_concat (List.mem_range.mp hplace) e
  rw [founders, List.length_append, List.length_singleton, List.range_succ,
    List.filterMap_append, hbefore, List.filterMap_cons, List.filterMap_nil, founder?_length]
  congr 1

/-! ### The entries -/

/-- A name that is the same as one of two different names is not the other. -/
theorem eqFold_eq_false {a b c : Text} (hab : a.eqFold b = true) (hac : a.eqFold c = false) :
    c.eqFold b = false := by
  rw [Bool.eq_false_iff]
  intro hcb
  rw [Text.eqFold_comm] at hcb
  exact Bool.eq_false_iff.mp hac (Text.eqFold_trans hab hcb)

/-- Once a name has been found, there is no other entry for it. -/
theorem Distinct.eraseP_eq {entries : List (Text × Text)} (h : Distinct entries) (name : Text) :
    entries.eraseP (fun entry => entry.1.eqFold name) =
      entries.filter fun entry => !entry.1.eqFold name := by
  induction entries with
  | nil => rfl
  | cons entry rest ih =>
    obtain ⟨hentry, hrest⟩ := List.pairwise_cons.mp h
    rw [List.eraseP_cons, List.filter_cons, ih hrest]
    by_cases hname : entry.1.eqFold name = true
    · have hothers : ∀ other ∈ rest, (!other.1.eqFold name) = true := fun other hother =>
        Bool.not_eq_true' _ ▸ eqFold_eq_false hname (hentry other hother)
      simp only [hname, cond_true, Bool.not_true, Bool.false_eq_true, if_false]
      exact (List.filter_eq_self.mpr hothers).symm
    · rw [Bool.not_eq_true] at hname
      simp only [hname, cond_false, Bool.not_false, if_true]

/-- Putting a value keeps the names, and adds one that is not there. -/
theorem map_fst_put (name value : Text) (entries : List (Text × Text)) :
    (put name value entries).map (·.1) =
      entries.map (·.1) ++
        if (entries.find? fun entry => entry.1.eqFold name) = none then [name] else [] := by
  induction entries with
  | nil => rfl
  | cons entry rest ih =>
    by_cases hname : entry.1.eqFold name = true
    · simp [put, hname]
    · rw [Bool.not_eq_true] at hname
      rw [put_cons_of_ne hname, List.map_cons, ih, List.find?_cons, hname]
      rfl

/-- Putting a value leaves the entries with other names alone. -/
theorem filter_put (name value : Text) (entries : List (Text × Text)) :
    (put name value entries).filter (fun entry => !entry.1.eqFold name) =
      entries.filter fun entry => !entry.1.eqFold name := by
  induction entries with
  | nil => simp [put]
  | cons entry rest ih =>
    by_cases hname : entry.1.eqFold name = true
    · simp [put, hname]
    · rw [put_cons_of_ne (Bool.eq_false_iff.mpr hname), List.filter_cons, List.filter_cons, ih]

/-- **An edit of one name** leaves the entries with other names as they are, in their order. -/
theorem Distinct.filter_edit {h : Headers} (hh : Distinct h.entries) (e : Edit) :
    (h.edit e).entries.filter (fun entry => !entry.1.eqFold e.name) =
      h.entries.filter fun entry => !entry.1.eqFold e.name := by
  cases e with
  | insert name value => exact filter_put name value h.entries
  | remove name =>
    simp only [edit, pop_eq, remove, Edit.name, hh.eraseP_eq, List.filter_filter, Bool.and_self]

/-- A name that has been removed is not found any more, and any other is found as before. -/
theorem Distinct.get?_remove {h : Headers} (hh : Distinct h.entries) (name other : Text) :
    (h.remove name).get? other = if name.eqFold other then none else h.get? other := by
  rw [get?, get?, remove, hh.eraseP_eq, List.find?_filter]
  simp only [Bool.decide_and, Bool.decide_eq_true]
  have hboth : (fun entry : Text × Text => !entry.1.eqFold name && entry.1.eqFold other) =
      fun entry => !name.eqFold other && entry.1.eqFold other := by
    funext entry
    rcases hother : entry.1.eqFold other with - | -
    · rw [Bool.and_false, Bool.and_false]
    · -- an entry that has one of two names has the other if they are the same
      rcases hname : entry.1.eqFold name with - | -
      · rw [eqFold_eq_false hother hname]
      · rw [Text.eqFold_comm] at hname
        rw [Text.eqFold_trans hname hother]
  rw [hboth]
  rcases name.eqFold other with - | -
  · simp
  · simp

/-- An entry is found under its name. -/
theorem Distinct.get?_of_mem {h : Headers} (hh : Distinct h.entries) {entry : Text × Text}
    (hentry : entry ∈ h.entries) : h.get? entry.1 = some entry.2 := by
  obtain ⟨front, back, hsplit⟩ := List.append_of_mem hentry
  rw [Distinct, hsplit] at hh
  have hfront : ∀ other ∈ front, (!other.1.eqFold entry.1) = true := fun other hother =>
    Bool.not_eq_true' _ ▸ (List.pairwise_append.mp hh).2.2 other hother entry List.mem_cons_self
  have hfound : h.entries.find? (fun other => other.1.eqFold entry.1) = some entry :=
    List.find?_eq_some_iff_append.mpr ⟨Text.eqFold_self _, front, back, hsplit, hfront⟩
  rw [get?, hfound]
  rfl

/-- Headers hold what can be read off the edits they come from. -/
structure Reflects (edits : List Edit) (h : Headers) : Prop where
  distinct : Distinct h.entries
  names : h.entries.map (·.1) = founders edits
  values : ∀ name, h.get? name = latest? edits name

theorem Reflects.insert {edits : List Edit} {h : Headers} (hr : Reflects edits h)
    (name value : Text) : Reflects (edits ++ [.insert name value]) (h.insert name value) where
  distinct := hr.distinct.put name value
  names := by
    have hfound : h.entries.find? (fun entry => entry.1.eqFold name) = none ↔
        latest? edits name = none := by
      rw [← hr.values, get?, Option.map_eq_none_iff]
    rw [Headers.insert, map_fst_put, hr.names, founders_concat]
    simp only [Edit.removes, Bool.not_false, List.filter_true, hfound]
    split <;> rfl
  values other := by
    rw [latest?_concat, Edit.name, Edit.value?]
    split
    · next hsame => rw [← (h.insert name value).get?_congr hsame, get?_insert_self]
    · next hne => rw [h.get?_insert_of_ne (Bool.eq_false_iff.mpr hne), hr.values]

theorem Reflects.remove {edits : List Edit} {h : Headers} (hr : Reflects edits h)
    (name : Text) : Reflects (edits ++ [.remove name]) (h.remove name) where
  distinct := List.Pairwise.sublist List.eraseP_sublist hr.distinct
  names := by
    rw [Headers.remove, hr.distinct.eraseP_eq, founders_concat, ← hr.names, List.filter_map]
    simp [Edit.removes, Function.comp_def, Text.eqFold_comm]
  values other := by
    rw [hr.distinct.get?_remove, latest?_concat, hr.values]
    rfl

/-- **Headers reflect their edits.** -/
theorem reflects_edited (edits : List Edit) : Reflects edits (edited edits) := by
  induction edits using List.reverseRecOn with
  | nil => exact ⟨List.Pairwise.nil, rfl, fun _ => rfl⟩
  | append_singleton edits e ih =>
    rw [edited_concat]
    cases e with
    | insert name value => exact ih.insert name value
    | remove name =>
      rw [edit, pop_eq]
      exact ih.remove name

/-- **Headers are an ordered map.** After any edits the names differ in more than case; under each
name, in any spelling, the value last inserted is found, if the name has not been removed since;
the names stand in the order and in the spelling in which they were first inserted since they were
last removed; one more edit leaves every entry with another name as it is and where it is; and the
entries are written one line each, in their order, except for a Content-Length in any spelling. -/
theorem ordered_map (edits : List Edit) :
    let h := edited edits
    Distinct h.entries ∧
    (∀ name, h.get? name = latest? edits name ∧ h.contains name = (latest? edits name).isSome ∧
      (h.pop name).1 = latest? edits name) ∧
    h.entries.map (·.1) = founders edits ∧
    (∀ entry ∈ h.entries, latest? edits entry.1 = some entry.2) ∧
    (∀ e : Edit, (h.edit e).entries.filter (fun entry => !entry.1.eqFold e.name) =
      h.entries.filter fun entry => !entry.1.eqFold e.name) ∧
    h.text = (h.entries.filter fun entry => !entry.1.eqFold "Content-Length".toList).flatMap
      fun entry => entry.1 ++ ": ".toList ++ entry.2 ++ "\r\n".toList := by
  intro h
  have hr := reflects_edited edits
  refine ⟨hr.distinct, fun name => ⟨hr.values name, ?_, ?_⟩, hr.names, ?_, hr.distinct.filter_edit,
    rfl⟩
  · rw [contains, hr.values]
  · rw [pop_eq, hr.values]
  · intro entry hentry
    rw [← hr.values]
    exact hr.distinct.get?_of_mem hentry

/-- CSeq is inserted again in another spelling, Session is removed in between. -/
def respelled : List Edit :=
  [.insert "CSeq".toList "1".toList, .insert "Session".toList "a".toList,
    .insert "content-LENGTH".toList "7".toList, .insert "cseq".toList "2".toList,
    .remove "SESSION".toList, .insert "session".toList "b".toList]

/-- CSeq keeps its place and its first spelling; Session comes last, in its second one. -/
theorem ordered_map_respelled :
    (edited respelled).entries.map (·.1) =
      ["CSeq".toList, "content-LENGTH".toList, "session".toList] ∧
    ("CSeq".toList, "2".toList) ∈ (edited respelled).entries ∧
    latest? respelled "CSeq".toList = some "2".toList ∧
    (edited respelled).text = "CSeq: 2\r\nsession: b\r\n".toList := by
  obtain ⟨-, -, hnames, hvalues, -, htext⟩ := ordered_map respelled
  have hcseq : ("CSeq".toList, "2".toList) ∈ (edited respelled).entries := by decide
  refine ⟨hnames.trans (by decide), hcseq, hvalues _ hcseq, htext.trans (by decide)⟩

end Headers

end RtspServer
