/-
RtspServer/Proofs/Naming.lean

Ids of sessions.  An id is the name of a random word, and different words have
different names (`Entropy.sessionName_injective`).  A word is drawn once, for
one entry, so the ids of entries differ as far as the words do (`Hub.Named`).
-/
import Mathlib
import RtspServer.Proofs.Change

namespace RtspServer

/-! ### Names of sessions -/

/-- Different digits are written differently. -/
theorem toUpper_digitChar_inj {a b : Nat} (ha : a < 16) (hb : b < 16)
    (h : (Nat.digitChar a).toUpper = (Nat.digitChar b).toUpper) : a = b := by
  -- there are only sixteen of them
  have hall : ∀ i : Fin 16, ∀ j : Fin 16,
      (Nat.digitChar i).toUpper = (Nat.digitChar j).toUpper → i = j := by decide
  exact Fin.mk.inj (hall ⟨a, ha⟩ ⟨b, hb⟩ h)

/-- A number can be told from its digits. -/
theorem Text.hexUpper_inj {width n m : Nat} (hn : n < 16 ^ width) (hm : m < 16 ^ width)
    (h : Text.hexUpper width n = Text.hexUpper width m) : n = m := by
  induction width generalizing n m with
  | zero => omega
  | succ width ih =>
    rw [Text.hexUpper_succ, Text.hexUpper_succ] at h
    -- the last digit is the remainder, and the digits before it are those of the quotient
    obtain ⟨hinit, hlast⟩ := List.append_inj' h rfl
    have hq : n / 16 = m / 16 := ih (by omega) (by omega) hinit
    have hr : n % 16 = m % 16 :=
      toUpper_digitChar_inj (Nat.mod_lt _ (by decide)) (Nat.mod_lt _ (by decide))
        (List.cons.inj hlast).1
    omega

/-- Sessions with different numbers have different names. -/
theorem Entropy.sessionName_injective : Function.Injective Entropy.sessionName := by
  intro v w h
  have hv : v.toNat < 16 ^ 16 := v.toNat_lt
  have hw : w.toNat < 16 ^ 16 := w.toNat_lt
  exact UInt64.toNat_inj.mp (Text.hexUpper_inj hv hw h)

namespace Hub

/-! ### Distinct ids -/

/-- Has the word at a place been drawn for an id since `start`? -/
def Drawn (start : Entropy) (h : Hub) (k : Nat) : Prop :=
  start.used64 ≤ k ∧ k < h.entropy.used64

/-- The words that have been drawn for ids since `start` are all different. -/
def DistinctDraws (start : Entropy) (h : Hub) : Prop :=
  ∀ i j, Drawn start h i → Drawn start h j → start.words64 i = start.words64 j → i = j

/-- Every id is made of a word that has been drawn, and no word is drawn twice. -/
structure Named (start : Entropy) (h : Hub) : Prop where
  words : h.entropy.words64 = start.words64
  used : start.used64 ≤ h.entropy.used64
  made : ∀ s ∈ h.sessions, ∀ id, s.id = some id →
    ∃ k, Drawn start h k ∧ id = Entropy.sessionName (start.words64 k)
  apart : DistinctDraws start h → ∀ s ∈ h.sessions, ∀ t ∈ h.sessions,
    ∀ id, s.id = some id → t.id = some id → s.conn = t.conn

/-- If nothing is drawn and every id was there before, ids stay apart. -/
theorem Named.of_origin {start : Entropy} {h h' : Hub} (hh : Named start h)
    (hwords : h'.entropy.words64 = h.entropy.words64)
    (hused : h'.entropy.used64 = h.entropy.used64)
    (horigin : ∀ t ∈ h'.sessions, t.id = none ∨
      ∃ s ∈ h.sessions, t.conn = s.conn ∧ t.id = s.id) : Named start h' := by
  have hdrawn : ∀ k, Drawn start h k → Drawn start h' k := fun k hk => ⟨hk.1, hused ▸ hk.2⟩
  have old : ∀ t ∈ h'.sessions, ∀ id, t.id = some id →
      ∃ s ∈ h.sessions, t.conn = s.conn ∧ s.id = some id := by
    intro t ht id hid
    rcases horigin t ht with hnone | ⟨s, hs, hconn, heq⟩
    · rw [hnone] at hid
      cases hid
    · exact ⟨s, hs, hconn, heq ▸ hid⟩
  refine ⟨hwords.trans hh.words, hused ▸ hh.used, ?_, ?_⟩
  · intro t ht id hid
    obtain ⟨s, hs, -, hsid⟩ := old t ht id hid
    obtain ⟨k, hk, hname⟩ := hh.made s hs id hsid
    exact ⟨k, hdrawn k hk, hname⟩
  · intro hinj t ht u hu id htid huid
    obtain ⟨s, hs, hts, hsid⟩ := old t ht id htid
    obtain ⟨v, hv, huv, hvid⟩ := old u hu id huid
    rw [hts, huv]
    exact hh.apart (fun i j hi hj => hinj i j (hdrawn i hi) (hdrawn j hj)) s hs v hv id hsid hvid

/-- A word drawn for the entry of one connection keeps ids apart. -/
theorem Named.of_draw {start : Entropy} {h h' : Hub} (hh : Named start h) (conn : ConnId)
    (hentropy : h'.entropy = h.entropy.drawSession.2)
    (horigin : ∀ t ∈ h'.sessions,
      (t.conn = conn ∧ t.id = some h.entropy.drawSession.1) ∨
        ∃ s ∈ h.sessions, t.conn = s.conn ∧ t.id = s.id) : Named start h' := by
  have hused : h'.entropy.used64 = h.entropy.used64 + 1 := by
    rw [hentropy, Entropy.used64_drawSession]
  have hdrawn : ∀ k, Drawn start h k → Drawn start h' k := fun k hk => ⟨hk.1, by
    rw [hused]
    exact Nat.lt_succ_of_lt hk.2⟩
  have hlast : Drawn start h' h.entropy.used64 := ⟨hh.used, by
    rw [hused]
    exact Nat.lt_succ_self _⟩
  have hnew : h.entropy.drawSession.1 = Entropy.sessionName (start.words64 h.entropy.used64) := by
    rw [Entropy.fst_drawSession, hh.words]
  -- an id that was there is made of an earlier word than the new one
  have hold : DistinctDraws start h' → ∀ s ∈ h.sessions, s.id ≠ some h.entropy.drawSession.1 := by
    intro hinj s hs hid
    obtain ⟨k, hk, hname⟩ := hh.made s hs _ hid
    have hword := Entropy.sessionName_injective (hnew.symm.trans hname)
    have hk' := hinj _ _ hlast (hdrawn k hk) hword
    exact Nat.lt_irrefl _ (hk' ▸ hk.2)
  refine ⟨by rw [hentropy, Entropy.words64_drawSession, hh.words], ?_, ?_, ?_⟩
  · rw [hused]
    exact Nat.le_succ_of_le hh.used
  · intro t ht id hid
    rcases horigin t ht with ⟨-, htid⟩ | ⟨s, hs, -, heq⟩
    · rw [htid] at hid
      exact ⟨_, hlast, Option.some.inj hid ▸ hnew⟩
    · obtain ⟨k, hk, hname⟩ := hh.made s hs id (heq ▸ hid)
      exact ⟨k, hdrawn k hk, hname⟩
  · intro hinj t ht u hu id htid huid
    -- at most one of the two ids is new
    rcases horigin t ht with ⟨htc, ht⟩ | ⟨s, hs, hts, heqs⟩ <;>
      rcases horigin u hu with ⟨huc, hu⟩ | ⟨v, hv, huv, heqv⟩
    · rw [htc, huc]
    · exact absurd (heqv.symm.trans (huid.trans (htid.symm.trans ht))) (hold hinj v hv)
    · exact absurd (heqs.symm.trans (htid.trans (huid.symm.trans hu))) (hold hinj s hs)
    · rw [hts, huv]
      exact hh.apart (fun i j hi hj => hinj i j (hdrawn i hi) (hdrawn j hj)) s hs v hv id
        (heqs.symm.trans htid) (heqv.symm.trans huid)

theorem Named.change {start : Entropy} {h h' : Hub} (hn : h.Numbered) (hh : Named start h)
    (hc : Change Session.Revised h h') : Named start h' := by
  cases hc with
  | register peer outlet now =>
    refine hh.of_origin rfl rfl fun t ht => ?_
    rcases List.mem_append.mp ht with ht | ht
    · exact Or.inr ⟨t, ht, rfl, rfl⟩
    · exact Or.inl (by rw [List.mem_singleton.mp ht])
  | evict p keepOutlet =>
    exact hh.of_origin rfl rfl fun t ht => Or.inr ⟨t, (List.mem_filter.mp ht).1, rfl, rfl⟩
  | setUp conn transport =>
    rcases h.setUp_cases conn transport with ⟨_, _, e⟩ | ⟨_, _, _, _, e⟩ | ⟨m, s, _, hs, e⟩ <;>
      rw [e]
    · exact hh
    · exact hh.of_origin rfl rfl fun t ht => Or.inr ⟨t, ht, rfl, rfl⟩
    · obtain ⟨hmem, hconn⟩ := mem_of_entry_eq hs
      rcases hid : s.id with - | id
      · -- the first SETUP draws an id
        refine hh.of_draw conn (by simp [idFor, hid]) fun t ht => ?_
        obtain ⟨u, hu, rfl⟩ := List.mem_map.mp ht
        split
        · next hc => exact Or.inl ⟨hc, by simp [idFor, hid, bindTransport]⟩
        · exact Or.inr ⟨u, hu, rfl, rfl⟩
      · -- a later one keeps it
        refine hh.of_origin (by simp [idFor, hid]) (by simp [idFor, hid]) fun t ht => ?_
        obtain ⟨u, hu, rfl⟩ := List.mem_map.mp ht
        refine Or.inr ⟨u, hu, ?_⟩
        split
        · next hc =>
          rw [hn.eq_of_conn hu hmem (hc.trans hconn.symm)]
          exact ⟨rfl, by simp [idFor, hid, bindTransport]⟩
        · exact ⟨rfl, rfl⟩
  | revise hf =>
    refine hh.of_origin rfl rfl fun t ht => ?_
    obtain ⟨s, hs, rfl⟩ := List.mem_map.mp ht
    exact Or.inr ⟨s, hs, (hf s hs).conn, (hf s hs).id⟩
  | media hm => exact hh.of_origin rfl rfl fun t ht => Or.inr ⟨t, ht, rfl, rfl⟩

end Hub

end RtspServer
