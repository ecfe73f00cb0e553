import DccpTfrc.LossSpec
import DccpTfrc.Receiver
import Mathlib.Tactic.FinCases

namespace DccpTfrc
open LossModel

namespace RxHist

/-- The loss-detection invariant: at most two pending records, the tracked records in
circular order, and a hole right after the anchor while a record is pending. -/
structure LossInv (h : RxHist) : Prop where
  lossCount_le : h.lossCount ≤ 2
  sorted : h.tracked.Pairwise fun a b => before48 a.seqno b.seqno
  pending : h.lossCount ≠ 0 → lossFree (h.read 0) (h.read 1) = false

/-- An arrival after the anchor, new among the pending records and within 2^31 of every
tracked record. -/
structure Fits (h : RxHist) (p : RxHistEntry) : Prop where
  after : before48 (h.read 0).seqno p.seqno
  fresh : ∀ i : Fin 4, 1 ≤ i → i ≤ h.lossCount → (h.read i).seqno ≠ p.seqno
  near : ∀ e ∈ h.tracked, (sdist48 e.seqno p.seqno).natAbs < 2 ^ 31

theorem length_tracked (h : RxHist) : h.tracked.length = h.lossCount.val + 1 := by
  have := h.lossCount.isLt
  unfold tracked; split <;> simp_all; omega

theorem tracked_eq_cons (h : RxHist) : h.tracked = h.read 0 :: h.tracked.tail := by
  unfold tracked; split <;> rfl

theorem read_mem_tracked_tail (h : RxHist) (i : Fin 4) (h1 : 1 ≤ i) (hi : i ≤ h.lossCount) :
    h.read i ∈ h.tracked.tail := by
  unfold tracked
  split <;> fin_cases i <;> simp_all <;> omega

theorem tracked_pending (h : RxHist) (hc : h.lossCount ≠ 0) :
    ∃ t, h.tracked = h.read 0 :: h.read 1 :: t := by
  unfold tracked
  split
  · omega
  all_goals exact ⟨_, rfl⟩

theorem lossInv_iff (h : RxHist) : h.LossInv ↔ LossModel.Inv h.tracked := by
  constructor
  · intro hi
    refine ⟨by rw [length_tracked]; have := hi.lossCount_le; omega, hi.sorted,
      fun a b t ht => ?_⟩
    have hc : h.lossCount ≠ 0 := fun hc => by
      have := congrArg List.length ht
      rw [length_tracked, hc] at this; simp at this
    obtain ⟨t', ht'⟩ := h.tracked_pending hc
    rw [ht'] at ht
    simp only [List.cons.injEq] at ht
    rw [← ht.1, ← ht.2.1]; exact hi.pending hc
  · intro hi
    refine ⟨?_, hi.sorted, fun hc => ?_⟩
    · have := hi.length_le; rw [length_tracked] at this; exact Fin.le_def.2 (by omega)
    · obtain ⟨t, ht⟩ := h.tracked_pending hc
      exact hi.pending _ _ _ ht

/-- Distance of a record from the anchor. -/
def pos (h : RxHist) (e : RxHistEntry) : Nat := dccpDeltaSeqno (h.read 0).seqno e.seqno

section Positions

variable (h : RxHist)

theorem pos_read_zero : h.pos (h.read 0) = 0 := dccpDeltaSeqno_self _

theorem close_of_pos {a b : RxHistEntry} (hab : h.pos a < h.pos b)
    (hd : h.pos b < h.pos a + 2 ^ 31) : Close a b := by
  unfold Close; unfold pos at hab hd
  rw [dccpDeltaSeqno_via_le _ _ _ hab.le]; omega

theorem before48_of_pos {a b : RxHistEntry} (ha : h.pos a < 2 ^ 47) (hb : h.pos b ≤ 2 ^ 47) :
    before48 a.seqno b.seqno = decide (h.pos a < h.pos b) := by
  rw [Bool.eq_iff_iff, decide_eq_true_iff]; exact before48_via _ _ _ ha hb

theorem seqno_eq_of_pos {a b : RxHistEntry} (hab : h.pos a = h.pos b) : a.seqno = b.seqno := by
  have := mod_eq_of_dccpDeltaSeqno_eq _ _ _ hab
  exact Fin.ext (by omega)

end Positions

section Arrival

variable {h : RxHist} {p : RxHistEntry}

theorem Fits.not_duplicate (hp : h.Fits p) : h.tfrcRxHistDuplicate p.seqno = false := by
  rw [Bool.eq_false_iff, Ne, tfrcRxHistDuplicate_iff]
  rintro (he | ⟨i, h1, hi, he⟩)
  · have := (before48_iff _ _).1 hp.after
    rw [he, dccpDeltaSeqno_self] at this; omega
  · exact hp.fresh i h1 hi he

/-- Seen from the anchor the arrival is less than 2^31 ahead. -/
theorem Fits.pos_arrival (hp : h.Fits p) : 0 < h.pos p ∧ h.pos p < 2 ^ 31 := by
  have ha := (before48_iff _ _).1 hp.after
  have hn := hp.near _ (by rw [tracked_eq_cons]; exact List.mem_cons_self _ _)
  unfold sdist48 at hn; unfold pos
  split_ifs at hn <;> omega

/-- The arrival follows the anchor closely, so it is not before it. -/
theorem Fits.close_anchor (hp : h.Fits p) : Close (h.read 0) p := by
  obtain ⟨hp0, hp31⟩ := hp.pos_arrival
  exact h.close_of_pos (by rw [pos_read_zero]; exact hp0) (by rw [pos_read_zero]; omega)

theorem Fits.before48_anchor (hp : h.Fits p) : before48 p.seqno (h.read 0).seqno = false := by
  obtain ⟨hp0, hp31⟩ := hp.pos_arrival
  rw [h.before48_of_pos (show h.pos p < 2 ^ 47 by omega) (by rw [pos_read_zero]; omega),
    pos_read_zero]
  simp

/-- A pending record is ahead of the anchor, apart from the arrival and less than 2^31 from
it. -/
theorem Fits.pos_pending (hi : h.LossInv) (hp : h.Fits p) (i : Fin 4) (h1 : 1 ≤ i)
    (hc : i ≤ h.lossCount) :
    0 < h.pos (h.read i) ∧ h.pos (h.read i) ≤ 2 ^ 47 ∧ h.pos (h.read i) ≠ h.pos p ∧
      ((h.pos p : Int) - h.pos (h.read i)).natAbs < 2 ^ 31 := by
  obtain ⟨hp0, hp31⟩ := hp.pos_arrival
  have hs := hi.sorted
  rw [tracked_eq_cons, List.pairwise_cons] at hs
  have hb := (before48_iff _ _).1 (hs.1 _ (h.read_mem_tracked_tail i h1 hc))
  have hn := hp.near _
    (by rw [tracked_eq_cons]; exact List.mem_cons_of_mem _ (h.read_mem_tracked_tail i h1 hc))
  rw [sdist48_via (h.read 0).seqno _ _ hb.2 hp0 (by unfold pos at hp31; omega)] at hn
  refine ⟨hb.1, hb.2, fun he => hp.fresh i h1 hc (h.seqno_eq_of_pos he),
    by unfold pos at *; omega⟩

end Arrival

section Step

variable (saneRttMax : Nat) {h : RxHist} {p : RxHistEntry}

/-- The code's transition on `p`, sampling the RTT or not, computes the abstract step on the
tracked records, and `p` lands in circular order among them. -/
def StepRefines (b : Bool) (h : RxHist) (p : RxHistEntry) : Prop :=
  (rxPacketRecv saneRttMax b h p).1.tracked = (LossModel.step h.tracked p).1 ∧
    (rxPacketRecv saneRttMax b h p).2.map tracked = (LossModel.step h.tracked p).2 ∧
    (LossModel.insert p h.tracked).Pairwise fun a b => before48 a.seqno b.seqno

theorem stepRefines_zero (hp : h.Fits p) (hc : h.lossCount = 0) :
    StepRefines saneRttMax false h p := by
  have ht : h.tracked = [h.read 0] := by simp [tracked, hc]
  have hins : LossModel.insert p h.tracked = [h.read 0, p] := by
    simp [ht, LossModel.insert, hp.before48_anchor]
  rw [StepRefines, rxPacketRecv_false saneRttMax h p hp.not_duplicate, if_neg (not_not.2 hc),
    step_of_length_le _ _ (by simp [ht]), hins,
    addPacket_newLossIndicated_tracked h p hc hp.close_anchor]
  exact ⟨rfl, rfl, by simpa using hp.after⟩

theorem stepRefines_one (hi : h.LossInv) (hp : h.Fits p)
    (hn : ∀ e ∈ p :: h.tracked, e.ndp.val < 2 ^ 31) (hc : h.lossCount = 1) :
    StepRefines saneRttMax false h p := by
  obtain ⟨hp0, hp31⟩ := hp.pos_arrival
  obtain ⟨h10, h147, h1p, h1near⟩ := hp.pos_pending hi 1 (by decide) (by omega)
  have h0 := h.pos_read_zero
  have ht : h.tracked = [h.read 0, h.read 1] := by simp [tracked, hc]
  have hgap := hi.pending (by omega)
  have hs := hi.sorted
  simp only [ht, List.pairwise_pair] at hs
  have hb0 := hp.before48_anchor
  have hb1 := h.before48_of_pos (show h.pos p < 2 ^ 47 by omega) h147
  have h0p := hp.close_anchor
  rw [StepRefines, rxPacketRecv_false saneRttMax h p hp.not_duplicate, if_pos (by omega),
    tfrcRxHandleLoss_one h p hc, step_of_length_le _ _ (by simp [ht]), ht]
  rcases Nat.lt_or_gt_of_ne h1p with hlt | hlt
  · have h1p' : Close (h.read 1) p := h.close_of_pos hlt (by omega)
    have hins : LossModel.insert p [h.read 0, h.read 1] = [h.read 0, h.read 1, p] := by
      simp [LossModel.insert, hb0, hb1, hlt.not_lt]
    rw [hins, oneAfterLoss_after h p h1p', advance_of_not_lossFree _ hgap]
    exact ⟨rfl, rfl, by simp [hs, hp.after, h1p'.before48]⟩
  · have hp1 : Close p (h.read 1) := h.close_of_pos hlt (by omega)
    have hins : LossModel.insert p [h.read 0, h.read 1] = [h.read 0, p, h.read 1] := by
      simp [LossModel.insert, hb0, hb1, hlt]
    rw [hins, oneAfterLoss_before h p hc h0p hp1 (hn _ (by simp [ht]))]
    exact ⟨rfl, rfl, by simp [hs, hp.after, hp1.before48]⟩

theorem stepRefines_of {X : RxHist} {R : Option RxHist} {A : List RxHistEntry}
    {B : Option (List RxHistEntry)} (hcode : rxPacketRecv saneRttMax false h p = (X, R))
    (habs : LossModel.step h.tracked p = (A, B)) (h1 : X.tracked = A) (h2 : R.map tracked = B)
    (h3 : (LossModel.insert p h.tracked).Pairwise fun a b => before48 a.seqno b.seqno) :
    StepRefines saneRttMax false h p := by
  rw [StepRefines, hcode, habs]; exact ⟨h1, h2, h3⟩

/-- `__two_after_loss` reports a loss with tracked records `a, b, c, d`, which the abstract step
reaches as well: `__three_after_loss` then advances past `b, c, d` as the abstract step does. -/
theorem stepRefines_report (hc : h.lossCount = 2) (hd : h.tfrcRxHistDuplicate p.seqno = false)
    {a b c d : RxHistEntry} (hf : (h.twoAfterLoss p).2 = true)
    (htr : (h.twoAfterLoss p).1.tracked = [a, b, c, d])
    (hadv : advance (LossModel.insert p h.tracked) = [a, b, c, d]) (hbc : Close b c)
    (hcd : Close c d) (hnc : c.ndp.val < 2 ^ 31) (hnd : d.ndp.val < 2 ^ 31)
    (hsort : (LossModel.insert p h.tracked).Pairwise fun a b => before48 a.seqno b.seqno) :
    StepRefines saneRttMax false h p := by
  have hc3 := twoAfterLoss_lossCount_of_true h p hf
  have hloss : rxPacketRecv saneRttMax false h p =
      (threeAfterLoss (h.twoAfterLoss p).1, some (h.twoAfterLoss p).1) := by
    rw [rxPacketRecv_false saneRttMax h p hd, if_pos (by omega), tfrcRxHandleLoss_two h p hc,
      if_pos hf]
  generalize h.twoAfterLoss p = r at htr hc3 hloss
  refine stepRefines_of saneRttMax hloss ?_ (threeAfterLoss_of_tracked hc3 htr hbc hcd hnc hnd)
    (by rw [Option.map_some', htr]) hsort
  rw [step_of_advance _ _ hadv]
  rfl

theorem stepRefines_two (hi : h.LossInv) (hp : h.Fits p)
    (hn : ∀ e ∈ p :: h.tracked, e.ndp.val < 2 ^ 31) (hc : h.lossCount = 2) :
    StepRefines saneRttMax false h p := by
  obtain ⟨hp0, hp31⟩ := hp.pos_arrival
  obtain ⟨h10, h147, h1p, h1near⟩ := hp.pos_pending hi 1 (by decide) (by omega)
  obtain ⟨h20, h247, h2p, h2near⟩ := hp.pos_pending hi 2 (by decide) (by omega)
  have h0 := h.pos_read_zero
  have ht : h.tracked = [h.read 0, h.read 1, h.read 2] := by simp [tracked, hc]
  have hgap := hi.pending (by omega)
  have hs := hi.sorted
  simp only [ht, List.pairwise_cons, List.mem_cons, List.mem_singleton, forall_eq_or_imp,
    forall_eq, List.not_mem_nil, false_implies, implies_true, and_true, List.Pairwise.nil] at hs
  obtain ⟨⟨hs01, hs02⟩, hs12⟩ := hs
  have h12 : h.pos (h.read 1) < h.pos (h.read 2) := by
    rw [h.before48_of_pos (show h.pos (h.read 1) < 2 ^ 47 by omega) h247] at hs12
    simpa using hs12
  have hnp : p.ndp.val < 2 ^ 31 := hn _ (List.mem_cons_self _ _)
  have hn1 : (h.read 1).ndp.val < 2 ^ 31 := hn _ (by simp [ht])
  have hn2 : (h.read 2).ndp.val < 2 ^ 31 := hn _ (by simp [ht])
  have hb0 := hp.before48_anchor
  have hb1 := h.before48_of_pos (show h.pos p < 2 ^ 47 by omega) h147
  have hb2 := h.before48_of_pos (show h.pos p < 2 ^ 47 by omega) h247
  rcases Nat.lt_or_gt_of_ne h1p with h1lt | hlt1
  · have h1p' : Close (h.read 1) p := h.close_of_pos h1lt (by omega)
    rcases Nat.lt_or_gt_of_ne h2p with h2lt | hlt2
    · -- S2 before the arrival
      have h2p' : Close (h.read 2) p := h.close_of_pos h2lt (by omega)
      have h12' : Close (h.read 1) (h.read 2) := h.close_of_pos h12 (by omega)
      have hins : LossModel.insert p h.tracked = [h.read 0, h.read 1, h.read 2, p] := by
        simp [ht, LossModel.insert, hb0, hb1, hb2, h1lt.not_lt, h2lt.not_lt]
      obtain ⟨hf, htr⟩ := twoAfterLoss_after h p h2p'
      exact stepRefines_report saneRttMax hc hp.not_duplicate hf htr
        (by rw [hins, advance_of_not_lossFree _ hgap]) h12' h2p' hn2 hnp
        (by simp [hins, hs01, hs02, hs12, hp.after, h2p'.before48, h1p'.before48])
    · -- the arrival between S1 and S2
      have hp2 : Close p (h.read 2) := h.close_of_pos hlt2 (by omega)
      have hins : LossModel.insert p h.tracked = [h.read 0, h.read 1, p, h.read 2] := by
        simp [ht, LossModel.insert, hb0, hb1, hb2, h1lt.not_lt, hlt2]
      obtain ⟨hf, htr⟩ := twoAfterLoss_between h p h1p' hp2
      exact stepRefines_report saneRttMax hc hp.not_duplicate hf htr
        (by rw [hins, advance_of_not_lossFree _ hgap]) h1p' hp2 hnp hn2
        (by simp [hins, hs01, hs02, hs12, hp.after, h1p'.before48, hp2.before48])
  · -- the arrival between the anchor and S1
    have hp1 : Close p (h.read 1) := h.close_of_pos hlt1 (by omega)
    have hp2 : Close p (h.read 2) :=
      h.close_of_pos (show h.pos p < h.pos (h.read 2) by omega) (by omega)
    have h12' : Close (h.read 1) (h.read 2) := h.close_of_pos h12 (by omega)
    have hins : LossModel.insert p h.tracked = [h.read 0, p, h.read 1, h.read 2] := by
      simp [ht, LossModel.insert, hb0, hb1, hlt1]
    have hsort : (LossModel.insert p h.tracked).Pairwise fun a b => before48 a.seqno b.seqno := by
      simp [hins, hs01, hs02, hs12, hp.after, hp1.before48, hp2.before48]
    obtain ⟨hf, htr⟩ := twoAfterLoss_before h p hc hp.close_anchor hp1 hp2 h12' hn1 hn2
    cases hf0 : lossFree (h.read 0) p
    · -- a hole before the arrival: four records, a loss
      have hadv := advance_of_not_lossFree [h.read 1, h.read 2] hf0
      rw [hf0, Bool.not_false] at hf
      exact stepRefines_report saneRttMax hc hp.not_duplicate hf (htr.trans hadv)
        (by rw [hins, hadv]) hp1 h12' hn1 hn2 hsort
    · -- the arrival closes the hole: the anchor moves to it
      have hadv : advance [h.read 0, p, h.read 1, h.read 2] = advance [p, h.read 1, h.read 2] := by
        simp [advance, hf0]
      have hlen : (advance [p, h.read 1, h.read 2]).length ≤ 3 := (advance_suffix _).length_le
      rw [hf0, Bool.not_true] at hf
      have hloss : rxPacketRecv saneRttMax false h p = ((h.twoAfterLoss p).1, none) := by
        rw [rxPacketRecv_false saneRttMax h p hp.not_duplicate, if_pos (by omega),
          tfrcRxHandleLoss_two h p hc, if_neg (Bool.eq_false_iff.1 hf)]
      rw [hadv] at htr
      generalize h.twoAfterLoss p = r at htr hloss
      refine stepRefines_of saneRttMax hloss ?_ htr rfl hsort
      rw [step_of_advance _ _ (by rw [hins, hadv]), if_neg (by omega)]
      rfl

/-- On the loss-free path RTT sampling moves only `loss_start`, as `rtt_sample_prev`, and
`tfrc_rx_hist_add_packet` then leaves the arrival as the one tracked record: loss detection
sees the same step with sampling as without. -/
theorem rxPacketRecv_sampled (b : Bool) (h : RxHist) (p : RxHistEntry) :
    (rxPacketRecv saneRttMax b h p).1.tracked = (rxPacketRecv saneRttMax false h p).1.tracked ∧
      (rxPacketRecv saneRttMax b h p).2 = (rxPacketRecv saneRttMax false h p).2 := by
  have hs := h.tfrcRxHistNewLossIndicated_snd p
  unfold rxPacketRecv
  generalize h.tfrcRxHandleLoss p = l
  generalize h.tfrcRxHistNewLossIndicated p = r at hs
  split_ifs with hd hc
  · exact ⟨rfl, rfl⟩ -- dropped as a duplicate
  · exact ⟨rfl, rfl⟩ -- handed to tfrc_rx_handle_loss
  -- the loss-free path, where only the sampling side may call tfrc_rx_hist_sample_rtt
  simp only [false_and, if_false, and_true]
  split_ifs with hb
  · rw [tracked_addPacket_of_lossCount_zero p (by rw [tfrcRxHistSampleRtt_lossCount, ← hs, hb.2]),
      tracked_addPacket_of_lossCount_zero p (by rw [← hs, hb.2])]
  · rfl

theorem StepRefines.sampled (b : Bool) (hr : StepRefines saneRttMax false h p) :
    StepRefines saneRttMax b h p := by
  obtain ⟨h1, h2⟩ := rxPacketRecv_sampled saneRttMax b h p
  rw [StepRefines, h1, h2]
  exact hr

theorem stepRefines_of_lossInv (hi : h.LossInv) (hp : h.Fits p)
    (hn : ∀ e ∈ p :: h.tracked, e.ndp.val < 2 ^ 31) : StepRefines saneRttMax false h p := by
  have hc := hi.lossCount_le
  rcases (show h.lossCount = 0 ∨ h.lossCount = 1 ∨ h.lossCount = 2 by omega) with hc | hc | hc
  · exact stepRefines_zero saneRttMax hp hc
  · exact stepRefines_one saneRttMax hi hp hn hc
  · exact stepRefines_two saneRttMax hi hp hn hc

theorem lossInv_of_stepRefines {b : Bool} (hi : h.LossInv) (hr : StepRefines saneRttMax b h p) :
    (rxPacketRecv saneRttMax b h p).1.LossInv := by
  have hc := hi.lossCount_le
  rw [lossInv_iff, hr.1]
  exact LossModel.step_inv _ _ (by rw [length_tracked]; omega) hr.2.2

end Step

end RxHist

open RxHist

variable (saneRttMax : Nat)

/-- With the NDP counts of the arrival and of the tracked records below 2^31, the receive path
without RTT sampling, on an arrival after the anchor, new and within 2^31 of every tracked
record, leaves exactly the tracked records of the abstract step, hands `tfrc_lh_interval_add`
exactly the four records the abstract step reports, and keeps the invariant. -/
theorem rxPacketRecv_refines (h : RxHist) (p : RxHistEntry) (hi : h.LossInv) (hp : h.Fits p)
    (hn : ∀ e ∈ p :: h.tracked, e.ndp.val < 2 ^ 31) :
    (rxPacketRecv saneRttMax false h p).1.tracked = (LossModel.step h.tracked p).1 ∧
      (rxPacketRecv saneRttMax false h p).2.map tracked = (LossModel.step h.tracked p).2 ∧
      (rxPacketRecv saneRttMax false h p).1.LossInv := by
  have hr := stepRefines_of_lossInv saneRttMax hi hp hn
  exact ⟨hr.1, hr.2.1, lossInv_of_stepRefines saneRttMax hi hr⟩

theorem rxPacketRecv_refines_first :
    (⟨1, fun _ => ⟨0, 0, 0, 0, 0⟩, 0, 0⟩ : RxHist).LossInv ∧
      (⟨1, fun _ => ⟨0, 0, 0, 0, 0⟩, 0, 0⟩ : RxHist).Fits ⟨3, 0, 0, 0, 0⟩ ∧
      (∀ e ∈ (⟨3, 0, 0, 0, 0⟩ : RxHistEntry) :: (⟨1, fun _ => ⟨0, 0, 0, 0, 0⟩, 0, 0⟩ : RxHist).tracked,
        e.ndp.val < 2 ^ 31) ∧
      ((rxPacketRecv 0 false ⟨1, fun _ => ⟨0, 0, 0, 0, 0⟩, 0, 0⟩ ⟨3, 0, 0, 0, 0⟩).1.tracked =
          (LossModel.step (⟨1, fun _ => ⟨0, 0, 0, 0, 0⟩, 0, 0⟩ : RxHist).tracked ⟨3, 0, 0, 0, 0⟩).1 ∧
        (rxPacketRecv 0 false ⟨1, fun _ => ⟨0, 0, 0, 0, 0⟩, 0, 0⟩ ⟨3, 0, 0, 0, 0⟩).2.map tracked =
          (LossModel.step (⟨1, fun _ => ⟨0, 0, 0, 0, 0⟩, 0, 0⟩ : RxHist).tracked ⟨3, 0, 0, 0, 0⟩).2 ∧
        (rxPacketRecv 0 false ⟨1, fun _ => ⟨0, 0, 0, 0, 0⟩, 0, 0⟩ ⟨3, 0, 0, 0, 0⟩).1.LossInv) :=
  have hi : (⟨1, fun _ => ⟨0, 0, 0, 0, 0⟩, 0, 0⟩ : RxHist).LossInv :=
    ⟨by decide, by decide, by decide⟩
  have hp : (⟨1, fun _ => ⟨0, 0, 0, 0, 0⟩, 0, 0⟩ : RxHist).Fits ⟨3, 0, 0, 0, 0⟩ :=
    ⟨by decide, by decide, by decide⟩
  ⟨hi, hp, by decide, rxPacketRecv_refines 0 _ _ hi hp (by decide)⟩

end DccpTfrc
