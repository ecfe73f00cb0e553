import DccpTfrc.LossDetect
import DccpTfrc.LossModel

namespace DccpTfrc

namespace RxHist

/-- The tracked records entry(0), ..., entry(loss_count). -/
def tracked (h : RxHist) : List RxHistEntry :=
  match h.lossCount.val with
  | 0 => [h.read 0]
  | 1 => [h.read 0, h.read 1]
  | 2 => [h.read 0, h.read 1, h.read 2]
  | _ => [h.read 0, h.read 1, h.read 2, h.read 3]

theorem tracked_of_lossCount_three {h : RxHist} (hc : h.lossCount = 3) :
    h.tracked = [h.read 0, h.read 1, h.read 2, h.read 3] := by
  simp [tracked, hc]

end RxHist

namespace LossModel

/-- `b` follows `a` by less than 2^31, where the history's `int` distances are exact. -/
def Close (a b : RxHistEntry) : Prop :=
  0 < dccpDeltaSeqno a.seqno b.seqno ∧ dccpDeltaSeqno a.seqno b.seqno < 2 ^ 31

theorem Close.before48 {a b : RxHistEntry} (h : Close a b) : before48 a.seqno b.seqno :=
  (before48_iff _ _).2 ⟨h.1, by have := h.2; omega⟩

theorem Close.int32_pos {a b : RxHistEntry} (h : Close a b) :
    0 < int32 (dccpDeltaSeqno a.seqno b.seqno) := by
  rw [int32_of_lt h.2]; exact_mod_cast h.1

theorem Close.int32_neg {a b : RxHistEntry} (h : Close a b) :
    ¬0 < int32 (dccpDeltaSeqno b.seqno a.seqno) := by
  rw [int32_dccpDeltaSeqno_of_lt _ _ h.1 h.2]; omega

/-- `d21 = -d12` and `d31 = -d13` recover the forward distance. -/
theorem Close.int32_neg_neg {a b : RxHistEntry} (h : Close a b) :
    int32 (-int32 (dccpDeltaSeqno b.seqno a.seqno)) = dccpDeltaSeqno a.seqno b.seqno := by
  rw [int32_dccpDeltaSeqno_of_lt _ _ h.1 h.2, neg_neg, int32_of_lt h.2]

/-- `tfrc_rx_hist_new_loss_indicated`'s test `delta > 1 && ndp < delta` is "not loss-free". -/
theorem Close.newLoss_iff {a b : RxHistEntry} (h : Close a b) :
    (1 < int32 (dccpDeltaSeqno a.seqno b.seqno) ∧
        b.ndp.val < toU32 (int32 (dccpDeltaSeqno a.seqno b.seqno))) ↔ lossFree a b = false := by
  have := h.2
  rw [int32_of_lt h.2]
  simp only [lossFree, toU32, Bool.or_eq_false_iff, decide_eq_false_iff_not]; omega

/-- The test `d == 1 || n >= d` with an unsigned NDP count. -/
theorem Close.lossFree_u32 {a b : RxHistEntry} (h : Close a b) :
    (int32 (dccpDeltaSeqno a.seqno b.seqno) = 1 ∨
        toU32 (int32 (dccpDeltaSeqno a.seqno b.seqno)) ≤ b.ndp.val) ↔ lossFree a b = true := by
  have := h.2
  rw [int32_of_lt h.2]
  simp only [lossFree, toU32, Bool.or_eq_true, decide_eq_true_eq]; omega

/-- The test `d == 1 || n >= d` with the NDP count read into an `int`. -/
theorem lossFree_int_iff (a b : RxHistEntry) (hn : b.ndp.val < 2 ^ 31) :
    ((dccpDeltaSeqno a.seqno b.seqno : Int) = 1 ∨
        (dccpDeltaSeqno a.seqno b.seqno : Int) ≤ int32 b.ndp.val) ↔ lossFree a b = true := by
  rw [int32_of_lt hn]
  simp only [lossFree, Bool.or_eq_true, decide_eq_true_eq]; omega

end LossModel

namespace RxHist
open LossModel

/-! Each loss-detection function, on records close enough for its `int` arithmetic, computes
the abstract step on the tracked records. -/

theorem addPacket_newLossIndicated_tracked (h : RxHist) (p : RxHistEntry) (hc : h.lossCount = 0)
    (h0p : Close (h.read 0) p) :
    ((h.tfrcRxHistNewLossIndicated p).1.tfrcRxHistAddPacket p).tracked = advance [h.read 0, p] := by
  simp only [tfrcRxHistNewLossIndicated, tfrcRxHistLastRcv_eq, hc, recs_entry, h0p.newLoss_iff,
    advance, tfrcRxHistLossIndicated]
  cases lossFree (h.read 0) p <;> simp [tracked, tfrcRxHistAddPacket, hc]

/-- With no loss pending, `tfrc_rx_hist_add_packet` leaves the arrival as the one tracked
record. -/
theorem tracked_addPacket_of_lossCount_zero {h : RxHist} (p : RxHistEntry)
    (hc : h.lossCount = 0) : (h.tfrcRxHistAddPacket p).tracked = [p] := by
  simp [tracked, tfrcRxHistAddPacket, hc]

theorem oneAfterLoss_after (h : RxHist) (p : RxHistEntry) (h1p : Close (h.read 1) p) :
    (h.oneAfterLoss p).tracked = [h.read 0, h.read 1, p] := by
  simp only [oneAfterLoss, h1p.int32_pos, if_true]
  simp [tracked]

theorem oneAfterLoss_before (h : RxHist) (p : RxHistEntry) (hc : h.lossCount = 1)
    (h0p : Close (h.read 0) p) (hp1 : Close p (h.read 1)) (hn1 : (h.read 1).ndp.val < 2 ^ 31) :
    (h.oneAfterLoss p).tracked = advance [h.read 0, p, h.read 1] := by
  simp only [oneAfterLoss, hp1.int32_neg, if_false, tfrcRxHistLossPrev_eq, recs_entry,
    h0p.lossFree_u32, hp1.int32_neg_neg, lossFree_int_iff _ _ hn1, advance]
  cases lossFree (h.read 0) p <;> cases lossFree p (h.read 1) <;>
    simp [tracked, hc, Equiv.swap_apply_def, Function.update_apply]

theorem twoAfterLoss_after (h : RxHist) (p : RxHistEntry) (h2p : Close (h.read 2) p) :
    (h.twoAfterLoss p).2 = true ∧
      (h.twoAfterLoss p).1.tracked = [h.read 0, h.read 1, h.read 2, p] := by
  simp only [twoAfterLoss, h2p.int32_pos, if_true]
  simp [tracked]

theorem twoAfterLoss_between (h : RxHist) (p : RxHistEntry) (h1p : Close (h.read 1) p)
    (hp2 : Close p (h.read 2)) :
    (h.twoAfterLoss p).2 = true ∧
      (h.twoAfterLoss p).1.tracked = [h.read 0, h.read 1, p, h.read 2] := by
  simp only [twoAfterLoss, hp2.int32_neg, h1p.int32_pos, if_true, if_false]
  simp [tracked, Equiv.swap_apply_def, Function.update_apply]

theorem twoAfterLoss_before (h : RxHist) (p : RxHistEntry) (hc : h.lossCount = 2)
    (h0p : Close (h.read 0) p) (hp1 : Close p (h.read 1)) (hp2 : Close p (h.read 2))
    (h12 : Close (h.read 1) (h.read 2)) (hn1 : (h.read 1).ndp.val < 2 ^ 31)
    (hn2 : (h.read 2).ndp.val < 2 ^ 31) :
    (h.twoAfterLoss p).2 = !lossFree (h.read 0) p ∧
      (h.twoAfterLoss p).1.tracked = advance [h.read 0, p, h.read 1, h.read 2] := by
  simp only [twoAfterLoss, hp2.int32_neg, hp1.int32_neg, if_false, tfrcRxHistLossPrev_eq,
    recs_entry, h0p.lossFree_u32, hp1.int32_neg_neg, lossFree_int_iff _ _ hn1,
    int32_of_lt h12.2, lossFree_int_iff _ _ hn2, advance]
  cases lossFree (h.read 0) p <;> cases lossFree p (h.read 1) <;>
    cases lossFree (h.read 1) (h.read 2) <;>
    simp [tracked, hc, Equiv.swap_apply_def, Function.update_apply]

theorem threeAfterLoss_tracked (h : RxHist) (h12 : Close (h.read 1) (h.read 2))
    (h23 : Close (h.read 2) (h.read 3)) (hn2 : (h.read 2).ndp.val < 2 ^ 31)
    (hn3 : (h.read 3).ndp.val < 2 ^ 31) :
    (threeAfterLoss h).tracked = advance [h.read 1, h.read 2, h.read 3] := by
  simp only [threeAfterLoss, tfrcRxHistDeltaSeqno, int32_of_lt h12.2, int32_of_lt h23.2,
    lossFree_int_iff _ _ hn2, lossFree_int_iff _ _ hn3, advance]
  cases lossFree (h.read 1) (h.read 2) <;> cases lossFree (h.read 2) (h.read 3) <;>
    simp [tracked]

/-- `__three_after_loss` on four tracked records `a, b, c, d`. -/
theorem threeAfterLoss_of_tracked {h : RxHist} (hc : h.lossCount = 3) {a b c d : RxHistEntry}
    (ht : h.tracked = [a, b, c, d]) (hbc : Close b c) (hcd : Close c d)
    (hnc : c.ndp.val < 2 ^ 31) (hnd : d.ndp.val < 2 ^ 31) :
    (threeAfterLoss h).tracked = advance [b, c, d] := by
  rw [tracked_of_lossCount_three hc] at ht
  simp only [List.cons.injEq] at ht
  obtain ⟨-, hb, hc, hd, -⟩ := ht
  subst hb hc hd
  exact threeAfterLoss_tracked h hbc hcd hnc hnd

end RxHist
end DccpTfrc
