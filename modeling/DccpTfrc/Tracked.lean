import DccpTfrc.Refinement
import DccpTfrc.Safety

/-! The loss-detection code read on its tracked records entry(0), ..., entry(loss_count): each
function of `packet_history.c`, with its own tests on the same values, as a function of lists.
Unlike `LossModel`, these lists need not be in circular order: a late packet that passes
`tfrc_rx_hist_duplicate` is put wherever the tests of the branch it takes put it. -/

namespace DccpTfrc
namespace Tracked

def duplicate : List RxHistEntry → Fin (2 ^ 48) → Bool
  | [], _ => false
  | a :: t, seq => dccpDeltaSeqno a.seqno seq ≤ 0 || t.any fun e => e.seqno == seq

def newLossIndicated (s0 p : RxHistEntry) : List RxHistEntry :=
  let delta := int32 (dccpDeltaSeqno s0.seqno p.seqno)
  if 1 < delta ∧ p.ndp.val < toU32 delta then [s0, p] else [p]

def oneAfterLoss (s0 s1 s2 : RxHistEntry) : List RxHistEntry :=
  let n1 := int32 s1.ndp
  let n2 := s2.ndp.val
  let d12 := int32 (dccpDeltaSeqno s1.seqno s2.seqno)
  if 0 < d12 then [s0, s1, s2]
  else
    let d2 := int32 (dccpDeltaSeqno s0.seqno s2.seqno)
    if d2 = 1 ∨ toU32 d2 ≤ n2 then
      let d21 := int32 (-d12)
      if d21 = 1 ∨ d21 ≤ n1 then [s1] else [s2, s1]
    else [s0, s2, s1]

/-- `__two_after_loss`: the records it leaves tracked, all four when it reports a new loss. -/
def twoAfterLoss (s0 s1 s2 s3 : RxHistEntry) : List RxHistEntry × Bool :=
  let n1 := int32 s1.ndp
  let n3 := s3.ndp.val
  let d23 := int32 (dccpDeltaSeqno s2.seqno s3.seqno)
  if 0 < d23 then ([s0, s1, s2, s3], true)
  else
    let d13 := int32 (dccpDeltaSeqno s1.seqno s3.seqno)
    if 0 < d13 then ([s0, s1, s3, s2], true)
    else
      let d31 := int32 (-d13)
      let d3 := int32 (dccpDeltaSeqno s0.seqno s3.seqno)
      if d3 = 1 ∨ toU32 d3 ≤ n3 then
        if d31 = 1 ∨ d31 ≤ n1 then
          let d2 := int32 (dccpDeltaSeqno s1.seqno s2.seqno)
          let n2 := int32 s2.ndp
          if d2 = 1 ∨ d2 ≤ n2 then ([s2], false) else ([s1, s2], false)
        else ([s3, s1, s2], false)
      else ([s0, s3, s1, s2], true)

def threeAfterLoss : List RxHistEntry → List RxHistEntry
  | [_, s1, s2, s3] =>
    let d2 := int32 (dccpDeltaSeqno s1.seqno s2.seqno)
    let d3 := int32 (dccpDeltaSeqno s2.seqno s3.seqno)
    let n2 := int32 s2.ndp
    let n3 := int32 s3.ndp
    if d2 = 1 ∨ d2 ≤ n2 then
      if d3 = 1 ∨ d3 ≤ n3 then [s3] else [s2, s3]
    else [s1, s2, s3]
  | l => l

/-- `tfrc_rx_handle_loss`; the second component is the records handed to
`tfrc_lh_interval_add`. -/
def handleLoss (l : List RxHistEntry) (p : RxHistEntry) :
    List RxHistEntry × Option (List RxHistEntry) :=
  match l with
  | [s0, s1] => (oneAfterLoss s0 s1 p, none)
  | [s0, s1, s2] =>
    let r := twoAfterLoss s0 s1 s2 p
    if r.2 then (threeAfterLoss r.1, some r.1) else (r.1, none)
  | l => (l, none)

/-- The receive path without RTT sampling. -/
def rxPacketRecv (l : List RxHistEntry) (p : RxHistEntry) :
    List RxHistEntry × Option (List RxHistEntry) :=
  if duplicate l p.seqno then (l, none)
  else
    match l with
    | [s0] => (newLossIndicated s0 p, none)
    | l => handleLoss l p

/-- The tracked records after a stream of arrivals, and the records reported on the way,
oldest first. -/
def run (l : List RxHistEntry) : List RxHistEntry → List RxHistEntry × List (List RxHistEntry)
  | [] => (l, [])
  | p :: ps =>
    let r := rxPacketRecv l p
    ((run r.1 ps).1, r.2.toList ++ (run r.1 ps).2)

end Tracked

namespace RxHist

theorem tfrcRxHistDuplicate_tracked (h : RxHist) (hc : h.lossCount ≤ 2) (seq : Fin (2 ^ 48)) :
    h.tfrcRxHistDuplicate seq = Tracked.duplicate h.tracked seq := by
  have : h.lossCount = 0 ∨ h.lossCount = 1 ∨ h.lossCount = 2 := by omega
  rcases this with hc | hc | hc <;>
    simp [tfrcRxHistDuplicate, tracked, hc, Tracked.duplicate, List.range'] <;> rfl

theorem tracked_newLossIndicated (h : RxHist) (p : RxHistEntry) (hc : h.lossCount = 0) :
    ((h.tfrcRxHistNewLossIndicated p).1.tfrcRxHistAddPacket p).tracked =
      Tracked.newLossIndicated (h.read 0) p := by
  simp only [tfrcRxHistNewLossIndicated, Tracked.newLossIndicated, tfrcRxHistLastRcv_eq, hc,
    recs_entry, tfrcRxHistLossIndicated]
  split_ifs <;> simp [tracked, tfrcRxHistAddPacket, hc]

theorem tracked_oneAfterLoss (h : RxHist) (p : RxHistEntry) (hc : h.lossCount = 1) :
    (h.oneAfterLoss p).tracked = Tracked.oneAfterLoss (h.read 0) (h.read 1) p := by
  simp only [oneAfterLoss, Tracked.oneAfterLoss, tfrcRxHistLossPrev_eq, recs_entry]
  split_ifs <;> simp [tracked, hc, Equiv.swap_apply_def, Function.update_apply]

theorem tracked_twoAfterLoss (h : RxHist) (p : RxHistEntry) (hc : h.lossCount = 2) :
    ((h.twoAfterLoss p).1.tracked, (h.twoAfterLoss p).2) =
      Tracked.twoAfterLoss (h.read 0) (h.read 1) (h.read 2) p := by
  simp only [twoAfterLoss, Tracked.twoAfterLoss, tfrcRxHistLossPrev_eq, recs_entry]
  split_ifs <;> simp [tracked, hc, Equiv.swap_apply_def, Function.update_apply]

theorem tracked_threeAfterLoss (h : RxHist) (hc : h.lossCount = 3) :
    (threeAfterLoss h).tracked = Tracked.threeAfterLoss h.tracked := by
  simp only [threeAfterLoss, tracked_of_lossCount_three hc, Tracked.threeAfterLoss,
    tfrcRxHistDeltaSeqno]
  split_ifs <;> simp [tracked]

theorem tracked_tfrcRxHandleLoss (h : RxHist) (p : RxHistEntry) (h0 : h.lossCount ≠ 0)
    (hc : h.lossCount ≤ 2) :
    ((h.tfrcRxHandleLoss p).1.tracked, (h.tfrcRxHandleLoss p).2.map tracked) =
      Tracked.handleLoss h.tracked p := by
  rcases (show h.lossCount = 1 ∨ h.lossCount = 2 by omega) with hc | hc
  · rw [tfrcRxHandleLoss_one h p hc, show h.tracked = [h.read 0, h.read 1] by simp [tracked, hc],
      tracked_oneAfterLoss h p hc]
    rfl
  · have e := tracked_twoAfterLoss h p hc
    have h3 := twoAfterLoss_lossCount_of_true h p
    rw [tfrcRxHandleLoss_two h p hc, show h.tracked = [h.read 0, h.read 1, h.read 2] by
      simp [tracked, hc], Tracked.handleLoss, ← e]
    generalize h.twoAfterLoss p = r at h3
    obtain ⟨r, _ | _⟩ := r
    · rfl
    · simp only [if_true, Option.map_some', tracked_threeAfterLoss r (h3 rfl)]

end RxHist

variable (saneRttMax : Nat)
open RxHist

/-- Without RTT sampling, the receive path acts on the tracked records as the list
transcription does, and reports the records the transcription reports. -/
theorem rxPacketRecv_tracked (h : RxHist) (p : RxHistEntry) (hc : h.lossCount ≤ 2) :
    ((rxPacketRecv saneRttMax false h p).1.tracked,
        (rxPacketRecv saneRttMax false h p).2.map tracked) =
      Tracked.rxPacketRecv h.tracked p := by
  unfold Tracked.rxPacketRecv
  rw [← tfrcRxHistDuplicate_tracked h hc]
  by_cases hd : h.tfrcRxHistDuplicate p.seqno = true
  · rw [if_pos hd, rxPacketRecv, if_pos hd]; rfl
  rw [if_neg hd, rxPacketRecv_false saneRttMax h p (by simpa using hd)]
  by_cases h0 : h.lossCount = 0
  · rw [if_neg (not_not.2 h0), tracked_newLossIndicated h p h0,
      show h.tracked = [h.read 0] by simp [tracked, h0]]
    rfl
  · obtain ⟨t, ht⟩ := tracked_pending h h0
    rw [if_pos h0, tracked_tfrcRxHandleLoss h p h0 hc, ht]

theorem rxRunLoss_tracked (h : RxHist) (ps : List RxHistEntry) (hc : h.lossCount ≤ 2) :
    ((rxRunLoss saneRttMax h (ps.map (false, ·))).1.tracked,
        (rxRunLoss saneRttMax h (ps.map (false, ·))).2.map tracked) =
      Tracked.run h.tracked ps := by
  induction ps generalizing h with
  | nil => rfl
  | cons p ps ih =>
    have e := rxPacketRecv_tracked saneRttMax h p hc
    have ih' := ih _ (rxPacketRecv_lossCount saneRttMax false h p hc)
    simp only [List.map_cons, rxRunLoss, Tracked.run, ← e]
    generalize rxPacketRecv saneRttMax false h p = r at ih'
    rw [← ih']
    cases r.2 <;> rfl

end DccpTfrc
