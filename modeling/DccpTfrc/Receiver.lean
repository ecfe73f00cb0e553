import DccpTfrc.LossDetect
import DccpTfrc.RttSample

namespace DccpTfrc
open RxHist

variable (saneRttMax : Nat)

/-- Modelled from the spec: the receive path of a TFRC-based CCID, which is not in this tree.
A packet `tfrc_rx_hist_duplicate` flags is dropped; with a loss pending it goes to
`tfrc_rx_handle_loss`; otherwise `tfrc_rx_hist_new_loss_indicated` runs, then, on the
loss-free path and if the caller samples (`sampleRtt`), `tfrc_rx_hist_sample_rtt`, and last
`tfrc_rx_hist_add_packet`. The second component is the history handed to
`tfrc_lh_interval_add`, if it was called. -/
def rxPacketRecv (sampleRtt : Bool) (h : RxHist) (p : RxHistEntry) : RxHist × Option RxHist :=
  if h.tfrcRxHistDuplicate p.seqno then (h, none)
  else if h.lossCount ≠ 0 then h.tfrcRxHandleLoss p
  else
    let r := h.tfrcRxHistNewLossIndicated p
    let h := if sampleRtt ∧ r.2 = 0 then (tfrcRxHistSampleRtt saneRttMax r.1 p).hist else r.1
    (h.tfrcRxHistAddPacket p, none)

/-- The history a packet leaves, one branch per path of the receive path. -/
theorem rxPacketRecv_fst (b : Bool) (h : RxHist) (p : RxHistEntry) :
    (rxPacketRecv saneRttMax b h p).1 =
      if h.tfrcRxHistDuplicate p.seqno then h
      else if h.lossCount ≠ 0 then (h.tfrcRxHandleLoss p).1
      else (if b ∧ (h.tfrcRxHistNewLossIndicated p).2 = 0 then
          (tfrcRxHistSampleRtt saneRttMax (h.tfrcRxHistNewLossIndicated p).1 p).hist
        else (h.tfrcRxHistNewLossIndicated p).1).tfrcRxHistAddPacket p := by
  unfold rxPacketRecv
  by_cases hd : h.tfrcRxHistDuplicate p.seqno
  · rw [if_pos hd, if_pos hd]
  · rw [if_neg hd, if_neg hd]
    by_cases hc : h.lossCount ≠ 0
    · rw [if_pos hc, if_pos hc]
    · rw [if_neg hc, if_neg hc]

/-- Without sampling, a packet that is not flagged as a duplicate goes to
`tfrc_rx_handle_loss` or to `tfrc_rx_hist_new_loss_indicated` and `tfrc_rx_hist_add_packet`. -/
theorem rxPacketRecv_false (h : RxHist) (p : RxHistEntry)
    (hd : h.tfrcRxHistDuplicate p.seqno = false) :
    rxPacketRecv saneRttMax false h p =
      if h.lossCount ≠ 0 then h.tfrcRxHandleLoss p
      else ((h.tfrcRxHistNewLossIndicated p).1.tfrcRxHistAddPacket p, none) := by
  unfold rxPacketRecv
  rw [hd]
  generalize h.tfrcRxHandleLoss p = r
  generalize h.tfrcRxHistNewLossIndicated p = n
  generalize tfrcRxHistSampleRtt saneRttMax = s
  split_ifs <;> simp_all

/-- The history after the packets `ps`, each with whether the caller samples the RTT on it. -/
def rxRun : RxHist → List (Bool × RxHistEntry) → RxHist
  | h, [] => h
  | h, (b, p) :: ps => rxRun (rxPacketRecv saneRttMax b h p).1 ps

/-- `rxRun` with the histories handed to `tfrc_lh_interval_add` on the way, oldest first. -/
def rxRunLoss (h : RxHist) : List (Bool × RxHistEntry) → RxHist × List RxHist
  | [] => (h, [])
  | (b, p) :: ps =>
    let r := rxPacketRecv saneRttMax b h p
    ((rxRunLoss r.1 ps).1, r.2.toList ++ (rxRunLoss r.1 ps).2)

theorem rxRunLoss_fst (h : RxHist) (ps : List (Bool × RxHistEntry)) :
    (rxRunLoss saneRttMax h ps).1 = rxRun saneRttMax h ps := by
  induction ps generalizing h with
  | nil => rfl
  | cons bp ps ih => exact ih _

theorem rxPacketRecv_saneRttMax (b : Bool) (h : RxHist) (p : RxHistEntry) :
    rxPacketRecv saneRttMax b h p = rxPacketRecv 0 b h p := by
  simp only [rxPacketRecv, (tfrcRxHistSampleRtt_hist_bug saneRttMax _ p).1]

theorem rxRun_saneRttMax (h : RxHist) (ps : List (Bool × RxHistEntry)) :
    rxRun saneRttMax h ps = rxRun 0 h ps := by
  induction ps generalizing h with
  | nil => rfl
  | cons bp ps ih => simp only [rxRun, ih, rxPacketRecv_saneRttMax saneRttMax bp.1]

/-- A late packet passes the duplicate test and becomes the anchor: entry(0) moves back
from 100 to 99. -/
theorem rxPacketRecv_anchor_back :
    tfrcRxHistAlloc (fun _ => some ⟨0, 0, 0, 0, 0⟩) = some ⟨1, fun _ => ⟨0, 0, 0, 0, 0⟩, 0, 0⟩ ∧
      let h := (⟨1, fun _ => ⟨0, 0, 0, 0, 0⟩, 0, 0⟩ : RxHist).tfrcRxHistAddPacket ⟨100, 0, 0, 0, 0⟩
      (h.read 0).seqno = 100 ∧ ((rxPacketRecv saneRttMax false h ⟨99, 0, 0, 0, 0⟩).1.read 0).seqno = 99 ∧
        before48 99 100 :=
  ⟨rfl, rfl, rfl, rfl⟩

/-- Two holes filled in turn leave `loss_start`, alias `rtt_sample_prev`, at 2 with no
suboptimal CCVal match ever taken; the next loss-free packet then reads ring[2] as a stored
candidate with the same CCVal as ring[0] and reaches `DCCP_BUG`. -/
theorem rxPacketRecv_rtt_candidate_bug :
    tfrcRxHistAlloc (fun _ => some ⟨0, 0, 0, 0, 0⟩) = some ⟨1, fun _ => ⟨0, 0, 0, 0, 0⟩, 0, 0⟩ ∧
      let h := rxRun saneRttMax
        ((⟨1, fun _ => ⟨0, 0, 0, 0, 0⟩, 0, 0⟩ : RxHist).tfrcRxHistAddPacket ⟨0, 0, 0, 0, 0⟩)
        [(true, ⟨2, 0, 0, 0, 0⟩), (true, ⟨1, 0, 0, 0, 0⟩), (true, ⟨4, 0, 0, 0, 0⟩),
          (true, ⟨3, 0, 0, 0, 0⟩)]
      h.lossCount = 0 ∧ h.lossStart = 2 ∧ h.tfrcRxHistDuplicate 5 = false ∧
        (h.tfrcRxHistNewLossIndicated ⟨5, 0, 0, 0, 0⟩).2 = 0 ∧
        (tfrcRxHistSampleRtt saneRttMax (h.tfrcRxHistNewLossIndicated ⟨5, 0, 0, 0, 0⟩).1
          ⟨5, 0, 0, 0, 0⟩).bug = true := by
  refine ⟨rfl, ?_⟩
  simp only [rxRun_saneRttMax saneRttMax, (tfrcRxHistSampleRtt_hist_bug saneRttMax _ _).2]
  decide

/-- The histories the receive path can leave: the first packet stored by
`tfrc_rx_hist_add_packet` after `tfrc_rx_hist_alloc`, then any packets. -/
inductive RxReachable : RxHist → Prop
  | first {slab : Fin 4 → Option RxHistEntry} {h : RxHist} (p : RxHistEntry) :
      tfrcRxHistAlloc slab = some h → RxReachable (h.tfrcRxHistAddPacket p)
  | recv {h : RxHist} (sampleRtt : Bool) (p : RxHistEntry) :
      RxReachable h → RxReachable (rxPacketRecv saneRttMax sampleRtt h p).1

end DccpTfrc
