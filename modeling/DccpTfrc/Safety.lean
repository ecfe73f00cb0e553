import DccpTfrc.Receiver

namespace DccpTfrc
open RxHist

variable (saneRttMax : Nat)

theorem tfrcRxHandleLoss_lossCount (h : RxHist) (p : RxHistEntry) (hc : h.lossCount ≤ 2) :
    (h.tfrcRxHandleLoss p).1.lossCount ≤ 2 := by
  have h1 := oneAfterLoss_lossCount h p
  rw [tfrcRxHandleLoss_fst]
  split_ifs with _ _ hr
  · omega
  · exact hc
  · exact threeAfterLoss_lossCount _
  · rcases twoAfterLoss_lossCount h p with ⟨ht, -⟩ | ⟨-, h2⟩
    · exact absurd ht hr
    · omega

/-- `tfrc_rx_handle_loss` writes the arrival into the anchor or past entry(loss_count). -/
theorem tfrcRxHandleLoss_writes (h : RxHist) (p : RxHistEntry) :
    WritesOnly h (h.tfrcRxHandleLoss p).1 p fun k => k = 0 ∨ h.lossCount < k := by
  have h2 := twoAfterLoss_writes h p
  rw [tfrcRxHandleLoss_fst]
  split_ifs with h1 hn
  · rw [h1]; exact oneAfterLoss_writes h p
  · exact .inl rfl
  · rw [not_not.1 hn]; exact h2.of_recs_eq (threeAfterLoss_recs _)
  · rw [not_not.1 hn]; exact h2

theorem rxPacketRecv_lossCount (b : Bool) (h : RxHist) (p : RxHistEntry) (hc : h.lossCount ≤ 2) :
    (rxPacketRecv saneRttMax b h p).1.lossCount ≤ 2 := by
  have hn := h.tfrcRxHistNewLossIndicated_lossCount p
  rw [rxPacketRecv_fst]
  split_ifs
  · exact hc
  · exact tfrcRxHandleLoss_lossCount h p hc
  all_goals
    rw [tfrcRxHistAddPacket_lossCount]
    first | rw [tfrcRxHistSampleRtt_lossCount]; omega | omega

/-- A step changes no record among entry(1..loss_count). -/
theorem rxPacketRecv_keeps_pending (b : Bool) (h : RxHist) (p : RxHistEntry) (r : Fin 4)
    (hr : (rxPacketRecv saneRttMax b h p).1.recs r ≠ h.recs r) :
    r = h.tfrcRxHistLossPrev ∨ ∀ i ≤ h.lossCount, h.tfrcRxHistEntry i ≠ r := by
  by_cases h0 : h.lossCount = 0
  · by_cases ha : r = h.tfrcRxHistLossPrev
    · exact .inl ha
    · refine .inr fun i hi he => ha ?_
      rw [← he, tfrcRxHistLossPrev_eq, show i = 0 by omega]
  · have hc : h.lossCount ≠ 0 := h0
    rw [rxPacketRecv_fst, if_pos hc] at hr
    split_ifs at hr
    · exact absurd rfl hr
    · exact (tfrcRxHandleLoss_writes h p).keeps_pending (fun _ hk => hk) r hr

theorem RxReachable.lossCount_le {h : RxHist} (hr : RxReachable saneRttMax h) :
    h.lossCount ≤ 2 := by
  induction hr with
  | first p ha => rw [tfrcRxHistAddPacket_lossCount, tfrcRxHistAlloc_lossCount ha]; decide
  | recv b p _ ih => exact rxPacketRecv_lossCount saneRttMax b _ p ih

/-- Over every run from `tfrc_rx_hist_alloc`: `loss_count` ends each arrival in {0, 1, 2}, so
`tfrc_rx_handle_loss` is entered with 1 or 2; `__three_after_loss` is entered with
`loss_count` 3; the ring is a permutation of the allocated records; and each arrival writes
only the anchor or a record outside entry(0..loss_count). -/
theorem rxReachable_loss_safe {h : RxHist} (hr : RxReachable saneRttMax h) (b : Bool)
    (p : RxHistEntry) :
    h.lossCount ≤ 2 ∧
      (h.lossCount ≠ 0 → h.lossCount = 1 ∨ h.lossCount = 2) ∧
      (h.lossCount = 2 → (h.twoAfterLoss p).2 = true → (h.twoAfterLoss p).1.lossCount = 3) ∧
      Function.Bijective h.ring ∧
      ∀ r, (rxPacketRecv saneRttMax b h p).1.recs r ≠ h.recs r →
        r = h.tfrcRxHistLossPrev ∨ ∀ i ≤ h.lossCount, h.tfrcRxHistEntry i ≠ r := by
  have hc := hr.lossCount_le
  refine ⟨hc, fun h0 => by omega, fun _ ht => ?_, h.ring.bijective,
    rxPacketRecv_keeps_pending saneRttMax b h p⟩
  rcases twoAfterLoss_lossCount h p with h3 | h3
  · exact h3.2
  · exact absurd ht (Bool.eq_false_iff.1 h3.1)

/-- After 0, 2 and 4 the history holds two pending records behind the hole at 1; the next
arrival, 6, is the third after the loss. -/
theorem rxReachable_loss_safe_two :
    let h := (rxPacketRecv 0 false (rxPacketRecv 0 false
      ((⟨1, fun _ => ⟨0, 0, 0, 0, 0⟩, 0, 0⟩ : RxHist).tfrcRxHistAddPacket ⟨0, 0, 0, 0, 0⟩)
        ⟨2, 0, 0, 0, 0⟩).1 ⟨4, 0, 0, 0, 0⟩).1
    RxReachable 0 h ∧ h.lossCount = 2 ∧ (h.twoAfterLoss ⟨6, 0, 0, 0, 0⟩).2 = true ∧
      h.lossCount ≤ 2 ∧
      (h.lossCount ≠ 0 → h.lossCount = 1 ∨ h.lossCount = 2) ∧
      (h.lossCount = 2 → (h.twoAfterLoss ⟨6, 0, 0, 0, 0⟩).2 = true →
        (h.twoAfterLoss ⟨6, 0, 0, 0, 0⟩).1.lossCount = 3) ∧
      Function.Bijective h.ring ∧
      ∀ r, (rxPacketRecv 0 true h ⟨6, 0, 0, 0, 0⟩).1.recs r ≠ h.recs r →
        r = h.tfrcRxHistLossPrev ∨ ∀ i ≤ h.lossCount, h.tfrcRxHistEntry i ≠ r :=
  have hr := ((@RxReachable.first 0 (fun _ => some ⟨0, 0, 0, 0, 0⟩) _ ⟨0, 0, 0, 0, 0⟩
    rfl).recv false ⟨2, 0, 0, 0, 0⟩).recv false ⟨4, 0, 0, 0, 0⟩
  ⟨hr, by decide, by decide, rxReachable_loss_safe 0 hr true ⟨6, 0, 0, 0, 0⟩⟩

end DccpTfrc
