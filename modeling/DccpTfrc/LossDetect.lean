import DccpTfrc.RxHist
import DccpTfrc.Options

namespace DccpTfrc
namespace RxHist

/-- `__one_after_loss`: entries 0 and 1 are the anchor S0 and the first packet after a
hole, S1; the arrival is S2. -/
def oneAfterLoss (h : RxHist) (p : RxHistEntry) : RxHist :=
  let s0 := (h.recs h.tfrcRxHistLossPrev).seqno
  let s1 := (h.read 1).seqno
  let s2 := p.seqno
  let n1 := int32 (h.read 1).ndp
  let n2 := p.ndp.val
  let d12 := int32 (dccpDeltaSeqno s1 s2)
  if 0 < d12 then
    let h := { h with lossCount := 2 }
    h.tfrcRxHistEntryFromSkb (h.tfrcRxHistEntry 2) p
  else
    let d2 := int32 (dccpDeltaSeqno s0 s2)
    if d2 = 1 ∨ toU32 d2 ≤ n2 then
      let d21 := int32 (-d12)
      if d21 = 1 ∨ d21 ≤ n1 then
        { h with lossCount := 0, lossStart := h.tfrcRxHistIndex 1 }
      else
        h.tfrcRxHistEntryFromSkb h.tfrcRxHistLossPrev p
    else
      let h := h.tfrcRxHistSwap 0 3
      let h := { h with lossStart := h.tfrcRxHistIndex 3 }
      let h := h.tfrcRxHistEntryFromSkb (h.tfrcRxHistEntry 1) p
      { h with lossCount := 2 }

/-- `__two_after_loss`, with S0, S1, S2 in entries 0 to 2 and the arrival S3; `true` when a
new loss event has been identified. -/
def twoAfterLoss (h : RxHist) (p : RxHistEntry) : RxHist × Bool :=
  let s0 := (h.recs h.tfrcRxHistLossPrev).seqno
  let s1 := (h.read 1).seqno
  let s2 := (h.read 2).seqno
  let s3 := p.seqno
  let n1 := int32 (h.read 1).ndp
  let n3 := p.ndp.val
  let d23 := int32 (dccpDeltaSeqno s2 s3)
  if 0 < d23 then
    let h := { h with lossCount := 3 }
    (h.tfrcRxHistEntryFromSkb (h.tfrcRxHistEntry 3) p, true)
  else
    let d13 := int32 (dccpDeltaSeqno s1 s3)
    if 0 < d13 then
      let h := h.tfrcRxHistSwap 2 3
      let h := h.tfrcRxHistEntryFromSkb (h.tfrcRxHistEntry 2) p
      ({ h with lossCount := 3 }, true)
    else
      let d31 := int32 (-d13)
      let d3 := int32 (dccpDeltaSeqno s0 s3)
      if d3 = 1 ∨ toU32 d3 ≤ n3 then
        if d31 = 1 ∨ d31 ≤ n1 then
          let d2 := int32 (dccpDeltaSeqno s1 s2)
          let n2 := int32 (h.read 2).ndp
          if d2 = 1 ∨ d2 ≤ n2 then
            ({ h with lossStart := h.tfrcRxHistIndex 2, lossCount := 0 }, false)
          else
            ({ h with lossStart := h.tfrcRxHistIndex 1, lossCount := 1 }, false)
        else
          (h.tfrcRxHistEntryFromSkb h.tfrcRxHistLossPrev p, false)
      else
        let h := h.tfrcRxHistSwap 0 3
        let h := { h with lossStart := h.tfrcRxHistIndex 3 }
        let h := h.tfrcRxHistEntryFromSkb (h.tfrcRxHistEntry 1) p
        ({ h with lossCount := 3 }, true)

/-- `tfrc_rx_hist_delta_seqno`; its `DCCP_BUG_ON` only warns. -/
def tfrcRxHistDeltaSeqno (h : RxHist) (e1 e2 : Fin 4) : Int :=
  dccpDeltaSeqno (h.read e1).seqno (h.read e2).seqno

/-- `__three_after_loss`: recycle the records once a loss interval has been recorded. -/
def threeAfterLoss (h : RxHist) : RxHist :=
  let d2 := int32 (h.tfrcRxHistDeltaSeqno 1 2)
  let d3 := int32 (h.tfrcRxHistDeltaSeqno 2 3)
  let n2 := int32 (h.read 2).ndp
  let n3 := int32 (h.read 3).ndp
  if d2 = 1 ∨ d2 ≤ n2 then
    if d3 = 1 ∨ d3 ≤ n3 then { h with lossStart := h.tfrcRxHistIndex 3, lossCount := 0 }
    else { h with lossStart := h.tfrcRxHistIndex 2, lossCount := 1 }
  else { h with lossStart := h.tfrcRxHistIndex 1, lossCount := 2 }

/-- `tfrc_rx_handle_loss`. The second component is the history handed to
`tfrc_lh_interval_add` when it is called; `is_new_loss` is that call's answer, which belongs
to the loss-interval database. An invalid `loss_count` only reaches `DCCP_BUG`. -/
def tfrcRxHandleLoss (h : RxHist) (p : RxHistEntry) : RxHist × Option RxHist :=
  if h.lossCount = 1 then (h.oneAfterLoss p, none)
  else if h.lossCount ≠ 2 then (h, none)
  else
    let r := h.twoAfterLoss p
    if r.2 then (threeAfterLoss r.1, some r.1) else (r.1, none)

/-- The history `tfrc_rx_handle_loss` leaves, one branch per `loss_count`. -/
theorem tfrcRxHandleLoss_fst (h : RxHist) (p : RxHistEntry) :
    (h.tfrcRxHandleLoss p).1 =
      if h.lossCount = 1 then h.oneAfterLoss p
      else if h.lossCount ≠ 2 then h
      else if (h.twoAfterLoss p).2 then threeAfterLoss (h.twoAfterLoss p).1
      else (h.twoAfterLoss p).1 := by
  unfold tfrcRxHandleLoss
  generalize h.oneAfterLoss p = a
  generalize h.twoAfterLoss p = r
  generalize threeAfterLoss = t
  obtain ⟨r, _ | _⟩ := r <;> split_ifs <;> first | rfl | simp_all

theorem tfrcRxHandleLoss_one (h : RxHist) (p : RxHistEntry) (hc : h.lossCount = 1) :
    h.tfrcRxHandleLoss p = (h.oneAfterLoss p, none) := by
  unfold tfrcRxHandleLoss; rw [if_pos hc]

theorem tfrcRxHandleLoss_two (h : RxHist) (p : RxHistEntry) (hc : h.lossCount = 2) :
    h.tfrcRxHandleLoss p =
      if (h.twoAfterLoss p).2 then (threeAfterLoss (h.twoAfterLoss p).1, some (h.twoAfterLoss p).1)
      else ((h.twoAfterLoss p).1, none) := by
  unfold tfrcRxHandleLoss; rw [if_neg (by omega), if_neg (by omega)]

/-- `h'` holds the records of `h`, except possibly `p` written into entry(k) of `h` for some
`k` with `P k`. -/
def WritesOnly (h h' : RxHist) (p : RxHistEntry) (P : Fin 4 → Prop) : Prop :=
  h'.recs = h.recs ∨ ∃ k, P k ∧ h'.recs = Function.update h.recs (h.tfrcRxHistEntry k) p

theorem WritesOnly.of_recs_eq {h h' h'' : RxHist} {p : RxHistEntry} {P : Fin 4 → Prop}
    (hw : WritesOnly h h' p P) (he : h''.recs = h'.recs) : WritesOnly h h'' p P := by
  unfold WritesOnly; rw [he]; exact hw

/-- A write into the anchor or past entry(loss_count) leaves every other tracked record as it
was. -/
theorem WritesOnly.keeps_pending {h h' : RxHist} {p : RxHistEntry} {P : Fin 4 → Prop}
    (hw : WritesOnly h h' p P) (hP : ∀ k, P k → k = 0 ∨ h.lossCount < k) (r : Fin 4)
    (hr : h'.recs r ≠ h.recs r) :
    r = h.tfrcRxHistLossPrev ∨ ∀ i ≤ h.lossCount, h.tfrcRxHistEntry i ≠ r := by
  rcases hw with hw | ⟨k, hk, hw⟩
  · exact absurd (congrFun hw r) hr
  · have hrk : r = h.tfrcRxHistEntry k := by
      by_contra hne; exact hr (by rw [hw, Function.update_noteq hne])
    subst hrk
    rcases hP k hk with rfl | hlt
    · exact .inl (tfrcRxHistLossPrev_eq h).symm
    · exact .inr fun i hi he => absurd ((tfrcRxHistEntry_inj h).1 he) (by omega)

theorem oneAfterLoss_writes (h : RxHist) (p : RxHistEntry) :
    WritesOnly h (h.oneAfterLoss p) p fun k => k = 0 ∨ 1 < k := by
  simp only [oneAfterLoss]
  split_ifs
  · exact .inr ⟨2, by decide, rfl⟩
  · exact .inl rfl
  · exact .inr ⟨0, by decide, by simp [tfrcRxHistEntryFromSkb]⟩
  · exact .inr ⟨3, by decide, by simp [tfrcRxHistEntryFromSkb]⟩

theorem twoAfterLoss_writes (h : RxHist) (p : RxHistEntry) :
    WritesOnly h (h.twoAfterLoss p).1 p fun k => k = 0 ∨ 2 < k := by
  simp only [twoAfterLoss]
  split_ifs
  · exact .inr ⟨3, by decide, rfl⟩
  · exact .inr ⟨3, by decide, by simp [tfrcRxHistEntryFromSkb]⟩
  · exact .inl rfl
  · exact .inl rfl
  · exact .inr ⟨0, by decide, by simp [tfrcRxHistEntryFromSkb]⟩
  · exact .inr ⟨3, by decide, by simp [tfrcRxHistEntryFromSkb]⟩

@[simp] theorem threeAfterLoss_recs (h : RxHist) : (threeAfterLoss h).recs = h.recs := by
  simp only [threeAfterLoss]; split_ifs <;> rfl

theorem oneAfterLoss_lossCount (h : RxHist) (p : RxHistEntry) :
    (h.oneAfterLoss p).lossCount = 2 ∨ (h.oneAfterLoss p).lossCount = 0 ∨
      (h.oneAfterLoss p).lossCount = h.lossCount := by
  simp only [oneAfterLoss]; split_ifs <;> simp

/-- Every branch of `__two_after_loss` that reports a new loss sets `loss_count` to 3. -/
theorem twoAfterLoss_lossCount (h : RxHist) (p : RxHistEntry) :
    ((h.twoAfterLoss p).2 = true ∧ (h.twoAfterLoss p).1.lossCount = 3) ∨
      ((h.twoAfterLoss p).2 = false ∧
        ((h.twoAfterLoss p).1.lossCount ≤ 1 ∨
          (h.twoAfterLoss p).1.lossCount = h.lossCount)) := by
  simp only [twoAfterLoss]; split_ifs <;> simp

theorem twoAfterLoss_lossCount_of_true (h : RxHist) (p : RxHistEntry)
    (ht : (h.twoAfterLoss p).2 = true) : (h.twoAfterLoss p).1.lossCount = 3 := by
  rcases twoAfterLoss_lossCount h p with h3 | h3
  · exact h3.2
  · rw [ht] at h3; cases h3.1

theorem threeAfterLoss_lossCount (h : RxHist) : (threeAfterLoss h).lossCount ≤ 2 := by
  simp only [threeAfterLoss]; split_ifs <;> simp

end RxHist

/-- Packet 1 of the stream data, non-data, data is lost. Packet 2 carries NDP count 1, which
accounts for the whole gap, yet `tfrc_rx_hist_new_loss_indicated` reports a loss. -/
theorem tfrcRxHistNewLossIndicated_ndp_gap :
    ndpStream 0 [false, true, false] = [0, 0, 1] ∧
      let h := (⟨1, fun _ => ⟨0, 0, 0, 0, 0⟩, 0, 0⟩ : RxHist).tfrcRxHistAddPacket ⟨0, 0, 0, 0, 0⟩
      h.tfrcRxHistDuplicate 2 = false ∧ h.lossCount = 0 ∧
        (h.tfrcRxHistNewLossIndicated ⟨2, 0, 0, 1, 0⟩).2 = 1 := by
  decide

end DccpTfrc
