import DccpTfrc.RxHist

namespace DccpTfrc

/-- What `tfrc_rx_hist_sample_rtt` returns, the history it leaves behind, and whether it
reached its `DCCP_BUG` report. -/
structure RttSample where
  sample : Nat
  hist : RxHist
  bug : Bool

namespace RxHist

/-- `tfrc_rx_hist_rtt_last_s`: the physical slot 0, not the anchor. -/
def tfrcRxHistRttLastS (h : RxHist) : Fin 4 := h.ring 0

/-- `tfrc_rx_hist_rtt_prev_s`: the slot `rtt_sample_prev`, which is `loss_start`. -/
def tfrcRxHistRttPrevS (h : RxHist) : Fin 4 := h.ring h.lossStart

variable (saneRttMax : Nat)

/-- `tfrc_rx_hist_sample_rtt` for the arriving packet `p`, received at `p.tstamp`;
`saneRttMax` is `DCCP_SANE_RTT_MAX`. Both samples are computed as s64 and stored in the u32
`sample` before the clamp. -/
def tfrcRxHistSampleRtt (h : RxHist) (p : RxHistEntry) : RttSample :=
  let last := h.recs h.tfrcRxHistRttLastS
  let prev := h.recs h.tfrcRxHistRttPrevS
  let deltaV := sub16 p.ccval last.ccval
  let finish (sample : Nat) (bug : Bool) : RttSample :=
    ⟨if saneRttMax < sample then saneRttMax else sample, { h with lossStart := 0 }, bug⟩
  if deltaV < 1 ∨ 4 < deltaV then
    if h.lossStart = 2 then
      let sample := sub16 prev.ccval last.ccval
      if sample ≠ 0 then
        finish (toU32 ((4 / sample : Nat) * ktimeUsDelta prev.tstamp last.tstamp)) false
      else finish 0 true
    else if deltaV < 1 then ⟨0, { h with lossStart := 1 }, false⟩
    else finish 0 false
  else if deltaV = 4 then finish (toU32 (ktimeUsDelta p.tstamp last.tstamp)) false
  else ⟨0, { h with lossStart := 2 }, false⟩

/-- Every branch only moves `loss_start`, and neither that nor the `DCCP_BUG` report depends
on `DCCP_SANE_RTT_MAX`. -/
theorem tfrcRxHistSampleRtt_shape (h : RxHist) (p : RxHistEntry) :
    ∃ k b, ∀ m, (tfrcRxHistSampleRtt m h p).hist = { h with lossStart := k } ∧
      (tfrcRxHistSampleRtt m h p).bug = b := by
  simp only [tfrcRxHistSampleRtt]
  split_ifs <;> exact ⟨_, _, fun _ => ⟨rfl, rfl⟩⟩

@[simp] theorem tfrcRxHistSampleRtt_lossCount (h : RxHist) (p : RxHistEntry) :
    (tfrcRxHistSampleRtt saneRttMax h p).hist.lossCount = h.lossCount := by
  obtain ⟨k, b, hk⟩ := tfrcRxHistSampleRtt_shape h p
  rw [(hk saneRttMax).1]

@[simp] theorem tfrcRxHistSampleRtt_ring (h : RxHist) (p : RxHistEntry) :
    (tfrcRxHistSampleRtt saneRttMax h p).hist.ring = h.ring := by
  obtain ⟨k, b, hk⟩ := tfrcRxHistSampleRtt_shape h p
  rw [(hk saneRttMax).1]

@[simp] theorem tfrcRxHistSampleRtt_recs (h : RxHist) (p : RxHistEntry) :
    (tfrcRxHistSampleRtt saneRttMax h p).hist.recs = h.recs := by
  obtain ⟨k, b, hk⟩ := tfrcRxHistSampleRtt_shape h p
  rw [(hk saneRttMax).1]

/-- `DCCP_SANE_RTT_MAX` only clamps the returned sample. -/
theorem tfrcRxHistSampleRtt_hist_bug (h : RxHist) (p : RxHistEntry) :
    (tfrcRxHistSampleRtt saneRttMax h p).hist = (tfrcRxHistSampleRtt 0 h p).hist ∧
      (tfrcRxHistSampleRtt saneRttMax h p).bug = (tfrcRxHistSampleRtt 0 h p).bug := by
  obtain ⟨k, b, hk⟩ := tfrcRxHistSampleRtt_shape h p
  exact ⟨(hk _).1.trans (hk 0).1.symm, (hk _).2.trans (hk 0).2.symm⟩

/-- On the CCVal-delta-4 branch an elapsed time of 2^32 + 1 us is stored in the u32 sample
as 1 and passes the clamp. -/
theorem tfrcRxHistSampleRtt_wraps :
    (tfrcRxHistSampleRtt saneRttMax ⟨1, fun _ => ⟨0, 0, 0, 0, 0⟩, 0, 0⟩
        ⟨1, 4, 0, 0, (2 ^ 32 + 1) * 1000⟩).sample = min 1 saneRttMax ∧
      ktimeUsDelta ((2 ^ 32 + 1) * 1000) 0 = 2 ^ 32 + 1 := by
  have h4 : ((4 : Fin 16) : Nat) = 4 := rfl
  refine ⟨?_, by decide⟩
  simp [tfrcRxHistSampleRtt, tfrcRxHistRttLastS, sub16, toU32, ktimeUsDelta, Nat.min_def, h4]
  split_ifs <;> omega

end RxHist
end DccpTfrc
