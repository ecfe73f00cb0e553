import DccpTfrc.Refinement

namespace DccpTfrc
open LossModel RxHist

variable (saneRttMax : Nat)

/-- An arrival the model takes fits the history whose tracked records the model holds. -/
theorem RxHist.Fits.of_tracked {h : RxHist} {p : RxHistEntry}
    (hf : LossModel.Fits h.tracked p) : h.Fits p := by
  obtain ⟨ha, hfresh, hnear⟩ := hf
  rw [tracked_eq_cons] at ha
  exact ⟨ha _ rfl, fun i h1 hi => hfresh _ (h.read_mem_tracked_tail i h1 hi), hnear⟩

section Run

variable {h : RxHist} {p : RxHistEntry} {ps : List RxHistEntry}

/-- One arrival of a stream the model takes, sampled or not: the code's step refines the
model's, and the rest of the stream fits the history it leaves. -/
theorem stepRefines_of_fed (b : Bool) (hi : h.LossInv) (hf : Fed h.tracked (p :: ps))
    (hn : ∀ e ∈ h.tracked ++ p :: ps, e.ndp.val < 2 ^ 31) :
    StepRefines saneRttMax b h p ∧ (rxPacketRecv saneRttMax b h p).1.LossInv ∧
      Fed (rxPacketRecv saneRttMax b h p).1.tracked ps ∧
      ∀ e ∈ (rxPacketRecv saneRttMax b h p).1.tracked ++ ps, e.ndp.val < 2 ^ 31 := by
  obtain ⟨hfp, hfs⟩ := hf
  have hr := (stepRefines_of_lossInv saneRttMax hi (RxHist.Fits.of_tracked hfp)
    fun e he => hn e (by rcases List.mem_cons.1 he with rfl | he <;> simp [he])).sampled
      saneRttMax b
  refine ⟨hr, lossInv_of_stepRefines saneRttMax hi hr, by rw [hr.1]; exact hfs, fun e he => ?_⟩
  rw [List.mem_append, hr.1] at he
  rcases he with he | he
  · rcases mem_step_fst he with rfl | he
    · exact hn _ (by simp)
    · exact hn _ (List.mem_append_left _ he)
  · exact hn _ (by simp [he])

end Run

/-- Over a stream of arrivals, each of which fits the records tracked when it arrives, with
the NDP counts below 2^31, the receive path, whichever arrivals the caller samples the RTT
on, tracks the records the model tracks, hands `tfrc_lh_interval_add` the model's loss
intervals in the model's order, and keeps the invariant. -/
theorem rxRunLoss_refines (h : RxHist) (ps : List (Bool × RxHistEntry)) (hi : h.LossInv)
    (hf : Fed h.tracked (ps.map Prod.snd))
    (hn : ∀ e ∈ h.tracked ++ ps.map Prod.snd, e.ndp.val < 2 ^ 31) :
    (rxRunLoss saneRttMax h ps).1.tracked = (run h.tracked (ps.map Prod.snd)).1 ∧
      (rxRunLoss saneRttMax h ps).2.map tracked = (run h.tracked (ps.map Prod.snd)).2 ∧
      (rxRunLoss saneRttMax h ps).1.LossInv := by
  induction ps generalizing h with
  | nil => exact ⟨rfl, rfl, hi⟩
  | cons bp ps ih =>
    obtain ⟨b, p⟩ := bp
    obtain ⟨⟨h1, h2, -⟩, hi', hf', hn'⟩ := stepRefines_of_fed saneRttMax b hi hf hn
    simp only [rxRunLoss, List.map_cons, run]
    generalize rxPacketRecv saneRttMax b h p = r at h1 h2 hi' hf' hn' ⊢
    obtain ⟨ih1, ih2, ih3⟩ := ih r.1 hi' hf' hn'
    rw [← h1, ← h2]
    refine ⟨ih1, ?_, ih3⟩
    rw [List.map_append, ih2]
    cases r.2 <;> rfl

/-- Anchor 0, then 1, 3, 4 and 5 with packet 2 lost, all sampled: the RTT sampler moves
`loss_start` on 1, and the third arrival after the hole reports it. -/
theorem rxRunLoss_refines_hole :
    (⟨1, fun _ => ⟨0, 0, 0, 0, 0⟩, 0, 0⟩ : RxHist).LossInv ∧
      let h : RxHist := ⟨1, fun _ => ⟨0, 0, 0, 0, 0⟩, 0, 0⟩
      let ps : List (Bool × RxHistEntry) := [(true, ⟨1, 0, 0, 0, 0⟩), (true, ⟨3, 0, 0, 0, 0⟩),
        (true, ⟨4, 0, 0, 0, 0⟩), (true, ⟨5, 0, 0, 0, 0⟩)]
      Fed h.tracked (ps.map Prod.snd) ∧ (∀ e ∈ h.tracked ++ ps.map Prod.snd, e.ndp.val < 2 ^ 31) ∧
        (rxRunLoss 0 h ps).1.tracked = (run h.tracked (ps.map Prod.snd)).1 ∧
        (rxRunLoss 0 h ps).2.map tracked = (run h.tracked (ps.map Prod.snd)).2 ∧
        (rxRunLoss 0 h ps).1.LossInv :=
  have hi : (⟨1, fun _ => ⟨0, 0, 0, 0, 0⟩, 0, 0⟩ : RxHist).LossInv :=
    ⟨by decide, by decide, by decide⟩
  ⟨hi, by decide, by decide, rxRunLoss_refines 0 _ _ hi (by decide) (by decide)⟩

/-- Over such a stream no loss goes unreported: with a hole after the anchor, arrivals none
of which is before a record received earlier, and that bring the records to four, make the
receive path hand `tfrc_lh_interval_add` exactly those four records, once. -/
theorem rxRunLoss_detects_loss (h : RxHist) (qs : List (Bool × RxHistEntry)) (hi : h.LossInv)
    (hf : Fed h.tracked (qs.map Prod.snd))
    (hn : ∀ e ∈ h.tracked ++ qs.map Prod.snd, e.ndp.val < 2 ^ 31)
    (hlen : h.tracked.length + qs.length = 4)
    (hord : (h.tracked ++ qs.map Prod.snd).Pairwise fun a b => before48 b.seqno a.seqno = false)
    (hgap : ∀ a b t, h.tracked ++ qs.map Prod.snd = a :: b :: t → lossFree a b = false) :
    (rxRunLoss saneRttMax h qs).2.map tracked = [h.tracked ++ qs.map Prod.snd] := by
  induction qs generalizing h with
  | nil => have := hi.lossCount_le; rw [length_tracked] at hlen; simp at hlen; omega
  | cons sq qs ih =>
    obtain ⟨s, q⟩ := sq
    obtain ⟨⟨h1, h2, -⟩, hi', hf', hn'⟩ := stepRefines_of_fed saneRttMax s hi hf hn
    have hne : h.tracked ≠ [] := by rw [tracked_eq_cons]; exact List.cons_ne_nil _ _
    have hq : ∀ e ∈ h.tracked, before48 q.seqno e.seqno = false := fun e he =>
      (List.pairwise_append.1 hord).2.2 e he q (List.mem_cons_self _ _)
    have hstep := step_of_gap hne hq fun a b t ht =>
      hgap a b (t ++ qs.map Prod.snd) (by rw [← List.cons_append, ← List.cons_append, ← ht]; simp)
    simp only [rxRunLoss]
    generalize rxPacketRecv saneRttMax s h q = r at h1 h2 hi' hf' hn' ⊢
    obtain ⟨r1, r2⟩ := r
    rw [hstep] at h1 h2
    split_ifs at h1 h2 with h4 <;> dsimp only at h1 h2 hi' hf' hn' ⊢
    · -- the fourth record: its interval is reported and the stream ends
      have hqs : qs = [] := List.eq_nil_of_length_eq_zero (by simp at hlen h4; omega)
      subst hqs
      cases r2 with
      | none => cases h2
      | some R => simp [rxRunLoss, Option.some.inj h2]
    · -- fewer than four records: nothing is reported yet
      cases r2 with
      | some R => cases h2
      | none =>
        have := ih r1 hi' hf' hn' (by rw [h1]; simp at hlen ⊢; omega)
          (by rw [h1]; simpa using hord) fun a b t ht => hgap a b t (by rw [← ht, h1]; simp)
        rw [h1] at this
        simpa using this

/-- Anchor 0, then 2, 3 and 4, sampled, arrive in order behind the hole at 1. -/
theorem rxRunLoss_detects_loss_hole :
    (⟨1, fun _ => ⟨0, 0, 0, 0, 0⟩, 0, 0⟩ : RxHist).LossInv ∧
      let h : RxHist := ⟨1, fun _ => ⟨0, 0, 0, 0, 0⟩, 0, 0⟩
      let qs : List (Bool × RxHistEntry) :=
        [(true, ⟨2, 0, 0, 0, 0⟩), (true, ⟨3, 0, 0, 0, 0⟩), (true, ⟨4, 0, 0, 0, 0⟩)]
      Fed h.tracked (qs.map Prod.snd) ∧ (∀ e ∈ h.tracked ++ qs.map Prod.snd, e.ndp.val < 2 ^ 31) ∧
        h.tracked.length + qs.length = 4 ∧
        ((h.tracked ++ qs.map Prod.snd).Pairwise fun a b => before48 b.seqno a.seqno = false) ∧
        (∀ a b t, h.tracked ++ qs.map Prod.snd = a :: b :: t → lossFree a b = false) ∧
        (rxRunLoss 0 h qs).2.map tracked = [h.tracked ++ qs.map Prod.snd] :=
  have hi : (⟨1, fun _ => ⟨0, 0, 0, 0, 0⟩, 0, 0⟩ : RxHist).LossInv :=
    ⟨by decide, by decide, by decide⟩
  ⟨hi, by decide, by decide, by decide, by decide, fun a b t ht => by cases ht; decide,
    rxRunLoss_detects_loss 0 _ _ hi (by decide) (by decide) (by decide) (by decide)
      fun a b t ht => by cases ht; decide⟩

end DccpTfrc
