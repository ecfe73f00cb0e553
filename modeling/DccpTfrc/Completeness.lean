import DccpTfrc.Tracked

/-! Completeness of loss detection. The sender numbers its packets consecutively and each
packet carries the count of non-data packets sent just before it; one data packet is lost.
A test of the loss-detection code that passes from a record before the hole gives a record
before it, so on the list transcription the anchor only moves past the hole at a report that
places the hole between entry(0) and entry(1), and until then every record after the hole
stays tracked. The ring tracks at most three records, so the report comes by the third
arrival after the hole. -/

namespace DccpTfrc

namespace Tracked

/-- The distance of a record from the start `o` of the window. -/
def pos (o : Nat) (e : RxHistEntry) : Nat := dccpDeltaSeqno o e.seqno

theorem threeAfterLoss_subset (l : List RxHistEntry) : threeAfterLoss l ⊆ l := by
  unfold threeAfterLoss
  split
  · dsimp only; split_ifs <;> simp
  · exact List.Subset.refl _

theorem twoAfterLoss_subset (s0 s1 s2 s3 : RxHistEntry) :
    (twoAfterLoss s0 s1 s2 s3).1 ⊆ [s3, s0, s1, s2] := by
  simp only [twoAfterLoss]; split_ifs <;> simp

theorem rxPacketRecv_subset (l : List RxHistEntry) (p : RxHistEntry) :
    (rxPacketRecv l p).1 ⊆ p :: l ∧ ∀ R ∈ (rxPacketRecv l p).2, R ⊆ p :: l := by
  unfold rxPacketRecv
  split_ifs
  · exact ⟨List.subset_cons_self _ _, by simp⟩
  rcases l with _ | ⟨s0, _ | ⟨s1, _ | ⟨s2, _ | ⟨s3, l⟩⟩⟩⟩
  · simp [handleLoss]
  · simp only [newLossIndicated]; split_ifs <;> simp
  · simp only [handleLoss, oneAfterLoss]; split_ifs <;> simp
  · have h2 := twoAfterLoss_subset s0 s1 s2 p
    simp only [handleLoss]
    generalize twoAfterLoss s0 s1 s2 p = r at h2 ⊢
    obtain ⟨l', _ | _⟩ := r
    · simpa using h2
    · simpa using ⟨(threeAfterLoss_subset l').trans h2, h2⟩
  · exact ⟨List.subset_cons_self _ _, by simp [handleLoss]⟩

theorem run_subset (l ps : List RxHistEntry) :
    (run l ps).1 ⊆ l ++ ps ∧ ∀ R ∈ (run l ps).2, R ⊆ l ++ ps := by
  induction ps generalizing l with
  | nil => simp [run]
  | cons p ps ih =>
    obtain ⟨h1, h2⟩ := rxPacketRecv_subset l p
    obtain ⟨ih1, ih2⟩ := ih (rxPacketRecv l p).1
    have hsub : (rxPacketRecv l p).1 ++ ps ⊆ l ++ p :: ps := fun e he => by
      rcases List.mem_append.1 he with he | he
      · rcases List.mem_cons.1 (h1 he) with rfl | he <;> simp [*]
      · simp [he]
    refine ⟨ih1.trans hsub, fun R hR => ?_⟩
    rcases List.mem_append.1 hR with hR | hR
    · exact fun e he => by
        rcases List.mem_cons.1 (h2 R (by simpa using hR) he) with rfl | he <;> simp [*]
    · exact (ih2 R hR).trans hsub

section Hole

/-! A data packet at distance `px` from the start `o` of the window is lost. -/

variable (o px : Nat)

/-- A record of the stream near the lost packet: in the window, not the lost packet, and,
when after it, with an NDP count that stops short of it. -/
structure Around (e : RxHistEntry) : Prop where
  lt : pos o e < 2 ^ 31
  ne : pos o e ≠ px
  ndp : px < pos o e → e.ndp.val < pos o e - px

def AnchorBefore (l : List RxHistEntry) : Prop := ∃ a ∈ l.head?, pos o a < px

/-- Records handed to `tfrc_lh_interval_add`, the lost packet between the first two. -/
def Good : List RxHistEntry → Prop
  | a :: b :: _ => pos o a < px ∧ px < pos o b
  | _ => False

/-- The anchor is before the lost packet, at most three records are tracked, and every
record of `L` after the lost packet is one of them. -/
def Keeps (L l : List RxHistEntry) : Prop :=
  AnchorBefore o px l ∧ l.length ≤ 3 ∧ ∀ e ∈ L, px < pos o e → e ∈ l

def ReportsOrKeeps (L : List RxHistEntry) (r : List RxHistEntry × Option (List RxHistEntry)) :
    Prop :=
  (∃ R, r.2 = some R ∧ Good o px R) ∨ Keeps o px L r.1

variable {o px}

@[simp] theorem anchorBefore_cons {a : RxHistEntry} {t : List RxHistEntry} :
    AnchorBefore o px (a :: t) ↔ pos o a < px := by
  simp [AnchorBefore]

theorem keeps_of {L t : List RxHistEntry} {a : RxHistEntry} (ha : pos o a < px)
    (hl : t.length ≤ 2) (h : ∀ e ∈ L, pos o e < px ∨ e ∈ a :: t) : Keeps o px L (a :: t) :=
  ⟨⟨a, rfl, ha⟩, by simpa using hl, fun e he hx => (h e he).resolve_left (by omega)⟩

theorem Keeps.mono {L L' l : List RxHistEntry} (hk : Keeps o px L l)
    (h : ∀ e ∈ L', pos o e < px ∨ e ∈ L) : Keeps o px L' l :=
  ⟨hk.1, hk.2.1, fun e he hx => hk.2.2 e ((h e he).resolve_left (by omega)) hx⟩

theorem Keeps.trans {L l l' : List RxHistEntry} {p : RxHistEntry} (hk : Keeps o px L l)
    (hk' : Keeps o px (p :: l) l') : Keeps o px (p :: L) l' :=
  ⟨hk'.1, hk'.2.1, fun e he hx => by
    rcases List.mem_cons.1 he with rfl | he
    · exact hk'.2.2 _ (List.mem_cons_self _ _) hx
    · exact hk'.2.2 e (List.mem_cons_of_mem _ (hk.2.2 e he hx)) hx⟩

/-- The records of `L` after the lost packet stand behind the anchor: at most two. -/
theorem Keeps.length_le {L l : List RxHistEntry} (hk : Keeps o px L l) (hn : L.Nodup) :
    (L.filter fun e => px < pos o e).length ≤ 2 := by
  obtain ⟨⟨a, ha, hpa⟩, hl, hL⟩ := hk
  obtain _ | ⟨a', t⟩ := l
  · cases ha
  obtain rfl : a' = a := Option.some.inj ha
  have hsub : L.filter (fun e => px < pos o e) ⊆ t := fun e he => by
    obtain ⟨heL, hx⟩ := List.mem_filter.1 he
    have hx : px < pos o e := by simpa using hx
    rcases List.mem_cons.1 (hL e heL hx) with rfl | het
    · omega
    · exact het
  have := ((hn.filter _).subperm hsub).length_le
  simp only [List.length_cons] at hl
  omega

theorem Around.int32_delta {a b : RxHistEntry} (ha : Around o px a) (hb : Around o px b) :
    int32 (dccpDeltaSeqno a.seqno b.seqno) = (pos o b : Int) - pos o a := by
  have ha' := ha.lt
  have hb' := hb.lt
  unfold pos at ha' hb' ⊢
  rcases le_or_lt (dccpDeltaSeqno o a.seqno) (dccpDeltaSeqno o b.seqno) with h | h
  · rw [dccpDeltaSeqno_via_le o _ _ h, int32_of_lt (by omega)]; omega
  · have hba := dccpDeltaSeqno_via_le o _ _ h.le
    rw [int32_dccpDeltaSeqno_of_lt _ _ (by omega) (by omega), hba]; omega

theorem Around.int32_neg_delta {a b : RxHistEntry} (ha : Around o px a) (hb : Around o px b) :
    int32 (-int32 (dccpDeltaSeqno a.seqno b.seqno)) = int32 (dccpDeltaSeqno b.seqno a.seqno) := by
  have := ha.lt
  have := hb.lt
  rw [ha.int32_delta hb, hb.int32_delta ha, int32_eq]; omega

/-- The heart of the argument: every loss-free test of the code passes from a record before
the lost packet only to another one, as the NDP count of a record after it stops short. -/
theorem Around.pos_lt {a b : RxHistEntry} (ha : Around o px a) (hb : Around o px b)
    (hpa : pos o a < px)
    (h : int32 (dccpDeltaSeqno a.seqno b.seqno) ≤ 1 ∨
      int32 (dccpDeltaSeqno a.seqno b.seqno) ≤ b.ndp.val) : pos o b < px := by
  rw [ha.int32_delta hb] at h
  rcases Nat.lt_or_gt_of_ne hb.ne with hlt | hgt
  · exact hlt
  · have := hb.ndp hgt; omega

theorem Around.pos_lt_of_int {a b : RxHistEntry} (ha : Around o px a) (hb : Around o px b)
    (hpa : pos o a < px)
    (h : int32 (dccpDeltaSeqno a.seqno b.seqno) = 1 ∨
      int32 (dccpDeltaSeqno a.seqno b.seqno) ≤ int32 b.ndp) : pos o b < px :=
  ha.pos_lt hb hpa (by have := int32_le_self b.ndp.isLt; omega)

/-- The test on `d21 = -d12` or `d31 = -d13`, read back from `b` to `a`. -/
theorem Around.pos_lt_of_int_neg {a b : RxHistEntry} (ha : Around o px a) (hb : Around o px b)
    (hpa : pos o a < px)
    (h : int32 (-int32 (dccpDeltaSeqno b.seqno a.seqno)) = 1 ∨
      int32 (-int32 (dccpDeltaSeqno b.seqno a.seqno)) ≤ int32 b.ndp) : pos o b < px := by
  rw [hb.int32_neg_delta ha] at h
  exact ha.pos_lt_of_int hb hpa h

theorem Around.pos_lt_of_u32 {a b : RxHistEntry} (ha : Around o px a) (hb : Around o px b)
    (hpa : pos o a < px)
    (h : int32 (dccpDeltaSeqno a.seqno b.seqno) = 1 ∨
      toU32 (int32 (dccpDeltaSeqno a.seqno b.seqno)) ≤ b.ndp.val) : pos o b < px :=
  ha.pos_lt hb hpa (by have := int32_le_toU32 (dccpDeltaSeqno a.seqno b.seqno); omega)

theorem Around.pos_lt_of_not_newLoss {a b : RxHistEntry} (ha : Around o px a)
    (hb : Around o px b) (hpa : pos o a < px)
    (h : ¬(1 < int32 (dccpDeltaSeqno a.seqno b.seqno) ∧
      b.ndp.val < toU32 (int32 (dccpDeltaSeqno a.seqno b.seqno)))) : pos o b < px :=
  ha.pos_lt hb hpa (by have := int32_le_toU32 (dccpDeltaSeqno a.seqno b.seqno); omega)

theorem duplicate_eq_false {l : List RxHistEntry} {seq : Fin (2 ^ 48)}
    (h : ∀ e ∈ l, e.seqno ≠ seq) : duplicate l seq = false := by
  cases l with
  | nil => rfl
  | cons a t =>
    have h0 : ¬dccpDeltaSeqno a.seqno seq ≤ 0 := fun h' => h a (List.mem_cons_self _ _)
      ((fin_eq_iff_dccpDeltaSeqno a.seqno).2 (by rw [dccpDeltaSeqno_self]; omega))
    simp only [duplicate, h0, decide_False, Bool.false_or, List.any_eq_false, beq_iff_eq]
    exact fun e he => h e (List.mem_cons_of_mem _ he)

variable {s0 s1 s2 s3 p : RxHistEntry}

theorem keeps_newLossIndicated (h0 : Around o px s0) (hp : Around o px p)
    (hs0 : pos o s0 < px) : Keeps o px [p, s0] (newLossIndicated s0 p) := by
  simp only [newLossIndicated]
  split_ifs with hn
  · exact keeps_of hs0 (by simp) (by simp)
  · exact keeps_of (h0.pos_lt_of_not_newLoss hp hs0 hn) (by simp) (by simp [hs0])

theorem keeps_oneAfterLoss (h0 : Around o px s0) (h1 : Around o px s1) (hp : Around o px p)
    (hs0 : pos o s0 < px) : Keeps o px [p, s0, s1] (oneAfterLoss s0 s1 p) := by
  simp only [oneAfterLoss]
  split_ifs with h12 h2 h21
  · exact keeps_of hs0 (by simp) (by simp)
  · have hpx := h0.pos_lt_of_u32 hp hs0 h2
    exact keeps_of (hp.pos_lt_of_int_neg h1 hpx h21) (by simp) (by simp [hpx, hs0])
  · exact keeps_of (h0.pos_lt_of_u32 hp hs0 h2) (by simp) (by simp [hs0])
  · exact keeps_of hs0 (by simp) (by simp)

theorem keeps_threeAfterLoss (s0 : RxHistEntry) (h1 : Around o px s1) (h2 : Around o px s2)
    (h3 : Around o px s3) (hs1 : pos o s1 < px) :
    Keeps o px [s1, s2, s3] (threeAfterLoss [s0, s1, s2, s3]) := by
  simp only [threeAfterLoss]
  split_ifs with h12 h23
  · have hs2 := h1.pos_lt_of_int h2 hs1 h12
    exact keeps_of (h2.pos_lt_of_int h3 hs2 h23) (by simp) (by simp [hs1, hs2])
  · exact keeps_of (h1.pos_lt_of_int h2 hs1 h12) (by simp) (by simp [hs1])
  · exact keeps_of hs1 (by simp) (by simp)

/-- A report from an anchor before the lost packet places it, or `__three_after_loss`
keeps the anchor before it. -/
theorem good_or_keeps_report {L : List RxHistEntry} (hs0 : pos o s0 < px)
    (h1 : Around o px s1) (h2 : Around o px s2) (h3 : Around o px s3)
    (hL : ∀ e ∈ L, e = s0 ∨ e ∈ [s1, s2, s3]) :
    Good o px [s0, s1, s2, s3] ∨ Keeps o px L (threeAfterLoss [s0, s1, s2, s3]) := by
  rcases Nat.lt_or_gt_of_ne h1.ne with hs1 | hs1
  · exact .inr ((keeps_threeAfterLoss s0 h1 h2 h3 hs1).mono fun e he =>
      (hL e he).imp (fun h : e = s0 => h ▸ hs0) id)
  · exact .inl ⟨hs0, hs1⟩

theorem twoAfterLoss_good_or_keeps (h0 : Around o px s0) (h1 : Around o px s1)
    (h2 : Around o px s2) (hp : Around o px p) (hs0 : pos o s0 < px) :
    ∃ l b, twoAfterLoss s0 s1 s2 p = (l, b) ∧
      (b = true ∧ (Good o px l ∨ Keeps o px [p, s0, s1, s2] (threeAfterLoss l)) ∨
        b = false ∧ Keeps o px [p, s0, s1, s2] l) := by
  simp only [twoAfterLoss]
  split_ifs with h23 h13 h3 h31 h12
  · exact ⟨_, _, rfl, .inl ⟨rfl, good_or_keeps_report hs0 h1 h2 hp (by simp)⟩⟩
  · exact ⟨_, _, rfl, .inl ⟨rfl, good_or_keeps_report hs0 h1 hp h2 (by simp)⟩⟩
  · have hpx := h0.pos_lt_of_u32 hp hs0 h3
    have hs1 := hp.pos_lt_of_int_neg h1 hpx h31
    exact ⟨_, _, rfl, .inr ⟨rfl,
      keeps_of (h1.pos_lt_of_int h2 hs1 h12) (by simp) (by simp [hpx, hs0, hs1])⟩⟩
  · have hpx := h0.pos_lt_of_u32 hp hs0 h3
    exact ⟨_, _, rfl, .inr ⟨rfl,
      keeps_of (hp.pos_lt_of_int_neg h1 hpx h31) (by simp) (by simp [hpx, hs0])⟩⟩
  · exact ⟨_, _, rfl, .inr ⟨rfl, keeps_of (h0.pos_lt_of_u32 hp hs0 h3) (by simp) (by simp [hs0])⟩⟩
  · exact ⟨_, _, rfl, .inl ⟨rfl, good_or_keeps_report hs0 hp h1 h2 (by simp)⟩⟩

/-- One arrival, from tracked records in any order with the anchor before the lost packet. -/
theorem reportsOrKeeps_rxPacketRecv {l : List RxHistEntry} (hl : ∀ e ∈ p :: l, Around o px e)
    (hd : ∀ e ∈ l, e.seqno ≠ p.seqno) (ha : AnchorBefore o px l) (hlen : l.length ≤ 3) :
    ReportsOrKeeps o px (p :: l) (rxPacketRecv l p) := by
  have hp := hl p (List.mem_cons_self _ _)
  unfold rxPacketRecv
  rcases l with _ | ⟨s0, _ | ⟨s1, _ | ⟨s2, _ | ⟨s3, l⟩⟩⟩⟩
  · obtain ⟨_, ⟨⟩, _⟩ := ha
  · simp only [duplicate_eq_false hd, Bool.false_eq_true, if_false, ReportsOrKeeps]
    exact .inr (keeps_newLossIndicated (hl s0 (by simp)) hp (anchorBefore_cons.1 ha))
  · simp only [duplicate_eq_false hd, Bool.false_eq_true, if_false, handleLoss, ReportsOrKeeps]
    exact .inr (keeps_oneAfterLoss (hl s0 (by simp)) (hl s1 (by simp)) hp (anchorBefore_cons.1 ha))
  · obtain ⟨l', b, he, h⟩ :=
      twoAfterLoss_good_or_keeps (hl s0 (by simp)) (hl s1 (by simp)) (hl s2 (by simp)) hp
        (anchorBefore_cons.1 ha)
    simp only [duplicate_eq_false hd, Bool.false_eq_true, if_false, handleLoss, he,
      ReportsOrKeeps]
    rcases h with ⟨rfl, h⟩ | ⟨rfl, h⟩ <;> simpa using h
  · simp at hlen

/-- Until a report puts the lost packet between entry(0) and entry(1), the anchor stays before
it and every arrival after it stays tracked. -/
theorem keeps_run {L l : List RxHistEntry} (ps : List RxHistEntry) (hk : Keeps o px L l)
    (hl : ∀ e ∈ l ++ ps, Around o px e) (hnd : (ps.map RxHistEntry.seqno).Nodup)
    (hd : ∀ e ∈ l, ∀ q ∈ ps, e.seqno ≠ q.seqno) (hg : ∀ R ∈ (run l ps).2, ¬Good o px R) :
    Keeps o px (ps ++ L) (run l ps).1 := by
  induction ps generalizing L l with
  | nil => simpa using hk
  | cons p ps ih =>
    simp only [run] at hg ⊢
    have hpl : ∀ e ∈ p :: l, Around o px e := fun e he => hl e (by
      rcases List.mem_cons.1 he with rfl | he <;> simp [*])
    obtain ⟨hp, hnd⟩ := List.nodup_cons.1 hnd
    rcases reportsOrKeeps_rxPacketRecv hpl (fun e he => hd e he p (List.mem_cons_self _ _))
      hk.1 hk.2.1 with ⟨R, hR, hgood⟩ | hk1
    · exact absurd hgood (hg R (by simp [hR]))
    have hsub := (rxPacketRecv_subset l p).1
    refine (ih (hk.trans hk1) (fun e he => ?_) hnd (fun e he q hq => ?_)
      fun R hR => hg R (List.mem_append_right _ hR)).mono fun e he => .inr (by
        simp only [List.mem_append, List.mem_cons] at he ⊢; tauto)
    · rcases List.mem_append.1 he with he | he
      · exact hpl e (hsub he)
      · exact hl e (by simp [he])
    · rcases List.mem_cons.1 (hsub he) with rfl | he
      · exact fun h => hp (h ▸ List.mem_map_of_mem _ hq)
      · exact hd e he q (List.mem_cons_of_mem _ hq)

/-- Completeness on the list transcription: by the third arrival after the lost packet, some
step has reported it between entry(0) and entry(1). -/
theorem exists_good_run {l : List RxHistEntry} (ps : List RxHistEntry)
    (hl : ∀ e ∈ l ++ ps, Around o px e) (hnd : (ps.map RxHistEntry.seqno).Nodup)
    (hd : ∀ e ∈ l, ∀ q ∈ ps, e.seqno ≠ q.seqno) (ha : AnchorBefore o px l) (hlen : l.length ≤ 3)
    (h3 : 3 ≤ (ps.filter fun e => px < pos o e).length) : ∃ R ∈ (run l ps).2, Good o px R := by
  by_contra hg
  push_neg at hg
  have := (keeps_run ps (show Keeps o px [] l from ⟨ha, hlen, by simp⟩) hl hnd hd hg).length_le
    (by simpa using hnd.of_map _)
  simp only [List.append_nil] at this
  omega

end Hole

end Tracked

open Tracked

theorem dccpDeltaSeqno_stream (s0 : Nat) {lo i : Nat} (h1 : lo ≤ i) (h2 : i < lo + 2 ^ 31) :
    dccpDeltaSeqno ((s0 + lo) % 2 ^ 48) ((s0 + i) % 2 ^ 48) = i - lo := by
  rw [dccpDeltaSeqno_eq]; omega

theorem before48_iff_pos {o px xs : Nat} {e : RxHistEntry} (hxs : dccpDeltaSeqno o xs = px)
    (hpx : px < 2 ^ 31) (he : pos o e < 2 ^ 31) :
    (before48 e.seqno xs ↔ pos o e < px) ∧ (before48 xs e.seqno ↔ px < pos o e) := by
  unfold pos at he ⊢
  rw [before48_via o _ _ (by omega) (by omega), before48_via o _ _ (by omega) (by omega), hxs]
  exact ⟨Iff.rfl, Iff.rfl⟩

theorem seqno_ne_of_nodup {l l' : List RxHistEntry} (hnd : ((l ++ l').map RxHistEntry.seqno).Nodup)
    {e q : RxHistEntry} (he : e ∈ l) (hq : q ∈ l') : e.seqno ≠ q.seqno := fun h => by
  rw [List.map_append] at hnd
  exact List.disjoint_of_nodup_append hnd (List.mem_map_of_mem _ he)
    (h ▸ List.mem_map_of_mem _ hq)

theorem good_tracked {o px : Nat} {h : RxHist} (hg : Good o px h.tracked) :
    ∃ t, h.tracked = h.read 0 :: h.read 1 :: t ∧ pos o (h.read 0) < px ∧ px < pos o (h.read 1) := by
  by_cases h0 : h.lossCount = 0
  · rw [show h.tracked = [h.read 0] by simp [RxHist.tracked, h0]] at hg
    exact hg.elim
  · obtain ⟨t, ht⟩ := RxHist.tracked_pending h h0
    rw [ht] at hg
    exact ⟨t, ht, hg⟩

variable (saneRttMax : Nat)

theorem rxRunLoss_lossCount (h : RxHist) (ps : List (Bool × RxHistEntry)) (hc : h.lossCount ≤ 2) :
    (rxRunLoss saneRttMax h ps).1.lossCount ≤ 2 := by
  induction ps generalizing h with
  | nil => exact hc
  | cons bp ps ih =>
    obtain ⟨b, p⟩ := bp
    simp only [rxRunLoss]
    exact ih _ (rxPacketRecv_lossCount saneRttMax b h p hc)

theorem rxRunLoss_addPacket_tracked {slab : Fin 4 → Option RxHistEntry} {h0 : RxHist}
    (halloc : tfrcRxHistAlloc slab = some h0) (f : RxHistEntry) (pre : List RxHistEntry) :
    ((rxRunLoss saneRttMax (h0.tfrcRxHistAddPacket f) (pre.map (false, ·))).1.tracked,
        (rxRunLoss saneRttMax (h0.tfrcRxHistAddPacket f) (pre.map (false, ·))).2.map
          RxHist.tracked) = run [f] pre ∧
      (rxRunLoss saneRttMax (h0.tfrcRxHistAddPacket f) (pre.map (false, ·))).1.lossCount ≤ 2 := by
  have h1c : (h0.tfrcRxHistAddPacket f).lossCount ≤ 2 := by
    rw [RxHist.tfrcRxHistAddPacket_lossCount, tfrcRxHistAlloc_lossCount halloc]; decide
  refine ⟨?_, rxRunLoss_lossCount saneRttMax _ _ h1c⟩
  rw [← RxHist.tracked_addPacket_of_lossCount_zero f (tfrcRxHistAlloc_lossCount halloc)]
  exact rxRunLoss_tracked saneRttMax _ pre h1c

/-- Over any run from `tfrc_rx_hist_alloc`, the anchor moves from before the lost packet to
it or beyond only at a step that hands `tfrc_lh_interval_add` the lost packet between
entry(0) and entry(1). -/
theorem anchor_passes_only_at_report {o px xs : Nat} (hxs : dccpDeltaSeqno o xs = px)
    (hpx : px < 2 ^ 31) {slab : Fin 4 → Option RxHistEntry} {h0 : RxHist}
    (halloc : tfrcRxHistAlloc slab = some h0) {f : RxHistEntry} {ps : List RxHistEntry}
    (hA : ∀ e ∈ f :: ps, Around o px e) (hnd : ((f :: ps).map RxHistEntry.seqno).Nodup)
    {pre : List RxHistEntry} {p : RxHistEntry} {post : List RxHistEntry}
    (hps : ps = pre ++ p :: post)
    (hb : before48 ((rxRun saneRttMax (h0.tfrcRxHistAddPacket f) (pre.map (false, ·))).read
      0).seqno xs)
    (hnb : ¬before48 ((rxPacketRecv saneRttMax false
      (rxRun saneRttMax (h0.tfrcRxHistAddPacket f) (pre.map (false, ·))) p).1.read 0).seqno xs) :
    ∃ R, (rxPacketRecv saneRttMax false
        (rxRun saneRttMax (h0.tfrcRxHistAddPacket f) (pre.map (false, ·))) p).2 = some R ∧
      before48 (R.read 0).seqno xs ∧ before48 xs (R.read 1).seqno := by
  obtain ⟨hrun, hlc⟩ := rxRunLoss_addPacket_tracked saneRttMax halloc f pre
  rw [rxRunLoss_fst] at hrun hlc
  generalize rxRun saneRttMax (h0.tfrcRxHistAddPacket f) (pre.map (false, ·)) = h
    at hrun hlc hb hnb ⊢
  have ht : h.tracked ⊆ f :: pre := by
    rw [show h.tracked = (run [f] pre).1 from congrArg Prod.fst hrun]
    exact (run_subset [f] pre).1
  have hl : ∀ e ∈ p :: h.tracked, Around o px e := fun e he => hA e (by
    rcases List.mem_cons.1 he with rfl | he
    · simp [hps]
    · rcases List.mem_cons.1 (ht he) with rfl | he <;> simp [hps, he])
  rw [hps, ← List.cons_append] at hnd
  have hd : ∀ e ∈ h.tracked, e.seqno ≠ p.seqno := fun e he =>
    seqno_ne_of_nodup hnd (ht he) (List.mem_cons_self _ _)
  have h0mem : h.read 0 ∈ h.tracked := by
    rw [RxHist.tracked_eq_cons]; exact List.mem_cons_self _ _
  have ha : AnchorBefore o px h.tracked := by
    rw [RxHist.tracked_eq_cons, anchorBefore_cons]
    exact (before48_iff_pos hxs hpx (hl _ (List.mem_cons_of_mem _ h0mem)).lt).1.1 hb
  have hlen : h.tracked.length ≤ 3 := by rw [RxHist.length_tracked]; omega
  have step := reportsOrKeeps_rxPacketRecv hl hd ha hlen
  have hsubR := (rxPacketRecv_subset h.tracked p).2
  rw [← rxPacketRecv_tracked saneRttMax h p hlc] at step hsubR
  generalize rxPacketRecv saneRttMax false h p = r at step hsubR hnb ⊢
  obtain ⟨r1, r2⟩ := r
  simp only [ReportsOrKeeps] at step hsubR hnb ⊢
  rcases step with ⟨R, hR, hg⟩ | hk
  · obtain ⟨R', rfl, rfl⟩ := Option.map_eq_some'.1 hR
    obtain ⟨t, hRt, hg0, hg1⟩ := good_tracked hg
    have hsub := hsubR _ rfl
    exact ⟨R', rfl, (before48_iff_pos hxs hpx (hl _ (hsub (by simp [hRt]))).lt).1.2 hg0,
      (before48_iff_pos hxs hpx (hl _ (hsub (by simp [hRt]))).lt).2.2 hg1⟩
  · obtain ⟨a, ha', hpa⟩ := hk.1
    rw [RxHist.tracked_eq_cons] at ha'
    obtain rfl : r1.read 0 = a := by simpa using ha'
    exact absurd ((before48_iff_pos hxs hpx (by omega)).1.2 hpa) hnb

/-- Over any run from `tfrc_rx_hist_alloc` and a first arrival before the lost packet, some
step has handed `tfrc_lh_interval_add` the lost packet between entry(0) and entry(1) by the
end of the third arrival after it. -/
theorem reports_by_third_after {o px xs : Nat} (hxs : dccpDeltaSeqno o xs = px)
    (hpx : px < 2 ^ 31) {slab : Fin 4 → Option RxHistEntry} {h0 : RxHist}
    (halloc : tfrcRxHistAlloc slab = some h0) {f : RxHistEntry} {ps : List RxHistEntry}
    (hA : ∀ e ∈ f :: ps, Around o px e) (hnd : ((f :: ps).map RxHistEntry.seqno).Nodup)
    (hf : before48 f.seqno xs) {pre post : List RxHistEntry} (hps : ps = pre ++ post)
    (h3 : 3 ≤ (pre.filter fun e => before48 xs e.seqno).length) :
    ∃ R ∈ (rxRunLoss saneRttMax (h0.tfrcRxHistAddPacket f) (pre.map (false, ·))).2,
      before48 (R.read 0).seqno xs ∧ before48 xs (R.read 1).seqno := by
  obtain ⟨hrun, -⟩ := rxRunLoss_addPacket_tracked saneRttMax halloc f pre
  rw [hps, List.map_cons, List.map_append] at hnd
  obtain ⟨hfn, hnd⟩ := List.nodup_cons.1 hnd
  have hl : ∀ e ∈ [f] ++ pre, Around o px e := fun e he => hA e (by
    simp only [hps, List.singleton_append, List.mem_cons, List.mem_append] at he ⊢; tauto)
  have hcount : (pre.filter fun e => before48 xs e.seqno) = pre.filter fun e => px < pos o e :=
    List.filter_congr fun e he => by
      rw [Bool.eq_iff_iff, decide_eq_true_iff,
        (before48_iff_pos hxs hpx (hl e (by simp [he])).lt).2]
  have hd : ∀ e ∈ [f], ∀ q ∈ pre, e.seqno ≠ q.seqno := fun e he q hq h => by
    rw [List.mem_singleton.1 he] at h
    exact hfn (List.mem_append_left _ (h ▸ List.mem_map_of_mem _ hq))
  obtain ⟨R, hR, hg⟩ := exists_good_run pre hl hnd.of_append_left hd
    (anchorBefore_cons.2 ((before48_iff_pos hxs hpx (hA f (List.mem_cons_self _ _)).lt).1.1 hf))
    (by simp) (hcount ▸ h3)
  have hsub := (run_subset [f] pre).2 R hR
  rw [← congrArg Prod.snd hrun] at hR
  obtain ⟨R', hR', rfl⟩ := List.mem_map.1 hR
  obtain ⟨t, hRt, hg0, hg1⟩ := good_tracked hg
  exact ⟨R', hR', (before48_iff_pos hxs hpx (hl _ (hsub (by simp [hRt]))).lt).1.2 hg0,
    (before48_iff_pos hxs hpx (hl _ (hsub (by simp [hRt]))).lt).2.2 hg1⟩

/-- Packet `i` of a stream that starts at sequence number `s0`, where `ks` marks the
non-data packets: its sequence number, and an NDP count of at most the count
`dccp_insert_option_ndp` maintains for it (less when the option is left out or truncated). -/
def StreamPacket (ks : List Bool) (s0 i : Nat) (e : RxHistEntry) : Prop :=
  e.seqno.val = (s0 + i) % 2 ^ 48 ∧ e.ndp.val ≤ ((ndpStream 0 ks).getD i 0).toNat

instance (ks : List Bool) (s0 i : Nat) (e : RxHistEntry) : Decidable (StreamPacket ks s0 i e) :=
  inferInstanceAs (Decidable (_ ∧ _))

theorem StreamPacket.around {ks : List Bool} {s0 lo ix i : Nat} {e : RxHistEntry}
    (he : StreamPacket ks s0 i e) (hx : ks[ix]? = some false) (hlo : lo ≤ ix) (hi : lo ≤ i)
    (hi' : i < lo + 2 ^ 31) (hix : i ≠ ix) : Around ((s0 + lo) % 2 ^ 48) (ix - lo) e := by
  have hpos : pos ((s0 + lo) % 2 ^ 48) e = i - lo := by
    rw [pos, he.1]; exact dccpDeltaSeqno_stream s0 hi hi'
  refine ⟨by omega, by omega, fun h => ?_⟩
  rw [hpos] at h ⊢
  have := ndpStream_lt_of_data ks 0 (show ix < i by omega) hx (by decide) (by decide)
  have := he.2
  omega

/-- Completeness of loss detection. The sender's packets have consecutive sequence numbers
from `s0`, data or non-data as `ks` says, each with the NDP count of `dccp_insert_option_ndp`;
data packet `ix` is lost. The receiver allocates its history, stores the first arrival `f`
and passes each later arrival of `ps` through the receive path without RTT sampling; the
arrivals are distinct packets of the window `[lo, lo + 2^31)`, which holds the lost packet,
and `f` is before it. Then the anchor passes the lost packet only at a step that hands
`tfrc_lh_interval_add` the lost packet between entry(0) and entry(1), and such a step has
come by the end of the third arrival after the lost packet. -/
theorem rxRunLoss_reports_lost_packet {slab : Fin 4 → Option RxHistEntry} {h0 : RxHist}
    (halloc : tfrcRxHistAlloc slab = some h0) (ks : List Bool) (s0 lo ix : Nat)
    (hx : ks[ix]? = some false) (hlo : lo ≤ ix) (hix : ix < lo + 2 ^ 31)
    (f : RxHistEntry) (ps : List RxHistEntry)
    (hs : ∀ e ∈ f :: ps, ∃ i, lo ≤ i ∧ i < lo + 2 ^ 31 ∧ i ≠ ix ∧ StreamPacket ks s0 i e)
    (hnd : ((f :: ps).map RxHistEntry.seqno).Nodup)
    (hf : before48 f.seqno ((s0 + ix) % 2 ^ 48)) :
    (∀ pre p post, ps = pre ++ p :: post →
      before48 ((rxRun saneRttMax (h0.tfrcRxHistAddPacket f) (pre.map (false, ·))).read
        0).seqno ((s0 + ix) % 2 ^ 48) →
      ¬before48 ((rxPacketRecv saneRttMax false
        (rxRun saneRttMax (h0.tfrcRxHistAddPacket f) (pre.map (false, ·))) p).1.read 0).seqno
        ((s0 + ix) % 2 ^ 48) →
      ∃ R, (rxPacketRecv saneRttMax false
          (rxRun saneRttMax (h0.tfrcRxHistAddPacket f) (pre.map (false, ·))) p).2 = some R ∧
        before48 (R.read 0).seqno ((s0 + ix) % 2 ^ 48) ∧
        before48 ((s0 + ix) % 2 ^ 48) (R.read 1).seqno) ∧
    ∀ pre post, ps = pre ++ post →
      3 ≤ (pre.filter fun e => before48 ((s0 + ix) % 2 ^ 48) e.seqno).length →
      ∃ R ∈ (rxRunLoss saneRttMax (h0.tfrcRxHistAddPacket f) (pre.map (false, ·))).2,
        before48 (R.read 0).seqno ((s0 + ix) % 2 ^ 48) ∧
        before48 ((s0 + ix) % 2 ^ 48) (R.read 1).seqno := by
  have hA : ∀ e ∈ f :: ps, Around ((s0 + lo) % 2 ^ 48) (ix - lo) e := fun e he => by
    obtain ⟨i, hi, hi', hne, hp⟩ := hs e he
    exact hp.around hx hlo hi hi' hne
  have hxs := dccpDeltaSeqno_stream s0 hlo hix
  exact ⟨fun pre p post hps =>
      anchor_passes_only_at_report saneRttMax hxs (by omega) halloc hA hnd hps,
    fun pre post hps => reports_by_third_after saneRttMax hxs (by omega) halloc hA hnd hf hps⟩

/-- Packet 2 of six data packets is lost; 0 arrives first, then 3, the late 1, 4 and 5. The
late packet becomes the anchor, and the arrival of 5 hands `tfrc_lh_interval_add` entry(0) = 1
and entry(1) = 3. -/
theorem rxRunLoss_reports_lost_packet_reordered :
    ∃ R ∈ (rxRunLoss 0 ((⟨1, fun _ => ⟨0, 0, 0, 0, 0⟩, 0, 0⟩ : RxHist).tfrcRxHistAddPacket
        ⟨0, 0, 0, 0, 0⟩) ([⟨3, 0, 0, 0, 0⟩, ⟨1, 0, 0, 0, 0⟩, ⟨4, 0, 0, 0, 0⟩, ⟨5, 0, 0, 0, 0⟩].map
          (false, ·))).2,
      before48 (R.read 0).seqno 2 ∧ before48 2 (R.read 1).seqno :=
  (rxRunLoss_reports_lost_packet 0 (show tfrcRxHistAlloc (fun _ => some ⟨0, 0, 0, 0, 0⟩) =
      some ⟨1, fun _ => ⟨0, 0, 0, 0, 0⟩, 0, 0⟩ from rfl) (List.replicate 6 false) 0 0 2 rfl
    (by decide) (by decide) _ _ (by
      simp only [List.mem_cons, List.mem_singleton, List.not_mem_nil, or_false]
      rintro e (rfl | rfl | rfl | rfl | rfl)
      exacts [⟨0, by decide⟩, ⟨3, by decide⟩, ⟨1, by decide⟩, ⟨4, by decide⟩, ⟨5, by decide⟩])
    (by decide) (by decide)).2 _ [] (List.append_nil _).symm (by decide)

end DccpTfrc
