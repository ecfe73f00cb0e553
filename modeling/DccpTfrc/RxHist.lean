import DccpTfrc.Arith
import Mathlib.GroupTheory.Perm.Basic
import Mathlib.Tactic.SplitIfs

namespace DccpTfrc

/-- `struct tfrc_rx_hist_entry`; `tstamp` is the arrival time as a `ktime_t`. The receive
path hands a packet to the history as the record `tfrc_rx_hist_entry_from_skb` makes of it,
so an arriving packet is also an `RxHistEntry`. -/
structure RxHistEntry where
  seqno : Fin (2 ^ 48)
  ccval : Fin 16
  type : Fin 16
  ndp : Fin (2 ^ 32)
  tstamp : Int
  deriving DecidableEq, Repr

/-- `struct tfrc_rx_hist`. `ring[i]` points to one of the four records `tfrc_rx_hist_alloc`
took from the slab and only swaps change it, so the ring is a permutation of the records;
`recs` holds their contents. `rtt_sample_prev` is a `#define` for `loss_start`. -/
structure RxHist where
  ring : Equiv.Perm (Fin 4)
  recs : Fin 4 → RxHistEntry
  lossCount : Fin 4
  lossStart : Fin 4

namespace RxHist

/-- Modelled from the spec: `tfrc_rx_hist_index`, the slot of entry(n), `(loss_start + n)
mod 4`. -/
def tfrcRxHistIndex (h : RxHist) (n : Fin 4) : Fin 4 := h.lossStart + n

/-- Modelled from the spec: `tfrc_rx_hist_entry`, the record of entry(n). -/
def tfrcRxHistEntry (h : RxHist) (n : Fin 4) : Fin 4 := h.ring (h.tfrcRxHistIndex n)

/-- Modelled from the spec: `tfrc_rx_hist_loss_prev`, the anchor record entry(0). -/
def tfrcRxHistLossPrev (h : RxHist) : Fin 4 := h.ring h.lossStart

/-- Modelled from the spec: `tfrc_rx_hist_last_rcv`, the record of entry(loss_count). -/
def tfrcRxHistLastRcv (h : RxHist) : Fin 4 := h.tfrcRxHistEntry h.lossCount

/-- The contents of entry(n). -/
def read (h : RxHist) (n : Fin 4) : RxHistEntry := h.recs (h.tfrcRxHistEntry n)

/-- `tfrc_rx_hist_entry_from_skb`, writing the packet into record `r`. -/
def tfrcRxHistEntryFromSkb (h : RxHist) (r : Fin 4) (p : RxHistEntry) : RxHist :=
  { h with recs := Function.update h.recs r p }

def tfrcRxHistAddPacket (h : RxHist) (p : RxHistEntry) : RxHist :=
  h.tfrcRxHistEntryFromSkb h.tfrcRxHistLastRcv p

/-- `tfrc_rx_hist_duplicate`. `dccp_delta_seqno` is unsigned, so `<= 0` only holds at 0. -/
def tfrcRxHistDuplicate (h : RxHist) (seq : Fin (2 ^ 48)) : Bool :=
  dccpDeltaSeqno (h.recs h.tfrcRxHistLossPrev).seqno seq ≤ 0 ||
    (List.range' 1 h.lossCount).any fun i => (h.read (Fin.ofNat i)).seqno == seq

def tfrcRxHistLossIndicated (h : RxHist) : RxHist := { h with lossCount := 1 }

def tfrcRxHistLossPending (h : RxHist) : Fin 4 := h.lossCount

/-- `tfrc_rx_hist_new_loss_indicated`; `ndp < delta` compares as unsigned. -/
def tfrcRxHistNewLossIndicated (h : RxHist) (p : RxHistEntry) : RxHist × Fin 4 :=
  let delta := int32 (dccpDeltaSeqno (h.recs h.tfrcRxHistLastRcv).seqno p.seqno)
  let h := if 1 < delta ∧ p.ndp.val < toU32 delta then h.tfrcRxHistLossIndicated else h
  (h, h.tfrcRxHistLossPending)

def tfrcRxHistSwap (h : RxHist) (a b : Fin 4) : RxHist :=
  { h with ring := h.ring * Equiv.swap (h.tfrcRxHistIndex a) (h.tfrcRxHistIndex b) }

@[simp] theorem tfrcRxHistLossPrev_eq (h : RxHist) :
    h.tfrcRxHistLossPrev = h.tfrcRxHistEntry 0 := by
  simp [tfrcRxHistLossPrev, tfrcRxHistEntry, tfrcRxHistIndex]

@[simp] theorem tfrcRxHistLastRcv_eq (h : RxHist) :
    h.tfrcRxHistLastRcv = h.tfrcRxHistEntry h.lossCount := rfl

@[simp] theorem recs_entry (h : RxHist) (n : Fin 4) : h.recs (h.tfrcRxHistEntry n) = h.read n :=
  rfl

@[simp] theorem tfrcRxHistEntry_inj (h : RxHist) {m n : Fin 4} :
    h.tfrcRxHistEntry m = h.tfrcRxHistEntry n ↔ m = n := by
  simp only [tfrcRxHistEntry, tfrcRxHistIndex, Equiv.apply_eq_iff_eq]; omega

@[simp] theorem read_setLossCount (h : RxHist) (c : Fin 4) (n : Fin 4) :
    ({ h with lossCount := c } : RxHist).read n = h.read n := rfl

/-- Moving `loss_start` to entry(k) renumbers the entries; the records and `loss_count` play
no part. -/
@[simp] theorem entry_setLossStart (h : RxHist) (recs : Fin 4 → RxHistEntry) (c k n : Fin 4) :
    ({ ring := h.ring, recs := recs, lossCount := c, lossStart := h.tfrcRxHistIndex k } :
        RxHist).tfrcRxHistEntry n = h.tfrcRxHistEntry (k + n) := by
  simp only [tfrcRxHistEntry, tfrcRxHistIndex]
  congr 1; omega

@[simp] theorem read_setLossStart (h : RxHist) (recs : Fin 4 → RxHistEntry) (c k n : Fin 4) :
    ({ ring := h.ring, recs := recs, lossCount := c, lossStart := h.tfrcRxHistIndex k } :
        RxHist).read n = recs (h.tfrcRxHistEntry (k + n)) :=
  congrArg recs (entry_setLossStart h recs c k n)

@[simp] theorem read_entryFromSkb (h : RxHist) (r n : Fin 4) (p : RxHistEntry) :
    (h.tfrcRxHistEntryFromSkb r p).read n = if h.tfrcRxHistEntry n = r then p else h.read n :=
  Function.update_apply h.recs r p _

theorem swap_add (s a b n : Fin 4) : Equiv.swap (s + a) (s + b) (s + n) = s + Equiv.swap a b n :=
  Function.Injective.swap_apply (fun x y (h : s + x = s + y) => by omega) a b n

@[simp] theorem entry_swap (h : RxHist) (a b n : Fin 4) :
    (h.tfrcRxHistSwap a b).tfrcRxHistEntry n = h.tfrcRxHistEntry (Equiv.swap a b n) := by
  simp [tfrcRxHistSwap, tfrcRxHistEntry, tfrcRxHistIndex, swap_add]

@[simp] theorem read_swap (h : RxHist) (a b n : Fin 4) :
    (h.tfrcRxHistSwap a b).read n = h.read (Equiv.swap a b n) :=
  congrArg h.recs (entry_swap h a b n)

/-- The reads of a swapped ring with any records, as the swaps' callers rebuild it. -/
@[simp] theorem read_swap_mk (h : RxHist) (a b : Fin 4) (f : Fin 4 → RxHistEntry) (c n : Fin 4) :
    ({ ring := (h.tfrcRxHistSwap a b).ring, recs := f, lossCount := c, lossStart := h.lossStart } :
      RxHist).read n = f (h.tfrcRxHistEntry (Equiv.swap a b n)) :=
  congrArg f (entry_swap h a b n)

@[simp] theorem tfrcRxHistEntryFromSkb_recs (h : RxHist) (r : Fin 4) (p : RxHistEntry) :
    (h.tfrcRxHistEntryFromSkb r p).recs = Function.update h.recs r p := rfl

@[simp] theorem tfrcRxHistEntryFromSkb_lossCount (h : RxHist) (r : Fin 4) (p : RxHistEntry) :
    (h.tfrcRxHistEntryFromSkb r p).lossCount = h.lossCount := rfl

@[simp] theorem tfrcRxHistEntryFromSkb_lossStart (h : RxHist) (r : Fin 4) (p : RxHistEntry) :
    (h.tfrcRxHistEntryFromSkb r p).lossStart = h.lossStart := rfl

@[simp] theorem tfrcRxHistEntryFromSkb_ring (h : RxHist) (r : Fin 4) (p : RxHistEntry) :
    (h.tfrcRxHistEntryFromSkb r p).ring = h.ring := rfl

@[simp] theorem tfrcRxHistSwap_lossCount (h : RxHist) (a b : Fin 4) :
    (h.tfrcRxHistSwap a b).lossCount = h.lossCount := rfl

@[simp] theorem tfrcRxHistSwap_lossStart (h : RxHist) (a b : Fin 4) :
    (h.tfrcRxHistSwap a b).lossStart = h.lossStart := rfl

@[simp] theorem tfrcRxHistSwap_recs (h : RxHist) (a b : Fin 4) :
    (h.tfrcRxHistSwap a b).recs = h.recs := rfl

@[simp] theorem tfrcRxHistAddPacket_lossCount (h : RxHist) (p : RxHistEntry) :
    (h.tfrcRxHistAddPacket p).lossCount = h.lossCount := rfl

theorem tfrcRxHistNewLossIndicated_lossCount (h : RxHist) (p : RxHistEntry) :
    (h.tfrcRxHistNewLossIndicated p).1.lossCount = 1 ∨
      (h.tfrcRxHistNewLossIndicated p).1.lossCount = h.lossCount := by
  simp only [tfrcRxHistNewLossIndicated, tfrcRxHistLossIndicated]; split_ifs <;> simp

/-- The value returned is `loss_count` as the call leaves it. -/
theorem tfrcRxHistNewLossIndicated_snd (h : RxHist) (p : RxHistEntry) :
    (h.tfrcRxHistNewLossIndicated p).2 = (h.tfrcRxHistNewLossIndicated p).1.lossCount := by
  simp only [tfrcRxHistNewLossIndicated]; split_ifs <;> rfl

@[simp] theorem tfrcRxHistNewLossIndicated_recs (h : RxHist) (p : RxHistEntry) :
    (h.tfrcRxHistNewLossIndicated p).1.recs = h.recs := by
  simp only [tfrcRxHistNewLossIndicated, tfrcRxHistLossIndicated]; split_ifs <;> rfl

/-- The duplicate test only catches the anchor's own sequence number and those of the
pending entries. -/
theorem tfrcRxHistDuplicate_iff (h : RxHist) (s : Fin (2 ^ 48)) :
    h.tfrcRxHistDuplicate s ↔
      (h.read 0).seqno = s ∨
        ∃ i : Fin 4, 1 ≤ i ∧ i ≤ h.lossCount ∧ (h.read i).seqno = s := by
  have hv (i : Nat) : ((Fin.ofNat i : Fin 4) : Nat) = i % 4 := rfl
  simp only [tfrcRxHistDuplicate, tfrcRxHistLossPrev_eq, recs_entry, dccpDeltaSeqno_eq,
    Bool.or_eq_true, decide_eq_true_eq, List.any_eq_true, List.mem_range'_1, beq_iff_eq]
  constructor
  · rintro (hd | ⟨i, ⟨hi1, hi2⟩, hs⟩)
    · left; ext; omega
    · exact .inr ⟨Fin.ofNat i, Fin.le_def.2 (by rw [hv]; omega),
        Fin.le_def.2 (by rw [hv]; omega), hs⟩
  · rintro (hs | ⟨i, hi1, hi2, hs⟩)
    · left; subst hs; omega
    · refine .inr ⟨i, ⟨hi1, by omega⟩, ?_⟩
      rwa [show (Fin.ofNat i : Fin 4) = i from Fin.ext (by rw [hv]; omega)]

/-- A packet one behind the anchor is not flagged, although it is before it. -/
theorem tfrcRxHistDuplicate_late :
    tfrcRxHistDuplicate ⟨1, fun _ => ⟨100, 0, 0, 0, 0⟩, 0, 0⟩ 99 = false ∧ before48 99 100 := by
  decide

end RxHist

/-- `tfrc_rx_hist_alloc`: `slab i` is what the i-th `kmem_cache_alloc` returned, `none` for
NULL; the records keep whatever contents the slab gave them. -/
def tfrcRxHistAlloc (slab : Fin 4 → Option RxHistEntry) : Option RxHist :=
  if h : ∀ i, (slab i).isSome then
    some { ring := 1, recs := fun i => (slab i).get (h i), lossCount := 0, lossStart := 0 }
  else none

theorem tfrcRxHistAlloc_lossCount {slab : Fin 4 → Option RxHistEntry} {h : RxHist}
    (ha : tfrcRxHistAlloc slab = some h) : h.lossCount = 0 := by
  unfold tfrcRxHistAlloc at ha
  split at ha
  · cases ha; rfl
  · cases ha

end DccpTfrc
