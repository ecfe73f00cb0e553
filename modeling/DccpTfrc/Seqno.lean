import DccpTfrc.Arith

namespace DccpTfrc

/-- The packet types `DCCP_PKT_*` of `linux/dccp.h`, which is not in this tree. -/
inductive DccpPktType
  | request | response | data | ack | dataAck | closeReq | close | reset | sync | syncAck
  deriving DecidableEq, Repr

def dccpNonDataPacket (type : DccpPktType) : Bool :=
  type == .ack || type == .close || type == .closeReq || type == .reset || type == .sync ||
    type == .syncAck

def dccpPacketWithoutAck (type : DccpPktType) : Bool := type == .data || type == .request

def dccpMaxSeqno : Nat := 2 ^ 48 - 1

/-- `DCCP_PKT_WITHOUT_ACK_SEQ`: the acknowledgement number of a packet that carries none. -/
def dccpPktWithoutAckSeq : Nat := dccpMaxSeqno * 2 ^ 2

/-- `dccp_set_seqno`: a u64 above `DCCP_MAX_SEQNO` is brought back by one turn of 2^48. -/
def dccpSetSeqno (value : Nat) : Nat :=
  if dccpMaxSeqno < value then value - (dccpMaxSeqno + 1) else value

def dccpIncSeqno (seqno : Nat) : Nat :=
  if dccpMaxSeqno < (seqno + 1) % 2 ^ 64 then 0 else (seqno + 1) % 2 ^ 64

def max48 (seq1 seq2 : Nat) : Nat := if after48 seq1 seq2 then seq1 else seq2

/-- The sequence-number variables of `struct dccp_sock` that the receive path reads and writes. -/
structure SeqVars where
  swl : Nat
  swh : Nat
  awl : Nat
  awh : Nat
  isr : Nat
  osr : Nat
  gsr : Nat
  gar : Nat
  deriving DecidableEq, Repr

variable (w : Nat)

/-- `dccp_update_gsr`, with `w` the Sequence Window; `SWL` is computed from the old `GSR`. -/
def dccpUpdateGsr (s : SeqVars) (seq : Nat) : SeqVars :=
  let tmpGsr := dccpSetSeqno ((s.gsr + 1 + 2 ^ 64 - w / 4) % 2 ^ 64)
  { s with
    gsr := seq
    swl := dccpSetSeqno (max48 tmpGsr s.isr)
    swh := dccpSetSeqno ((seq + 3 * w % 2 ^ 64 / 4) % 2 ^ 64) }

/-- What `dccp_check_seqno` decides: accept with new variables, drop, or drop with a Sync. -/
inductive SeqCheck
  | ok (s : SeqVars)
  | drop
  | sync
  deriving DecidableEq, Repr

/-- Step 6 of `dccp_check_seqno`, with `lswl` and `lawl` the lower ends of the two windows. -/
def seqnoStep6 (s : SeqVars) (type : DccpPktType) (seq ackSeq lswl lawl : Nat) : SeqCheck :=
  if between48 seq lswl s.swh &&
      (ackSeq == dccpPktWithoutAckSeq || between48 ackSeq lawl s.awh) then
    let s := dccpUpdateGsr w s seq
    .ok (if type ≠ .sync ∧ ackSeq ≠ dccpPktWithoutAckSeq then { s with gar := ackSeq } else s)
  else .sync

/-- A Sync or SyncAck first moves the windows (Step 5), which Step 6 then reads. -/
def dccpCheckSeqno (s : SeqVars) (type : DccpPktType) (seq ackSeq : Nat) : SeqCheck :=
  if type = .sync ∨ type = .syncAck then
    if between48 ackSeq s.awl s.awh && !before48 seq s.swl then
      seqnoStep6 w (dccpUpdateGsr w s seq) type seq ackSeq s.swl s.awl
    else .drop
  else if type = .closeReq ∨ type = .close ∨ type = .reset then
    seqnoStep6 w s type seq ackSeq (dccpIncSeqno s.gsr) s.gar
  else seqnoStep6 w s type seq ackSeq s.swl s.awl

@[simp] theorem dccpUpdateGsr_gsr (s : SeqVars) (seq : Nat) : (dccpUpdateGsr w s seq).gsr = seq :=
  rfl

@[simp] theorem dccpUpdateGsr_isr (s : SeqVars) (seq : Nat) :
    (dccpUpdateGsr w s seq).isr = s.isr := rfl

@[simp] theorem dccpUpdateGsr_osr (s : SeqVars) (seq : Nat) :
    (dccpUpdateGsr w s seq).osr = s.osr := rfl

@[simp] theorem dccpUpdateGsr_awh (s : SeqVars) (seq : Nat) :
    (dccpUpdateGsr w s seq).awh = s.awh := rfl

theorem seqnoStep6_ok_iff {s s' : SeqVars} {type : DccpPktType} {seq ackSeq lswl lawl : Nat} :
    seqnoStep6 w s type seq ackSeq lswl lawl = .ok s' ↔
      (between48 seq lswl s.swh = true ∧
        (ackSeq = dccpPktWithoutAckSeq ∨ between48 ackSeq lawl s.awh = true)) ∧
      s' = if type ≠ .sync ∧ ackSeq ≠ dccpPktWithoutAckSeq then
        { dccpUpdateGsr w s seq with gar := ackSeq } else dccpUpdateGsr w s seq := by
  unfold seqnoStep6
  split
  · rename_i hw
    simp only [Bool.and_eq_true, Bool.or_eq_true, beq_iff_eq] at hw
    simp only [hw, true_and, SeqCheck.ok.injEq]
    exact eq_comm
  · rename_i hw
    simp only [Bool.and_eq_true, Bool.or_eq_true, beq_iff_eq] at hw
    simp only [hw, false_and, iff_false]
    exact SeqCheck.noConfusion

theorem dccpCheckSeqno_closing {s : SeqVars} {type : DccpPktType} {seq ackSeq : Nat}
    (h : type = .closeReq ∨ type = .close ∨ type = .reset) :
    dccpCheckSeqno w s type seq ackSeq =
      seqnoStep6 w s type seq ackSeq (dccpIncSeqno s.gsr) s.gar := by
  have hs : ¬(type = .sync ∨ type = .syncAck) := by rcases h with rfl | rfl | rfl <;> simp
  rw [dccpCheckSeqno, if_neg hs, if_pos h]

theorem dccpCheckSeqno_ok {s s' : SeqVars} {type : DccpPktType} {seq ackSeq : Nat}
    (h : dccpCheckSeqno w s type seq ackSeq = .ok s') :
    s'.gsr = seq ∧ s'.isr = s.isr ∧ s'.osr = s.osr := by
  unfold dccpCheckSeqno at h
  split_ifs at h <;> obtain ⟨-, rfl⟩ := (seqnoStep6_ok_iff w).1 h <;> split_ifs <;> simp

theorem dccpSetSeqno_mod (v : Nat) : dccpSetSeqno v % 2 ^ 48 = v % 2 ^ 48 := by
  unfold dccpSetSeqno dccpMaxSeqno; split_ifs <;> omega

theorem dccpDeltaSeqno_swh (hw : w < 2 ^ 46) (s : SeqVars) (seq lo : Nat)
    (h : dccpDeltaSeqno lo seq < 2 ^ 47) :
    dccpDeltaSeqno lo (dccpUpdateGsr w s seq).swh = dccpDeltaSeqno lo seq + 3 * w / 4 := by
  have hswh := dccpSetSeqno_mod ((seq + 3 * w % 2 ^ 64 / 4) % 2 ^ 64)
  rw [Nat.mod_mod_of_dvd _ (by decide), Nat.mod_eq_of_lt (by omega : 3 * w < 2 ^ 64)] at hswh
  simp only [dccpUpdateGsr, dccpDeltaSeqno_eq,
    Nat.mod_eq_of_lt (by omega : 3 * w < 2 ^ 64)] at h ⊢
  rw [hswh]
  omega

/-- Below a Sequence Window of 2^46, a Sync that Step 5 accepts passes Step 6. -/
theorem dccpCheckSeqno_sync_ne (hw : w < 2 ^ 46) {s : SeqVars} {type : DccpPktType}
    {seq ackSeq : Nat} (ht : type = .sync ∨ type = .syncAck) :
    dccpCheckSeqno w s type seq ackSeq ≠ .sync := by
  unfold dccpCheckSeqno
  rw [if_pos ht]
  split
  · rename_i h5
    simp only [Bool.and_eq_true, Bool.not_eq_true'] at h5
    have hnb := (before48_iff seq s.swl).not.1 (by simpa using h5.2)
    have hd : dccpDeltaSeqno s.swl seq < 2 ^ 47 := by
      rw [dccpDeltaSeqno_swap] at hnb; have := dccpDeltaSeqno_lt s.swl seq; omega
    have hseq : between48 seq s.swl (dccpUpdateGsr w s seq).swh = true := by
      rw [between48_iff, dccpDeltaSeqno_swh w hw s seq s.swl hd]
      exact Nat.le_add_right _ _
    unfold seqnoStep6
    rw [if_pos (by simp only [hseq, dccpUpdateGsr_awh, h5.1, Bool.or_true, Bool.and_true])]
    exact SeqCheck.noConfusion
  · exact SeqCheck.noConfusion

theorem dccpDeltaSeqno_congr (a : Nat) {b b' : Nat} (h : b % 2 ^ 48 = b' % 2 ^ 48) :
    dccpDeltaSeqno a b = dccpDeltaSeqno a b' := by
  simp only [dccpDeltaSeqno_eq, h]

theorem dccpDeltaSeqno_max48 (o t : Nat) :
    dccpDeltaSeqno o (max48 t o) =
      if 0 < dccpDeltaSeqno o t ∧ dccpDeltaSeqno o t ≤ 2 ^ 47 then dccpDeltaSeqno o t else 0 := by
  unfold max48
  rw [after48_eq_before48]
  by_cases h : 0 < dccpDeltaSeqno o t ∧ dccpDeltaSeqno o t ≤ 2 ^ 47
  · rw [if_pos ((before48_iff o t).2 h), if_pos h]
  · rw [if_neg (fun h' => h ((before48_iff o t).1 h')), if_neg h, dccpDeltaSeqno_self]

/-- The windows `dccp_update_gsr` sets, measured from `ISR`. -/
theorem dccpUpdateGsr_window (hw : w < 2 ^ 46) (s : SeqVars) (seq : Nat) :
    dccpDeltaSeqno s.isr (dccpUpdateGsr w s seq).swl =
        (if 0 < (dccpDeltaSeqno s.isr s.gsr + 1 + 2 ^ 48 - w / 4) % 2 ^ 48 ∧
            (dccpDeltaSeqno s.isr s.gsr + 1 + 2 ^ 48 - w / 4) % 2 ^ 48 ≤ 2 ^ 47 then
          (dccpDeltaSeqno s.isr s.gsr + 1 + 2 ^ 48 - w / 4) % 2 ^ 48 else 0) ∧
      dccpDeltaSeqno s.isr (dccpUpdateGsr w s seq).swh =
        (dccpDeltaSeqno s.isr seq + 3 * w / 4) % 2 ^ 48 := by
  have htmp : dccpDeltaSeqno s.isr (dccpSetSeqno ((s.gsr + 1 + 2 ^ 64 - w / 4) % 2 ^ 64)) =
      (dccpDeltaSeqno s.isr s.gsr + 1 + 2 ^ 48 - w / 4) % 2 ^ 48 := by
    rw [dccpDeltaSeqno_congr _ (dccpSetSeqno_mod _)]
    simp only [dccpDeltaSeqno_eq]; omega
  constructor
  · rw [dccpUpdateGsr, dccpDeltaSeqno_congr _ (dccpSetSeqno_mod _), dccpDeltaSeqno_max48, htmp]
  · rw [dccpUpdateGsr, dccpDeltaSeqno_congr _ (dccpSetSeqno_mod _),
      Nat.mod_eq_of_lt (by omega : 3 * w < 2 ^ 64)]
    simp only [dccpDeltaSeqno_eq]; omega

theorem dccpCheckSeqno_data_noAck (s : SeqVars) (seq : Nat) :
    dccpCheckSeqno w s .data seq dccpPktWithoutAckSeq =
      if between48 seq s.swl s.swh then .ok (dccpUpdateGsr w s seq) else .sync := by
  show seqnoStep6 w s .data seq dccpPktWithoutAckSeq s.swl s.awl = _
  rw [seqnoStep6]
  split <;> simp_all

end DccpTfrc
