import DccpTfrc.Input

namespace DccpTfrc

variable (o : Dccpo) (w : Nat)

/-- The windows in-order packets up to `g` past `ISR` leave, measured from `ISR`. -/
def InOrder (sv : SeqVars) (g : Nat) : Prop :=
  dccpDeltaSeqno sv.isr sv.gsr = g ∧
    dccpDeltaSeqno sv.isr sv.swh = (g + 3 * w / 4) % 2 ^ 48 ∧
    dccpDeltaSeqno sv.isr sv.swl = if w / 4 < g ∧ g ≤ 2 ^ 47 + w / 4 then g - w / 4 else 0

instance (sv : SeqVars) (g : Nat) : Decidable (InOrder w sv g) :=
  inferInstanceAs (Decidable (_ ∧ _ ∧ _))

section Window

variable {w} {sv : SeqVars} {g seq : Nat}

/-- The next in-order packet lies in the window until `SWH` wraps past `ISR`. -/
theorem InOrder.next (h4 : 4 ≤ w) (hw : w < 2 ^ 46) (h : InOrder w sv g)
    (hseq : dccpDeltaSeqno sv.isr seq = g + 1) (hg : g + 3 * w / 4 < 2 ^ 48) :
    between48 seq sv.swl sv.swh = true ∧ InOrder w (dccpUpdateGsr w sv seq) (g + 1) := by
  -- where `max48` puts `SWL` after the update, read off `GSR`'s distance `g` from `ISR`
  have hS : (if 0 < (g + 1 + 2 ^ 48 - w / 4) % 2 ^ 48 ∧
        (g + 1 + 2 ^ 48 - w / 4) % 2 ^ 48 ≤ 2 ^ 47 then (g + 1 + 2 ^ 48 - w / 4) % 2 ^ 48
      else 0) = if w / 4 < g + 1 ∧ g + 1 ≤ 2 ^ 47 + w / 4 then g + 1 - w / 4 else 0 := by
    split_ifs <;> omega
  obtain ⟨hgsr, hswh, hswl⟩ := h
  rw [Nat.mod_eq_of_lt hg] at hswh
  have hL : dccpDeltaSeqno sv.isr sv.swl ≤ g := by rw [hswl]; split <;> omega
  obtain ⟨hl, hh⟩ := dccpUpdateGsr_window w hw sv seq
  refine ⟨(between48_via sv.isr seq _ _ (by omega)).2 (by omega), hseq, ?_, ?_⟩
  · rw [dccpUpdateGsr_isr, hh, hseq]
  · rw [dccpUpdateGsr_isr, hl, hgsr, hS]

theorem InOrder.accept {d : Nat} (h4 : 4 ≤ w) (hw : w < 2 ^ 46) (h : InOrder w sv g)
    (hnorm : w / 4 < g ∧ g ≤ 2 ^ 47) (hseq : dccpDeltaSeqno sv.isr seq = d)
    (hlo : g - w / 4 ≤ d) (hhi : d ≤ g + 3 * w / 4) :
    between48 seq sv.swl sv.swh = true ∧
      dccpDeltaSeqno sv.isr (dccpUpdateGsr w sv seq).swl = g + 1 - w / 4 ∧
      dccpDeltaSeqno sv.isr (dccpUpdateGsr w sv seq).swh = d + 3 * w / 4 := by
  have hX : (g + 1 + 2 ^ 48 - w / 4) % 2 ^ 48 = g + 1 - w / 4 := by omega
  obtain ⟨hgsr, hswh, hswl⟩ := h
  rw [Nat.mod_eq_of_lt (show g + 3 * w / 4 < 2 ^ 48 by omega)] at hswh
  rw [if_pos ⟨hnorm.1, by omega⟩] at hswl
  obtain ⟨hl, hh⟩ := dccpUpdateGsr_window w hw sv seq
  refine ⟨(between48_via sv.isr seq _ _ (by omega)).2 (by omega), ?_, ?_⟩
  · rw [hl, hgsr, hX, if_pos (by omega)]
  · rw [hh, hseq, Nat.mod_eq_of_lt (by omega)]

theorem InOrder.next_outside (hw : w < 2 ^ 46) (h : InOrder w sv g)
    (hseq : dccpDeltaSeqno sv.isr seq = g + 1) (hg : 2 ^ 48 ≤ g + 3 * w / 4) :
    between48 seq sv.swl sv.swh = false := by
  obtain ⟨-, hswh, hswl⟩ := h
  have := dccpDeltaSeqno_lt sv.isr seq
  rw [if_neg (by omega)] at hswl
  rw [Bool.eq_false_iff, Ne, between48_via sv.isr seq _ _ (by omega), hswh, hswl, hseq]
  omega

end Window

def dccpDataPacket (seq : Nat) : DccpPacket := ⟨.data, seq % 2 ^ 48, dccpPktWithoutAckSeq, []⟩

def inOrderData (env : RcvEnv) (seq : Nat) : Nat → List RcvInput
  | 0 => []
  | n + 1 => ⟨dccpDataPacket seq, env, env⟩ :: inOrderData env (seq + 1) n

/-- An OPEN socket queues a Data packet inside `[SWL, SWH]` and drops one outside with a Sync. -/
theorem dccpRcv_open_data (env env2 : RcvEnv) (s : DccpSock) (seq : Nat)
    (hs : s.state = .«open») (hfull : (s.sendAckVector && env.ackpktsFull) = false) :
    (dccpRcv o w env env2 s (dccpDataPacket seq)).1 =
      if between48 (seq % 2 ^ 48) s.seq.swl s.seq.swh then
        { s with
          seq := dccpUpdateGsr w s.seq (seq % 2 ^ 48)
          opts := { s.opts with recv := {}, mandatory := false }
          rcvQueue := s.rcvQueue ++ [dccpDataPacket seq]
          ccidRecv := s.ccidRecv ++ [dccpDataPacket seq] }
      else { s with sent := s.sent ++ [.sync (seq % 2 ^ 48)] } := by
  by_cases hb : between48 (seq % 2 ^ 48) s.seq.swl s.seq.swh
  · simp only [dccpRcv, hs, if_true, dccpRcvEstablished, rcvCheck, dccpDataPacket,
      dccpCheckSeqno_data_noAck, hb, dccpParseOptions_nil, hfull, Bool.false_eq_true, if_false]
    rfl
  · simp only [dccpRcv, hs, if_true, dccpRcvEstablished, rcvCheck, dccpDataPacket,
      dccpCheckSeqno_data_noAck, hb, Bool.false_eq_true, if_false]

theorem rcvRun_inOrderData (h4 : 4 ≤ w) (hw : w < 2 ^ 46) (env : RcvEnv) (n : Nat) :
    ∀ (s : DccpSock) (g : Nat), s.state = .«open» → InOrder w s.seq g →
      (s.sendAckVector && env.ackpktsFull) = false → g + n + 3 * w / 4 ≤ 2 ^ 48 →
      ∃ s', rcvRun o w s (inOrderData env (s.seq.isr + g + 1) n) = s' ∧ s'.state = .«open» ∧
        s'.rcvQueue = s.rcvQueue ++ (inOrderData env (s.seq.isr + g + 1) n).map (·.pkt) ∧
        s'.sent = s.sent ∧ s'.sendAckVector = s.sendAckVector ∧ s'.seq.isr = s.seq.isr ∧
        InOrder w s'.seq (g + n) := by
  induction n with
  | zero => exact fun s g hs h _ _ => ⟨s, rfl, hs, (List.append_nil _).symm, rfl, rfl, rfl, h⟩
  | succ n ih =>
    intro s g hs h hfull hn
    have hseq : dccpDeltaSeqno s.seq.isr ((s.seq.isr + g + 1) % 2 ^ 48) = g + 1 := by
      rw [dccpDeltaSeqno_eq]; omega
    obtain ⟨hin, hnext⟩ := h.next h4 hw hseq (by omega)
    obtain ⟨s', hrun, hs', hq, hsent, hav, hisr', hin'⟩ := ih
      { s with
        seq := dccpUpdateGsr w s.seq ((s.seq.isr + g + 1) % 2 ^ 48)
        opts := { s.opts with recv := {}, mandatory := false }
        rcvQueue := s.rcvQueue ++ [dccpDataPacket (s.seq.isr + g + 1)]
        ccidRecv := s.ccidRecv ++ [dccpDataPacket (s.seq.isr + g + 1)] }
      (g + 1) hs hnext hfull (by omega)
    have e : s.seq.isr + g + 1 + 1 = s.seq.isr + (g + 1) + 1 := by omega
    refine ⟨s', ?_, hs', ?_, hsent, hav, hisr', ?_⟩
    · rw [inOrderData, rcvRun, dccpRcv_open_data o w env env s _ hs hfull, if_pos hin, e]
      exact hrun
    · rw [hq, inOrderData, List.map_cons, e, List.append_assoc]; rfl
    · rwa [Nat.add_assoc, Nat.add_comm 1 n] at hin'

/-- In-order data stalls one wrap after `ISR`, when `max48` pulls `SWL` back to `ISR`. -/
theorem rcvRun_inOrder_stall (h4 : 4 ≤ w) (hw : w < 2 ^ 46) (env : RcvEnv) (s : DccpSock)
    (g : Nat) (hs : s.state = .«open») (h : InOrder w s.seq g)
    (hfull : (s.sendAckVector && env.ackpktsFull) = false) (hg : g + 3 * w / 4 < 2 ^ 48) :
    ∃ s', rcvRun o w s (inOrderData env (s.seq.isr + g + 1) (2 ^ 48 - 3 * w / 4 - g)) = s' ∧
      s'.rcvQueue =
        s.rcvQueue ++ (inOrderData env (s.seq.isr + g + 1) (2 ^ 48 - 3 * w / 4 - g)).map (·.pkt) ∧
      s'.sent = s.sent ∧
      (dccpRcv o w env env s' (dccpDataPacket (s.seq.isr + 2 ^ 48 - 3 * w / 4 + 1))).1 =
        { s' with sent := s.sent ++ [.sync ((s.seq.isr + 2 ^ 48 - 3 * w / 4 + 1) % 2 ^ 48)] } := by
  obtain ⟨s', hrun, hs', hq, hsent, hav, hisr, hin⟩ :=
    rcvRun_inOrderData o w h4 hw env (2 ^ 48 - 3 * w / 4 - g) s g hs h hfull (by omega)
  have hseq : dccpDeltaSeqno s'.seq.isr ((s.seq.isr + 2 ^ 48 - 3 * w / 4 + 1) % 2 ^ 48) =
      g + (2 ^ 48 - 3 * w / 4 - g) + 1 := by
    rw [hisr, dccpDeltaSeqno_eq]; omega
  refine ⟨s', hrun, hq, hsent, ?_⟩
  rw [dccpRcv_open_data o w env env s' _ hs' (by rw [hav]; exact hfull),
    if_neg (by rw [hin.next_outside hw hseq (by omega)]; exact Bool.false_ne_true), hsent]

theorem rcvRun_inOrder_stall_client :
    4 ≤ 100 ∧ 100 < 2 ^ 46 ∧ InOrder 100 ⟨0, 76, 0, 10, 0, 0, 1, 0⟩ 1 ∧ 1 + 3 * 100 / 4 < 2 ^ 48 ∧
      ∃ s', rcvRun dccpoLinux 100
          ⟨.«open», .client, ⟨0, 76, 0, 10, 0, 0, 1, 0⟩, false, ⟨{}, 0, 0, false, 0, 0⟩, false, [],
            [], []⟩
          (inOrderData default (0 + 1 + 1) (2 ^ 48 - 3 * 100 / 4 - 1)) = s' ∧
        s'.rcvQueue =
          [] ++ (inOrderData default (0 + 1 + 1) (2 ^ 48 - 3 * 100 / 4 - 1)).map (·.pkt) ∧
        s'.sent = [] ∧
        (dccpRcv dccpoLinux 100 default default s'
            (dccpDataPacket (0 + 2 ^ 48 - 3 * 100 / 4 + 1))).1 =
          { s' with sent := [] ++ [.sync ((0 + 2 ^ 48 - 3 * 100 / 4 + 1) % 2 ^ 48)] } :=
  ⟨by decide, by decide, by decide, by decide,
    rcvRun_inOrder_stall dccpoLinux 100 (by decide) (by decide) default _ 1 rfl (by decide) rfl
      (by decide)⟩

/-- `GSR` follows the last packet accepted, so an overtaking packet can shrink the window. -/
theorem rcvRun_reorder_refuses (h4 : 4 ≤ w) (hw : w < 2 ^ 46) (env : RcvEnv) (s : DccpSock)
    (g k : Nat) (hs : s.state = .«open») (h : InOrder w s.seq g)
    (hfull : (s.sendAckVector && env.ackpktsFull) = false) (hnorm : w / 4 < g ∧ g ≤ 2 ^ 47)
    (hk : 0 < k ∧ k ≤ w / 4) :
    (rcvRun o w s [⟨dccpDataPacket (s.seq.isr + g + 3 * w / 4), env, env⟩]).rcvQueue =
        s.rcvQueue ++ [dccpDataPacket (s.seq.isr + g + 3 * w / 4)] ∧
      (rcvRun o w s [⟨dccpDataPacket (s.seq.isr + g - k), env, env⟩,
          ⟨dccpDataPacket (s.seq.isr + g + 3 * w / 4), env, env⟩]).rcvQueue =
        s.rcvQueue ++ [dccpDataPacket (s.seq.isr + g - k)] ∧
      (rcvRun o w s [⟨dccpDataPacket (s.seq.isr + g - k), env, env⟩,
          ⟨dccpDataPacket (s.seq.isr + g + 3 * w / 4), env, env⟩]).sent =
        s.sent ++ [.sync ((s.seq.isr + g + 3 * w / 4) % 2 ^ 48)] := by
  have htop : dccpDeltaSeqno s.seq.isr ((s.seq.isr + g + 3 * w / 4) % 2 ^ 48) =
      g + 3 * w / 4 := by
    rw [dccpDeltaSeqno_eq]; omega
  have hold : dccpDeltaSeqno s.seq.isr ((s.seq.isr + g - k) % 2 ^ 48) = g - k := by
    rw [dccpDeltaSeqno_eq]; omega
  obtain ⟨hinTop, -, -⟩ := h.accept h4 hw hnorm htop (by omega) le_rfl
  -- the older packet pulls the window back to `[g + 1 - w/4, g - k + 3w/4]` from `ISR`
  obtain ⟨hinOld, hl, hh⟩ := h.accept h4 hw hnorm hold (by omega) (by omega)
  have hout : between48 ((s.seq.isr + g + 3 * w / 4) % 2 ^ 48)
      (dccpUpdateGsr w s.seq ((s.seq.isr + g - k) % 2 ^ 48)).swl
      (dccpUpdateGsr w s.seq ((s.seq.isr + g - k) % 2 ^ 48)).swh = false := by
    rw [Bool.eq_false_iff, Ne, between48_via s.seq.isr _ _ _ (by omega), hl, hh, htop]
    omega
  set R : DccpSock :=
    { s with
      seq := dccpUpdateGsr w s.seq ((s.seq.isr + g - k) % 2 ^ 48)
      opts := { s.opts with recv := {}, mandatory := false }
      rcvQueue := s.rcvQueue ++ [dccpDataPacket (s.seq.isr + g - k)]
      ccidRecv := s.ccidRecv ++ [dccpDataPacket (s.seq.isr + g - k)] } with hR
  have h1 : (dccpRcv o w env env s (dccpDataPacket (s.seq.isr + g - k))).1 = R := by
    rw [dccpRcv_open_data o w env env s _ hs hfull, if_pos hinOld]
  have h2 : (dccpRcv o w env env R (dccpDataPacket (s.seq.isr + g + 3 * w / 4))).1 =
      { R with sent := R.sent ++ [.sync ((s.seq.isr + g + 3 * w / 4) % 2 ^ 48)] } := by
    rw [dccpRcv_open_data o w env env R _ hs hfull, if_neg (Bool.eq_false_iff.1 hout)]
  refine ⟨?_, ?_, ?_⟩
  · rw [rcvRun, rcvRun, dccpRcv_open_data o w env env s _ hs hfull, if_pos hinTop]
  · simp only [rcvRun, h1, h2]
  · simp only [rcvRun, h1, h2]

theorem rcvRun_reorder_refuses_open :
    4 ≤ 100 ∧ 100 < 2 ^ 46 ∧ InOrder 100 ⟨975, 1075, 0, 10, 0, 0, 1000, 0⟩ 1000 ∧
      (100 / 4 < 1000 ∧ 1000 ≤ 2 ^ 47) ∧ (0 < 5 ∧ 5 ≤ 100 / 4) ∧
      (rcvRun dccpoLinux 100
          ⟨.«open», .client, ⟨975, 1075, 0, 10, 0, 0, 1000, 0⟩, false, ⟨{}, 0, 0, false, 0, 0⟩,
            false, [], [], []⟩
          [⟨dccpDataPacket (0 + 1000 + 3 * 100 / 4), default, default⟩]).rcvQueue =
        [] ++ [dccpDataPacket (0 + 1000 + 3 * 100 / 4)] ∧
      (rcvRun dccpoLinux 100
          ⟨.«open», .client, ⟨975, 1075, 0, 10, 0, 0, 1000, 0⟩, false, ⟨{}, 0, 0, false, 0, 0⟩,
            false, [], [], []⟩
          [⟨dccpDataPacket (0 + 1000 - 5), default, default⟩,
            ⟨dccpDataPacket (0 + 1000 + 3 * 100 / 4), default, default⟩]).rcvQueue =
        [] ++ [dccpDataPacket (0 + 1000 - 5)] ∧
      (rcvRun dccpoLinux 100
          ⟨.«open», .client, ⟨975, 1075, 0, 10, 0, 0, 1000, 0⟩, false, ⟨{}, 0, 0, false, 0, 0⟩,
            false, [], [], []⟩
          [⟨dccpDataPacket (0 + 1000 - 5), default, default⟩,
            ⟨dccpDataPacket (0 + 1000 + 3 * 100 / 4), default, default⟩]).sent =
        [] ++ [.sync ((0 + 1000 + 3 * 100 / 4) % 2 ^ 48)] :=
  ⟨by decide, by decide, by decide, by decide, by decide,
    rcvRun_reorder_refuses dccpoLinux 100 (by decide) (by decide) default _ 1000 5 rfl (by decide)
      rfl (by decide) (by decide)⟩

section Handshake

/-- A REQUESTING client takes a Response acknowledging a number in `[AWL, AWH]`. -/
theorem dccpRcv_response (env env2 : RcvEnv) (s : DccpSock) (isr a : Nat)
    (hs : s.state = .requesting) (hrole : s.role = .client)
    (ha : between48 a s.seq.awl s.seq.awh = true) (hinit : env.ccidInitFails = false) :
    (dccpRcv o w env env2 s ⟨.response, isr, a, []⟩).1 =
      { s with
        seq := dccpUpdateGsr w { s.seq with isr := isr } isr
        state := .partOpen
        sent := if env.deferAck then s.sent else s.sent ++ [.ack] } := by
  have hu : unexpectedPacket s .response = false := by simp [unexpectedPacket, hrole]
  cases hdef : env.deferAck <;>
    simp only [dccpRcv, dccpRcvStateProcess, dccpRcvRequestSentStateProcess, hs, hu, ha, hinit,
      hdef, reduceCtorEq, if_false, if_true, Bool.not_true, Bool.false_eq_true, ne_eq,
      not_true_eq_false]

theorem dccpRcv_partOpen_dataAck (env env2 : RcvEnv) (s : DccpSock) (x b : Nat)
    (hs : s.state = .partOpen) {sv sv' : SeqVars}
    (h1 : dccpCheckSeqno w s.seq .dataAck x b = .ok sv)
    (h2 : dccpCheckSeqno w { sv with osr := x } .dataAck x b = .ok sv')
    (hfull : (s.sendAckVector && env.ackpktsFull) = false)
    (hfull2 : (s.sendAckVector && env2.ackpktsFull) = false) :
    (dccpRcv o w env env2 s ⟨.dataAck, x, b, []⟩).1.rcvQueue =
      s.rcvQueue ++ [⟨.dataAck, x, b, []⟩] := by
  have hu : ∀ t : DccpSock, unexpectedPacket t .dataAck = false := fun t => by
    simp [unexpectedPacket]
  simp only [dccpRcv, dccpRcvStateProcess, hs, rcvCheck, h1, dccpParseOptions_nil, hfull, hu,
    reduceCtorEq, if_false, Bool.false_eq_true, ne_eq, not_false_eq_true, if_true,
    dccpRcvRespondPartopenStateProcess, dccpRcvEstablished, h2, hfull2, rcvEstablishedType]

theorem dccpCheckSeqno_dataAck (sv : SeqVars) (x b : Nat) (hin : between48 x sv.swl sv.swh = true)
    (hb : between48 b sv.awl sv.awh = true) :
    ∃ sv', dccpCheckSeqno w sv .dataAck x b = .ok sv' ∧ sv'.swl = (dccpUpdateGsr w sv x).swl ∧
      sv'.swh = (dccpUpdateGsr w sv x).swh ∧ sv'.awl = sv.awl ∧ sv'.awh = sv.awh ∧
      sv'.isr = sv.isr := by
  refine ⟨_, (seqnoStep6_ok_iff w).2 ⟨⟨hin, .inr hb⟩, rfl⟩, ?_⟩
  split_ifs <;> simp only [dccpUpdateGsr, and_self]

theorem dccpDeltaSeqno_swlBase (hw : w < 2 ^ 46) (o g : Nat) :
    (dccpDeltaSeqno o g + 1 + 2 ^ 48 - w / 4) % 2 ^ 48 =
      dccpDeltaSeqno o ((g + 1 + 2 ^ 48 - w / 4) % 2 ^ 48) := by
  simp only [dccpDeltaSeqno_eq]; omega

/-- A Response sets `SWL` from the `GSR` before it. -/
theorem between48_response_swl (hw : w < 2 ^ 46) (sv : SeqVars) (isr : Nat)
    (hd : 0 < dccpDeltaSeqno isr ((sv.gsr + 1 + 2 ^ 48 - w / 4) % 2 ^ 48) ∧
      dccpDeltaSeqno isr ((sv.gsr + 1 + 2 ^ 48 - w / 4) % 2 ^ 48) ≤ 2 ^ 47) :
    between48 ((sv.gsr + 1 + 2 ^ 48 - w / 4) % 2 ^ 48)
      (dccpUpdateGsr w { sv with isr := isr } isr).swl
      (dccpUpdateGsr w { sv with isr := isr } isr).swh = true := by
  have hl := (dccpUpdateGsr_window w hw { sv with isr := isr } isr).1
  dsimp only at hl
  rw [dccpDeltaSeqno_swlBase w hw, if_pos hd] at hl
  rw [between48_iff, dccpDeltaSeqno_congr _ (mod_eq_of_dccpDeltaSeqno_eq isr _ _ hl.symm),
    dccpDeltaSeqno_self]
  exact Nat.zero_le _

theorem between48_from_isr (h4 : 4 ≤ w) (hw : w < 2 ^ 46) (sv : SeqVars) (hg : sv.gsr = sv.isr)
    (x : Nat) (hx : dccpDeltaSeqno sv.isr x + 3 * w / 4 < 2 ^ 48) :
    between48 x (dccpUpdateGsr w sv x).swl (dccpUpdateGsr w sv x).swh = true := by
  have hX : ¬(0 < (0 + 1 + 2 ^ 48 - w / 4) % 2 ^ 48 ∧
      (0 + 1 + 2 ^ 48 - w / 4) % 2 ^ 48 ≤ 2 ^ 47) := by
    rcases (show w / 4 = 1 ∨ 2 ≤ w / 4 by omega) with h | h
    · rw [h]; decide
    · rw [Nat.mod_eq_of_lt (by omega)]; omega
  obtain ⟨hl, hh⟩ := dccpUpdateGsr_window w hw sv x
  rw [hg, dccpDeltaSeqno_self, if_neg hX] at hl
  rw [Nat.mod_eq_of_lt hx] at hh
  exact (between48_via sv.isr x _ _ (by omega)).2 (by omega)

/-- After the handshake the receive window starts from the client's old `GSR`. -/
theorem rcvRun_response_stale_window (h4 : 4 ≤ w) (hw : w < 2 ^ 46) (env env2 : RcvEnv)
    (s : DccpSock) (isr a b : Nat) (hs : s.state = .requesting) (hrole : s.role = .client)
    (ha : between48 a s.seq.awl s.seq.awh = true) (hb : between48 b s.seq.awl s.seq.awh = true)
    (hinit : env.ccidInitFails = false) (hfull : (s.sendAckVector && env.ackpktsFull) = false)
    (hfull2 : (s.sendAckVector && env2.ackpktsFull) = false)
    (hd : 3 * w / 4 < dccpDeltaSeqno isr ((s.seq.gsr + 1 + 2 ^ 48 - w / 4) % 2 ^ 48) ∧
      dccpDeltaSeqno isr ((s.seq.gsr + 1 + 2 ^ 48 - w / 4) % 2 ^ 48) ≤ 2 ^ 47) :
    (rcvRun o w s [⟨⟨.response, isr, a, []⟩, env, env⟩,
        ⟨⟨.dataAck, (s.seq.gsr + 1 + 2 ^ 48 - w / 4) % 2 ^ 48, b, []⟩, env, env2⟩]).rcvQueue =
      s.rcvQueue ++ [⟨.dataAck, (s.seq.gsr + 1 + 2 ^ 48 - w / 4) % 2 ^ 48, b, []⟩] ∧
    between48 ((s.seq.gsr + 1 + 2 ^ 48 - w / 4) % 2 ^ 48) isr (isr + 3 * w / 4) = false := by
  -- the Response's windows take the DataAck, and so do the windows the DataAck then sets
  obtain ⟨sv2, h1, hl2, hh2, hal2, hah2, -⟩ := dccpCheckSeqno_dataAck w _ _ b
    (between48_response_swl w hw s.seq isr ⟨by omega, hd.2⟩) hb
  have hin2 : between48 ((s.seq.gsr + 1 + 2 ^ 48 - w / 4) % 2 ^ 48) sv2.swl sv2.swh = true := by
    rw [hl2, hh2]
    exact between48_from_isr w h4 hw _ rfl _
      (show dccpDeltaSeqno isr _ + 3 * w / 4 < 2 ^ 48 by omega)
  obtain ⟨sv3, h2, -⟩ := dccpCheckSeqno_dataAck w
    { sv2 with osr := (s.seq.gsr + 1 + 2 ^ 48 - w / 4) % 2 ^ 48 } _ b hin2
    (by dsimp only; rw [hal2, hah2]; exact hb)
  refine ⟨?_, ?_⟩
  · have hR := dccpRcv_response o w env env s isr a hs hrole ha hinit
    have key := dccpRcv_partOpen_dataAck o w env env2
      (dccpRcv o w env env s ⟨.response, isr, a, []⟩).1 _ b (by rw [hR]) (by rw [hR]; exact h1) h2
      (by rw [hR]; exact hfull) (by rw [hR]; exact hfull2)
    rw [rcvRun, rcvRun, rcvRun, key, hR]
  · have htop : dccpDeltaSeqno isr (isr + 3 * w / 4) = 3 * w / 4 := by
      rw [dccpDeltaSeqno_eq]; omega
    rw [Bool.eq_false_iff, Ne, between48_iff, htop]
    omega

theorem rcvRun_response_stale_window_zero :
    4 ≤ 100 ∧ 100 < 2 ^ 46 ∧ between48 5 0 10 = true ∧ (default : RcvEnv).ccidInitFails = false ∧
      (false && (default : RcvEnv).ackpktsFull) = false ∧
      (3 * 100 / 4 < dccpDeltaSeqno (2 ^ 47) ((0 + 1 + 2 ^ 48 - 100 / 4) % 2 ^ 48) ∧
        dccpDeltaSeqno (2 ^ 47) ((0 + 1 + 2 ^ 48 - 100 / 4) % 2 ^ 48) ≤ 2 ^ 47) ∧
      (rcvRun dccpoLinux 100
          ⟨.requesting, .client, ⟨0, 0, 0, 10, 0, 0, 0, 0⟩, false, ⟨{}, 0, 0, false, 0, 0⟩, false,
            [], [], []⟩
          [⟨⟨.response, 2 ^ 47, 5, []⟩, default, default⟩,
            ⟨⟨.dataAck, (0 + 1 + 2 ^ 48 - 100 / 4) % 2 ^ 48, 5, []⟩, default, default⟩]).rcvQueue =
        [] ++ [⟨.dataAck, (0 + 1 + 2 ^ 48 - 100 / 4) % 2 ^ 48, 5, []⟩] ∧
      between48 ((0 + 1 + 2 ^ 48 - 100 / 4) % 2 ^ 48) (2 ^ 47) (2 ^ 47 + 3 * 100 / 4) = false :=
  have hd : 3 * 100 / 4 < dccpDeltaSeqno (2 ^ 47) ((0 + 1 + 2 ^ 48 - 100 / 4) % 2 ^ 48) ∧
      dccpDeltaSeqno (2 ^ 47) ((0 + 1 + 2 ^ 48 - 100 / 4) % 2 ^ 48) ≤ 2 ^ 47 := by
    simp only [dccpDeltaSeqno_eq]; omega
  ⟨by decide, by decide, by decide, rfl, rfl, hd,
    rcvRun_response_stale_window dccpoLinux 100 (by decide) (by decide) default default _ (2 ^ 47)
      5 5 rfl rfl (by decide) (by decide) rfl rfl rfl hd⟩

theorem dccpRcv_partOpen_ack (env env2 : RcvEnv) (s : DccpSock) (x b : Nat)
    (hs : s.state = .partOpen) (hb : between48 b s.seq.awl s.seq.awh = true)
    (hfull : (s.sendAckVector && env.ackpktsFull) = false) :
    (dccpRcv o w env env2 s ⟨.ack, x, b, []⟩).1.state = .«open» ↔
      between48 x s.seq.swl s.seq.swh = true := by
  have hu : ∀ t : DccpSock, unexpectedPacket t .ack = false := fun t => by
    simp [unexpectedPacket]
  cases hin : between48 x s.seq.swl s.seq.swh <;>
    simp only [dccpRcv, dccpRcvStateProcess, hs, rcvCheck, dccpCheckSeqno, seqnoStep6, hin, hb,
      dccpParseOptions_nil, hfull, hu, dccpRcvRespondPartopenStateProcess, reduceCtorEq, if_false,
      if_true, Bool.false_eq_true, ne_eq, not_false_eq_true, Bool.false_and, Bool.true_and,
      Bool.or_true, or_self, and_self, iff_true, iff_false]

theorem between48_next_response (h4 : 4 ≤ w) (hw : w < 2 ^ 46) (sv : SeqVars) (isr : Nat) :
    between48 ((isr + 1) % 2 ^ 48) (dccpUpdateGsr w { sv with isr := isr } isr).swl
        (dccpUpdateGsr w { sv with isr := isr } isr).swh = true ↔
      ¬(2 ≤ dccpDeltaSeqno isr ((sv.gsr + 1 + 2 ^ 48 - w / 4) % 2 ^ 48) ∧
        dccpDeltaSeqno isr ((sv.gsr + 1 + 2 ^ 48 - w / 4) % 2 ^ 48) ≤ 3 * w / 4) := by
  have hnext : dccpDeltaSeqno isr ((isr + 1) % 2 ^ 48) = 1 := by
    simp only [dccpDeltaSeqno_eq]; omega
  have hlt := dccpDeltaSeqno_lt isr ((sv.gsr + 1 + 2 ^ 48 - w / 4) % 2 ^ 48)
  obtain ⟨hl, hh⟩ := dccpUpdateGsr_window w hw { sv with isr := isr } isr
  dsimp only at hl hh
  rw [dccpDeltaSeqno_swlBase w hw] at hl
  rw [dccpDeltaSeqno_self, zero_add, Nat.mod_eq_of_lt (by omega)] at hh
  rw [between48_iff, dccpDeltaSeqno_via isr, dccpDeltaSeqno_via isr _ (dccpUpdateGsr _ _ _).swh,
    hnext, hl, hh]
  clear hl hh hnext
  generalize dccpDeltaSeqno isr ((sv.gsr + 1 + 2 ^ 48 - w / 4) % 2 ^ 48) = X at *
  have hq : 3 ≤ 3 * w / 4 ∧ 3 * w / 4 < 2 ^ 46 := by omega
  generalize 3 * w / 4 = q at *
  split_ifs <;> omega

/-- The Ack numbered `ISR + 1` opens the connection exactly when the old `GSR` allows it. -/
theorem rcvRun_handshake_next_iff (h4 : 4 ≤ w) (hw : w < 2 ^ 46) (env env2 : RcvEnv)
    (s : DccpSock) (isr a b : Nat) (hs : s.state = .requesting) (hrole : s.role = .client)
    (ha : between48 a s.seq.awl s.seq.awh = true) (hb : between48 b s.seq.awl s.seq.awh = true)
    (hinit : env.ccidInitFails = false) (hfull : (s.sendAckVector && env2.ackpktsFull) = false) :
    (rcvRun o w s [⟨⟨.response, isr, a, []⟩, env, env⟩,
        ⟨⟨.ack, (isr + 1) % 2 ^ 48, b, []⟩, env2, env2⟩]).state = .«open» ↔
      ¬(2 ≤ dccpDeltaSeqno isr ((s.seq.gsr + 1 + 2 ^ 48 - w / 4) % 2 ^ 48) ∧
        dccpDeltaSeqno isr ((s.seq.gsr + 1 + 2 ^ 48 - w / 4) % 2 ^ 48) ≤ 3 * w / 4) := by
  rw [rcvRun, dccpRcv_response o w env env s isr a hs hrole ha hinit, rcvRun, rcvRun,
    dccpRcv_partOpen_ack o w env2 env2 _ _ b rfl ?_ ?_]
  · exact between48_next_response w h4 hw s.seq isr
  · exact hb
  · exact hfull

theorem rcvRun_handshake_next_iff_stalls :
    4 ≤ 100 ∧ 100 < 2 ^ 46 ∧ between48 5 0 10 = true ∧ (default : RcvEnv).ccidInitFails = false ∧
      (false && (default : RcvEnv).ackpktsFull) = false ∧
      ((rcvRun dccpoLinux 100
          ⟨.requesting, .client, ⟨0, 0, 0, 10, 0, 0, 1034, 0⟩, false, ⟨{}, 0, 0, false, 0, 0⟩,
            false, [], [], []⟩
          [⟨⟨.response, 1000, 5, []⟩, default, default⟩,
            ⟨⟨.ack, (1000 + 1) % 2 ^ 48, 5, []⟩, default, default⟩]).state = .«open» ↔
        ¬(2 ≤ dccpDeltaSeqno 1000 ((1034 + 1 + 2 ^ 48 - 100 / 4) % 2 ^ 48) ∧
          dccpDeltaSeqno 1000 ((1034 + 1 + 2 ^ 48 - 100 / 4) % 2 ^ 48) ≤ 3 * 100 / 4)) :=
  ⟨by decide, by decide, by decide, rfl, rfl,
    rcvRun_handshake_next_iff dccpoLinux 100 (by decide) (by decide) default default _ 1000 5 5 rfl
      rfl (by decide) (by decide) rfl rfl⟩

end Handshake

end DccpTfrc
