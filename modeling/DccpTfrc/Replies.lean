import DccpTfrc.Input

namespace DccpTfrc

variable (o : Dccpo) (w : Nat)

/-- What the packet `p` adds to the packets a socket sent, on the way from `s` to `s'`: nothing,
or one packet, which answers a Sync or SyncAck only when Step 6 turned it down. -/
def RepliesTo (s : DccpSock) (p : DccpPacket) (s' : DccpSock) : Prop :=
  s'.sent = s.sent ∨ ∃ out, s'.sent = s.sent ++ [out] ∧
    (p.type = .sync ∨ p.type = .syncAck → dccpCheckSeqno w s.seq p.type p.seq p.ackSeq = .sync)

theorem RepliesTo.of_sent {s s' : DccpSock} {p : DccpPacket} (h : s'.sent = s.sent) :
    RepliesTo w s p s' :=
  .inl h

/-- A reply to anything but a Sync or SyncAck. -/
theorem RepliesTo.of_type {s s' : DccpSock} {p : DccpPacket} {out : DccpOutput}
    (h : s'.sent = s.sent ++ [out]) (ht : p.type ≠ .sync ∧ p.type ≠ .syncAck) :
    RepliesTo w s p s' :=
  .inr ⟨out, h, fun hs => (hs.elim ht.1 ht.2).elim⟩

/-- A discarded packet is answered at most by the Sync of Step 6. -/
theorem rcvCheck_error_replies {env : RcvEnv} {s s' : DccpSock} {p : DccpPacket}
    (h : rcvCheck o w env s p = .error s') : RepliesTo w s p s' := by
  unfold rcvCheck at h
  split at h
  · cases h; exact .inl rfl
  · rename_i hc; cases h; exact .inr ⟨_, rfl, fun _ => hc⟩
  · dsimp only at h
    split at h
    · cases h; exact .inl rfl
    · cases h

theorem rcvCheck_ok_sent {env : RcvEnv} {s s' : DccpSock} {p : DccpPacket}
    (h : rcvCheck o w env s p = .ok s') : s'.sent = s.sent := by
  obtain ⟨seq, opts, -, -, rfl⟩ := (rcvCheck_eq_ok o w).1 h
  rfl

/-- The switch of `dccp_rcv_established` answers only CloseReq, Close, Request and Response
packets, and each with one packet. -/
theorem rcvEstablishedType_sent (s : DccpSock) (p : DccpPacket) :
    (rcvEstablishedType s p).sent = s.sent ∨
      (∃ out, (rcvEstablishedType s p).sent = s.sent ++ [out]) ∧ p.type ≠ .sync ∧
        p.type ≠ .syncAck := by
  unfold rcvEstablishedType dccpRcvClosereq dccpRcvClose
  split <;> (repeat' split) <;> simp [dccpFin, *]

theorem rcvEstablishedType_replies (s0 s : DccpSock) (p : DccpPacket) (h : s.sent = s0.sent) :
    RepliesTo w s0 p (rcvEstablishedType s p) := by
  rcases rcvEstablishedType_sent s p with h1 | ⟨⟨out, h1⟩, ht⟩
  · exact .of_sent w (h1.trans h)
  · exact .of_type w (by rw [h1, h]) ht

theorem dccpRcvEstablished_replies (env : RcvEnv) (s : DccpSock) (p : DccpPacket) :
    RepliesTo w s p (dccpRcvEstablished o w env s p) := by
  unfold dccpRcvEstablished
  split
  · exact rcvCheck_error_replies o w ‹_›
  · rename_i s1 h
    have h1 := rcvCheck_ok_sent o w h
    split
    · exact .of_sent w h1
    · exact rcvEstablishedType_replies w s _ p h1

/-- A client in REQUESTING answers only a Response, with the Ack of the handshake. -/
theorem dccpRcvRequestSentStateProcess_sent (env : RcvEnv) (s : DccpSock) (p : DccpPacket) :
    (dccpRcvRequestSentStateProcess w env s p).1.sent = s.sent ∨
      (dccpRcvRequestSentStateProcess w env s p).1.sent = s.sent ++ [.ack] ∧
        (dccpRcvRequestSentStateProcess w env s p).2 = -1 ∧ p.type = .response := by
  unfold dccpRcvRequestSentStateProcess
  split_ifs <;> simp [*]

theorem respondPartopen_replies (env : RcvEnv) (s0 s : DccpSock) (p : DccpPacket)
    (h : s.sent = s0.sent) : RepliesTo w s0 p (dccpRcvRespondPartopenStateProcess o w env s p) := by
  unfold dccpRcvRespondPartopenStateProcess
  split
  · rename_i ht
    dsimp only
    rw [if_pos ht]
    rcases dccpRcvEstablished_replies o w env
      { s with seq := { s.seq with osr := p.seq }, state := .«open» } p with h1 | ⟨out, h1, -⟩
    · exact .of_sent w (h1.trans h)
    · exact .of_type w (h1.trans (by rw [h])) (by simp [ht])
  · rename_i ht
    dsimp only
    rw [if_neg (by simp [ht])]
    exact .of_sent w h
  · exact .of_sent w h

/-- Step 7 answers no Sync or SyncAck. -/
theorem unexpectedPacket_type {s : DccpSock} {t : DccpPktType} (h : unexpectedPacket s t = true) :
    t ≠ .sync ∧ t ≠ .syncAck := by
  unfold unexpectedPacket at h
  constructor <;> rintro rfl <;> simp at h

/-- `dccp_rcv_state_process` answers a packet with at most one packet, and with none when its
caller is to send a Reset. -/
theorem dccpRcvStateProcess_replies (env env2 : RcvEnv) (s : DccpSock) (p : DccpPacket) :
    RepliesTo w s p (dccpRcvStateProcess o w env env2 s p).1 ∧
      ((dccpRcvStateProcess o w env env2 s p).2 = true →
        (dccpRcvStateProcess o w env env2 s p).1.sent = s.sent) := by
  unfold dccpRcvStateProcess
  split
  · split_ifs <;> exact ⟨.of_sent w rfl, fun _ => rfl⟩
  · dsimp only
    split
    · rename_i s1 hf
      refine ⟨?_, nofun⟩
      split_ifs at hf
      · split at hf
        · cases hf; exact rcvCheck_error_replies o w ‹_›
        · rename_i s2 hc
          split at hf
          · cases hf; have := rcvCheck_ok_sent o w hc; exact .of_sent w this
          · cases hf
    · rename_i s1 hf
      have h1 : s1.sent = s.sent := by
        split_ifs at hf
        · split at hf
          · cases hf
          · rename_i s2 hc
            split at hf
            · cases hf
            · cases hf; have := rcvCheck_ok_sent o w hc; exact this
        · cases hf; rfl
      split_ifs with hr hu
      · exact ⟨.of_sent w h1, fun _ => h1⟩
      · exact ⟨.of_type w (by rw [h1]) (unexpectedPacket_type hu), nofun⟩
      · split
        · exact ⟨.of_sent w h1, fun _ => h1⟩
        · rcases dccpRcvRequestSentStateProcess_sent w env s1 p with h | ⟨h, h2, ht⟩
          · exact ⟨.of_sent w (h.trans h1), fun _ => h.trans h1⟩
          · exact ⟨.of_type w (by rw [h, h1]) (by simp [ht]), fun h => by simp [h2] at h⟩
        · exact ⟨respondPartopen_replies o w env2 s s1 p h1, nofun⟩
        · exact ⟨respondPartopen_replies o w env2 s s1 p h1, nofun⟩
        · exact ⟨.of_sent w h1, nofun⟩

theorem dccpRcv_replies (env env2 : RcvEnv) (s : DccpSock) (p : DccpPacket) :
    RepliesTo w s p (dccpRcv o w env env2 s p).1 ∧
      ((dccpRcv o w env env2 s p).2 = true → (dccpRcv o w env env2 s p).1.sent = s.sent) := by
  unfold dccpRcv
  split
  · exact ⟨dccpRcvEstablished_replies o w env s p, nofun⟩
  · exact dccpRcvStateProcess_replies o w env env2 s p

/-- The Resets the caller `dccp_v4_do_rcv` sends over a run: one for each packet on which
`dccp_rcv_state_process` returns nonzero. -/
def rcvResets (s : DccpSock) : List RcvInput → Nat
  | [] => 0
  | i :: is =>
    (if (dccpRcv o w i.env i.env2 s i.pkt).2 then 1 else 0) +
      rcvResets (dccpRcv o w i.env i.env2 s i.pkt).1 is

/-- No amplification: over any run of the receive path, the packets it sends and the Resets its
caller sends together number at most the packets received. -/
theorem rcvRun_replies (s : DccpSock) (is : List RcvInput) :
    ∃ outs, (rcvRun o w s is).sent = s.sent ++ outs ∧
      outs.length + rcvResets o w s is ≤ is.length := by
  induction is generalizing s with
  | nil => exact ⟨[], (List.append_nil _).symm, Nat.le_refl 0⟩
  | cons i is ih =>
    obtain ⟨outs, h1, h2⟩ := ih (dccpRcv o w i.env i.env2 s i.pkt).1
    obtain ⟨hr, hreset⟩ := dccpRcv_replies o w i.env i.env2 s i.pkt
    rcases hr with h | ⟨out, h, -⟩
    · refine ⟨outs, by rw [rcvRun, h1, h], ?_⟩
      simp only [rcvResets, List.length_cons]
      split <;> omega
    · refine ⟨out :: outs, by rw [rcvRun, h1, h, List.append_assoc]; rfl, ?_⟩
      have hf : (dccpRcv o w i.env i.env2 s i.pkt).2 = false :=
        Bool.eq_false_iff.2 fun hb => by simpa using (hreset hb).symm.trans h
      simp only [rcvResets, hf, Bool.false_eq_true, if_false, List.length_cons]
      omega

/-- With a Sequence Window below 2^46, the receive path never answers a Sync or SyncAck, in
any state: Step 5 lets it through Step 6, and no later step replies to it. -/
theorem dccpRcv_sync_unanswered (hw : w < 2 ^ 46) (env env2 : RcvEnv) (s : DccpSock)
    (p : DccpPacket) (ht : p.type = .sync ∨ p.type = .syncAck) :
    (dccpRcv o w env env2 s p).1.sent = s.sent := by
  rcases (dccpRcv_replies o w env env2 s p).1 with h | ⟨-, -, hc⟩
  · exact h
  · exact absurd (hc ht) (dccpCheckSeqno_sync_ne w hw ht)

/-- A Sync inside the window of an OPEN server goes unanswered. -/
theorem dccpRcv_sync_unanswered_open :
    100 < 2 ^ 46 ∧ (DccpPktType.sync = .sync ∨ DccpPktType.sync = .syncAck) ∧
      (dccpRcv dccpoLinux 100 default default
          ⟨.«open», .server, ⟨0, 200, 0, 10, 0, 0, 100, 0⟩, false, ⟨{}, 0, 0, false, 0, 0⟩, false,
            [], [], []⟩ ⟨.sync, 150, 5, []⟩).1.sent = [] :=
  ⟨by decide, .inl rfl,
    dccpRcv_sync_unanswered dccpoLinux 100 (by decide) default default
      ⟨.«open», .server, ⟨0, 200, 0, 10, 0, 0, 100, 0⟩, false, ⟨{}, 0, 0, false, 0, 0⟩, false,
        [], [], []⟩ ⟨.sync, 150, 5, []⟩ (.inl rfl)⟩

end DccpTfrc
