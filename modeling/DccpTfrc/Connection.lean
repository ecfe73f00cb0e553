import DccpTfrc.Input

namespace DccpTfrc

/-- The order in which a connection passes through its states. -/
def DccpState.rank : DccpState → Nat
  | .listen => 0
  | .requesting => 1
  | .respond => 1
  | .partOpen => 2
  | .«open» => 3
  | .closing => 4
  | .closed => 5
  | .timeWait => 6

/-- The moves of the receive half of the DCCP state machine, labelled with packet types. -/
inductive RcvMove : DccpState → DccpPktType → DccpState → Prop
  | response : RcvMove .requesting .response .partOpen
  | ack {st : DccpState} {t : DccpPktType} (hst : st = .respond ∨ st = .partOpen)
      (ht : t = .ack ∨ t = .dataAck) : RcvMove st t .«open»
  | closeReq : RcvMove .«open» .closeReq .closing
  | close : RcvMove .«open» .close .closed
  | reset {st : DccpState} (hl : st ≠ .listen) (ht : st ≠ .timeWait) : RcvMove st .reset .timeWait

/-- Each packet of a trace keeps the state or makes a move its type labels. -/
inductive RcvTrace : DccpState → List DccpPktType → DccpState → Prop
  | nil (st : DccpState) : RcvTrace st [] st
  | stay {st : DccpState} {t : DccpPktType} {ts : List DccpPktType} {st' : DccpState} :
      RcvTrace st ts st' → RcvTrace st (t :: ts) st'
  | move {st st₁ st' : DccpState} {t : DccpPktType} {ts : List DccpPktType} :
      RcvMove st t st₁ → RcvTrace st₁ ts st' → RcvTrace st (t :: ts) st'

namespace RcvMove

variable {st st' : DccpState} {t : DccpPktType}

theorem rank_lt (h : RcvMove st t st') : st.rank < st'.rank := by
  cases h with
  | ack hst => rcases hst with rfl | rfl <;> decide
  | reset hl ht => cases st <;> first | decide | contradiction
  | _ => decide

end RcvMove

namespace RcvTrace

variable {st st' : DccpState} {ts : List DccpPktType}

theorem rank_le (h : RcvTrace st ts st') : st.rank ≤ st'.rank := by
  induction h with
  | nil => exact Nat.le_refl _
  | stay _ ih => exact ih
  | move m _ ih => exact Nat.le_trans (Nat.le_of_lt m.rank_lt) ih

theorem not_open_of_timeWait (h : RcvTrace .timeWait ts st') : st' ≠ .«open» := by
  rintro rfl
  exact absurd h.rank_le (by decide)

theorem ack_of_open (h : RcvTrace st ts st') (hst : st = .respond ∨ st = .partOpen)
    (ho : st' = .«open») : ∃ t ∈ ts, t = .ack ∨ t = .dataAck := by
  induction h with
  | nil => subst ho; rcases hst with h | h <;> cases h
  | stay _ ih =>
    obtain ⟨t, ht, hack⟩ := ih hst ho
    exact ⟨t, .tail _ ht, hack⟩
  | move m tr =>
    cases m with
    | ack _ ht => exact ⟨_, .head _, ht⟩
    | reset => exact absurd ho (not_open_of_timeWait tr)
    | response | closeReq | close => rcases hst with h | h <;> cases h

theorem handshake_of_open (h : RcvTrace st ts st') (hst : st = .requesting)
    (ho : st' = .«open») : ∃ t, List.Sublist [.response, t] ts ∧ (t = .ack ∨ t = .dataAck) := by
  induction h with
  | nil => subst ho; cases hst
  | stay _ ih =>
    obtain ⟨t, ht, hack⟩ := ih hst ho
    exact ⟨t, ht.cons _, hack⟩
  | move m tr =>
    cases m with
    | response =>
      obtain ⟨t, ht, hack⟩ := tr.ack_of_open (.inr rfl) ho
      exact ⟨t, (List.singleton_sublist.2 ht).cons₂ _, hack⟩
    | reset => exact absurd ho (not_open_of_timeWait tr)
    | ack hst' => subst hst; rcases hst' with h | h <;> cases h
    | closeReq | close => cases hst

end RcvTrace

section Refinement

variable {o : Dccpo} {w : Nat} {env : RcvEnv} {s s' : DccpSock} {p : DccpPacket}

theorem RcvEffect.move (h : RcvEffect o w env s p s') :
    s'.state = s.state ∨ RcvMove s.state p.type s'.state := by
  cases h with
  | keep hst => exact .inl hst
  | enterPartOpen hst _ ht _ hst' => rw [hst, ht, hst']; exact .inr .response
  | enterOpen hst ht _ hst' => rw [hst']; exact .inr (.ack hst ht)
  | deliver hst _ _ hst' => exact .inl (hst'.trans hst.symm)
  | closing hst _ ht _ hst' => rw [hst, ht, hst']; exact .inr .closeReq
  | close hst ht _ hst' => rw [hst, ht, hst']; exact .inr .close
  | reset ht hcheck hst' =>
    rw [ht, hst']
    by_cases htw : s.state = .timeWait
    · exact .inl htw.symm
    · refine .inr (.reset ?_ htw)
      rcases hcheck with h | h
      · rw [h]; decide
      · exact h.1

end Refinement

variable (o : Dccpo) (w : Nat)

/-- Every run of the receive path follows the connection state machine. -/
theorem rcvRun_trace (s : DccpSock) (is : List RcvInput) :
    RcvTrace s.state (is.map (·.pkt.type)) (rcvRun o w s is).state := by
  induction is generalizing s with
  | nil => exact .nil _
  | cons i is ih =>
    rcases (dccpRcv_effect o w i.env i.env2 s i.pkt).move with h | h
    · exact .stay (h ▸ ih _)
    · exact .move h (ih _)

/-- A client reaches OPEN only after a Response and, later, an Ack or a DataAck. -/
theorem rcvRun_open_handshake (s : DccpSock) (is : List RcvInput)
    (hs : s.state = .requesting) (ho : (rcvRun o w s is).state = .«open») :
    ∃ t, List.Sublist [.response, t] (is.map (·.pkt.type)) ∧ (t = .ack ∨ t = .dataAck) :=
  (rcvRun_trace o w s is).handshake_of_open hs ho

theorem rcvRun_open_handshake_client :
    (⟨.requesting, .client, ⟨0, 0, 0, 10, 0, 0, 0, 0⟩, false, ⟨{}, 0, 0, false, 0, 0⟩,
        false, [], [], []⟩ : DccpSock).state = .requesting ∧
      (rcvRun dccpoLinux 100
        ⟨.requesting, .client, ⟨0, 0, 0, 10, 0, 0, 0, 0⟩, false, ⟨{}, 0, 0, false, 0, 0⟩,
          false, [], [], []⟩
        [⟨⟨.response, 100, 5, []⟩, default, default⟩,
          ⟨⟨.ack, 101, 5, []⟩, default, default⟩]).state = .«open» ∧
      ∃ t : DccpPktType, List.Sublist [.response, t] [.response, .ack] ∧
        (t = .ack ∨ t = .dataAck) := by
  refine (fun ho => ⟨rfl, ho, rcvRun_open_handshake dccpoLinux 100 _ _ rfl ho⟩) ?_
  simp only [rcvRun, dccpRcv, dccpRcvStateProcess, rcvCheck, dccpParseOptions_nil]
  decide

section Shutdown

/-- While reading is shut down the socket is CLOSED or in TIMEWAIT. -/
def ShutdownInv (s : DccpSock) : Prop :=
  s.rcvShutdown = true → s.state = .closed ∨ s.state = .timeWait

variable {o w} {env : RcvEnv} {s s' : DccpSock} {p : DccpPacket}

theorem RcvEffect.of_shutdown (h : RcvEffect o w env s p s') (hi : ShutdownInv s)
    (hsh : s.rcvShutdown = true) :
    s'.rcvShutdown = true ∧
      (s'.rcvQueue = s.rcvQueue ∨ p.type = .reset ∧ s'.rcvQueue = s.rcvQueue ++ [p]) := by
  have hst := hi hsh
  cases h with
  | keep _ hq hshut => exact ⟨hshut ▸ hsh, .inl hq⟩
  | reset ht _ _ hq hshut => exact ⟨hshut, .inr ⟨ht, hq⟩⟩
  | enterPartOpen hs => rcases hst with h | h <;> simp [h] at hs
  | enterOpen hs => rcases hst with h | h <;> simp [h] at hs
  | deliver hs => rcases hst with h | h <;> simp [h] at hs
  | closing hs => rcases hst with h | h <;> simp [h] at hs
  | close hs => rcases hst with h | h <;> simp [h] at hs

theorem RcvEffect.shutdownInv (h : RcvEffect o w env s p s') (hi : ShutdownInv s) :
    ShutdownInv s' := by
  intro hsh'
  by_cases hsh : s.rcvShutdown = true
  · have hst := hi hsh
    cases h with
    | keep hs => rw [hs]; exact hst
    | close _ _ _ hs => exact .inl hs
    | reset _ _ hs => exact .inr hs
    | enterPartOpen hs => rcases hst with h | h <;> simp [h] at hs
    | enterOpen hs => rcases hst with h | h <;> simp [h] at hs
    | deliver hs => rcases hst with h | h <;> simp [h] at hs
    | closing hs => rcases hst with h | h <;> simp [h] at hs
  · cases h with
    | keep _ _ hshut => exact absurd (hshut ▸ hsh') hsh
    | enterPartOpen _ _ _ _ _ _ _ _ hshut => exact absurd (hshut ▸ hsh') hsh
    | enterOpen _ _ _ _ _ _ hshut => exact absurd (hshut ▸ hsh') hsh
    | deliver _ _ _ _ _ hshut => exact absurd (hshut ▸ hsh') hsh
    | closing _ _ _ _ _ _ hshut => exact absurd (hshut ▸ hsh') hsh
    | close _ _ _ hs => exact .inl hs
    | reset _ _ hs => exact .inr hs

variable (o w)

theorem rcvRun_shutdown (s : DccpSock) (is : List RcvInput) (hi : ShutdownInv s) :
    ShutdownInv (rcvRun o w s is) ∧
      (s.rcvShutdown = true → (rcvRun o w s is).rcvShutdown = true ∧
        ∃ qs, (rcvRun o w s is).rcvQueue = s.rcvQueue ++ qs ∧ ∀ q ∈ qs, q.type = .reset) := by
  induction is generalizing s with
  | nil => exact ⟨hi, fun hsh => ⟨hsh, [], (List.append_nil _).symm, by simp⟩⟩
  | cons i is ih =>
    have he := dccpRcv_effect o w i.env i.env2 s i.pkt
    obtain ⟨hi', ih'⟩ := ih _ (he.shutdownInv hi)
    refine ⟨hi', fun hsh => ?_⟩
    obtain ⟨hsh1, hq1⟩ := he.of_shutdown hi hsh
    obtain ⟨hsh2, qs, hqs, hres⟩ := ih' hsh1
    refine ⟨hsh2, ?_⟩
    rcases hq1 with hq1 | ⟨ht, hq1⟩
    · exact ⟨qs, hqs.trans (by rw [hq1]), hres⟩
    · refine ⟨i.pkt :: qs, hqs.trans (by rw [hq1]; simp), ?_⟩
      rintro q (_ | ⟨_, hq⟩)
      · exact ht
      · exact hres q hq

/-- No data after the end of the data: once `dccp_fin` has run, only Resets are queued. -/
theorem rcvRun_no_data_after_fin (s : DccpSock) (pre post : List RcvInput)
    (hs : s.rcvShutdown = false) (hfin : (rcvRun o w s pre).rcvShutdown = true) :
    ∃ qs, (rcvRun o w s (pre ++ post)).rcvQueue = (rcvRun o w s pre).rcvQueue ++ qs ∧
      ∀ q ∈ qs, q.type = .reset := by
  have hi : ShutdownInv s := fun h => absurd (hs ▸ h) Bool.false_ne_true
  rw [rcvRun_append]
  exact ((rcvRun_shutdown o w _ post (rcvRun_shutdown o w s pre hi).1).2 hfin).2

theorem rcvRun_no_data_after_fin_reset :
    (⟨.requesting, .client, ⟨0, 0, 0, 10, 0, 0, 0, 0⟩, false, ⟨{}, 0, 0, false, 0, 0⟩,
          false, [], [], []⟩ : DccpSock).rcvShutdown = false ∧
      (rcvRun dccpoLinux 100
        ⟨.requesting, .client, ⟨0, 0, 0, 10, 0, 0, 0, 0⟩, false, ⟨{}, 0, 0, false, 0, 0⟩,
          false, [], [], []⟩
        [⟨⟨.reset, 7, 5, []⟩, default, default⟩]).rcvShutdown = true ∧
      ∃ qs, (rcvRun dccpoLinux 100
          ⟨.requesting, .client, ⟨0, 0, 0, 10, 0, 0, 0, 0⟩, false, ⟨{}, 0, 0, false, 0, 0⟩,
          false, [], [], []⟩
          ([⟨⟨.reset, 7, 5, []⟩, default, default⟩] ++
            [⟨⟨.data, 8, 5, []⟩, default, default⟩])).rcvQueue =
        (rcvRun dccpoLinux 100
          ⟨.requesting, .client, ⟨0, 0, 0, 10, 0, 0, 0, 0⟩, false, ⟨{}, 0, 0, false, 0, 0⟩,
          false, [], [], []⟩
          [⟨⟨.reset, 7, 5, []⟩, default, default⟩]).rcvQueue ++ qs ∧
        ∀ q ∈ qs, q.type = .reset :=
  ⟨rfl, by decide, rcvRun_no_data_after_fin dccpoLinux 100 _ _ _ rfl (by decide)⟩

end Shutdown

section Resets

theorem rcvAccepted_reset_iff {env : RcvEnv} {s : DccpSock} {p : DccpPacket}
    (hp : p.type = .reset) :
    RcvAccepted o w env s p ↔
      (between48 p.seq (dccpIncSeqno s.seq.gsr) s.seq.swh = true ∧
        (p.ackSeq = dccpPktWithoutAckSeq ∨ between48 p.ackSeq s.seq.gar s.seq.awh = true)) ∧
      ∃ opts, dccpParseOptions o ⟨false, s.sendAckVector, env.now⟩ env.hd s.opts p.options =
        .ok opts := by
  have hd : (p.type == .data) = false := by rw [hp]; rfl
  rw [RcvAccepted, dccpCheckSeqno_closing w (.inr (.inr hp)), hd]
  simp [seqnoStep6_ok_iff]

theorem dccpRcv_reset_of_check {env env2 : RcvEnv} {s s1 : DccpSock} {p : DccpPacket}
    (hl : s.state ≠ .listen) (hr : s.state ≠ .requesting) (hp : p.type = .reset)
    (hc : rcvCheck o w env s p = .ok s1)
    (hfull : ¬(s.sendAckVector = true ∧ env.ackpktsFull = true)) :
    (dccpRcv o w env env2 s p).1 =
      { dccpFin { s1 with ccidRecv := s1.ccidRecv ++ [p] } p with state := .timeWait } := by
  have hsav := (rcvCheck_accepted o w hc).2.2.2.2.2.1
  have hf : (s1.sendAckVector && env.ackpktsFull) = false := by
    rw [hsav]; simpa using hfull
  unfold dccpRcv
  split
  · simp [dccpRcvEstablished, hc, hf, rcvEstablishedType, hp]
  · simp [dccpRcvStateProcess, hl, hr, hc, hf, hp]

/-- Past REQUESTING, a Reset is queued exactly when it passes the checks and finds room. -/
theorem dccpRcv_reset_queued (env env2 : RcvEnv) (s : DccpSock) (p : DccpPacket)
    (hl : s.state ≠ .listen) (hr : s.state ≠ .requesting) (hp : p.type = .reset) :
    (dccpRcv o w env env2 s p).1.rcvQueue = s.rcvQueue ++ [p] ↔
      ((between48 p.seq (dccpIncSeqno s.seq.gsr) s.seq.swh = true ∧
          (p.ackSeq = dccpPktWithoutAckSeq ∨ between48 p.ackSeq s.seq.gar s.seq.awh = true)) ∧
        ∃ opts, dccpParseOptions o ⟨false, s.sendAckVector, env.now⟩ env.hd s.opts p.options =
          .ok opts) ∧
      ¬(s.sendAckVector = true ∧ env.ackpktsFull = true) := by
  rw [← rcvAccepted_reset_iff o w hp]
  constructor
  · intro hq
    cases dccpRcv_effect o w env env2 s p with
    | reset _ hcheck =>
      rcases hcheck with h | ⟨-, -, hacc, hfull⟩
      · exact absurd h hr
      · exact ⟨hacc, hfull⟩
    | keep _ hq' => rw [hq'] at hq; simp at hq
    | enterPartOpen hs => exact absurd hs hr
    | enterOpen _ ht | deliver _ ht => rw [hp] at ht; rcases ht with h | h <;> cases h
    | closing _ _ ht | close _ ht => rw [hp] at ht; cases ht
  · rintro ⟨⟨⟨seq, hseq⟩, opts, hopts⟩, hfull⟩
    rw [dccpRcv_reset_of_check o w hl hr hp ((rcvCheck_eq_ok o w).2 ⟨seq, opts, hseq, hopts, rfl⟩)
      hfull]
    rfl

theorem dccpRcv_reset_queued_open :
    (⟨.«open», .server, ⟨0, 200, 0, 10, 0, 0, 100, 0⟩, false, ⟨{}, 0, 0, false, 0, 0⟩,
        false, [], [], []⟩ : DccpSock).state ≠ .listen ∧
      (⟨.«open», .server, ⟨0, 200, 0, 10, 0, 0, 100, 0⟩, false, ⟨{}, 0, 0, false, 0, 0⟩,
        false, [], [], []⟩ : DccpSock).state ≠ .requesting ∧
      (⟨.reset, 150, 5, []⟩ : DccpPacket).type = .reset ∧
      ((dccpRcv dccpoLinux 100 default default
          ⟨.«open», .server, ⟨0, 200, 0, 10, 0, 0, 100, 0⟩, false, ⟨{}, 0, 0, false, 0, 0⟩,
            false, [], [], []⟩
          ⟨.reset, 150, 5, []⟩).1.rcvQueue = [] ++ [⟨.reset, 150, 5, []⟩] ↔
        ((between48 150 (dccpIncSeqno 100) 200 = true ∧
            (5 = dccpPktWithoutAckSeq ∨ between48 5 0 10 = true)) ∧
          ∃ opts, dccpParseOptions dccpoLinux ⟨false, false, 0⟩ default
            ⟨{}, 0, 0, false, 0, 0⟩ [] = .ok opts) ∧
        ¬(false = true ∧ false = true)) :=
  ⟨by decide, by decide, rfl,
    dccpRcv_reset_queued dccpoLinux 100 _ _ _ _ (by decide) (by decide) rfl⟩

end Resets

section Delivery

variable {o w} {env : RcvEnv} {s s' : DccpSock} {p : DccpPacket}

theorem RcvEffect.queue (h : RcvEffect o w env s p s') :
    s'.rcvQueue = s.rcvQueue ∨ s'.rcvQueue = s.rcvQueue ++ [p] := by
  cases h with
  | keep _ hq => exact .inl hq
  | enterPartOpen _ _ _ _ _ _ _ hq => exact .inl hq
  | enterOpen _ _ _ _ _ hq => exact hq.imp_right And.right
  | deliver _ _ _ _ hq => exact .inr hq
  | closing _ _ _ _ _ hq => exact .inl hq
  | close _ _ _ _ hq => exact .inr hq
  | reset _ _ _ hq => exact .inr hq

theorem RcvEffect.closing_client (h : RcvEffect o w env s p s') (hc : s'.state = .closing) :
    s.state = .closing ∨ s.role = .client := by
  cases h with
  | keep hst => exact .inl (hst ▸ hc)
  | closing _ hrole => exact .inr hrole
  | enterPartOpen _ _ _ _ hst' | enterOpen _ _ _ hst' | deliver _ _ _ hst' | close _ _ _ hst'
  | reset _ _ hst' => rw [hst'] at hc; cases hc

theorem RcvEffect.queue_of_rank (h : RcvEffect o w env s p s')
    (hr : s'.state.rank < DccpState.rank .«open») : s'.rcvQueue = s.rcvQueue := by
  cases h with
  | keep _ hq => exact hq
  | enterPartOpen _ _ _ _ _ _ _ hq => exact hq
  | enterOpen _ _ _ hst' | deliver _ _ _ hst' | closing _ _ _ _ hst' | close _ _ _ hst'
  | reset _ _ hst' => rw [hst'] at hr; exact absurd hr (by decide)

theorem RcvEffect.ne_requesting (h : RcvEffect o w env s p s') (hr : s.state ≠ .requesting) :
    s'.state ≠ .requesting := by
  cases h with
  | keep hst => rwa [hst]
  | enterPartOpen hst => exact absurd hst hr
  | enterOpen _ _ _ hst' | deliver _ _ _ hst' | closing _ _ _ _ hst' | close _ _ _ hst'
  | reset _ _ hst' => rw [hst']; decide

end Delivery

/-- What a run adds to `sk_receive_queue` is a subsequence of its packets. -/
theorem rcvRun_queue_sublist (s : DccpSock) (is : List RcvInput) :
    ∃ qs, (rcvRun o w s is).rcvQueue = s.rcvQueue ++ qs ∧ List.Sublist qs (is.map (·.pkt)) := by
  induction is generalizing s with
  | nil => exact ⟨[], (List.append_nil _).symm, .slnil⟩
  | cons i is ih =>
    obtain ⟨qs, h1, h2⟩ := ih (dccpRcv o w i.env i.env2 s i.pkt).1
    rcases (dccpRcv_effect o w i.env i.env2 s i.pkt).queue with h | h
    · exact ⟨qs, by rw [rcvRun, h1, h], h2.cons _⟩
    · exact ⟨i.pkt :: qs, by rw [rcvRun, h1, h, List.append_assoc]; rfl, h2.cons₂ _⟩

/-- A run that ends short of OPEN has queued nothing. -/
theorem rcvRun_no_data_before_open (s : DccpSock) (is : List RcvInput)
    (h : (rcvRun o w s is).state ∈ [.listen, .requesting, .respond, .partOpen]) :
    (rcvRun o w s is).rcvQueue = s.rcvQueue := by
  have hr : (rcvRun o w s is).state.rank < DccpState.rank .«open» := by
    simp only [List.mem_cons, List.mem_singleton, List.not_mem_nil, or_false] at h
    rcases h with h | h | h | h <;> rw [h] <;> decide
  clear h
  induction is generalizing s with
  | nil => rfl
  | cons i is ih =>
    have hle := (rcvRun_trace o w (dccpRcv o w i.env i.env2 s i.pkt).1 is).rank_le
    rw [rcvRun] at hr ⊢
    rw [ih _ hr]
    exact (dccpRcv_effect o w i.env i.env2 s i.pkt).queue_of_rank (Nat.lt_of_le_of_lt hle hr)

theorem rcvRun_no_data_before_open_respond :
    (rcvRun dccpoLinux 100
        ⟨.respond, .server, ⟨0, 200, 0, 10, 0, 0, 100, 0⟩, false, ⟨{}, 0, 0, false, 0, 0⟩, false,
          [], [], []⟩
        [⟨⟨.data, 150, dccpPktWithoutAckSeq, []⟩, default, default⟩]).state ∈
        [.listen, .requesting, .respond, .partOpen] ∧
      (rcvRun dccpoLinux 100
          ⟨.respond, .server, ⟨0, 200, 0, 10, 0, 0, 100, 0⟩, false, ⟨{}, 0, 0, false, 0, 0⟩, false,
            [], [], []⟩
          [⟨⟨.data, 150, dccpPktWithoutAckSeq, []⟩, default, default⟩]).rcvQueue = [] := by
  refine (fun h => ⟨h, rcvRun_no_data_before_open dccpoLinux 100 _ _ h⟩) ?_
  simp only [rcvRun, dccpRcv, dccpRcvStateProcess, rcvCheck, dccpParseOptions_nil]
  decide

/-- A socket that is not a client never enters CLOSING. -/
theorem rcvRun_server_not_closing (s : DccpSock) (is : List RcvInput) (hr : s.role ≠ .client)
    (hs : s.state ≠ .closing) : (rcvRun o w s is).state ≠ .closing := by
  induction is generalizing s with
  | nil => exact hs
  | cons i is ih =>
    refine ih _ (by rw [dccpRcv_role]; exact hr) fun hc => ?_
    rcases (dccpRcv_effect o w i.env i.env2 s i.pkt).closing_client hc with h | h
    · exact hs h
    · exact hr h

theorem rcvRun_server_not_closing_closeReq :
    (⟨.«open», .server, ⟨0, 200, 0, 10, 0, 0, 100, 0⟩, false, ⟨{}, 0, 0, false, 0, 0⟩, false,
        [], [], []⟩ : DccpSock).role ≠ .client ∧
      (⟨.«open», .server, ⟨0, 200, 0, 10, 0, 0, 100, 0⟩, false, ⟨{}, 0, 0, false, 0, 0⟩, false,
        [], [], []⟩ : DccpSock).state ≠ .closing ∧
      (rcvRun dccpoLinux 100
        ⟨.«open», .server, ⟨0, 200, 0, 10, 0, 0, 100, 0⟩, false, ⟨{}, 0, 0, false, 0, 0⟩, false,
          [], [], []⟩
        [⟨⟨.closeReq, 150, 5, []⟩, default, default⟩]).state ≠ .closing :=
  ⟨by decide, by decide, rcvRun_server_not_closing dccpoLinux 100 _ _ (by decide) (by decide)⟩

/-- Past REQUESTING, no run of the receive path moves `ISR`, `AWL` or `AWH`. -/
theorem rcvRun_keeps_isr (s : DccpSock) (is : List RcvInput) (hr : s.state ≠ .requesting) :
    (rcvRun o w s is).seq.isr = s.seq.isr ∧ (rcvRun o w s is).seq.awl = s.seq.awl ∧
      (rcvRun o w s is).seq.awh = s.seq.awh := by
  suffices SeqKeeps s.seq (rcvRun o w s is).seq from this
  induction is generalizing s with
  | nil => exact .refl _
  | cons i is ih =>
    exact (dccpRcv_keeps o w i.env i.env2 s i.pkt hr).trans
      (ih _ ((dccpRcv_effect o w i.env i.env2 s i.pkt).ne_requesting hr))

theorem rcvRun_keeps_isr_sync :
    (⟨.«open», .client, ⟨0, 200, 0, 10, 7, 0, 100, 0⟩, false, ⟨{}, 0, 0, false, 0, 0⟩, false,
        [], [], []⟩ : DccpSock).state ≠ .requesting ∧
      (rcvRun dccpoLinux 100
          ⟨.«open», .client, ⟨0, 200, 0, 10, 7, 0, 100, 0⟩, false, ⟨{}, 0, 0, false, 0, 0⟩, false,
            [], [], []⟩
          [⟨⟨.sync, 5000, 5, []⟩, default, default⟩,
            ⟨⟨.reset, 5001, 5, []⟩, default, default⟩]).seq.isr = 7 ∧
      (rcvRun dccpoLinux 100
          ⟨.«open», .client, ⟨0, 200, 0, 10, 7, 0, 100, 0⟩, false, ⟨{}, 0, 0, false, 0, 0⟩, false,
            [], [], []⟩
          [⟨⟨.sync, 5000, 5, []⟩, default, default⟩,
            ⟨⟨.reset, 5001, 5, []⟩, default, default⟩]).seq.awl = 0 ∧
      (rcvRun dccpoLinux 100
          ⟨.«open», .client, ⟨0, 200, 0, 10, 7, 0, 100, 0⟩, false, ⟨{}, 0, 0, false, 0, 0⟩, false,
            [], [], []⟩
          [⟨⟨.sync, 5000, 5, []⟩, default, default⟩,
            ⟨⟨.reset, 5001, 5, []⟩, default, default⟩]).seq.awh = 10 :=
  ⟨by decide, rcvRun_keeps_isr dccpoLinux 100 _ _ (by decide)⟩

end DccpTfrc
