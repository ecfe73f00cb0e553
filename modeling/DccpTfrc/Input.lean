import DccpTfrc.Seqno
import DccpTfrc.ParseOptions

namespace DccpTfrc

/-- The connection states `DCCP_*` of `linux/dccp.h`, which is not in this tree. -/
inductive DccpState
  | «open» | requesting | listen | respond | closing | timeWait | closed | partOpen
  deriving DecidableEq, Repr

inductive DccpRole
  | undefined | listen | client | server
  deriving DecidableEq, Repr

/-- What the receive path sends: `dccp_send_sync`, a Reset, `dccp_send_close`, `dccp_send_ack`. -/
inductive DccpOutput
  | sync (seq : Nat)
  | resetClosed
  | close
  | ack
  deriving DecidableEq, Repr

structure DccpPacket where
  type : DccpPktType
  seq : Nat
  ackSeq : Nat
  options : List Nat
  deriving DecidableEq, Repr

/-- What the receive path keeps of the socket, with the packets it queued, handed on and sent. -/
structure DccpSock where
  state : DccpState
  role : DccpRole
  seq : SeqVars
  sendAckVector : Bool
  opts : ParseState
  rcvShutdown : Bool
  rcvQueue : List DccpPacket
  ccidRecv : List DccpPacket
  sent : List DccpOutput
  deriving DecidableEq, Repr

/-- The answers, for one packet, of what the receive path calls outside this tree. -/
structure RcvEnv where
  hd : OptionHandlers
  ackpktsFull : Bool
  connRequestFails : Bool
  ccidInitFails : Bool
  deferAck : Bool
  now : Int
  deriving Inhabited

variable (o : Dccpo) (w : Nat)

def dccpFin (s : DccpSock) (p : DccpPacket) : DccpSock :=
  { s with rcvShutdown := true, rcvQueue := s.rcvQueue ++ [p] }

def dccpRcvClose (s : DccpSock) (p : DccpPacket) : DccpSock :=
  match s.state with
  | .partOpen | .«open» =>
    { dccpFin { s with sent := s.sent ++ [.resetClosed] } p with state := .closed }
  | _ => s

def dccpRcvClosereq (s : DccpSock) (p : DccpPacket) : DccpSock :=
  if s.role ≠ .client then { s with sent := s.sent ++ [.sync p.seq] }
  else
    match s.state with
    | .partOpen | .«open» => { s with state := .closing, sent := s.sent ++ [.close] }
    | _ => s

/-- Steps 6 and 8: `dccp_check_seqno`, then `dccp_parse_options`; an error discards the packet. -/
def rcvCheck (env : RcvEnv) (s : DccpSock) (p : DccpPacket) : Except DccpSock DccpSock :=
  match dccpCheckSeqno w s.seq p.type p.seq p.ackSeq with
  | .drop => .error s
  | .sync => .error { s with sent := s.sent ++ [.sync p.seq] }
  | .ok seq =>
    let s := { s with seq := seq }
    match dccpParseOptions o ⟨p.type == .data, s.sendAckVector, env.now⟩ env.hd s.opts
        p.options with
    | .error _ => .error { s with
        opts := dccpParseOptionsState o ⟨p.type == .data, s.sendAckVector, env.now⟩ env.hd s.opts
          p.options }
    | .ok opts => .ok { s with opts := opts }

/-- The `switch` on the packet type at the end of `dccp_rcv_established`. -/
def rcvEstablishedType (s : DccpSock) (p : DccpPacket) : DccpSock :=
  match p.type with
  | .dataAck | .data => { s with rcvQueue := s.rcvQueue ++ [p] }
  | .ack => s
  | .reset => { dccpFin s p with state := .timeWait }
  | .closeReq => dccpRcvClosereq s p
  | .close => dccpRcvClose s p
  | .request =>
    if s.role ≠ .listen ∨ !before48 p.seq s.seq.osr then { s with sent := s.sent ++ [.sync p.seq] }
    else s
  | .response =>
    if s.role ≠ .client ∨ !before48 p.seq s.seq.osr then { s with sent := s.sent ++ [.sync p.seq] }
    else s
  | .sync | .syncAck => s

/-- A Reset goes to `dccp_time_wait`, outside this tree, taken to leave `DCCP_TIME_WAIT`. -/
def dccpRcvEstablished (env : RcvEnv) (s : DccpSock) (p : DccpPacket) : DccpSock :=
  match rcvCheck o w env s p with
  | .error s => s
  | .ok s =>
    if s.sendAckVector && env.ackpktsFull then s
    else rcvEstablishedType { s with ccidRecv := s.ccidRecv ++ [p] } p

/-- `dccp_rcv_request_sent_state_process`, with its return value. -/
def dccpRcvRequestSentStateProcess (env : RcvEnv) (s : DccpSock) (p : DccpPacket) :
    DccpSock × Int :=
  if p.type = .response then
    if !between48 p.ackSeq s.seq.awl s.seq.awh then (s, 1)
    else
      let s := { s with seq := dccpUpdateGsr w { s.seq with isr := p.seq } p.seq }
      if env.ccidInitFails then (s, 1)
      else
        let s := { s with state := .partOpen }
        if env.deferAck then (s, 0) else ({ s with sent := s.sent ++ [.ack] }, -1)
  else (s, 1)

/-- `env` answers for the second pass of a DataAck, through `dccp_rcv_established`. -/
def dccpRcvRespondPartopenStateProcess (env : RcvEnv) (s : DccpSock) (p : DccpPacket) :
    DccpSock :=
  match p.type with
  | .dataAck | .ack =>
    let s := { s with seq := { s.seq with osr := p.seq }, state := .«open» }
    if p.type = .dataAck then dccpRcvEstablished o w env s p else s
  | _ => s

/-- The Step 7 test for packet types a socket must not receive. -/
def unexpectedPacket (s : DccpSock) (type : DccpPktType) : Bool :=
  (s.role ≠ .client && (type == .response || type == .closeReq)) ||
    (s.role == .client && type == .request) || (s.state == .respond && type == .data)

/-- `dccp_rcv_state_process`; the caller sends a Reset when the flag is set. -/
def dccpRcvStateProcess (env env2 : RcvEnv) (s : DccpSock) (p : DccpPacket) : DccpSock × Bool :=
  if s.state = .listen then
    if p.type = .request then (s, env.connRequestFails)
    else if p.type = .reset then (s, false)
    else (s, true)
  else
    let front : Except DccpSock DccpSock :=
      if s.state ≠ .requesting then
        match rcvCheck o w env s p with
        | .error s => .error s
        | .ok s =>
          let s := { s with ccidRecv := s.ccidRecv ++ [p] }
          if s.sendAckVector && env.ackpktsFull then .error s else .ok s
      else .ok s
    match front with
    | .error s => (s, false)
    | .ok s =>
      if p.type = .reset then ({ dccpFin s p with state := .timeWait }, false)
      else if unexpectedPacket s p.type then ({ s with sent := s.sent ++ [.sync p.seq] }, false)
      else
        match s.state with
        | .closed => (s, true)
        | .requesting =>
          let r := dccpRcvRequestSentStateProcess w env s p
          (r.1, r.2 = 1)
        | .respond | .partOpen => (dccpRcvRespondPartopenStateProcess o w env2 s p, false)
        | _ => (s, false)

/-- The caller `dccp_v4_do_rcv`, outside this tree, as input.c's Step 3 comment ("Continuing
from dccp_v4_do_rcv") and its note "Caller (dccp_v4_do_rcv) will send Reset" describe it. -/
def dccpRcv (env env2 : RcvEnv) (s : DccpSock) (p : DccpPacket) : DccpSock × Bool :=
  if s.state = .«open» then (dccpRcvEstablished o w env s p, false)
  else dccpRcvStateProcess o w env env2 s p

structure RcvInput where
  pkt : DccpPacket
  env : RcvEnv
  env2 : RcvEnv

/-- The socket after the packets `is` arrive, in order. -/
def rcvRun (s : DccpSock) : List RcvInput → DccpSock
  | [] => s
  | i :: is => rcvRun (dccpRcv o w i.env i.env2 s i.pkt).1 is

theorem rcvCheck_eq_ok {env : RcvEnv} {s s' : DccpSock} {p : DccpPacket} :
    rcvCheck o w env s p = .ok s' ↔
      ∃ seq opts, dccpCheckSeqno w s.seq p.type p.seq p.ackSeq = .ok seq ∧
        dccpParseOptions o ⟨p.type == .data, s.sendAckVector, env.now⟩ env.hd s.opts
          p.options = .ok opts ∧
        s' = { s with seq := seq, opts := opts } := by
  unfold rcvCheck
  cases hc : dccpCheckSeqno w s.seq p.type p.seq p.ackSeq with
  | drop => simp
  | sync => simp
  | ok seq =>
    cases hp : dccpParseOptions o ⟨p.type == .data, s.sendAckVector, env.now⟩ env.hd s.opts
      p.options with
    | error e => simp [hp]
    | ok opts => simp [hp, eq_comm]

/-- A discarded packet changes only the sequence variables, the parsed options and the Syncs. -/
theorem rcvCheck_eq_error {env : RcvEnv} {s s' : DccpSock} {p : DccpPacket}
    (h : rcvCheck o w env s p = .error s') :
    ∃ seq opts sent, seq.osr = s.seq.osr ∧
      s' = { s with seq := seq, opts := opts, sent := sent } := by
  unfold rcvCheck at h
  split at h
  · cases h; exact ⟨s.seq, s.opts, s.sent, rfl, rfl⟩
  · cases h; exact ⟨s.seq, s.opts, _, rfl, rfl⟩
  · rename_i seq hc
    dsimp only at h
    split at h
    · cases h; exact ⟨_, _, s.sent, (dccpCheckSeqno_ok w hc).2.2, rfl⟩
    · cases h

def RcvAccepted (env : RcvEnv) (s : DccpSock) (p : DccpPacket) : Prop :=
  (∃ seq, dccpCheckSeqno w s.seq p.type p.seq p.ackSeq = .ok seq) ∧
    ∃ opts, dccpParseOptions o ⟨p.type == .data, s.sendAckVector, env.now⟩ env.hd s.opts
      p.options = .ok opts

theorem rcvCheck_accepted {env : RcvEnv} {s s' : DccpSock} {p : DccpPacket}
    (h : rcvCheck o w env s p = .ok s') : RcvAccepted o w env s p ∧ s'.state = s.state ∧
      s'.role = s.role ∧ s'.rcvQueue = s.rcvQueue ∧ s'.rcvShutdown = s.rcvShutdown ∧
      s'.sendAckVector = s.sendAckVector ∧ s'.seq.osr = s.seq.osr := by
  obtain ⟨seq, opts, hc, hp, rfl⟩ := (rcvCheck_eq_ok o w).1 h
  exact ⟨⟨⟨seq, hc⟩, ⟨opts, hp⟩⟩, rfl, rfl, rfl, rfl, rfl, (dccpCheckSeqno_ok w hc).2.2⟩

/-- Everything one packet can do to a socket's state, queue and shutdown flag. -/
inductive RcvEffect (env : RcvEnv) (s : DccpSock) (p : DccpPacket) (s' : DccpSock) : Prop
  | keep (hstate : s'.state = s.state) (hqueue : s'.rcvQueue = s.rcvQueue)
      (hshut : s'.rcvShutdown = s.rcvShutdown)
  | enterPartOpen (hstate : s.state = .requesting) (hrole : s.role = .client)
      (htype : p.type = .response) (hack : between48 p.ackSeq s.seq.awl s.seq.awh = true)
      (hstate' : s'.state = .partOpen) (hisr : s'.seq.isr = p.seq) (hgsr : s'.seq.gsr = p.seq)
      (hqueue : s'.rcvQueue = s.rcvQueue) (hshut : s'.rcvShutdown = s.rcvShutdown)
  | enterOpen (hstate : s.state = .respond ∨ s.state = .partOpen)
      (htype : p.type = .ack ∨ p.type = .dataAck) (hacc : RcvAccepted o w env s p)
      (hstate' : s'.state = .«open») (hosr : s'.seq.osr = p.seq)
      (hqueue : s'.rcvQueue = s.rcvQueue ∨ p.type = .dataAck ∧ s'.rcvQueue = s.rcvQueue ++ [p])
      (hshut : s'.rcvShutdown = s.rcvShutdown)
  | deliver (hstate : s.state = .«open») (htype : p.type = .data ∨ p.type = .dataAck)
      (hacc : RcvAccepted o w env s p) (hstate' : s'.state = .«open»)
      (hqueue : s'.rcvQueue = s.rcvQueue ++ [p]) (hshut : s'.rcvShutdown = s.rcvShutdown)
  | closing (hstate : s.state = .«open») (hrole : s.role = .client) (htype : p.type = .closeReq)
      (hacc : RcvAccepted o w env s p) (hstate' : s'.state = .closing)
      (hqueue : s'.rcvQueue = s.rcvQueue) (hshut : s'.rcvShutdown = s.rcvShutdown)
  | close (hstate : s.state = .«open») (htype : p.type = .close) (hacc : RcvAccepted o w env s p)
      (hstate' : s'.state = .closed) (hqueue : s'.rcvQueue = s.rcvQueue ++ [p])
      (hshut : s'.rcvShutdown = true)
  | reset (htype : p.type = .reset)
      (hcheck : s.state = .requesting ∨ s.state ≠ .listen ∧ s.state ≠ .requesting ∧
        RcvAccepted o w env s p ∧ ¬(s.sendAckVector = true ∧ env.ackpktsFull = true))
      (hstate' : s'.state = .timeWait) (hqueue : s'.rcvQueue = s.rcvQueue ++ [p])
      (hshut : s'.rcvShutdown = true)

theorem dccpRcvEstablished_effect (env : RcvEnv) (s : DccpSock) (p : DccpPacket)
    (hs : s.state = .«open») : RcvEffect o w env s p (dccpRcvEstablished o w env s p) := by
  unfold dccpRcvEstablished
  split
  · rename_i s1 h
    obtain ⟨seq, opts, sent, -, rfl⟩ := rcvCheck_eq_error o w h
    exact .keep rfl rfl rfl
  · rename_i s1 h
    obtain ⟨hacc, h1, h2, h3, h4, h5, -⟩ := rcvCheck_accepted o w h
    split
    · exact .keep h1 h3 h4
    · rename_i hfull
      rw [h5] at hfull
      unfold rcvEstablishedType
      split
      · rename_i ht; exact .deliver hs (.inr ht) hacc (h1.trans hs) (by simp [h3]) h4
      · rename_i ht; exact .deliver hs (.inl ht) hacc (h1.trans hs) (by simp [h3]) h4
      · exact .keep h1 h3 h4
      · rename_i ht
        exact .reset ht (.inr ⟨by simp [hs], by simp [hs], hacc, by simpa using hfull⟩) rfl
          (by simp [dccpFin, h3]) rfl
      · rename_i ht
        unfold dccpRcvClosereq
        split
        · exact .keep h1 h3 h4
        · rename_i hrole
          simp only [h1, hs]
          exact .closing hs (by simpa [h2] using hrole) ht hacc rfl h3 h4
      · rename_i ht
        unfold dccpRcvClose
        simp only [h1, hs]
        exact .close hs ht hacc rfl (by simp [dccpFin, h3]) rfl
      · split <;> exact .keep h1 h3 h4
      · split <;> exact .keep h1 h3 h4
      · exact .keep h1 h3 h4
      · exact .keep h1 h3 h4

theorem rcvEstablishedType_seq (s : DccpSock) (p : DccpPacket) :
    (rcvEstablishedType s p).seq = s.seq := by
  unfold rcvEstablishedType dccpRcvClosereq dccpRcvClose
  split <;> (try split) <;> (try split) <;> rfl

theorem dccpRcvEstablished_osr (env : RcvEnv) (s : DccpSock) (p : DccpPacket) :
    (dccpRcvEstablished o w env s p).seq.osr = s.seq.osr := by
  unfold dccpRcvEstablished
  split
  · rename_i s1 h
    obtain ⟨seq, opts, sent, hosr, rfl⟩ := rcvCheck_eq_error o w h
    exact hosr
  · rename_i s1 h
    have h1 := (rcvCheck_accepted o w h).2.2.2.2.2.2
    split
    · exact h1
    · rw [rcvEstablishedType_seq]; exact h1

theorem dccpRcvEstablished_dataAck (env : RcvEnv) (s : DccpSock) (p : DccpPacket)
    (hs : s.state = .«open») (hp : p.type = .dataAck) :
    (dccpRcvEstablished o w env s p).state = .«open» ∧
      (dccpRcvEstablished o w env s p).seq.osr = s.seq.osr ∧
      (dccpRcvEstablished o w env s p).rcvShutdown = s.rcvShutdown ∧
      ((dccpRcvEstablished o w env s p).rcvQueue = s.rcvQueue ∨
        (dccpRcvEstablished o w env s p).rcvQueue = s.rcvQueue ++ [p]) := by
  refine ⟨?_, dccpRcvEstablished_osr o w env s p, ?_⟩
  · cases dccpRcvEstablished_effect o w env s p hs <;> simp_all
  · cases dccpRcvEstablished_effect o w env s p hs <;> simp_all

theorem respondPartopen_effect (env env2 : RcvEnv) {s s1 : DccpSock} {p : DccpPacket}
    (hst : s.state = .respond ∨ s.state = .partOpen) (hacc : RcvAccepted o w env s p)
    (h1 : s1.state = s.state) (h3 : s1.rcvQueue = s.rcvQueue)
    (h4 : s1.rcvShutdown = s.rcvShutdown) :
    RcvEffect o w env s p (dccpRcvRespondPartopenStateProcess o w env2 s1 p) := by
  unfold dccpRcvRespondPartopenStateProcess
  split
  · rename_i hdata
    dsimp only
    rw [if_pos hdata]
    obtain ⟨ho, hosr, hsh, hq⟩ := dccpRcvEstablished_dataAck o w env2
      { s1 with seq := { s1.seq with osr := p.seq }, state := .«open» } p rfl hdata
    refine .enterOpen hst (.inr hdata) hacc ho hosr ?_ (hsh.trans h4)
    rcases hq with hq | hq
    · exact .inl (hq.trans h3)
    · exact .inr ⟨hdata, hq.trans (by rw [h3])⟩
  · rename_i hack
    dsimp only
    rw [if_neg (by simp [hack])]
    exact .enterOpen hst (.inl hack) hacc rfl rfl (.inl h3) h4
  · exact .keep h1 h3 h4

theorem dccpRcvStateProcess_effect (env env2 : RcvEnv) (s : DccpSock) (p : DccpPacket) :
    RcvEffect o w env s p (dccpRcvStateProcess o w env env2 s p).1 := by
  unfold dccpRcvStateProcess
  split
  · split
    · exact .keep rfl rfl rfl
    · split <;> exact .keep rfl rfl rfl
  · rename_i hl
    dsimp only
    by_cases hr : s.state = .requesting
    · rw [if_neg (not_not.2 hr)]
      dsimp only
      split
      · rename_i ht
        exact .reset ht (.inl hr) rfl (by simp [dccpFin]) rfl
      · split
        · exact .keep rfl rfl rfl
        · rename_i ht hu
          rw [hr]
          dsimp only
          unfold dccpRcvRequestSentStateProcess
          split
          · rename_i hresp
            split
            · exact .keep rfl rfl rfl
            · rename_i hack
              dsimp only
              split
              · exact .keep rfl rfl rfl
              · split
                · refine .enterPartOpen hr ?_ hresp (by simpa using hack) rfl rfl rfl rfl rfl
                  simp only [unexpectedPacket, hresp] at hu
                  simpa using hu
                · refine .enterPartOpen hr ?_ hresp (by simpa using hack) rfl rfl rfl rfl rfl
                  simp only [unexpectedPacket, hresp] at hu
                  simpa using hu
          · exact .keep rfl rfl rfl
    · rw [if_pos hr]
      cases hc : rcvCheck o w env s p with
      | error s1 =>
        obtain ⟨seq, opts, sent, -, rfl⟩ := rcvCheck_eq_error o w hc
        exact .keep rfl rfl rfl
      | ok s1 =>
        obtain ⟨hacc, h1, h2, h3, h4, h5, -⟩ := rcvCheck_accepted o w hc
        dsimp only
        by_cases hfull : (s1.sendAckVector && env.ackpktsFull) = true
        · rw [if_pos hfull]
          exact .keep h1 h3 h4
        · rw [if_neg hfull]
          dsimp only
          rw [h5] at hfull
          split
          · rename_i ht
            exact .reset ht (.inr ⟨hl, hr, hacc, by simpa using hfull⟩) rfl
              (by simp [dccpFin, h3]) rfl
          · split
            · exact .keep h1 h3 h4
            · rename_i ht hu
              split
              · exact .keep h1 h3 h4
              · rename_i hreq; exact absurd (h1.symm.trans hreq) hr
              · rename_i hst
                exact respondPartopen_effect o w env env2 (.inl (h1.symm.trans hst)) hacc h1 h3 h4
              · rename_i hst
                exact respondPartopen_effect o w env env2 (.inr (h1.symm.trans hst)) hacc h1 h3 h4
              · exact .keep h1 h3 h4

theorem dccpRcv_effect (env env2 : RcvEnv) (s : DccpSock) (p : DccpPacket) :
    RcvEffect o w env s p (dccpRcv o w env env2 s p).1 := by
  unfold dccpRcv
  split
  · exact dccpRcvEstablished_effect o w env s p ‹_›
  · exact dccpRcvStateProcess_effect o w env env2 s p

theorem rcvCheck_role {env : RcvEnv} {s s' : DccpSock} {p : DccpPacket}
    (h : rcvCheck o w env s p = .error s' ∨ rcvCheck o w env s p = .ok s') :
    s'.role = s.role := by
  rcases h with h | h
  · obtain ⟨seq, opts, sent, -, rfl⟩ := rcvCheck_eq_error o w h; rfl
  · exact (rcvCheck_accepted o w h).2.2.1

theorem rcvEstablishedType_role (s : DccpSock) (p : DccpPacket) :
    (rcvEstablishedType s p).role = s.role := by
  unfold rcvEstablishedType dccpRcvClosereq dccpRcvClose
  split <;> (repeat' split) <;> rfl

theorem dccpRcvEstablished_role (env : RcvEnv) (s : DccpSock) (p : DccpPacket) :
    (dccpRcvEstablished o w env s p).role = s.role := by
  unfold dccpRcvEstablished
  split
  · exact rcvCheck_role o w (.inl ‹_›)
  · have h := rcvCheck_role o w (.inr ‹_›)
    split
    · exact h
    · rw [rcvEstablishedType_role]; exact h

theorem dccpRcvRequestSentStateProcess_role (env : RcvEnv) (s : DccpSock) (p : DccpPacket) :
    (dccpRcvRequestSentStateProcess w env s p).1.role = s.role := by
  unfold dccpRcvRequestSentStateProcess; split_ifs <;> rfl

theorem respondPartopen_role (env : RcvEnv) (s : DccpSock) (p : DccpPacket) :
    (dccpRcvRespondPartopenStateProcess o w env s p).role = s.role := by
  unfold dccpRcvRespondPartopenStateProcess
  split
  next hd => dsimp only; rw [if_pos hd, dccpRcvEstablished_role]
  next hd => dsimp only; rw [if_neg (by rw [hd]; decide)]
  next => rfl

theorem dccpRcvStateProcess_role (env env2 : RcvEnv) (s : DccpSock) (p : DccpPacket) :
    (dccpRcvStateProcess o w env env2 s p).1.role = s.role := by
  unfold dccpRcvStateProcess
  split
  · split_ifs <;> rfl
  · dsimp only
    by_cases hr : s.state = .requesting
    · rw [if_neg (not_not.2 hr)]
      dsimp only
      split_ifs
      · rfl
      · rfl
      · simp only [hr]; exact dccpRcvRequestSentStateProcess_role w env s p
    · rw [if_pos hr]
      cases hc : rcvCheck o w env s p with
      | error s1 => exact rcvCheck_role o w (.inl hc)
      | ok s1 =>
        have h1 := rcvCheck_role o w (.inr hc)
        have hst := (rcvCheck_accepted o w hc).2.1
        dsimp only
        by_cases hfull : (s1.sendAckVector && env.ackpktsFull) = true
        · rw [if_pos hfull]; exact h1
        · rw [if_neg hfull]
          dsimp only
          split
          · exact h1
          · split
            · exact h1
            · split
              · exact h1
              · rename_i hreq; exact absurd (hst.symm.trans hreq) hr
              · exact (respondPartopen_role o w env2 _ p).trans h1
              · exact (respondPartopen_role o w env2 _ p).trans h1
              · exact h1

theorem dccpRcv_role (env env2 : RcvEnv) (s : DccpSock) (p : DccpPacket) :
    (dccpRcv o w env env2 s p).1.role = s.role := by
  unfold dccpRcv
  split
  · exact dccpRcvEstablished_role o w env s p
  · exact dccpRcvStateProcess_role o w env env2 s p

/-- What the receive path leaves alone once `ISR` is set: `ISR`, `AWL` and `AWH`. -/
def SeqKeeps (sv sv' : SeqVars) : Prop :=
  sv'.isr = sv.isr ∧ sv'.awl = sv.awl ∧ sv'.awh = sv.awh

theorem SeqKeeps.refl (sv : SeqVars) : SeqKeeps sv sv := ⟨rfl, rfl, rfl⟩

theorem SeqKeeps.trans {a b c : SeqVars} (h1 : SeqKeeps a b) (h2 : SeqKeeps b c) :
    SeqKeeps a c :=
  ⟨h2.1.trans h1.1, h2.2.1.trans h1.2.1, h2.2.2.trans h1.2.2⟩

theorem dccpCheckSeqno_keeps {sv sv' : SeqVars} {type : DccpPktType} {seq ackSeq : Nat}
    (h : dccpCheckSeqno w sv type seq ackSeq = .ok sv') : SeqKeeps sv sv' := by
  unfold dccpCheckSeqno at h
  split_ifs at h <;> obtain ⟨-, rfl⟩ := (seqnoStep6_ok_iff w).1 h <;> split_ifs <;>
    simp only [SeqKeeps, dccpUpdateGsr, and_self]

theorem rcvCheck_keeps {env : RcvEnv} {s s' : DccpSock} {p : DccpPacket}
    (h : rcvCheck o w env s p = .error s' ∨ rcvCheck o w env s p = .ok s') :
    SeqKeeps s.seq s'.seq := by
  unfold rcvCheck at h
  split at h
  · rcases h with h | h <;> cases h; exact .refl _
  · rcases h with h | h <;> cases h; exact .refl _
  · rename_i seq hc
    dsimp only at h
    split at h <;> rcases h with h | h <;> cases h <;> exact dccpCheckSeqno_keeps w hc

theorem dccpRcvEstablished_keeps (env : RcvEnv) (s : DccpSock) (p : DccpPacket) :
    SeqKeeps s.seq (dccpRcvEstablished o w env s p).seq := by
  unfold dccpRcvEstablished
  split
  · exact rcvCheck_keeps o w (.inl ‹_›)
  · have h := rcvCheck_keeps o w (.inr ‹_›)
    split
    · exact h
    · rw [rcvEstablishedType_seq]; exact h

theorem respondPartopen_keeps (env : RcvEnv) (s : DccpSock) (p : DccpPacket) :
    SeqKeeps s.seq (dccpRcvRespondPartopenStateProcess o w env s p).seq := by
  have hosr : SeqKeeps s.seq { s.seq with osr := p.seq } := ⟨rfl, rfl, rfl⟩
  unfold dccpRcvRespondPartopenStateProcess
  split
  next hd => dsimp only; rw [if_pos hd]; exact hosr.trans (dccpRcvEstablished_keeps o w env _ p)
  next hd => dsimp only; rw [if_neg (by rw [hd]; decide)]; exact hosr
  next => exact .refl _

theorem dccpRcvStateProcess_keeps (env env2 : RcvEnv) (s : DccpSock) (p : DccpPacket)
    (hr : s.state ≠ .requesting) : SeqKeeps s.seq (dccpRcvStateProcess o w env env2 s p).1.seq := by
  unfold dccpRcvStateProcess
  split
  · split_ifs <;> exact .refl _
  · dsimp only
    cases hc : rcvCheck o w env s p with
    | error s1 => exact rcvCheck_keeps o w (.inl hc)
    | ok s1 =>
      have h1 := rcvCheck_keeps o w (.inr hc)
      have hst := (rcvCheck_accepted o w hc).2.1
      dsimp only
      by_cases hfull : (s1.sendAckVector && env.ackpktsFull) = true
      · rw [if_pos hfull]; exact h1
      · rw [if_neg hfull]
        dsimp only
        split
        · exact h1
        · split
          · exact h1
          · split
            · exact h1
            · rename_i hreq; exact absurd (hst.symm.trans hreq) hr
            · exact h1.trans (respondPartopen_keeps o w env2 _ p)
            · exact h1.trans (respondPartopen_keeps o w env2 _ p)
            · exact h1

theorem dccpRcv_keeps (env env2 : RcvEnv) (s : DccpSock) (p : DccpPacket)
    (hr : s.state ≠ .requesting) : SeqKeeps s.seq (dccpRcv o w env env2 s p).1.seq := by
  unfold dccpRcv
  split
  · exact dccpRcvEstablished_keeps o w env s p
  · exact dccpRcvStateProcess_keeps o w env env2 s p hr

theorem rcvRun_append (s : DccpSock) (is js : List RcvInput) :
    rcvRun o w s (is ++ js) = rcvRun o w (rcvRun o w s is) js := by
  induction is generalizing s with
  | nil => rfl
  | cons i is ih => exact ih _

end DccpTfrc
