import DccpTfrc.ParseOptions
import DccpTfrc.Seqno

namespace DccpTfrc

/-- The option area while `dccp_insert_options` builds it: the pushed bytes and `dccpd_opt_len`. -/
structure OptArea where
  bytes : List Nat
  optLen : Nat
  optLen_eq : optLen = bytes.length
  optLen_le : optLen ≤ dccpMaxOptLen

namespace OptArea

def empty : OptArea := ⟨[], 0, rfl, by decide⟩

/-- `dccpd_opt_len += len` and `skb_push(skb, len)`, once the caller has checked that they fit. -/
def push (a : OptArea) (bs : List Nat) (h : a.optLen + bs.length ≤ dccpMaxOptLen) : OptArea :=
  ⟨bs ++ a.bytes, a.optLen + bs.length, by rw [List.length_append, a.optLen_eq, Nat.add_comm], h⟩

@[simp] theorem empty_bytes : empty.bytes = [] := rfl

@[simp] theorem push_bytes (a : OptArea) (bs : List Nat) (h) :
    (a.push bs h).bytes = bs ++ a.bytes :=
  rfl

@[simp] theorem push_optLen (a : OptArea) (bs : List Nat) (h) :
    (a.push bs h).optLen = a.optLen + bs.length :=
  rfl

end OptArea

def dccpInsertOption (a : OptArea) (option : Nat) (value : List Nat) : OptArea :=
  if h : a.optLen + value.length + 2 > dccpMaxOptLen then a
  else a.push (option :: (value.length + 2) :: value) (by simp only [List.length_cons]; omega)

theorem dccpInsertOptionNdp_fits (t : Nat) (c : Int) (nonData : Bool) {optLen : Nat}
    (h : optLen ≤ dccpMaxOptLen) :
    (dccpInsertOptionNdp t c nonData optLen).optLen =
        optLen + (dccpInsertOptionNdp t c nonData optLen).option.length ∧
      (dccpInsertOptionNdp t c nonData optLen).optLen ≤ dccpMaxOptLen := by
  have h3 : dccpNdpLen c ≤ 4 := by unfold dccpNdpLen; split_ifs <;> decide
  simp only [dccpInsertOptionNdp]
  split_ifs <;>
    simp only [List.length_cons, List.length_nil, dccpEncodeValueVar_length _ h3, true_and] <;>
    omega

variable (o : Dccpo)

/-- `dccp_insert_option_ndp` on the option area: the area and the new `dccps_ndp_count`. -/
def insertOptionNdp (a : OptArea) (ndpCount : Int) (nonData : Bool) : OptArea × Int :=
  let r := dccpInsertOptionNdp o.ndpCount ndpCount nonData a.optLen
  have hr : r.optLen = a.optLen + r.option.length ∧ r.optLen ≤ dccpMaxOptLen :=
    dccpInsertOptionNdp_fits _ _ _ a.optLen_le
  (⟨r.option ++ a.bytes, r.optLen,
      by rw [List.length_append, hr.1, ← a.optLen_eq, Nat.add_comm], hr.2⟩, r.ndpCount)

def dccpElapsedTimeLen (elapsedTime : Nat) : Nat :=
  if elapsedTime = 0 then 0 else if elapsedTime ≤ 0xFFFF then 2 else 4

theorem dccpElapsedTimeLen_le (e : Nat) : dccpElapsedTimeLen e ≤ 4 := by
  unfold dccpElapsedTimeLen; split_ifs <;> decide

theorem dccpElapsedTimeLen_cases (e : Nat) :
    dccpElapsedTimeLen e = 0 ∧ e = 0 ∨ dccpElapsedTimeLen e = 2 ∧ 0 < e ∧ e ≤ 0xFFFF ∨
      dccpElapsedTimeLen e = 4 ∧ 0xFFFF < e := by
  unfold dccpElapsedTimeLen; split_ifs <;> omega

def dccpInsertOptionElapsedTime (a : OptArea) (elapsedTime : Nat) : OptArea :=
  let elapsedTimeLen := dccpElapsedTimeLen elapsedTime
  let len := 2 + elapsedTimeLen
  if elapsedTimeLen = 0 then a
  else if h : a.optLen + len > dccpMaxOptLen then a
  else a.push (o.elapsedTime :: len :: dccpEncodeValueVar elapsedTime elapsedTimeLen)
    (by simp only [List.length_cons, dccpEncodeValueVar_length _ (dccpElapsedTimeLen_le _)]; omega)

/-- At `now` microseconds: the count of 10 us ticks, wrapping at 2^32, in network order. -/
def dccpInsertOptionTimestamp (a : OptArea) (now : Nat) : OptArea :=
  dccpInsertOption a o.timestamp (dccpEncodeValueVar (now / 10) 4)

/-- Echoes the waiting timestamp with the time held, in 10 us ticks, and clears both. -/
def dccpInsertOptionTimestampEcho (a : OptArea) (sk : ParseState) (now : Int) :
    OptArea × ParseState :=
  let elapsedTime := toU32 ((now - sk.timestampTime).tdiv 10)
  let elapsedTimeLen := dccpElapsedTimeLen elapsedTime
  let len := 6 + elapsedTimeLen
  if h : a.optLen + len > dccpMaxOptLen then (a, sk)
  else
    (a.push (o.timestampEcho :: len ::
        (dccpEncodeValueVar sk.timestampEcho 4 ++ dccpEncodeValueVar elapsedTime elapsedTimeLen))
      (by
        simp only [List.length_cons, List.length_append, dccpEncodeValueVar_length _ le_rfl,
          dccpEncodeValueVar_length _ (dccpElapsedTimeLen_le _)]
        omega),
      { sk with timestampEcho := 0, timestampTime := 0 })

/-- `struct dccp_opt_pend`: type, feature, value, `dccpop_conf` and the Confirm `dccpop_sc`. -/
structure DccpOptPend where
  type : Nat
  feat : Nat
  val : List Nat
  conf : Bool
  sc : Option (List Nat)
  deriving DecidableEq, Repr

def dccpInsertFeatOpt (a : OptArea) (type feat : Nat) (val : List Nat) : OptArea :=
  if h : a.optLen + val.length + 3 > dccpMaxOptLen then a
  else a.push (type :: (val.length + 3) :: feat :: val) (by simp only [List.length_cons]; omega)

/-- The loop of `dccp_insert_feat` over `dccpo_pending`. -/
def insertPending : OptArea → List DccpOptPend → OptArea
  | a, [] => a
  | a, opt :: opts =>
    let a := match opt.sc with
      | some sc => dccpInsertFeatOpt a (opt.type + 1) opt.feat sc
      | none => a
    let a := if !opt.conf then dccpInsertFeatOpt a opt.type opt.feat opt.val else a
    insertPending a opts

def dccpInsertFeat (a : OptArea) (conf pending : List DccpOptPend) :
    OptArea × List DccpOptPend × List DccpOptPend :=
  let a := conf.foldl (fun a opt => dccpInsertFeatOpt a opt.type opt.feat opt.val) a
  (insertPending a pending, [], pending.map fun opt => { opt with sc := none })

def insertPadding (a : OptArea) : OptArea :=
  if a.optLen ≠ 0 then
    let padding := a.optLen % 4
    if h : padding ≠ 0 then
      a.push (List.replicate (4 - padding) 0) (by
        have := a.optLen_le
        simp only [List.length_replicate, dccpMaxOptLen] at this ⊢
        omega)
    else a
  else a

/-- What `dccp_insert_options` reads and writes of the socket, and the option area it builds. -/
structure InsertState where
  sendNdpCount : Bool
  ndpCount : Int
  sendAckVector : Bool
  ts : ParseState
  hcRxInsertOptions : Bool
  hcTxInsertOptions : Bool
  conf : List DccpOptPend
  pending : List DccpOptPend
  area : OptArea

/-- The answers of what `dccp_insert_options` calls outside this tree. -/
structure InsertEnv where
  ackvecPending : Bool
  insertOptionAckvec : OptArea → OptArea
  ccidHcRxInsertOptions : OptArea → OptArea
  ccidHcTxInsertOptions : OptArea → OptArea
  now : Int

namespace InsertState

variable (env : InsertEnv) (type : DccpPktType)

def ndpStep (s : InsertState) : InsertState :=
  if s.sendNdpCount then
    let r := insertOptionNdp o s.area s.ndpCount (dccpNonDataPacket type)
    { s with area := r.1, ndpCount := r.2 }
  else s

/-- On a packet that acknowledges: the Ack Vector when pending, then the Timestamp Echo. -/
def ackStep (s : InsertState) : InsertState :=
  if !dccpPacketWithoutAck type then
    let s :=
      if s.sendAckVector && env.ackvecPending then { s with area := env.insertOptionAckvec s.area }
      else s
    if s.ts.timestampEcho ≠ 0 then
      let r := dccpInsertOptionTimestampEcho o s.area s.ts env.now
      { s with area := r.1, ts := r.2 }
    else s
  else s

def ccidStep (s : InsertState) : InsertState :=
  let s :=
    if s.hcRxInsertOptions then
      { s with area := env.ccidHcRxInsertOptions s.area, hcRxInsertOptions := false }
    else s
  if s.hcTxInsertOptions then
    { s with area := env.ccidHcTxInsertOptions s.area, hcTxInsertOptions := false }
  else s

def featStep (s : InsertState) : InsertState :=
  match type with
  | .data | .dataAck => s
  | _ =>
    let r := dccpInsertFeat s.area s.conf s.pending
    { s with area := r.1, conf := r.2.1, pending := r.2.2 }

end InsertState

/-- Each step pushes its options in front of those before it; the padding comes last. -/
def dccpInsertOptions (env : InsertEnv) (type : DccpPktType) (s : InsertState) : InsertState :=
  let s := { s with area := OptArea.empty }
  let s := s.ndpStep o type
  let s := s.ackStep o env type
  let s := s.ccidStep env
  let s := s.featStep type
  { s with area := insertPadding s.area }

theorem insertPadding_optLen (a : OptArea) : (insertPadding a).optLen % 4 = 0 := by
  dsimp only [insertPadding]
  split_ifs
  · rw [OptArea.push_optLen, List.length_replicate]; omega
  · omega
  · omega

/-- The area fills whole 32-bit words and fits in `DCCP_MAX_OPT_LEN`. -/
theorem dccpInsertOptions_aligned (env : InsertEnv) (type : DccpPktType) (s : InsertState) :
    (dccpInsertOptions o env type s).area.bytes.length % 4 = 0 ∧
      (dccpInsertOptions o env type s).area.bytes.length ≤ dccpMaxOptLen := by
  rw [← OptArea.optLen_eq]
  exact ⟨insertPadding_optLen _, OptArea.optLen_le _⟩

section Framing

variable {o}

theorem WellFramed.append {xs ys : List Nat} (hx : WellFramed o xs) (hy : WellFramed o ys) :
    WellFramed o (xs ++ ys) := by
  induction hx with
  | nil => exact hy
  | single hopt _ ih => exact .single hopt ih
  | tlv hopt hlen hval _ ih =>
    rw [List.cons_append, List.cons_append, List.append_assoc]
    exact .tlv hopt hlen hval ih

theorem wellFramed_tlv_append {opt len : Nat} {value rest : List Nat} (hopt : o.maxReserved < opt)
    (hlen : 3 ≤ len) (hval : value.length = len - 2) (hr : WellFramed o rest) :
    WellFramed o ((opt :: len :: value) ++ rest) :=
  .tlv hopt hlen hval hr

/-- A writer of options outside this tree keeps the option area well framed. -/
def KeepsFramed (o : Dccpo) (f : OptArea → OptArea) : Prop :=
  ∀ a, WellFramed o a.bytes → WellFramed o (f a).bytes

variable {a : OptArea}

theorem dccpInsertFeatOpt_wellFramed {type : Nat} (feat : Nat) (val : List Nat)
    (ht : o.maxReserved < type) (ha : WellFramed o a.bytes) :
    WellFramed o (dccpInsertFeatOpt a type feat val).bytes := by
  unfold dccpInsertFeatOpt
  split
  · exact ha
  · exact wellFramed_tlv_append ht (by omega) (by simp) ha

theorem insertPending_wellFramed {opts : List DccpOptPend}
    (h : ∀ opt ∈ opts, o.maxReserved < opt.type) (ha : WellFramed o a.bytes) :
    WellFramed o (insertPending a opts).bytes := by
  induction opts generalizing a with
  | nil => exact ha
  | cons opt opts ih =>
    have ht := h opt (.head _)
    apply ih (fun x hx => h x (.tail _ hx))
    have hsc : WellFramed o (match opt.sc with
        | some sc => dccpInsertFeatOpt a (opt.type + 1) opt.feat sc
        | none => a).bytes := by
      split
      · exact dccpInsertFeatOpt_wellFramed _ _ (by omega) ha
      · exact ha
    split
    · exact dccpInsertFeatOpt_wellFramed _ _ ht hsc
    · exact hsc

theorem dccpInsertFeat_wellFramed {conf pending : List DccpOptPend}
    (h : ∀ opt ∈ conf ++ pending, o.maxReserved < opt.type) (ha : WellFramed o a.bytes) :
    WellFramed o (dccpInsertFeat a conf pending).1.bytes := by
  refine insertPending_wellFramed (fun x hx => h x (List.mem_append_right _ hx)) ?_
  induction conf generalizing a with
  | nil => exact ha
  | cons opt conf ih =>
    exact ih (fun x hx => h x (by simp_all)) (dccpInsertFeatOpt_wellFramed _ _ (h opt (by simp)) ha)

theorem insertOptionNdp_wellFramed (ho : o.maxReserved < o.ndpCount) (c : Int) (nonData : Bool)
    (ha : WellFramed o a.bytes) : WellFramed o (insertOptionNdp o a c nonData).1.bytes := by
  show WellFramed o ((dccpInsertOptionNdp o.ndpCount c nonData a.optLen).option ++ a.bytes)
  have h3 : dccpNdpLen c ≤ 3 := by unfold dccpNdpLen; split_ifs <;> decide
  have h1 : 1 ≤ dccpNdpLen c := by unfold dccpNdpLen; split_ifs <;> decide
  have hval := dccpEncodeValueVar_length c.toNat (Nat.le_succ_of_le h3)
  simp only [dccpInsertOptionNdp]
  split_ifs <;>
    first
    | exact ha
    | exact wellFramed_tlv_append ho (by omega) (by rw [hval]; omega) ha

theorem dccpInsertOptionTimestampEcho_wellFramed (ho : o.maxReserved < o.timestampEcho)
    (sk : ParseState) (now : Int) (ha : WellFramed o a.bytes) :
    WellFramed o (dccpInsertOptionTimestampEcho o a sk now).1.bytes := by
  dsimp only [dccpInsertOptionTimestampEcho]
  split
  · exact ha
  · refine wellFramed_tlv_append ho (by omega) ?_ ha
    rw [List.length_append, dccpEncodeValueVar_length _ le_rfl,
      dccpEncodeValueVar_length _ (dccpElapsedTimeLen_le _)]
    omega

theorem insertPadding_wellFramed (ha : WellFramed o a.bytes) :
    WellFramed o (insertPadding a).bytes := by
  have hz : ∀ n, WellFramed o (List.replicate n 0 ++ a.bytes) := by
    intro n
    induction n with
    | zero => exact ha
    | succ n ih => exact .single (Nat.zero_le _) ih
  dsimp only [insertPadding]
  split_ifs
  · exact hz _
  · exact ha
  · exact ha

end Framing

namespace InsertState

variable {o} {env : InsertEnv} {type : DccpPktType} {s : InsertState}

theorem ndpStep_lists :
    (s.ndpStep o type).conf = s.conf ∧ (s.ndpStep o type).pending = s.pending := by
  unfold ndpStep; split <;> exact ⟨rfl, rfl⟩

theorem ackStep_lists :
    (s.ackStep o env type).conf = s.conf ∧ (s.ackStep o env type).pending = s.pending := by
  dsimp only [ackStep]; split_ifs <;> exact ⟨rfl, rfl⟩

theorem ccidStep_lists : (s.ccidStep env).conf = s.conf ∧ (s.ccidStep env).pending = s.pending := by
  dsimp only [ccidStep]; split_ifs <;> exact ⟨rfl, rfl⟩

theorem ndpStep_wellFramed (ho : o.maxReserved < o.ndpCount) (h : WellFramed o s.area.bytes) :
    WellFramed o (s.ndpStep o type).area.bytes := by
  unfold ndpStep
  split
  · exact insertOptionNdp_wellFramed ho _ _ h
  · exact h

theorem ackStep_wellFramed (ho : o.maxReserved < o.timestampEcho)
    (hack : KeepsFramed o env.insertOptionAckvec) (h : WellFramed o s.area.bytes) :
    WellFramed o (s.ackStep o env type).area.bytes := by
  dsimp only [ackStep]
  split_ifs
  · exact dccpInsertOptionTimestampEcho_wellFramed ho _ _ (hack _ h)
  · exact hack _ h
  · exact dccpInsertOptionTimestampEcho_wellFramed ho _ _ h
  · exact h
  · exact h

theorem ccidStep_wellFramed (hrx : KeepsFramed o env.ccidHcRxInsertOptions)
    (htx : KeepsFramed o env.ccidHcTxInsertOptions) (h : WellFramed o s.area.bytes) :
    WellFramed o (s.ccidStep env).area.bytes := by
  dsimp only [ccidStep]
  split_ifs
  · exact htx _ (hrx _ h)
  · exact hrx _ h
  · exact htx _ h
  · exact h

theorem featStep_wellFramed (hfeat : ∀ opt ∈ s.conf ++ s.pending, o.maxReserved < opt.type)
    (h : WellFramed o s.area.bytes) : WellFramed o (s.featStep type).area.bytes := by
  unfold featStep
  split
  · exact h
  · exact h
  · exact dccpInsertFeat_wellFramed hfeat h

end InsertState

/-- Every option list `dccp_insert_options` writes is framed as `dccp_parse_options` reads it. -/
theorem dccpInsertOptions_wellFramed (env : InsertEnv) (type : DccpPktType) (s : InsertState)
    (hndp : o.maxReserved < o.ndpCount) (hecho : o.maxReserved < o.timestampEcho)
    (hfeat : ∀ opt ∈ s.conf ++ s.pending, o.maxReserved < opt.type)
    (hack : KeepsFramed o env.insertOptionAckvec) (hrx : KeepsFramed o env.ccidHcRxInsertOptions)
    (htx : KeepsFramed o env.ccidHcTxInsertOptions) :
    WellFramed o (dccpInsertOptions o env type s).area.bytes := by
  let s0 : InsertState := { s with area := OptArea.empty }
  have h0 : WellFramed o s0.area.bytes := .nil
  have h3 : WellFramed o (s0.ndpStep o type |>.ackStep o env type |>.ccidStep env).area.bytes :=
    InsertState.ccidStep_wellFramed hrx htx
      (InsertState.ackStep_wellFramed hecho hack (InsertState.ndpStep_wellFramed hndp h0))
  have hl : ((s0.ndpStep o type |>.ackStep o env type |>.ccidStep env).conf ++
      (s0.ndpStep o type |>.ackStep o env type |>.ccidStep env).pending) = s.conf ++ s.pending := by
    rw [InsertState.ccidStep_lists.1, InsertState.ccidStep_lists.2, InsertState.ackStep_lists.1,
      InsertState.ackStep_lists.2, InsertState.ndpStep_lists.1, InsertState.ndpStep_lists.2]
  exact insertPadding_wellFramed (InsertState.featStep_wellFramed (hl ▸ hfeat) h3)

/-- An Ack with an NDP Count of 300, a Timestamp Echo and a Change awaiting its Confirm. -/
theorem dccpInsertOptions_wellFramed_ack :
    dccpoLinux.maxReserved < dccpoLinux.ndpCount ∧
      dccpoLinux.maxReserved < dccpoLinux.timestampEcho ∧
      (∀ opt ∈ ([] : List DccpOptPend) ++ [⟨32, 1, [2], false, none⟩],
        dccpoLinux.maxReserved < opt.type) ∧
      KeepsFramed dccpoLinux id ∧
      WellFramed dccpoLinux (dccpInsertOptions dccpoLinux ⟨false, id, id, id, 0⟩ .ack
        ⟨true, 300, false, ⟨{}, 5, 0, false, 0, 0⟩, false, false, [],
          [⟨32, 1, [2], false, none⟩], OptArea.empty⟩).area.bytes :=
  ⟨by decide, by decide, by decide, fun _ h => h,
    dccpInsertOptions_wellFramed dccpoLinux _ _ _ (by decide) (by decide) (by decide)
      (fun _ h => h) (fun _ h => h) (fun _ h => h)⟩

/-- With nothing else to send, an acknowledging packet carries only the Timestamp Echo, padded. -/
theorem dccpInsertOptions_echo_only (env : InsertEnv) {type : DccpPktType}
    (hack : dccpPacketWithoutAck type = false) (c : Int) (ts : ParseState) (a : OptArea) :
    (dccpInsertOptions o env type ⟨false, c, false, ts, false, false, [], [], a⟩).area =
      insertPadding (if ts.timestampEcho ≠ 0 then
        (dccpInsertOptionTimestampEcho o OptArea.empty ts env.now).1 else OptArea.empty) := by
  by_cases h0 : ts.timestampEcho = 0 <;>
    simp only [dccpInsertOptions, InsertState.ndpStep, InsertState.ackStep, InsertState.ccidStep,
      InsertState.featStep, hack, h0, Bool.not_false, Bool.false_and, Bool.false_eq_true, if_false,
      if_true, ne_eq, not_true_eq_false, not_false_eq_true] <;>
    split <;> rfl

theorem insertPadding_bytes (a : OptArea) :
    ∃ k, (insertPadding a).bytes = List.replicate k 0 ++ a.bytes := by
  dsimp only [insertPadding]
  split_ifs
  · exact ⟨_, rfl⟩
  · exact ⟨0, rfl⟩
  · exact ⟨0, rfl⟩

theorem dccpInsertOptionTimestampEcho_empty (ts : ParseState) (now : Int) :
    (dccpInsertOptionTimestampEcho o OptArea.empty ts now).1.bytes =
      o.timestampEcho :: (6 + dccpElapsedTimeLen (toU32 ((now - ts.timestampTime).tdiv 10))) ::
        (dccpEncodeValueVar ts.timestampEcho 4 ++
          dccpEncodeValueVar (toU32 ((now - ts.timestampTime).tdiv 10))
            (dccpElapsedTimeLen (toU32 ((now - ts.timestampTime).tdiv 10)))) := by
  have := dccpElapsedTimeLen_le (toU32 ((now - ts.timestampTime).tdiv 10))
  dsimp only [dccpInsertOptionTimestampEcho]
  rw [dif_neg (by simp only [OptArea.empty, dccpMaxOptLen]; omega)]
  simp

theorem dccpInsertOptionElapsedTime_empty {e : Nat} (h : dccpElapsedTimeLen e ≠ 0) :
    (dccpInsertOptionElapsedTime o OptArea.empty e).bytes =
      o.elapsedTime :: (dccpElapsedTimeLen e + 2) ::
        (dccpEncodeValueVar e (dccpElapsedTimeLen e) ++ []) := by
  have := dccpElapsedTimeLen_le e
  dsimp only [dccpInsertOptionElapsedTime]
  rw [if_neg h, dif_neg (by simp only [OptArea.empty, dccpMaxOptLen]; omega)]
  simp [Nat.add_comm]

end DccpTfrc
