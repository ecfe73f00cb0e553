import DccpTfrc.Options

namespace DccpTfrc

/-- The `DCCPO_*` constants of `linux/dccp.h`, outside this tree: distinct labels below 128. -/
structure Dccpo where
  padding : Nat
  mandatory : Nat
  ndpCount : Nat
  changeL : Nat
  changeR : Nat
  confirmL : Nat
  confirmR : Nat
  ackVector0 : Nat
  ackVector1 : Nat
  timestamp : Nat
  timestampEcho : Nat
  elapsedTime : Nat
  maxReserved : Nat
  labels_nodup : [padding, mandatory, ndpCount, changeL, changeR, confirmL, confirmR, ackVector0,
    ackVector1, timestamp, timestampEcho, elapsedTime].Nodup
  labels_lt : ∀ l ∈ [padding, mandatory, ndpCount, changeL, changeR, confirmL, confirmR,
    ackVector0, ackVector1, timestamp, timestampEcho, elapsedTime], l < 128

/-- What the parse reads besides the bytes: the packet type, the Ack Vector setting, the time. -/
structure ParseEnv where
  isData : Bool
  sendAckVector : Bool
  now : Int
  deriving Inhabited

/-- Whether the feature, Ack Vector and CCID option parsers reject an option. -/
structure OptionHandlers where
  featChangeRecv : Nat → Nat → List Nat → Bool
  featConfirmRecv : Nat → Nat → List Nat → Bool
  ackvecParse : Nat → List Nat → Bool
  ccidHcRxParseOptions : Nat → Nat → Nat → List Nat → Bool
  ccidHcTxParseOptions : Nat → Nat → Nat → List Nat → Bool
  deriving Inhabited

structure OptionsReceived where
  ndp : Nat := 0
  timestamp : Nat := 0
  timestampEcho : Nat := 0
  elapsedTime : Nat := 0
  deriving DecidableEq, Repr

/-- What the loop writes: the socket's option fields and the locals `mandatory`, `opt`, `len`. -/
structure ParseState where
  recv : OptionsReceived
  timestampEcho : Nat
  timestampTime : Int
  mandatory : Bool
  opt : Nat
  len : Nat
  deriving DecidableEq, Repr

/-- The option `dccp_parse_options` rejects, as "invalid option %d, len=%d" names it. -/
structure InvalidOption where
  opt : Nat
  len : Nat
  deriving DecidableEq, Repr

def ntoh (n : Nat) (bf : List Nat) : Nat :=
  (bf.take n).foldl (fun v b => v * 2 ^ 8 + b) 0

variable (o : Dccpo) (env : ParseEnv) (hd : OptionHandlers)

/-- The `switch (opt)`: the new state, and whether the case ends in `continue`. -/
def parseOption (opt len : Nat) (value : List Nat) (idx : Nat) (st : ParseState) :
    Except InvalidOption (ParseState × Bool) :=
  let invalid := Except.error ⟨opt, len⟩
  if opt = o.padding then .ok (st, false)
  else if opt = o.mandatory then
    if st.mandatory then invalid else .ok ({ st with mandatory := !env.isData }, false)
  else if opt = o.ndpCount then
    if 3 < len then invalid
    else .ok ({ st with recv := { st.recv with ndp := dccpDecodeValueVar value len } }, false)
  else if opt = o.changeL ∨ opt = o.changeR then
    if len < 2 then invalid
    else if hd.featChangeRecv opt (value.headD 0) value.tail && st.mandatory then invalid
    else .ok (st, false)
  else if opt = o.confirmL ∨ opt = o.confirmR then
    if len < 2 then invalid
    else if hd.featConfirmRecv opt (value.headD 0) value.tail then invalid
    else .ok (st, false)
  else if opt = o.ackVector0 ∨ opt = o.ackVector1 then
    if env.isData then .ok (st, true)
    else if env.sendAckVector && hd.ackvecParse opt value then invalid
    else .ok (st, false)
  else if opt = o.timestamp then
    if len ≠ 4 then invalid
    else
      let timestamp := ntoh 4 value
      .ok ({ st with
          recv := { st.recv with timestamp := timestamp }
          timestampEcho := timestamp
          timestampTime := env.now }, false)
  else if opt = o.timestampEcho then
    if len ≠ 4 ∧ len ≠ 6 ∧ len ≠ 8 then invalid
    else
      let recv := { st.recv with timestampEcho := ntoh 4 value }
      if len = 4 then .ok ({ st with recv := recv }, false)
      else
        let elapsedTime := if len = 6 then ntoh 2 (value.drop 4) else ntoh 4 (value.drop 4)
        -- Give precedence to the biggest ELAPSED_TIME
        .ok ({ st with recv := { recv with elapsedTime := max recv.elapsedTime elapsedTime } },
          false)
  else if opt = o.elapsedTime then
    if len ≠ 2 ∧ len ≠ 4 then invalid
    else if env.isData then .ok (st, true)
    else
      let elapsedTime := if len = 2 then ntoh 2 value else ntoh 4 value
      .ok ({ st with recv := { st.recv with
        elapsedTime := max st.recv.elapsedTime elapsedTime } }, false)
  else if 128 ≤ opt ∧ opt ≤ 191 then
    if hd.ccidHcRxParseOptions opt len (idx % 2 ^ 16) value then invalid else .ok (st, false)
  else if 192 ≤ opt ∧ opt ≤ 255 then
    if hd.ccidHcTxParseOptions opt len (idx % 2 ^ 16) value then invalid else .ok (st, false)
  else .ok (st, false)

/-- `if (opt != DCCPO_MANDATORY) mandatory = 0;` after a case that does not `continue`. -/
def endOption (opt : Nat) : ParseState × Bool → ParseState
  | (st, true) => st
  | (st, false) => if opt = o.mandatory then st else { st with mandatory := false }

/-- The `while (opt_ptr != opt_end)` loop of `dccp_parse_options`, from offset `pos`. -/
def parseLoop : List Nat → Nat → ParseState → Except InvalidOption ParseState
  | [], _, st => .ok st
  | opt :: bytes, pos, st =>
    if o.maxReserved < opt then
      match bytes with
      | [] => .error ⟨opt, 0⟩
      | len :: bytes =>
        if len < 3 then .error ⟨opt, len⟩
        else if bytes.length < len - 2 then .error ⟨opt, len - 2⟩
        else do
          let r ← parseOption o env hd opt (len - 2) (bytes.take (len - 2)) (pos + 2)
            { st with opt := opt, len := len - 2 }
          parseLoop (bytes.drop (len - 2)) (pos + len) (endOption o opt r)
    else do
      let r ← parseOption o env hd opt 0 [] 0 { st with opt := opt, len := 0 }
      parseLoop bytes (pos + 1) (endOption o opt r)
termination_by bytes _ _ => bytes.length
decreasing_by
  all_goals simp only [List.length_drop, List.length_cons]
  all_goals omega

def dccpParseOptions (sk : ParseState) (options : List Nat) : Except InvalidOption ParseState :=
  match parseLoop o env hd options 0 { sk with recv := {}, mandatory := false } with
  | .error e => .error e
  | .ok st => if st.mandatory then .error ⟨st.opt, st.len⟩ else .ok st

/-- What the loop has written when it stops: it writes the socket also before a rejected option. -/
def parseLoopState : List Nat → Nat → ParseState → ParseState
  | [], _, st => st
  | opt :: bytes, pos, st =>
    if o.maxReserved < opt then
      match bytes with
      | [] => st
      | len :: bytes =>
        if len < 3 then st
        else if bytes.length < len - 2 then st
        else
          match parseOption o env hd opt (len - 2) (bytes.take (len - 2)) (pos + 2)
              { st with opt := opt, len := len - 2 } with
          | .error _ => st
          | .ok r => parseLoopState (bytes.drop (len - 2)) (pos + len) (endOption o opt r)
    else
      match parseOption o env hd opt 0 [] 0 { st with opt := opt, len := 0 } with
      | .error _ => st
      | .ok r => parseLoopState bytes (pos + 1) (endOption o opt r)
termination_by bytes _ _ => bytes.length
decreasing_by
  all_goals simp only [List.length_drop, List.length_cons]
  all_goals omega

def dccpParseOptionsState (sk : ParseState) (options : List Nat) : ParseState :=
  parseLoopState o env hd options 0 { sk with recv := {}, mandatory := false }

/-- The option types as `linux/dccp.h` numbers them. -/
def dccpoLinux : Dccpo :=
  ⟨0, 1, 37, 32, 34, 33, 35, 38, 39, 41, 42, 43, 31, by decide, by decide⟩

theorem Dccpo.labels_ne :
    o.mandatory ≠ o.padding ∧ o.ndpCount ≠ o.padding ∧ o.ndpCount ≠ o.mandatory := by
  have h := o.labels_nodup
  simp only [List.nodup_cons, List.mem_cons, not_or] at h
  exact ⟨fun e => h.1.1 e.symm, fun e => h.1.2.1 e.symm, fun e => h.2.1.1 e.symm⟩

theorem parseOption_mandatory (len : Nat) (value : List Nat) (idx : Nat) (st : ParseState) :
    parseOption o env hd o.mandatory len value idx st =
      if st.mandatory then .error ⟨o.mandatory, len⟩
      else .ok ({ st with mandatory := !env.isData }, false) := by
  rw [parseOption, if_neg o.labels_ne.1, if_pos rfl]

theorem parseOption_ndpCount {len : Nat} (hlen : len ≤ 3) (value : List Nat) (idx : Nat)
    (st : ParseState) :
    parseOption o env hd o.ndpCount len value idx st =
      .ok ({ st with recv := { st.recv with ndp := dccpDecodeValueVar value len } }, false) := by
  rw [parseOption, if_neg o.labels_ne.2.1, if_neg o.labels_ne.2.2, if_pos rfl, if_neg (by omega)]

theorem ne_of_nodup_append {l₁ l₂ : List Nat} {x y : Nat} (h : (l₁ ++ x :: l₂).Nodup)
    (hy : y ∈ l₁) : x ≠ y :=
  fun e => (List.pairwise_append.1 h).2.2 y hy x (List.mem_cons_self _ _) e.symm

theorem parseOption_padding (len : Nat) (value : List Nat) (idx : Nat) (st : ParseState) :
    parseOption o env hd o.padding len value idx st = .ok (st, false) := by
  rw [parseOption, if_pos rfl]

theorem parseOption_feat_short {opt len : Nat}
    (hopt : opt = o.changeL ∨ opt = o.changeR ∨ opt = o.confirmL ∨ opt = o.confirmR)
    (hlen : len < 2) (value : List Nat) (idx : Nat) (st : ParseState) :
    parseOption o env hd opt len value idx st = .error ⟨opt, len⟩ := by
  rcases hopt with rfl | rfl | rfl | rfl
  · have hne := fun y (hy : y ∈ [o.padding, o.mandatory, o.ndpCount]) =>
      @ne_of_nodup_append _ _ _ _ o.labels_nodup hy
    rw [parseOption, if_neg (hne o.padding (by simp)), if_neg (hne o.mandatory (by simp)),
      if_neg (hne o.ndpCount (by simp)), if_pos (.inl rfl), if_pos hlen]
  · have hne := fun y (hy : y ∈ [o.padding, o.mandatory, o.ndpCount, o.changeL]) =>
      @ne_of_nodup_append _ _ _ _ o.labels_nodup hy
    rw [parseOption, if_neg (hne o.padding (by simp)), if_neg (hne o.mandatory (by simp)),
      if_neg (hne o.ndpCount (by simp)), if_pos (.inr rfl), if_pos hlen]
  · have hne := fun y (hy : y ∈ [o.padding, o.mandatory, o.ndpCount, o.changeL, o.changeR]) =>
      @ne_of_nodup_append _ _ _ _ o.labels_nodup hy
    rw [parseOption, if_neg (hne o.padding (by simp)), if_neg (hne o.mandatory (by simp)),
      if_neg (hne o.ndpCount (by simp)),
      if_neg (not_or.2 ⟨hne o.changeL (by simp), hne o.changeR (by simp)⟩), if_pos (.inl rfl),
      if_pos hlen]
  · have hne := fun y
        (hy : y ∈ [o.padding, o.mandatory, o.ndpCount, o.changeL, o.changeR, o.confirmL]) =>
      @ne_of_nodup_append _ _ _ _ o.labels_nodup hy
    rw [parseOption, if_neg (hne o.padding (by simp)), if_neg (hne o.mandatory (by simp)),
      if_neg (hne o.ndpCount (by simp)),
      if_neg (not_or.2 ⟨hne o.changeL (by simp), hne o.changeR (by simp)⟩), if_pos (.inr rfl),
      if_pos hlen]

theorem parseOption_timestamp (value : List Nat) (idx : Nat) (st : ParseState) :
    parseOption o env hd o.timestamp 4 value idx st =
      .ok ({ st with
          recv := { st.recv with timestamp := ntoh 4 value }
          timestampEcho := ntoh 4 value
          timestampTime := env.now }, false) := by
  have hne : ∀ y ∈ [o.padding, o.mandatory, o.ndpCount, o.changeL, o.changeR, o.confirmL,
      o.confirmR, o.ackVector0, o.ackVector1], o.timestamp ≠ y :=
    fun y hy => @ne_of_nodup_append [o.padding, o.mandatory, o.ndpCount, o.changeL, o.changeR,
      o.confirmL, o.confirmR, o.ackVector0, o.ackVector1] [o.timestampEcho, o.elapsedTime] _ _
      o.labels_nodup hy
  rw [parseOption, if_neg (hne o.padding (by simp)), if_neg (hne o.mandatory (by simp)),
    if_neg (hne o.ndpCount (by simp)),
    if_neg (not_or.2 ⟨hne o.changeL (by simp), hne o.changeR (by simp)⟩),
    if_neg (not_or.2 ⟨hne o.confirmL (by simp), hne o.confirmR (by simp)⟩),
    if_neg (not_or.2 ⟨hne o.ackVector0 (by simp), hne o.ackVector1 (by simp)⟩), if_pos rfl,
    if_neg (by decide)]

theorem parseOption_timestampEcho {len : Nat} (hlen : len = 4 ∨ len = 6 ∨ len = 8)
    (value : List Nat) (idx : Nat) (st : ParseState) :
    parseOption o env hd o.timestampEcho len value idx st =
      .ok (if len = 4 then { st with recv := { st.recv with timestampEcho := ntoh 4 value } }
        else
          { st with
            recv :=
              { st.recv with
                timestampEcho := ntoh 4 value
                elapsedTime := max st.recv.elapsedTime
                  (if len = 6 then ntoh 2 (value.drop 4) else ntoh 4 (value.drop 4)) } },
        false) := by
  have hne : ∀ y ∈ [o.padding, o.mandatory, o.ndpCount, o.changeL, o.changeR, o.confirmL,
      o.confirmR, o.ackVector0, o.ackVector1, o.timestamp], o.timestampEcho ≠ y :=
    fun y hy => @ne_of_nodup_append [o.padding, o.mandatory, o.ndpCount, o.changeL, o.changeR,
      o.confirmL, o.confirmR, o.ackVector0, o.ackVector1, o.timestamp] [o.elapsedTime] _ _
      o.labels_nodup hy
  rw [parseOption, if_neg (hne o.padding (by simp)), if_neg (hne o.mandatory (by simp)),
    if_neg (hne o.ndpCount (by simp)),
    if_neg (not_or.2 ⟨hne o.changeL (by simp), hne o.changeR (by simp)⟩),
    if_neg (not_or.2 ⟨hne o.confirmL (by simp), hne o.confirmR (by simp)⟩),
    if_neg (not_or.2 ⟨hne o.ackVector0 (by simp), hne o.ackVector1 (by simp)⟩),
    if_neg (hne o.timestamp (by simp)), if_pos rfl, if_neg (by omega)]
  split_ifs <;> rfl

theorem parseOption_elapsedTime {len : Nat} (hlen : len = 2 ∨ len = 4)
    (value : List Nat) (idx : Nat) (st : ParseState) :
    parseOption o env hd o.elapsedTime len value idx st =
      if env.isData then .ok (st, true)
      else
        .ok ({ st with
          recv :=
            { st.recv with
              elapsedTime := max st.recv.elapsedTime
                (if len = 2 then ntoh 2 value else ntoh 4 value) } }, false) := by
  have hne : ∀ y ∈ [o.padding, o.mandatory, o.ndpCount, o.changeL, o.changeR, o.confirmL,
      o.confirmR, o.ackVector0, o.ackVector1, o.timestamp, o.timestampEcho], o.elapsedTime ≠ y :=
    fun y hy => @ne_of_nodup_append [o.padding, o.mandatory, o.ndpCount, o.changeL, o.changeR,
      o.confirmL, o.confirmR, o.ackVector0, o.ackVector1, o.timestamp, o.timestampEcho] [] _ _
      o.labels_nodup hy
  rw [parseOption, if_neg (hne o.padding (by simp)), if_neg (hne o.mandatory (by simp)),
    if_neg (hne o.ndpCount (by simp)),
    if_neg (not_or.2 ⟨hne o.changeL (by simp), hne o.changeR (by simp)⟩),
    if_neg (not_or.2 ⟨hne o.confirmL (by simp), hne o.confirmR (by simp)⟩),
    if_neg (not_or.2 ⟨hne o.ackVector0 (by simp), hne o.ackVector1 (by simp)⟩),
    if_neg (hne o.timestamp (by simp)), if_neg (hne o.timestampEcho (by simp)), if_pos rfl,
    if_neg (by omega)]

@[simp] theorem parseLoop_nil (pos : Nat) (st : ParseState) :
    parseLoop o env hd [] pos st = .ok st := by
  rw [parseLoop]

@[simp] theorem dccpParseOptions_nil (sk : ParseState) :
    dccpParseOptions o env hd sk [] = .ok { sk with recv := {}, mandatory := false } := by
  simp [dccpParseOptions]

theorem parseLoop_tlv {opt len : Nat} (hopt : o.maxReserved < opt) {value : List Nat}
    (hlen : value.length = len) (hpos : 0 < len) (rest : List Nat) (pos : Nat)
    (st : ParseState) :
    parseLoop o env hd (opt :: (len + 2) :: (value ++ rest)) pos st =
      parseOption o env hd opt len value (pos + 2) { st with opt := opt, len := len } >>=
        fun r => parseLoop o env hd rest (pos + (len + 2)) (endOption o opt r) := by
  subst hlen
  rw [parseLoop, if_pos hopt]
  simp only [Nat.add_sub_cancel, List.length_append, List.take_left', List.drop_left']
  rw [if_neg (by omega), if_neg (by omega)]

theorem parseLoop_single {opt : Nat} (hopt : opt ≤ o.maxReserved) (rest : List Nat) (pos : Nat)
    (st : ParseState) :
    parseLoop o env hd (opt :: rest) pos st =
      parseOption o env hd opt 0 [] 0 { st with opt := opt, len := 0 } >>=
        fun r => parseLoop o env hd rest (pos + 1) (endOption o opt r) := by
  rw [parseLoop.eq_def]
  exact if_neg (by omega)

theorem bind_eq_ok {ε α β : Type} {x : Except ε α} {f : α → Except ε β} {b : β}
    (h : (x >>= f) = .ok b) : ∃ a, x = .ok a ∧ f a = .ok b := by
  cases x with
  | error e => cases h
  | ok a => exact ⟨a, rfl, h⟩

/-- Option bytes that split into options as `dccp_parse_options` frames them. -/
inductive WellFramed (o : Dccpo) : List Nat → Prop
  | nil : WellFramed o []
  | single {opt : Nat} {rest : List Nat} :
      opt ≤ o.maxReserved → WellFramed o rest → WellFramed o (opt :: rest)
  | tlv {opt len : Nat} {value rest : List Nat} : o.maxReserved < opt → 3 ≤ len →
      value.length = len - 2 → WellFramed o rest → WellFramed o (opt :: len :: (value ++ rest))

theorem parseLoop_wellFramed {bytes : List Nat} {pos : Nat} {st st' : ParseState}
    (h : parseLoop o env hd bytes pos st = .ok st') : WellFramed o bytes := by
  induction bytes, pos, st using parseLoop.induct o env hd with
  | case1 => exact .nil
  | case2 opt pos st hopt => simp only [parseLoop, if_pos hopt, reduceCtorEq] at h
  | case3 opt pos st hopt len bytes hlen =>
    simp only [parseLoop, if_pos hopt, if_pos hlen, reduceCtorEq] at h
  | case4 opt pos st hopt len bytes hlen hfit =>
    simp only [parseLoop, if_pos hopt, if_neg hlen, if_pos hfit, reduceCtorEq] at h
  | case5 opt pos st hopt len bytes hlen hfit ih =>
    simp only [parseLoop, if_pos hopt, if_neg hlen, if_neg hfit] at h
    obtain ⟨r, -, hr⟩ := bind_eq_ok h
    rw [← List.take_append_drop (len - 2) bytes]
    exact .tlv hopt (by omega) (by simp only [List.length_take]; omega) (ih r hr)
  | case6 opt bytes pos st hopt ih =>
    rw [parseLoop_single o env hd (Nat.le_of_not_lt hopt)] at h
    obtain ⟨r, -, hr⟩ := bind_eq_ok h
    exact .single (by omega) (ih r hr)

theorem parseLoopState_of_ok {bytes : List Nat} {pos : Nat} {st st' : ParseState}
    (h : parseLoop o env hd bytes pos st = .ok st') :
    parseLoopState o env hd bytes pos st = st' := by
  induction bytes, pos, st using parseLoop.induct o env hd with
  | case1 => rw [parseLoop_nil] at h; cases h; rw [parseLoopState]
  | case2 opt pos st hopt => simp only [parseLoop, if_pos hopt, reduceCtorEq] at h
  | case3 opt pos st hopt len bytes hlen =>
    simp only [parseLoop, if_pos hopt, if_pos hlen, reduceCtorEq] at h
  | case4 opt pos st hopt len bytes hlen hfit =>
    simp only [parseLoop, if_pos hopt, if_neg hlen, if_pos hfit, reduceCtorEq] at h
  | case5 opt pos st hopt len bytes hlen hfit ih =>
    simp only [parseLoop, if_pos hopt, if_neg hlen, if_neg hfit] at h
    obtain ⟨r, hr1, hr⟩ := bind_eq_ok h
    rw [parseLoopState.eq_def]
    simp only [if_pos hopt, if_neg hlen, if_neg hfit, hr1]
    exact ih r hr
  | case6 opt bytes pos st hopt ih =>
    rw [parseLoop_single o env hd (Nat.le_of_not_lt hopt)] at h
    obtain ⟨r, hr1, hr⟩ := bind_eq_ok h
    rw [parseLoopState.eq_def]
    simp only [if_neg hopt, hr1]
    exact ih r hr

theorem dccpParseOptionsState_of_ok {sk st : ParseState} {options : List Nat}
    (h : dccpParseOptions o env hd sk options = .ok st) :
    dccpParseOptionsState o env hd sk options = st := by
  unfold dccpParseOptions at h
  split at h
  · cases h
  · rename_i st' hloop
    split_ifs at h
    cases h
    exact parseLoopState_of_ok o env hd hloop

/-- `dccp_parse_options` returns 0 only on well-framed options, with the mandatory flag clear. -/
theorem dccpParseOptions_wellFramed {sk st : ParseState} {options : List Nat}
    (h : dccpParseOptions o env hd sk options = .ok st) :
    WellFramed o options ∧ st.mandatory = false := by
  unfold dccpParseOptions at h
  split at h
  · cases h
  · rename_i st' hloop
    by_cases hm : st'.mandatory
    · rw [if_pos hm] at h; cases h
    · rw [if_neg hm] at h; cases h
      exact ⟨parseLoop_wellFramed o env hd hloop, by simpa using hm⟩

/-- A well-framed prefix is parsed on its own, and the loop goes on from the state it leaves. -/
theorem parseLoop_append {xs : List Nat} (hw : WellFramed o xs) (ys : List Nat) (pos : Nat)
    (st : ParseState) :
    parseLoop o env hd (xs ++ ys) pos st =
      parseLoop o env hd xs pos st >>= fun st' => parseLoop o env hd ys (pos + xs.length) st' := by
  induction hw generalizing pos st with
  | nil => rw [List.nil_append, parseLoop_nil]; rfl
  | single hopt _ ih =>
    rw [List.cons_append, parseLoop_single o env hd hopt, parseLoop_single o env hd hopt, bind_assoc]
    congr 1
    funext r
    rw [ih, List.length_cons, Nat.add_right_comm, Nat.add_assoc]
  | @tlv opt len value rest hopt hlen hval _ ih =>
    obtain ⟨k, rfl⟩ : ∃ k, len = k + 2 := ⟨len - 2, by omega⟩
    have hk : value.length = k := by omega
    rw [List.cons_append, List.cons_append, List.append_assoc,
      parseLoop_tlv o env hd hopt hk (by omega), parseLoop_tlv o env hd hopt hk (by omega),
      bind_assoc]
    congr 1
    funext r
    rw [ih, List.length_cons, List.length_cons, List.length_append, hk,
      show pos + (k + 2) + rest.length = pos + (k + rest.length + 1 + 1) by omega]

/-- Off Data packets, a Mandatory option that ends well-framed options is rejected. -/
theorem dccpParseOptions_mandatory_last (hm : o.mandatory ≤ o.maxReserved)
    (hdata : env.isData = false) {options : List Nat} (hw : WellFramed o options)
    (sk : ParseState) :
    dccpParseOptions o env hd sk (options ++ [o.mandatory]) =
      (parseLoop o env hd options 0 { sk with recv := {}, mandatory := false }).bind
        fun _ => .error ⟨o.mandatory, 0⟩ := by
  unfold dccpParseOptions
  rw [parseLoop_append o env hd hw]
  cases parseLoop o env hd options 0 { sk with recv := {}, mandatory := false } with
  | error e => rfl
  | ok st =>
    simp only [bind, Except.bind]
    rw [parseLoop_single o env hd hm, parseOption_mandatory]
    cases st.mandatory
    · simp only [Bool.false_eq_true, if_false, hdata, Bool.not_false, bind, Except.bind,
        endOption, if_pos rfl, parseLoop_nil, if_true]
    · rfl

theorem dccpParseOptions_mandatory_last_ndp :
    dccpoLinux.mandatory ≤ dccpoLinux.maxReserved ∧ (default : ParseEnv).isData = false ∧
      WellFramed dccpoLinux [37, 3, 7] ∧
      dccpParseOptions dccpoLinux default default ⟨{}, 0, 0, false, 0, 0⟩
          ([37, 3, 7] ++ [dccpoLinux.mandatory]) =
        (parseLoop dccpoLinux default default [37, 3, 7] 0
            { (⟨{}, 0, 0, false, 0, 0⟩ : ParseState) with recv := {}, mandatory := false }).bind
          fun _ => .error ⟨dccpoLinux.mandatory, 0⟩ :=
  have hw : WellFramed dccpoLinux [37, 3, 7] :=
    show WellFramed dccpoLinux (37 :: 3 :: ([7] ++ [])) from .tlv (by decide) (by decide) rfl .nil
  ⟨by decide, rfl, hw,
    dccpParseOptions_mandatory_last dccpoLinux default default (by decide) rfl hw _⟩

theorem dccpParseOptions_wellFramed_mandatory :
    dccpParseOptions dccpoLinux default default ⟨{}, 0, 0, false, 0, 0⟩ [1, 37, 3, 7] =
        .ok ⟨{ ndp := 7 }, 0, 0, false, 37, 1⟩ ∧
      WellFramed dccpoLinux [1, 37, 3, 7] ∧
      (⟨{ ndp := 7 }, 0, 0, false, 37, 1⟩ : ParseState).mandatory = false := by
  have h : dccpParseOptions dccpoLinux default default ⟨{}, 0, 0, false, 0, 0⟩ [1, 37, 3, 7] =
      .ok ⟨{ ndp := 7 }, 0, 0, false, 37, 1⟩ := by
    rw [dccpParseOptions,
      show [1, 37, 3, 7] = dccpoLinux.mandatory :: dccpoLinux.ndpCount :: (1 + 2) :: ([7] ++ [])
        from rfl,
      parseLoop_single dccpoLinux default default
        (show dccpoLinux.mandatory ≤ dccpoLinux.maxReserved by decide),
      parseOption_mandatory]
    simp only [bind, Except.bind, endOption, Bool.false_eq_true, if_false, if_true]
    rw [parseLoop_tlv dccpoLinux default default
        (show dccpoLinux.maxReserved < dccpoLinux.ndpCount by decide)
        (show [7].length = 1 from rfl) (by decide),
      parseOption_ndpCount dccpoLinux _ _ (by decide)]
    simp only [bind, Except.bind, endOption, if_neg dccpoLinux.labels_ne.2.2, parseLoop_nil]
    rfl
  exact ⟨h, dccpParseOptions_wellFramed dccpoLinux default default h⟩

/-- The NDP Count option written for `v >= 1` reads back as `v` modulo 2^24, wherever it stands. -/
theorem dccpInsertOptionNdp_parse (ho : o.maxReserved < o.ndpCount) {v : Int} (hv : 1 ≤ v)
    (nonData : Bool) {optLen : Nat} (hroom : optLen + (dccpNdpLen v + 2) ≤ dccpMaxOptLen)
    (rest : List Nat) (pos : Nat) (st : ParseState) :
    (dccpInsertOptionNdp o.ndpCount v nonData optLen).option.length = dccpNdpLen v + 2 ∧
      parseLoop o env hd ((dccpInsertOptionNdp o.ndpCount v nonData optLen).option ++ rest)
          pos st =
        parseLoop o env hd rest (pos + (dccpNdpLen v + 2))
          { st with
            recv := { st.recv with ndp := v.toNat % 2 ^ 24 }
            mandatory := false, opt := o.ndpCount, len := dccpNdpLen v } ∧
      (((v.toNat % 2 ^ 24 : Nat) : Int) = v ↔ v < 2 ^ 24) := by
  obtain ⟨hlen3, hdec⟩ := dccpNdpLen_roundTrip (by omega : 0 ≤ v)
  have hlen := dccpEncodeValueVar_length v.toNat (by omega : dccpNdpLen v ≤ 4)
  have hpos : 0 < dccpNdpLen v := by unfold dccpNdpLen; split_ifs <;> decide
  rw [dccpInsertOptionNdp_option _ _ (by omega) hroom]
  refine ⟨by simp only [List.length_cons, hlen], ?_, by omega⟩
  rw [List.cons_append, List.cons_append, parseLoop_tlv o env hd ho hlen hpos,
    parseOption_ndpCount o env hd hlen3, hdec]
  simp only [bind, Except.bind, endOption, if_neg o.labels_ne.2.2]

theorem dccpInsertOptionNdp_parse_300 :
    dccpoLinux.maxReserved < dccpoLinux.ndpCount ∧ (1 : Int) ≤ 300 ∧
      0 + (dccpNdpLen 300 + 2) ≤ dccpMaxOptLen ∧
      (dccpInsertOptionNdp dccpoLinux.ndpCount 300 true 0).option.length = dccpNdpLen 300 + 2 ∧
      parseLoop dccpoLinux default default
          ((dccpInsertOptionNdp dccpoLinux.ndpCount 300 true 0).option ++ []) 0 ⟨{}, 0, 0, false, 0, 0⟩ =
        parseLoop dccpoLinux default default [] (0 + (dccpNdpLen 300 + 2))
          { (⟨{}, 0, 0, false, 0, 0⟩ : ParseState) with
            recv := { ndp := (300 : Int).toNat % 2 ^ 24 }
            mandatory := false, opt := dccpoLinux.ndpCount, len := dccpNdpLen 300 } ∧
      ((((300 : Int).toNat % 2 ^ 24 : Nat) : Int) = 300 ↔ (300 : Int) < 2 ^ 24) :=
  ⟨by decide, by decide, by decide,
    dccpInsertOptionNdp_parse dccpoLinux default default (by decide) (by decide) true
      (by decide) [] 0 ⟨{}, 0, 0, false, 0, 0⟩⟩

theorem dccpInsertOptionNdp_parse_wraps :
    (2 ^ 24 : Int) ∈ ndpStream 0 (List.replicate (2 ^ 24 + 1) true) ∧
      (dccpInsertOptionNdp dccpoLinux.ndpCount (2 ^ 24) true 0).option = [37, 5, 0, 0, 0] ∧
      dccpParseOptions dccpoLinux default default ⟨{}, 0, 0, false, 0, 0⟩ [37, 5, 0, 0, 0] =
        .ok ⟨{ ndp := 0 }, 0, 0, false, 37, 3⟩ := by
  have hloop : parseLoop dccpoLinux default default [37, 5, 0, 0, 0] 0 ⟨{}, 0, 0, false, 0, 0⟩ =
      .ok ⟨{ ndp := 0 }, 0, 0, false, 37, 3⟩ := by
    rw [show [37, 5, 0, 0, 0] = dccpoLinux.ndpCount :: (3 + 2) :: ([0, 0, 0] ++ []) from rfl,
      parseLoop_tlv dccpoLinux default default
        (by decide : dccpoLinux.maxReserved < dccpoLinux.ndpCount)
        (show [0, 0, 0].length = 3 from rfl) (by decide),
      parseOption_ndpCount dccpoLinux _ _ le_rfl]
    simp only [bind, Except.bind, endOption, if_neg dccpoLinux.labels_ne.2.2, parseLoop_nil]
    rfl
  refine ⟨by exact_mod_cast mem_ndpStream_replicate (Int.le_refl 0) (2 ^ 24) (by decide), ?_, ?_⟩
  · rw [dccpInsertOptionNdp_option _ _ (by decide) (by decide)]
    rfl
  · rw [dccpParseOptions, hloop]
    rfl

end DccpTfrc
