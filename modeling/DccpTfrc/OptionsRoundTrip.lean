import DccpTfrc.InsertOptions

namespace DccpTfrc

variable (o : Dccpo) (env : ParseEnv) (hd : OptionHandlers)

/-- Option bytes that `dccp_parse_options` reads as the map `f` of the options received: from any
state with no Mandatory option waiting, the loop accepts them, leaves no Mandatory option waiting
and keeps the socket's timestamp fields. -/
def ReadsAs (bs : List Nat) (f : OptionsReceived → OptionsReceived) : Prop :=
  ∀ pos st, st.mandatory = false → ∃ st', parseLoop o env hd bs pos st = .ok st' ∧
    st'.recv = f st.recv ∧ st'.mandatory = false ∧ st'.timestampEcho = st.timestampEcho ∧
      st'.timestampTime = st.timestampTime

/-- A feature option the parser takes when no Mandatory option comes before it: a Change, or a
Confirm that `dccp_feat_confirm_recv` accepts, of a type above `DCCPO_MAX_RESERVED`, with a value
byte after the feature number. -/
def FeatReadable (type feat : Nat) (val : List Nat) : Prop :=
  o.maxReserved < type ∧ val ≠ [] ∧
    (type = o.changeL ∨ type = o.changeR ∨ type = o.confirmL ∨ type = o.confirmR) ∧
    (type = o.confirmL ∨ type = o.confirmR → hd.featConfirmRecv type feat val = false)

instance (type feat : Nat) (val : List Nat) : Decidable (FeatReadable o hd type feat val) :=
  inferInstanceAs (Decidable (_ ∧ _ ∧ _ ∧ _))

/-- Everything `dccp_insert_feat` may write from `dccpo_conf` and `dccpo_pending` is readable:
the options on `dccpo_conf`, the pending options not yet confirmed, and the Confirms waiting on
pending options. -/
def FeatsReadable (conf pending : List DccpOptPend) : Prop :=
  (∀ opt ∈ conf, FeatReadable o hd opt.type opt.feat opt.val) ∧
    ∀ opt ∈ pending, (opt.conf = false → FeatReadable o hd opt.type opt.feat opt.val) ∧
      ∀ sc, opt.sc = some sc → FeatReadable o hd (opt.type + 1) opt.feat sc

/-- The area `a'` is `a` with option bytes pushed in front that the parser reads as `f`. -/
def PushesAs (a a' : OptArea) (f : OptionsReceived → OptionsReceived) : Prop :=
  ∃ bs, a'.bytes = bs ++ a.bytes ∧ ReadsAs o env hd bs f

/-- A writer outside this tree that pushes only options the parser reads as nothing: the peer's
handlers accept them, and they set no field of the options received. -/
def QuietWriter (w : OptArea → OptArea) : Prop :=
  ∀ a, PushesAs o env hd a (w a) id

/-- What the NDP Count option `dccp_insert_option_ndp` writes for a count `c` sets in the options
received: the count modulo 2^24, and nothing when `c ≤ 0`, where no option is written. -/
def ndpRead (c : Int) : OptionsReceived → OptionsReceived :=
  if 0 < c then fun r => { r with ndp := c.toNat % 2 ^ 24 } else id

/-- What the Timestamp Echo of a timestamp held since `sk.timestampTime`, written at `now`, sets
in the options received. -/
def echoRead (sk : ParseState) (now : Int) (r : OptionsReceived) : OptionsReceived :=
  { r with
    timestampEcho := sk.timestampEcho % 2 ^ 32
    elapsedTime := max r.elapsedTime (toU32 ((now - sk.timestampTime).tdiv 10)) }

/-- The case labels after Mandatory differ from it. -/
theorem Dccpo.ne_mandatory {t : Nat} (h : t ∈ [o.ndpCount, o.changeL, o.changeR, o.confirmL,
    o.confirmR, o.ackVector0, o.ackVector1, o.timestamp, o.timestampEcho, o.elapsedTime]) :
    t ≠ o.mandatory :=
  fun e => (List.nodup_cons.1 (List.nodup_cons.1 o.labels_nodup).2).1 (e ▸ h)

section Reading

variable {o env hd}

/-- `ntohl` and `ntohs` read only the first four or two bytes. -/
theorem ntoh_append {n : Nat} {bf : List Nat} (h : bf.length = n) (rest : List Nat) :
    ntoh n (bf ++ rest) = ntoh n bf := by
  rw [ntoh, List.take_left' h, ntoh, List.take_of_length_le (Nat.le_of_eq h)]

/-- `ntohl` and `ntohs` read back the bytes `dccp_encode_value_var` writes. -/
theorem ntoh_encode (v : Nat) {n : Nat} (hn : n = 2 ∨ n = 4) :
    ntoh n (dccpEncodeValueVar v n) = v % 2 ^ (8 * n) := by
  rcases hn with rfl | rfl <;> simp [ntoh, dccpEncodeValueVar] <;> omega

/-- The `DCCPO_CHANGE_*` and `DCCPO_CONFIRM_*` cases accept a value byte after the feature number
when no Mandatory option is waiting, and for a Confirm when `dccp_feat_confirm_recv` does. -/
theorem parseOption_feat {opt len : Nat}
    (hopt : opt = o.changeL ∨ opt = o.changeR ∨ opt = o.confirmL ∨ opt = o.confirmR)
    (hlen : 2 ≤ len) (value : List Nat) (idx : Nat) {st : ParseState} (hm : st.mandatory = false)
    (hc : opt = o.confirmL ∨ opt = o.confirmR →
      hd.featConfirmRecv opt (value.headD 0) value.tail = false) :
    parseOption o env hd opt len value idx st = .ok (st, false) := by
  have hne := fun y (hy : y ∈ [o.padding, o.mandatory, o.ndpCount, o.changeL, o.changeR]) =>
    @ne_of_nodup_append _ [o.confirmR, o.ackVector0, o.ackVector1, o.timestamp, o.timestampEcho,
      o.elapsedTime] o.confirmL _ o.labels_nodup hy
  have hne' := fun y (hy : y ∈ [o.padding, o.mandatory, o.ndpCount, o.changeL, o.changeR,
      o.confirmL]) =>
    @ne_of_nodup_append _ [o.ackVector0, o.ackVector1, o.timestamp, o.timestampEcho,
      o.elapsedTime] o.confirmR _ o.labels_nodup hy
  have hchg := fun y (hy : y ∈ [o.padding, o.mandatory, o.ndpCount]) =>
    @ne_of_nodup_append _ [o.changeR, o.confirmL, o.confirmR, o.ackVector0, o.ackVector1,
      o.timestamp, o.timestampEcho, o.elapsedTime] o.changeL _ o.labels_nodup hy
  have hchg' := fun y (hy : y ∈ [o.padding, o.mandatory, o.ndpCount, o.changeL]) =>
    @ne_of_nodup_append _ [o.confirmL, o.confirmR, o.ackVector0, o.ackVector1, o.timestamp,
      o.timestampEcho, o.elapsedTime] o.changeR _ o.labels_nodup hy
  rcases hopt with rfl | rfl | rfl | rfl
  · rw [parseOption, if_neg (hchg _ (by simp)), if_neg (hchg _ (by simp)),
      if_neg (hchg _ (by simp)), if_pos (.inl rfl), if_neg (by omega), if_neg (by simp [hm])]
  · rw [parseOption, if_neg (hchg' _ (by simp)), if_neg (hchg' _ (by simp)),
      if_neg (hchg' _ (by simp)), if_pos (.inr rfl), if_neg (by omega), if_neg (by simp [hm])]
  · rw [parseOption, if_neg (hne _ (by simp)), if_neg (hne _ (by simp)), if_neg (hne _ (by simp)),
      if_neg (not_or.2 ⟨hne _ (by simp), hne _ (by simp)⟩), if_pos (.inl rfl), if_neg (by omega),
      if_neg (by rw [hc (.inl rfl)]; exact Bool.false_ne_true)]
  · rw [parseOption, if_neg (hne' _ (by simp)), if_neg (hne' _ (by simp)),
      if_neg (hne' _ (by simp)), if_neg (not_or.2 ⟨hne' _ (by simp), hne' _ (by simp)⟩),
      if_pos (.inr rfl), if_neg (by omega),
      if_neg (by rw [hc (.inr rfl)]; exact Bool.false_ne_true)]

theorem readsAs_nil : ReadsAs o env hd [] id :=
  fun _ st hst => ⟨st, parseLoop_nil o env hd _ _, rfl, hst, rfl, rfl⟩

/-- Options read one after the other: the later ones act on what the earlier ones left. -/
theorem ReadsAs.append {xs ys : List Nat} {f g : OptionsReceived → OptionsReceived}
    (hx : ReadsAs o env hd xs f) (hy : ReadsAs o env hd ys g) :
    ReadsAs o env hd (xs ++ ys) (g ∘ f) := by
  intro pos st hst
  obtain ⟨st1, h1, hr1, hm1, he1, ht1⟩ := hx pos st hst
  obtain ⟨st2, h2, hr2, hm2, he2, ht2⟩ := hy (pos + xs.length) st1 hm1
  refine ⟨st2, ?_, by rw [hr2, hr1]; rfl, hm2, he2.trans he1, ht2.trans ht1⟩
  rw [parseLoop_append o env hd (parseLoop_wellFramed o env hd h1), h1]
  exact h2

/-- An option above `DCCPO_MAX_RESERVED` other than Mandatory, whose case of the switch maps the
options received by `f` and does not `continue`. -/
theorem readsAs_tlv {opt : Nat} (value : List Nat) (f : OptionsReceived → OptionsReceived)
    (hopt : o.maxReserved < opt) (hm : opt ≠ o.mandatory) (hpos : 0 < value.length)
    (h : ∀ idx (st : ParseState), st.mandatory = false →
      parseOption o env hd opt value.length value idx st =
        .ok ({ st with recv := f st.recv }, false)) :
    ReadsAs o env hd (opt :: (value.length + 2) :: value) f := by
  intro pos st hst
  have hloop := parseLoop_tlv o env hd hopt rfl hpos [] pos st
  rw [List.append_nil] at hloop
  rw [hloop, h (pos + 2) { st with opt := opt, len := value.length } hst]
  simp only [bind, Except.bind, endOption, if_neg hm, parseLoop_nil]
  exact ⟨_, rfl, rfl, rfl, rfl, rfl⟩

/-- Padding reads as nothing. -/
theorem readsAs_zeros (hpad : o.padding = 0) (k : Nat) :
    ReadsAs o env hd (List.replicate k 0) id := by
  have hm : (0 : Nat) ≠ o.mandatory := hpad ▸ o.labels_ne.1.symm
  have hp0 : ∀ st : ParseState, parseOption o env hd 0 0 [] 0 st = .ok (st, false) := fun st => by
    rw [← hpad]; exact parseOption_padding o env hd _ _ _ st
  have h0 : ReadsAs o env hd [0] id := fun pos st hst => by
    rw [parseLoop_single o env hd (Nat.zero_le _), hp0]
    simp only [bind, Except.bind, endOption, if_neg hm, parseLoop_nil]
    exact ⟨_, rfl, rfl, rfl, rfl, rfl⟩
  induction k with
  | zero => exact readsAs_nil
  | succ k ih => exact h0.append ih

/-- The NDP Count option of a count `v ≥ 1` reads as `v` modulo 2^24. -/
theorem readsAs_ndp (hndp : o.maxReserved < o.ndpCount) {v : Int} (hv : 0 < v) :
    ReadsAs o env hd
      (o.ndpCount :: (dccpNdpLen v + 2) :: dccpEncodeValueVar v.toNat (dccpNdpLen v))
      fun r => { r with ndp := v.toNat % 2 ^ 24 } := by
  obtain ⟨h3, hdec⟩ := dccpNdpLen_roundTrip (Int.le_of_lt hv)
  have hlen := dccpEncodeValueVar_length v.toNat (Nat.le_succ_of_le h3)
  have hpos : 0 < dccpNdpLen v := by unfold dccpNdpLen; split_ifs <;> decide
  have h := readsAs_tlv (dccpEncodeValueVar v.toNat (dccpNdpLen v))
    (fun r => { r with ndp := v.toNat % 2 ^ 24 }) hndp o.labels_ne.2.2 (by omega) fun idx st _ => by
    rw [hlen, parseOption_ndpCount o env hd h3, hdec]
  rwa [hlen] at h

/-- The Timestamp Echo option of a timestamp `v` and a u32 elapsed time `e` reads as `v` modulo
2^32 and `e`, unless a bigger elapsed time came before. -/
theorem readsAs_echo (hecho : o.maxReserved < o.timestampEcho) (v : Nat) {e : Nat}
    (he : e < 2 ^ 32) :
    ReadsAs o env hd (o.timestampEcho :: (6 + dccpElapsedTimeLen e) ::
        (dccpEncodeValueVar v 4 ++ dccpEncodeValueVar e (dccpElapsedTimeLen e)))
      fun r => { r with timestampEcho := v % 2 ^ 32, elapsedTime := max r.elapsedTime e } := by
  have hm : o.timestampEcho ≠ o.mandatory := o.ne_mandatory (by simp)
  have h4 := dccpEncodeValueVar_length v (le_refl 4)
  have hval : (dccpEncodeValueVar v 4 ++ dccpEncodeValueVar e (dccpElapsedTimeLen e)).length =
      4 + dccpElapsedTimeLen e := by
    rw [List.length_append, h4, dccpEncodeValueVar_length e (dccpElapsedTimeLen_le e)]
  have hl : 4 + dccpElapsedTimeLen e = 4 ∨ 4 + dccpElapsedTimeLen e = 6 ∨
      4 + dccpElapsedTimeLen e = 8 := by
    rcases dccpElapsedTimeLen_cases e with ⟨h, -⟩ | ⟨h, -⟩ | ⟨h, -⟩ <;> omega
  have h := readsAs_tlv (dccpEncodeValueVar v 4 ++ dccpEncodeValueVar e (dccpElapsedTimeLen e))
    (fun r => { r with timestampEcho := v % 2 ^ 32, elapsedTime := max r.elapsedTime e }) hecho hm
    (by omega) fun idx st _ => by
    rw [hval, parseOption_timestampEcho o env hd hl, ntoh_append h4, ntoh_encode v (.inr rfl),
      List.drop_left' h4]
    rcases dccpElapsedTimeLen_cases e with ⟨h, rfl⟩ | ⟨h, h0, h1⟩ | ⟨h, h1⟩
    · simp only [h, if_pos, Nat.max_zero]
    · simp only [h, show 4 + 2 ≠ 4 by decide, if_false, if_true, ntoh_encode e (.inl rfl),
        Nat.mod_eq_of_lt (show e < 2 ^ (8 * 2) by omega)]
    · simp only [h, show 4 + 4 ≠ 4 by decide, show 4 + 4 ≠ 6 by decide, if_false,
        ntoh_encode e (.inr rfl), Nat.mod_eq_of_lt (show e < 2 ^ (8 * 4) by omega)]
  rwa [hval, show 4 + dccpElapsedTimeLen e + 2 = 6 + dccpElapsedTimeLen e by omega] at h

/-- A readable feature option reads as nothing. -/
theorem readsAs_featOpt {type feat : Nat} {val : List Nat} (h : FeatReadable o hd type feat val) :
    ReadsAs o env hd (type :: (val.length + 3) :: feat :: val) id := by
  obtain ⟨hres, hval, hkind, hc⟩ := h
  have hlen : 2 ≤ (feat :: val).length := by
    cases val with
    | nil => exact absurd rfl hval
    | cons _ _ => simp
  have hmand : type ≠ o.mandatory :=
    o.ne_mandatory (by rcases hkind with h | h | h | h <;> simp [h])
  exact readsAs_tlv (feat :: val) id hres hmand (by simp) fun idx st hst =>
    parseOption_feat hkind hlen _ _ hst hc

end Reading

/-- A u32 is below 2^32. -/
theorem toU32_lt (x : Int) : toU32 x < 2 ^ 32 := by
  unfold toU32; omega

/-- Behind any padding, `dccp_parse_options` reads a Timestamp Echo option of a u32 timestamp
`v` and a u32 elapsed time `e` back as they were written. -/
theorem dccpParseOptions_timestampEcho (hpad : o.padding = 0)
    (hecho : o.maxReserved < o.timestampEcho) (k : Nat) {v e : Nat} (hv : v < 2 ^ 32)
    (he : e < 2 ^ 32) (sk : ParseState) :
    ∃ st, dccpParseOptions o env hd sk (List.replicate k 0 ++ o.timestampEcho ::
        (6 + dccpElapsedTimeLen e) ::
          (dccpEncodeValueVar v 4 ++ dccpEncodeValueVar e (dccpElapsedTimeLen e))) = .ok st ∧
      st.recv.timestampEcho = v ∧ st.recv.elapsedTime = e := by
  obtain ⟨st, hloop, hrecv, hm, -, -⟩ := ((readsAs_zeros hpad k).append (readsAs_echo hecho v he))
    0 { sk with recv := {}, mandatory := false } rfl
  refine ⟨st, ?_, ?_, ?_⟩
  · rw [dccpParseOptions, hloop]
    simp only [hm, Bool.false_eq_true, if_false]
  · rw [hrecv]
    exact Nat.mod_eq_of_lt hv
  · rw [hrecv]
    exact Nat.zero_max e

/-- An Elapsed Time comes back as it was written: `dccp_parse_options` reads the u32 that
`dccp_insert_option_elapsed_time` writes, on any packet but a Data packet, where it skips the
option. An elapsed time of 0 is not written, and reads as the 0 of the cleared options. -/
theorem elapsedTime_roundTrip (hel : o.maxReserved < o.elapsedTime) (sk : ParseState)
    {e : Nat} (he : e < 2 ^ 32) :
    ∃ st, dccpParseOptions o env hd sk (dccpInsertOptionElapsedTime o OptArea.empty e).bytes =
        .ok st ∧ st.recv.elapsedTime = if env.isData then 0 else e := by
  by_cases h0 : dccpElapsedTimeLen e = 0
  · have he0 : e = 0 := by rcases dccpElapsedTimeLen_cases e with ⟨-, h⟩ | ⟨h, -⟩ | ⟨h, -⟩ <;> omega
    have hb : (dccpInsertOptionElapsedTime o OptArea.empty e).bytes = [] := by
      simp [dccpInsertOptionElapsedTime, h0]
    rw [hb, dccpParseOptions_nil, he0]
    exact ⟨_, rfl, by split <;> rfl⟩
  · have hm : o.elapsedTime ≠ o.mandatory := o.ne_mandatory (by simp)
    have hL : dccpElapsedTimeLen e = 2 ∨ dccpElapsedTimeLen e = 4 := by
      rcases dccpElapsedTimeLen_cases e with ⟨h, -⟩ | ⟨h, -⟩ | ⟨h, -⟩ <;> omega
    rw [dccpInsertOptionElapsedTime_empty o h0, dccpParseOptions,
      parseLoop_tlv o env hd hel (dccpEncodeValueVar_length e (dccpElapsedTimeLen_le e))
        (by omega),
      parseOption_elapsedTime o env hd hL]
    cases env.isData
    · simp only [Bool.false_eq_true, if_false, bind, Except.bind, endOption, if_neg hm,
        parseLoop_nil]
      refine ⟨_, rfl, ?_⟩
      rcases dccpElapsedTimeLen_cases e with ⟨h, -⟩ | ⟨h, -, h1⟩ | ⟨h, h1⟩
      · exact absurd h h0
      · simp only [h, if_true, ntoh_encode e (.inl rfl)]; omega
      · simp only [h, show (4 : Nat) ≠ 2 by decide, if_false, ntoh_encode e (.inr rfl)]; omega
    · simp only [if_true, bind, Except.bind, endOption, parseLoop_nil]
      exact ⟨_, rfl, rfl⟩

/-- An elapsed time of 0.7 s, which takes four bytes, read back on an Ack. -/
theorem elapsedTime_roundTrip_ack :
    dccpoLinux.maxReserved < dccpoLinux.elapsedTime ∧ 70000 < 2 ^ 32 ∧
      ∃ st, dccpParseOptions dccpoLinux default default ⟨{}, 0, 0, false, 0, 0⟩
          (dccpInsertOptionElapsedTime dccpoLinux OptArea.empty 70000).bytes = .ok st ∧
        st.recv.elapsedTime = if (default : ParseEnv).isData then 0 else 70000 :=
  ⟨by decide, by decide,
    elapsedTime_roundTrip dccpoLinux default default (by decide) _ (by decide)⟩

/-- A timestamp comes back to the host that sent it. Host A sends a Timestamp at `tA` µs;
host B's `dccp_parse_options` keeps it to be echoed; on B's next packet that acknowledges,
`dccp_insert_options` (on a socket with no NDP Count, Ack Vector, CCID option or feature to send)
echoes it with the time B held it, in 10 µs ticks, and A's `dccp_parse_options` reads back its
own timestamp and that time. A timestamp that is 0 modulo 2^32 is never echoed: B then sends no
option at all. -/
theorem timestamp_echo_roundTrip (hpad : o.padding = 0) (hts : o.maxReserved < o.timestamp)
    (hecho : o.maxReserved < o.timestampEcho) (tA : Nat) (envB : ParseEnv) (hdB : OptionHandlers)
    (skB : ParseState) (env : InsertEnv) (type : DccpPktType)
    (hack : dccpPacketWithoutAck type = false) (c : Int) (a : OptArea) (envA : ParseEnv)
    (hdA : OptionHandlers) (skA : ParseState) :
    ∃ stB, dccpParseOptions o envB hdB skB (dccpInsertOptionTimestamp o OptArea.empty tA).bytes =
        .ok stB ∧ stB.timestampEcho = tA / 10 % 2 ^ 32 ∧
      (tA / 10 % 2 ^ 32 ≠ 0 → ∃ stA, dccpParseOptions o envA hdA skA
          (dccpInsertOptions o env type
            ⟨false, c, false, stB, false, false, [], [], a⟩).area.bytes = .ok stA ∧
          stA.recv.timestampEcho = tA / 10 % 2 ^ 32 ∧
          stA.recv.elapsedTime = toU32 ((env.now - envB.now).tdiv 10)) ∧
      (tA / 10 % 2 ^ 32 = 0 →
        (dccpInsertOptions o env type ⟨false, c, false, stB, false, false, [], [], a⟩).area.bytes =
          []) := by
  have h4 := dccpEncodeValueVar_length (tA / 10) (le_refl 4)
  have hm : o.timestamp ≠ o.mandatory := o.ne_mandatory (by simp)
  have hA : (dccpInsertOptionTimestamp o OptArea.empty tA).bytes =
      o.timestamp :: (4 + 2) :: (dccpEncodeValueVar (tA / 10) 4 ++ []) := by
    rw [dccpInsertOptionTimestamp, dccpInsertOption,
      dif_neg (by simp only [h4, OptArea.empty, dccpMaxOptLen]; omega)]
    simp [h4]
  have hB : dccpParseOptions o envB hdB skB (dccpInsertOptionTimestamp o OptArea.empty tA).bytes =
      .ok { skB with
        recv := { timestamp := tA / 10 % 2 ^ 32 }
        timestampEcho := tA / 10 % 2 ^ 32
        timestampTime := envB.now
        mandatory := false
        opt := o.timestamp
        len := 4 } := by
    rw [hA, dccpParseOptions, parseLoop_tlv o envB hdB hts h4 (by decide), parseOption_timestamp,
      ntoh_encode _ (.inr rfl)]
    simp only [bind, Except.bind, endOption, if_neg hm, parseLoop_nil, Bool.false_eq_true, if_false]
  refine ⟨_, hB, rfl, fun hv => ?_, fun hv => ?_⟩
  · rw [dccpInsertOptions_echo_only o env hack, if_pos hv]
    obtain ⟨k, hk⟩ :=
      insertPadding_bytes (dccpInsertOptionTimestampEcho o OptArea.empty _ env.now).1
    rw [hk, dccpInsertOptionTimestampEcho_empty]
    exact dccpParseOptions_timestampEcho o envA hdA hpad hecho k (Nat.mod_lt _ (by decide))
      (toU32_lt _) skA
  · rw [dccpInsertOptions_echo_only o env hack, if_neg (not_not.2 hv)]
    rfl


/-- A Timestamp taken at 1.2345 s, echoed by the peer on an Ack 2 ms after it arrived. -/
theorem timestamp_echo_roundTrip_ack :
    dccpoLinux.padding = 0 ∧ dccpoLinux.maxReserved < dccpoLinux.timestamp ∧
      dccpoLinux.maxReserved < dccpoLinux.timestampEcho ∧ dccpPacketWithoutAck .ack = false ∧
      ∃ stB, dccpParseOptions dccpoLinux default default ⟨{}, 0, 0, false, 0, 0⟩
          (dccpInsertOptionTimestamp dccpoLinux OptArea.empty 1234500).bytes = .ok stB ∧
        stB.timestampEcho = 1234500 / 10 % 2 ^ 32 ∧
        (1234500 / 10 % 2 ^ 32 ≠ 0 → ∃ stA, dccpParseOptions dccpoLinux default default
            ⟨{}, 0, 0, false, 0, 0⟩
            (dccpInsertOptions dccpoLinux ⟨false, id, id, id, 2000⟩ .ack
              ⟨false, 0, false, stB, false, false, [], [], OptArea.empty⟩).area.bytes = .ok stA ∧
            stA.recv.timestampEcho = 1234500 / 10 % 2 ^ 32 ∧
            stA.recv.elapsedTime = toU32 ((2000 - (default : ParseEnv).now).tdiv 10)) ∧
        (1234500 / 10 % 2 ^ 32 = 0 →
          (dccpInsertOptions dccpoLinux ⟨false, id, id, id, 2000⟩ .ack
            ⟨false, 0, false, stB, false, false, [], [], OptArea.empty⟩).area.bytes = []) :=
  ⟨rfl, by decide, by decide, rfl,
    timestamp_echo_roundTrip dccpoLinux rfl (by decide) (by decide) 1234500 default default
      ⟨{}, 0, 0, false, 0, 0⟩
      ⟨false, id, id, id, 2000⟩ .ack rfl 0 OptArea.empty default default ⟨{}, 0, 0, false, 0, 0⟩⟩

/-- The empty Confirm `dccp_insert_feat` sends (`dccp_insert_feat_opt` with `len` 0) is
rejected by this code's own `dccp_parse_options`, wherever it stands behind well-framed options
and whatever follows it: the parse fails on the options before it, or else names the Confirm
with length 1. The same holds of a Change with no value. -/
theorem dccpInsertFeatOpt_empty_rejected (env : ParseEnv) (hd : OptionHandlers) (sk : ParseState)
    {pre : List Nat} (hw : WellFramed o pre) (a : OptArea) {type : Nat} (feat : Nat)
    (htype : type = o.changeL ∨ type = o.changeR ∨ type = o.confirmL ∨ type = o.confirmR)
    (hres : o.maxReserved < type) (hroom : a.optLen + 3 ≤ dccpMaxOptLen) :
    dccpParseOptions o env hd sk (pre ++ (dccpInsertFeatOpt a type feat []).bytes) =
      (parseLoop o env hd pre 0 { sk with recv := {}, mandatory := false }).bind
        fun _ => .error ⟨type, 1⟩ := by
  have hb : (dccpInsertFeatOpt a type feat []).bytes = type :: (1 + 2) :: ([feat] ++ a.bytes) := by
    rw [dccpInsertFeatOpt, dif_neg (by simp only [List.length_nil]; omega)]; rfl
  rw [hb, dccpParseOptions, parseLoop_append o env hd hw]
  simp only [parseLoop_tlv o env hd hres (show [feat].length = 1 from rfl) (by decide),
    @parseOption_feat_short o env hd type 1 htype (by decide)]
  cases parseLoop o env hd pre 0 { sk with recv := {}, mandatory := false } <;> rfl

/-- An empty Confirm L for feature 2 behind an NDP Count of 7. -/
theorem dccpInsertFeatOpt_empty_confirm :
    WellFramed dccpoLinux [37, 3, 7] ∧
      (33 = dccpoLinux.changeL ∨ 33 = dccpoLinux.changeR ∨ 33 = dccpoLinux.confirmL ∨
        33 = dccpoLinux.confirmR) ∧
      dccpoLinux.maxReserved < 33 ∧ OptArea.empty.optLen + 3 ≤ dccpMaxOptLen ∧
      dccpParseOptions dccpoLinux default default ⟨{}, 0, 0, false, 0, 0⟩
          ([37, 3, 7] ++ (dccpInsertFeatOpt OptArea.empty 33 2 []).bytes) =
        (parseLoop dccpoLinux default default [37, 3, 7] 0
            { (⟨{}, 0, 0, false, 0, 0⟩ : ParseState) with recv := {}, mandatory := false }).bind
          fun _ => .error ⟨33, 1⟩ :=
  have hw : WellFramed dccpoLinux [37, 3, 7] :=
    show WellFramed dccpoLinux (37 :: 3 :: ([7] ++ [])) from .tlv (by decide) (by decide) rfl .nil
  ⟨hw, by decide, by decide, by decide,
    dccpInsertFeatOpt_empty_rejected dccpoLinux default default _ hw _ 2 (by decide) (by decide)
      (by decide)⟩

section Writing

variable {o env hd}

theorem PushesAs.refl (a : OptArea) : PushesAs o env hd a a id := ⟨[], rfl, readsAs_nil⟩

/-- Writers one after the other: the options pushed last are read first. -/
theorem PushesAs.trans {a b c : OptArea} {f g : OptionsReceived → OptionsReceived}
    (h1 : PushesAs o env hd a b f) (h2 : PushesAs o env hd b c g) :
    PushesAs o env hd a c (f ∘ g) := by
  obtain ⟨bs1, e1, r1⟩ := h1
  obtain ⟨bs2, e2, r2⟩ := h2
  exact ⟨bs2 ++ bs1, by rw [e2, e1, List.append_assoc], r2.append r1⟩

/-- A writer whose options read as nothing, then any writer. -/
theorem PushesAs.trans_id {a b c : OptArea} {f : OptionsReceived → OptionsReceived}
    (h1 : PushesAs o env hd a b id) (h2 : PushesAs o env hd b c f) : PushesAs o env hd a c f :=
  h1.trans h2

theorem dccpInsertFeatOpt_pushesAs {type feat : Nat} {val : List Nat}
    (h : FeatReadable o hd type feat val) (a : OptArea) :
    PushesAs o env hd a (dccpInsertFeatOpt a type feat val) id := by
  unfold dccpInsertFeatOpt
  split
  · exact .refl a
  · exact ⟨_, rfl, readsAs_featOpt h⟩

theorem insertPending_pushesAs {opts : List DccpOptPend}
    (h : ∀ opt ∈ opts, (opt.conf = false → FeatReadable o hd opt.type opt.feat opt.val) ∧
      ∀ sc, opt.sc = some sc → FeatReadable o hd (opt.type + 1) opt.feat sc) (a : OptArea) :
    PushesAs o env hd a (insertPending a opts) id := by
  induction opts generalizing a with
  | nil => exact .refl a
  | cons opt opts ih =>
    obtain ⟨hconf, hsc⟩ := h opt (.head _)
    have h1 : PushesAs o env hd a (match opt.sc with
        | some sc => dccpInsertFeatOpt a (opt.type + 1) opt.feat sc
        | none => a) id := by
      split
      · rename_i sc hs
        exact dccpInsertFeatOpt_pushesAs (hsc sc hs) a
      · exact .refl a
    dsimp only [insertPending]
    refine h1.trans_id (PushesAs.trans_id ?_ (ih (fun x hx => h x (.tail _ hx)) _))
    cases hc : opt.conf
    · rw [if_pos (show (!false) = true from rfl)]
      exact dccpInsertFeatOpt_pushesAs (hconf hc) _
    · rw [if_neg (show ¬(!true) = true from Bool.false_ne_true)]
      exact .refl _

theorem dccpInsertFeat_pushesAs {conf pending : List DccpOptPend}
    (h : FeatsReadable o hd conf pending) (a : OptArea) :
    PushesAs o env hd a (dccpInsertFeat a conf pending).1 id := by
  show PushesAs o env hd a (insertPending
    (conf.foldl (fun a opt => dccpInsertFeatOpt a opt.type opt.feat opt.val) a) pending) id
  refine PushesAs.trans_id ?_ (insertPending_pushesAs h.2 _)
  induction conf generalizing a with
  | nil => exact .refl a
  | cons opt conf ih =>
    exact (dccpInsertFeatOpt_pushesAs (h.1 opt (.head _)) a).trans_id
      (ih ⟨fun x hx => h.1 x (.tail _ hx), h.2⟩ _)

theorem insertPadding_pushesAs (hpad : o.padding = 0) (a : OptArea) :
    PushesAs o env hd a (insertPadding a) id := by
  obtain ⟨k, hk⟩ := insertPadding_bytes a
  exact ⟨_, hk, readsAs_zeros hpad k⟩

theorem insertOptionNdp_pushesAs (hndp : o.maxReserved < o.ndpCount) (c : Int) (nonData : Bool)
    {a : OptArea} (ha : a.optLen + 5 ≤ dccpMaxOptLen) :
    PushesAs o env hd a (insertOptionNdp o a c nonData).1 (ndpRead c) := by
  refine ⟨(dccpInsertOptionNdp o.ndpCount c nonData a.optLen).option, rfl, ?_⟩
  by_cases hc : 0 < c
  · have h3 : dccpNdpLen c ≤ 3 := by unfold dccpNdpLen; split_ifs <;> decide
    rw [dccpInsertOptionNdp_option _ _ hc (by omega), ndpRead, if_pos hc]
    exact readsAs_ndp hndp hc
  · have h0 : (dccpInsertOptionNdp o.ndpCount c nonData a.optLen).option = [] := by
      simp [dccpInsertOptionNdp, hc]
    rw [h0, ndpRead, if_neg hc]
    exact readsAs_nil

/-- The Timestamp Echo of a waiting timestamp is read back exactly when it is written, which the
writer records by clearing the timestamp. -/
theorem dccpInsertOptionTimestampEcho_pushesAs (hecho : o.maxReserved < o.timestampEcho)
    {sk : ParseState} (hts : sk.timestampEcho ≠ 0) (now : Int) (a : OptArea) :
    PushesAs o env hd a (dccpInsertOptionTimestampEcho o a sk now).1
      (if (dccpInsertOptionTimestampEcho o a sk now).2 = sk then id else echoRead sk now) := by
  dsimp only [dccpInsertOptionTimestampEcho]
  split
  · rw [if_pos rfl]
    exact .refl a
  · rw [if_neg fun h => hts (congrArg ParseState.timestampEcho h).symm]
    exact ⟨_, rfl, readsAs_echo hecho _ (toU32_lt _)⟩

end Writing

namespace InsertState

variable {o env hd} {ienv : InsertEnv} {type : DccpPktType} {s : InsertState}

/-- Only the options of a packet that acknowledges touch the waiting timestamp. -/
theorem ndpStep_ts : (s.ndpStep o type).ts = s.ts := by
  unfold ndpStep; split <;> rfl

theorem ccidStep_ts : (s.ccidStep ienv).ts = s.ts := by
  dsimp only [ccidStep]; split_ifs <;> rfl

theorem featStep_ts : (s.featStep type).ts = s.ts := by
  unfold featStep; split <;> rfl

theorem ndpStep_pushesAs (hndp : o.maxReserved < o.ndpCount)
    (ha : s.area.optLen + 5 ≤ dccpMaxOptLen) :
    PushesAs o env hd s.area (s.ndpStep o type).area
      (if s.sendNdpCount then ndpRead s.ndpCount else id) := by
  by_cases h : s.sendNdpCount = true
  · rw [ndpStep, if_pos h, if_pos h]
    exact insertOptionNdp_pushesAs hndp _ _ ha
  · rw [ndpStep, if_neg h, if_neg h]
    exact .refl _

theorem ackStep_pushesAs (hecho : o.maxReserved < o.timestampEcho)
    (hack : QuietWriter o env hd ienv.insertOptionAckvec) :
    PushesAs o env hd s.area (s.ackStep o ienv type).area
      (if (s.ackStep o ienv type).ts = s.ts then id else echoRead s.ts ienv.now) := by
  by_cases hw : dccpPacketWithoutAck type = true
  · simp only [ackStep, hw, Bool.not_true, Bool.false_eq_true, if_false, if_true]
    exact .refl _
  · by_cases hav : (s.sendAckVector && ienv.ackvecPending) = true <;>
      by_cases hts : s.ts.timestampEcho = 0 <;>
      simp only [ackStep, hw, hav, hts, Bool.not_false, Bool.not_eq_true, Bool.false_eq_true,
        if_true, if_false, ne_eq, not_true_eq_false, not_false_eq_true]
    · exact hack _
    · exact (hack _).trans_id (dccpInsertOptionTimestampEcho_pushesAs hecho hts _ _)
    · exact .refl _
    · exact dccpInsertOptionTimestampEcho_pushesAs hecho hts _ _

theorem ccidStep_pushesAs (hrx : QuietWriter o env hd ienv.ccidHcRxInsertOptions)
    (htx : QuietWriter o env hd ienv.ccidHcTxInsertOptions) :
    PushesAs o env hd s.area (s.ccidStep ienv).area id := by
  dsimp only [ccidStep]
  split_ifs
  · exact (hrx _).trans_id (htx _)
  · exact hrx _
  · exact htx _
  · exact .refl _

theorem featStep_pushesAs (h : FeatsReadable o hd s.conf s.pending) :
    PushesAs o env hd s.area (s.featStep type).area id := by
  unfold featStep
  split
  · exact .refl _
  · exact .refl _
  · exact dccpInsertFeat_pushesAs h _

end InsertState

/-- The whole option area `dccp_insert_options` writes reads as its Timestamp Echo, when the
writer consumed the waiting timestamp, and then its NDP Count. -/
theorem dccpInsertOptions_pushesAs (hpad : o.padding = 0) (hndp : o.maxReserved < o.ndpCount)
    (hecho : o.maxReserved < o.timestampEcho) (ienv : InsertEnv) (type : DccpPktType)
    (s : InsertState) (hack : QuietWriter o env hd ienv.insertOptionAckvec)
    (hrx : QuietWriter o env hd ienv.ccidHcRxInsertOptions)
    (htx : QuietWriter o env hd ienv.ccidHcTxInsertOptions)
    (hfeat : FeatsReadable o hd s.conf s.pending) :
    PushesAs o env hd OptArea.empty (dccpInsertOptions o ienv type s).area
      ((if s.sendNdpCount then ndpRead s.ndpCount else id) ∘
        if (dccpInsertOptions o ienv type s).ts = s.ts then id else echoRead s.ts ienv.now) := by
  -- the steps of `dccp_insert_options`, from an empty option area
  obtain ⟨s1, e1⟩ : ∃ s1, s1 = InsertState.ndpStep o type { s with area := OptArea.empty } :=
    ⟨_, rfl⟩
  obtain ⟨s2, e2⟩ : ∃ s2, s2 = s1.ackStep o ienv type := ⟨_, rfl⟩
  obtain ⟨s3, e3⟩ : ∃ s3, s3 = s2.ccidStep ienv := ⟨_, rfl⟩
  obtain ⟨s4, e4⟩ : ∃ s4, s4 = s3.featStep type := ⟨_, rfl⟩
  have hfin : dccpInsertOptions o ienv type s = { s4 with area := insertPadding s4.area } := by
    subst e1 e2 e3 e4; rfl
  have hts : s4.ts = s2.ts := by rw [e4, InsertState.featStep_ts, e3, InsertState.ccidStep_ts]
  have hts1 : s1.ts = s.ts := by rw [e1, InsertState.ndpStep_ts]
  have hl : s3.conf = s.conf ∧ s3.pending = s.pending := by
    subst e1 e2 e3
    exact ⟨by rw [InsertState.ccidStep_lists.1, InsertState.ackStep_lists.1,
        InsertState.ndpStep_lists.1],
      by rw [InsertState.ccidStep_lists.2, InsertState.ackStep_lists.2,
        InsertState.ndpStep_lists.2]⟩
  have h1 : PushesAs o env hd OptArea.empty s1.area
      (if s.sendNdpCount then ndpRead s.ndpCount else id) :=
    e1 ▸ InsertState.ndpStep_pushesAs hndp (Nat.le_of_ble_eq_true rfl)
  have h2 : PushesAs o env hd s1.area s2.area
      (if s2.ts = s1.ts then id else echoRead s1.ts ienv.now) :=
    e2 ▸ InsertState.ackStep_pushesAs hecho hack
  have h3 : PushesAs o env hd s2.area s3.area id := e3 ▸ InsertState.ccidStep_pushesAs hrx htx
  have h4 : PushesAs o env hd s3.area s4.area id :=
    e4 ▸ InsertState.featStep_pushesAs (hl.1 ▸ hl.2 ▸ hfeat)
  rw [hfin, show ({ s4 with area := insertPadding s4.area } : InsertState).ts = s4.ts from rfl, hts,
    ← hts1]
  exact (((h1.trans h2).trans h3).trans h4).trans (insertPadding_pushesAs hpad _)

/-- What `dccp_insert_options` writes, `dccp_parse_options` accepts, and it reads back what was
meant: the NDP Count modulo 2^24 when one is sent, and the echoed timestamp modulo 2^32 with the
time it was held exactly when the writer consumed it. This holds as long as the peer's handlers
accept the Ack Vector, the CCIDs' options and the feature options written, which set nothing
else the parser keeps. -/
theorem dccpInsertOptions_roundTrip (hpad : o.padding = 0) (hndp : o.maxReserved < o.ndpCount)
    (hecho : o.maxReserved < o.timestampEcho) (ienv : InsertEnv) (type : DccpPktType)
    (s : InsertState) (hack : QuietWriter o env hd ienv.insertOptionAckvec)
    (hrx : QuietWriter o env hd ienv.ccidHcRxInsertOptions)
    (htx : QuietWriter o env hd ienv.ccidHcTxInsertOptions)
    (hfeat : FeatsReadable o hd s.conf s.pending) (sk : ParseState) :
    ∃ st, dccpParseOptions o env hd sk (dccpInsertOptions o ienv type s).area.bytes = .ok st ∧
      st.recv =
        { ndp := if s.sendNdpCount ∧ 0 < s.ndpCount then s.ndpCount.toNat % 2 ^ 24 else 0
          timestampEcho :=
            if (dccpInsertOptions o ienv type s).ts = s.ts then 0 else s.ts.timestampEcho % 2 ^ 32
          elapsedTime :=
            if (dccpInsertOptions o ienv type s).ts = s.ts then 0
            else toU32 ((ienv.now - s.ts.timestampTime).tdiv 10) } := by
  obtain ⟨bs, hbs, hr⟩ :=
    dccpInsertOptions_pushesAs o env hd hpad hndp hecho ienv type s hack hrx htx hfeat
  obtain ⟨st, hloop, hrecv, hm, -, -⟩ := hr 0 { sk with recv := {}, mandatory := false } rfl
  rw [OptArea.empty_bytes, List.append_nil] at hbs
  refine ⟨st, ?_, ?_⟩
  · rw [hbs, dccpParseOptions, hloop]
    simp only [hm, Bool.false_eq_true, if_false]
  · rw [hrecv]
    by_cases he : (dccpInsertOptions o ienv type s).ts = s.ts <;>
      by_cases hn : s.sendNdpCount = true <;> by_cases hc : 0 < s.ndpCount <;>
      simp [he, hn, hc, ndpRead, echoRead]

/-- An Ack with an NDP Count of 300, the echo of timestamp 5 held 2 ms, a Change L of feature 1
not yet confirmed and the Confirm waiting on it, with nothing from outside this tree. -/
theorem dccpInsertOptions_roundTrip_ack :
    dccpoLinux.padding = 0 ∧ dccpoLinux.maxReserved < dccpoLinux.ndpCount ∧
      dccpoLinux.maxReserved < dccpoLinux.timestampEcho ∧
      QuietWriter dccpoLinux default default id ∧
      FeatsReadable dccpoLinux default [] [⟨32, 1, [2], false, some [3]⟩] ∧
      ∃ st, dccpParseOptions dccpoLinux default default ⟨{}, 0, 0, false, 0, 0⟩
          (dccpInsertOptions dccpoLinux ⟨false, id, id, id, 2000⟩ .ack
            ⟨true, 300, false, ⟨{}, 5, 0, false, 0, 0⟩, false, false, [],
              [⟨32, 1, [2], false, some [3]⟩], OptArea.empty⟩).area.bytes = .ok st ∧
        st.recv =
          { ndp := if true = true ∧ (0 : Int) < 300 then (300 : Int).toNat % 2 ^ 24 else 0
            timestampEcho :=
              if (dccpInsertOptions dccpoLinux ⟨false, id, id, id, 2000⟩ .ack
                  ⟨true, 300, false, ⟨{}, 5, 0, false, 0, 0⟩, false, false, [],
                    [⟨32, 1, [2], false, some [3]⟩], OptArea.empty⟩).ts = ⟨{}, 5, 0, false, 0, 0⟩
              then 0 else 5 % 2 ^ 32
            elapsedTime :=
              if (dccpInsertOptions dccpoLinux ⟨false, id, id, id, 2000⟩ .ack
                  ⟨true, 300, false, ⟨{}, 5, 0, false, 0, 0⟩, false, false, [],
                    [⟨32, 1, [2], false, some [3]⟩], OptArea.empty⟩).ts = ⟨{}, 5, 0, false, 0, 0⟩
              then 0 else toU32 (((2000 : Int) - 0).tdiv 10) } :=
  have hq : QuietWriter dccpoLinux default default id := fun a => .refl a
  have hf : FeatsReadable dccpoLinux default [] [⟨32, 1, [2], false, some [3]⟩] :=
    ⟨(fun _ h => nomatch h), fun opt h => by
      rw [List.mem_singleton] at h
      subst h
      exact ⟨fun _ => by decide, fun sc hsc => by injection hsc with h; subst h; decide⟩⟩
  ⟨rfl, by decide, by decide, hq, hf,
    dccpInsertOptions_roundTrip dccpoLinux default default rfl (by decide) (by decide) _ .ack _ hq
      hq hq hf _⟩

end DccpTfrc
