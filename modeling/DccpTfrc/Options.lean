import DccpTfrc.Arith

namespace DccpTfrc

/-- `DCCP_MAX_OPT_LEN`. -/
def dccpMaxOptLen : Nat := 128

/-- `dccp_decode_value_var`: the first `len` bytes (at most four), most significant first,
summed into a u32. -/
def dccpDecodeValueVar (bf : List Nat) (len : Nat) : Nat :=
  let (value, bf) := if 3 < len then (bf.headD 0 * 2 ^ 24, bf.tail) else (0, bf)
  let (value, bf) := if 2 < len then (value + bf.headD 0 * 2 ^ 16, bf.tail) else (value, bf)
  let (value, bf) := if 1 < len then (value + bf.headD 0 * 2 ^ 8, bf.tail) else (value, bf)
  (if 0 < len then value + bf.headD 0 else value) % 2 ^ 32

/-- `dccp_encode_value_var`: the low `len` bytes of the u32 `value`, most significant
first. -/
def dccpEncodeValueVar (value len : Nat) : List Nat :=
  (if 3 < len then [value % 2 ^ 32 / 2 ^ 24] else []) ++
    (if 2 < len then [value % 2 ^ 24 / 2 ^ 16] else []) ++
    (if 1 < len then [value % 2 ^ 16 / 2 ^ 8] else []) ++
    (if 0 < len then [value % 2 ^ 8] else [])

/-- `dccp_encode_value_var` writes `len` bytes, for `len` up to four. -/
theorem dccpEncodeValueVar_length (value : Nat) {len : Nat} (h : len ≤ 4) :
    (dccpEncodeValueVar value len).length = len := by
  obtain _ | _ | _ | _ | _ | len := len <;> simp [dccpEncodeValueVar] at h ⊢

/-- `dccp_decode_value_var` reads back the low `len` bytes that `dccp_encode_value_var`
wrote, for `len` up to four. -/
theorem dccpDecodeValueVar_encode (value : Nat) {len : Nat} (h : len ≤ 4) :
    dccpDecodeValueVar (dccpEncodeValueVar value len) len = value % 2 ^ (8 * len) := by
  obtain _ | _ | _ | _ | _ | len := len <;>
    simp [dccpDecodeValueVar, dccpEncodeValueVar] at h ⊢ <;> omega

def dccpNdpLen (ndp : Int) : Nat := if ndp ≤ 0xFF then 1 else if ndp ≤ 0xFFFF then 2 else 3

/-- The one to three bytes `dccp_ndp_len` picks carry a count `ndp ≥ 0` modulo 2^24. -/
theorem dccpNdpLen_roundTrip {ndp : Int} (h : 0 ≤ ndp) :
    dccpNdpLen ndp ≤ 3 ∧
      dccpDecodeValueVar (dccpEncodeValueVar ndp.toNat (dccpNdpLen ndp)) (dccpNdpLen ndp) =
        ndp.toNat % 2 ^ 24 := by
  unfold dccpNdpLen
  split_ifs <;> refine ⟨by decide, ?_⟩ <;> rw [dccpDecodeValueVar_encode _ (by decide)] <;> omega

/-- What `dccp_insert_option_ndp` leaves: `dccps_ndp_count`, `dccpd_opt_len`, and the bytes
it pushed in front of the packet's options. -/
structure NdpInsert where
  ndpCount : Int
  optLen : Nat
  option : List Nat

/-- `dccp_insert_option_ndp` for a packet that `dccp_non_data_packet` classifies as
`nonData`; `dccpoNdpCount` is the option type `DCCPO_NDP_COUNT`. The int counter wraps. -/
def dccpInsertOptionNdp (dccpoNdpCount : Nat) (ndpCount : Int) (nonData : Bool)
    (optLen : Nat) : NdpInsert :=
  let ndp := ndpCount
  let ndpCount := if nonData then int32 (ndpCount + 1) else 0
  if 0 < ndp then
    let ndpLen := dccpNdpLen ndp
    let len := ndpLen + 2
    if dccpMaxOptLen < optLen + len then ⟨ndpCount, optLen, []⟩
    else ⟨ndpCount, optLen + len, dccpoNdpCount :: len :: dccpEncodeValueVar ndp.toNat ndpLen⟩
  else ⟨ndpCount, optLen, []⟩

theorem dccpInsertOptionNdp_ndpCount (o : Nat) (c : Int) (nonData : Bool) (optLen : Nat) :
    (dccpInsertOptionNdp o c nonData optLen).ndpCount = if nonData then int32 (c + 1) else 0 := by
  simp only [dccpInsertOptionNdp]; split_ifs <;> rfl

/-- With a count `ndp ≥ 1` and room for it, `dccp_insert_option_ndp` writes the option type,
the length `dccp_ndp_len(ndp) + 2` and the encoded count. -/
theorem dccpInsertOptionNdp_option (o : Nat) {c : Int} (nonData : Bool) {optLen : Nat}
    (hc : 0 < c) (hroom : optLen + (dccpNdpLen c + 2) ≤ dccpMaxOptLen) :
    (dccpInsertOptionNdp o c nonData optLen).option =
      o :: (dccpNdpLen c + 2) :: dccpEncodeValueVar c.toNat (dccpNdpLen c) := by
  simp only [dccpInsertOptionNdp, if_pos hc, if_neg (Nat.not_lt.mpr hroom)]

/-- The NDP count each packet of a stream carries, `true` marking a non-data packet: the
`dccps_ndp_count` that `dccp_insert_option_ndp` reads for it, from a starting count `c`. -/
def ndpStream (c : Int) : List Bool → List Int
  | [] => []
  | nonData :: ks => c :: ndpStream (if nonData then int32 (c + 1) else 0) ks

/-- A run of non-data packets counts up from `c`: after `n` of them the next packet carries
`c + n`, below the int wrap. -/
theorem mem_ndpStream_replicate {c : Int} (hc : 0 ≤ c) (n : Nat) (h : c + n < 2 ^ 31) :
    c + n ∈ ndpStream c (List.replicate (n + 1) true) := by
  induction n generalizing c with
  | zero => simp [ndpStream]
  | succ n ih =>
    have hstep : int32 (c + 1) = c + 1 := by rw [int32_eq]; omega
    have hnext : c + ((n + 1 : Nat) : Int) = c + 1 + n := by push_cast; omega
    rw [List.replicate_succ, ndpStream, if_pos rfl, hstep, hnext]
    exact List.mem_cons_of_mem _ (ih (by omega) (by omega))

theorem ndpStream_toNat_le (ks : List Bool) (c : Int) (i : Nat) (h1 : -2 ^ 31 ≤ c)
    (h2 : c < 2 ^ 31) : ((ndpStream c ks).getD i 0).toNat ≤ c.toNat + i := by
  induction ks generalizing c i with
  | nil => simp [ndpStream]
  | cons k ks ih =>
    cases i with
    | zero => simp [ndpStream]
    | succ i =>
      simp only [ndpStream, List.getD_cons_succ]
      split_ifs
      · have := ih (int32 (c + 1)) i (int32_ge _) (int32_lt _)
        have : (int32 (c + 1)).toNat ≤ c.toNat + 1 := by rw [int32_eq]; omega
        omega
      · have := ih 0 i (by decide) (by decide); omega

/-- The count a packet carries stops short of every data packet sent before it. -/
theorem ndpStream_lt_of_data (ks : List Bool) (c : Int) {i j : Nat} (hj : j < i)
    (hd : ks[j]? = some false) (h1 : -2 ^ 31 ≤ c) (h2 : c < 2 ^ 31) :
    ((ndpStream c ks).getD i 0).toNat < i - j := by
  induction ks generalizing c i j with
  | nil => simp at hd
  | cons k ks ih =>
    obtain ⟨i, rfl⟩ : ∃ i', i = i' + 1 := ⟨i - 1, by omega⟩
    simp only [ndpStream, List.getD_cons_succ]
    cases j with
    | zero =>
      obtain rfl : k = false := by simpa using hd
      have := ndpStream_toNat_le ks 0 i (by decide) (by decide)
      simp only [Bool.false_eq_true, if_false]; omega
    | succ j =>
      have := ih (if k then int32 (c + 1) else 0) (show j < i by omega) (by simpa using hd)
        (by split_ifs <;> first | exact int32_ge _ | decide)
        (by split_ifs <;> first | exact int32_lt _ | decide)
      omega

end DccpTfrc
