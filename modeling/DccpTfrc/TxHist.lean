import DccpTfrc.Arith
import Mathlib.Data.List.Nodup

namespace DccpTfrc

/-- `struct tfrc_tx_hist_entry`; the chain is the list of entries reachable from the head,
newest first. -/
structure TxHistEntry where
  seqno : Nat
  stamp : Int
  deriving DecidableEq, Repr, Inhabited

/-- `tfrc_tx_hist_find_entry`: the position of the first entry from the head with `seqno`. -/
def tfrcTxHistFindEntry : List TxHistEntry → Nat → Option Nat
  | [], _ => none
  | e :: t, seqno => if e.seqno ≠ seqno then (tfrcTxHistFindEntry t seqno).map (· + 1) else some 0

/-- `tfrc_tx_hist_add` at time `now`; `none` is -ENOBUFS from a failed `kmem_cache_alloc`,
which leaves the chain as it was. -/
def tfrcTxHistAdd (allocOk : Bool) (now : Int) (head : List TxHistEntry) (seqno : Nat) :
    Option (List TxHistEntry) :=
  if allocOk then some (⟨seqno, now⟩ :: head) else none

/-- `tfrc_tx_hist_purge`: the chain becomes empty; the second component lists the entries
given back to the slab. -/
def tfrcTxHistPurge (head : List TxHistEntry) : List TxHistEntry × List TxHistEntry := ([], head)

/-- `tfrc_tx_hist_rtt` at time `now`: the u32 sample, the chain left behind, and the entries
freed by purging everything after the matched packet. -/
def tfrcTxHistRtt (head : List TxHistEntry) (seqno : Nat) (now : Int) :
    Nat × List TxHistEntry × List TxHistEntry :=
  match tfrcTxHistFindEntry head seqno with
  | some i =>
    let packet := head.getD i default
    let r := tfrcTxHistPurge (head.drop (i + 1))
    (toU32 (ktimeUsDelta now packet.stamp), head.take (i + 1) ++ r.1, r.2)
  | none => (0, head, [])

theorem tfrcTxHistFindEntry_append (A B : List TxHistEntry) (e : TxHistEntry) (seqno : Nat)
    (he : e.seqno = seqno) (hA : seqno ∉ A.map (·.seqno)) :
    tfrcTxHistFindEntry (A ++ e :: B) seqno = some A.length := by
  induction A with
  | nil => simp [tfrcTxHistFindEntry, he]
  | cons a A ih =>
    simp only [List.map_cons, List.mem_cons, not_or] at hA
    simp [tfrcTxHistFindEntry, Ne.symm hA.1, ih hA.2]

theorem tfrcTxHistFindEntry_none (head : List TxHistEntry) (seqno : Nat)
    (h : seqno ∉ head.map (·.seqno)) : tfrcTxHistFindEntry head seqno = none := by
  induction head with
  | nil => rfl
  | cons a t ih =>
    simp only [List.map_cons, List.mem_cons, not_or] at h
    simp [tfrcTxHistFindEntry, Ne.symm h.1, ih h.2]

/-- A lookup that matches returns the matched packet's time, keeps the chain down to it and
frees exactly the entries older than it. -/
theorem tfrcTxHistRtt_match (A B : List TxHistEntry) (e : TxHistEntry) (seqno : Nat) (now : Int)
    (he : e.seqno = seqno) (hA : seqno ∉ A.map (·.seqno)) :
    tfrcTxHistRtt (A ++ e :: B) seqno now = (toU32 (ktimeUsDelta now e.stamp), A ++ [e], B) := by
  simp [tfrcTxHistRtt, tfrcTxHistFindEntry_append A B e seqno he hA, tfrcTxHistPurge,
    List.getD_eq_getElem?_getD, List.take_append_eq_append_take, List.drop_append_eq_append_drop,
    List.getElem_append_right]

theorem tfrcTxHistRtt_miss (head : List TxHistEntry) (seqno : Nat) (now : Int)
    (h : seqno ∉ head.map (·.seqno)) : tfrcTxHistRtt head seqno now = (0, head, []) := by
  simp [tfrcTxHistRtt, tfrcTxHistFindEntry_none head seqno h]

/-- The sender's calls on its history: a send at `now` whose allocation succeeds or fails,
and a feedback lookup at `now`. -/
inductive TxEvent
  | add (seqno : Nat) (now : Int) (allocOk : Bool)
  | rtt (seqno : Nat) (now : Int)

def TxEvent.addSeqno : TxEvent → Option Nat
  | .add seqno _ _ => some seqno
  | .rtt _ _ => none

/-- The chain after one call. -/
def txStep (head : List TxHistEntry) : TxEvent → List TxHistEntry
  | .add seqno now ok => (tfrcTxHistAdd ok now head seqno).getD head
  | .rtt seqno now => (tfrcTxHistRtt head seqno now).2.1

/-- The chain after the calls `evs`. -/
def txRun (head : List TxHistEntry) (evs : List TxEvent) : List TxHistEntry :=
  evs.foldl txStep head

/-- What the chain is meant to hold: the packets added so far, oldest first, and the
sequence number of the most recently matched one. -/
structure TxSpec where
  sent : List TxHistEntry
  matched : Option Nat

/-- From the most recently matched packet (from the first, before any match) to the newest,
newest first. -/
def TxSpec.chain (s : TxSpec) : List TxHistEntry :=
  match s.matched with
  | none => s.sent.reverse
  | some m => (s.sent.dropWhile fun e => e.seqno != m).reverse

/-- A lookup matches when its packet is still in the chain. -/
def TxSpec.step (s : TxSpec) : TxEvent → TxSpec
  | .add seqno now true => { s with sent := s.sent ++ [⟨seqno, now⟩] }
  | .add _ _ false => s
  | .rtt seqno _ => if seqno ∈ s.chain.map (·.seqno) then { s with matched := some seqno } else s

/-- The spec's packets carry distinct sequence numbers and the matched one is among them. -/
def TxSpec.Inv (s : TxSpec) : Prop :=
  (s.sent.map (·.seqno)).Nodup ∧ ∀ m, s.matched = some m → m ∈ s.sent.map (·.seqno)

theorem TxSpec.chain_suffix (s : TxSpec) : ∃ P, s.sent = P ++ s.chain.reverse := by
  unfold TxSpec.chain
  split
  · exact ⟨[], by simp⟩
  · exact ⟨_, by rw [List.reverse_reverse, List.takeWhile_append_dropWhile]⟩

theorem dropWhile_append_cons {p : TxHistEntry → Bool} (L R : List TxHistEntry) (e : TxHistEntry)
    (hL : ∀ x ∈ L, p x) (he : p e = false) : (L ++ e :: R).dropWhile p = e :: R := by
  rw [List.dropWhile_append_of_pos hL, List.dropWhile_cons_of_neg (by simp [he])]

theorem TxSpec.chain_add (s : TxSpec) (hs : s.Inv) (seqno : Nat) (now : Int) :
    (s.step (.add seqno now true)).chain = ⟨seqno, now⟩ :: s.chain := by
  simp only [TxSpec.step, TxSpec.chain]
  split
  · simp
  · rename_i m hm
    obtain ⟨x, hx, rfl⟩ := List.mem_map.1 (hs.2 m hm)
    have hne : s.sent.dropWhile (fun e => e.seqno != x.seqno) ≠ [] := by
      rw [Ne, List.dropWhile_eq_nil_iff]; exact fun h => by simpa using h x hx
    rw [List.dropWhile_append, if_neg (by simpa using hne)]
    simp

theorem TxSpec.chain_rtt (s : TxSpec) (hs : s.Inv) (A B : List TxHistEntry) (e : TxHistEntry)
    (hc : s.chain = A ++ e :: B) :
    (s.step (.rtt e.seqno now)).chain = A ++ [e] := by
  have hmem : e.seqno ∈ s.chain.map (·.seqno) := by simp [hc]
  obtain ⟨P, hP⟩ := s.chain_suffix
  rw [hc] at hP
  simp only [List.reverse_append, List.reverse_cons, List.append_assoc, List.singleton_append] at hP
  have hnd : ((P ++ B.reverse).map (·.seqno) ++ e.seqno :: A.reverse.map (·.seqno)).Nodup := by
    simpa [hP] using hs.1
  have hout : e.seqno ∉ (P ++ B.reverse).map (·.seqno) := fun h =>
    List.disjoint_of_nodup_append hnd h (List.mem_cons_self _ _)
  rw [TxSpec.step, if_pos hmem]
  simp only [TxSpec.chain]
  rw [hP, ← List.append_assoc, dropWhile_append_cons _ _ e _ (by simp)]
  · simp
  · intro x hx
    simpa using fun hxe => hout (List.mem_map.2 ⟨x, hx, hxe⟩)

theorem TxSpec.chain_nodup (s : TxSpec) (hs : s.Inv) : (s.chain.map (·.seqno)).Nodup := by
  obtain ⟨P, hP⟩ := s.chain_suffix
  have h := hs.1
  rw [hP, List.map_append] at h
  simpa [List.map_reverse, List.nodup_reverse] using (List.nodup_append.1 h).2.1

theorem TxSpec.inv_step (s : TxSpec) (hs : s.Inv) (ev : TxEvent)
    (hfresh : ∀ n ∈ ev.addSeqno, n ∉ s.sent.map (·.seqno)) : (s.step ev).Inv := by
  match ev with
  | .add seqno now true =>
    refine ⟨?_, fun m hm => ?_⟩
    · rw [TxSpec.step, List.map_append, List.nodup_append]
      exact ⟨hs.1, List.nodup_singleton _, by simpa using hfresh seqno rfl⟩
    · simp only [TxSpec.step, List.map_append, List.mem_append] at hm ⊢
      exact .inl (hs.2 m hm)
  | .add _ _ false => exact hs
  | .rtt seqno _ =>
    simp only [TxSpec.step]
    split_ifs with hmem
    · obtain ⟨P, hP⟩ := s.chain_suffix
      refine ⟨hs.1, fun m hm => ?_⟩
      cases Option.some.inj hm
      rw [hP]; simpa [List.map_reverse] using Or.inr hmem
    · exact hs

/-- One call moves the chain as it moves the spec. -/
theorem txStep_chain (s : TxSpec) (hs : s.Inv) (ev : TxEvent) :
    txStep s.chain ev = (s.step ev).chain := by
  cases ev with
  | add seqno now ok =>
    cases ok
    · rfl
    · simp [txStep, tfrcTxHistAdd, s.chain_add hs]
  | rtt seqno now =>
    by_cases hmem : seqno ∈ s.chain.map (·.seqno)
    · obtain ⟨e, he, rfl⟩ := List.mem_map.1 hmem
      obtain ⟨A, B, hAB⟩ := List.append_of_mem he
      have hA : e.seqno ∉ A.map (·.seqno) := by
        have := s.chain_nodup hs
        rw [hAB, List.map_append, List.map_cons] at this
        exact fun h => List.disjoint_of_nodup_append this h (List.mem_cons_self _ _)
      rw [s.chain_rtt hs A B e hAB, txStep, hAB, tfrcTxHistRtt_match A B e _ now rfl hA]
    · rw [txStep, tfrcTxHistRtt_miss _ _ now hmem]
      simp [TxSpec.step, hmem]

/-- The chain follows the spec over any calls whose sends carry fresh sequence numbers. -/
theorem txRun_spec (evs : List TxEvent) (s : TxSpec) (hs : s.Inv)
    (hd : (s.sent.map (·.seqno) ++ evs.filterMap TxEvent.addSeqno).Nodup) :
    txRun s.chain evs = (evs.foldl TxSpec.step s).chain := by
  induction evs generalizing s with
  | nil => rfl
  | cons ev evs ih =>
    have hfresh : ∀ n ∈ ev.addSeqno, n ∉ s.sent.map (·.seqno) := fun n hn hmem =>
      List.disjoint_of_nodup_append hd hmem
        (List.mem_filterMap.2 ⟨ev, List.mem_cons_self _ _, hn⟩)
    have hd' : ((s.step ev).sent.map (·.seqno) ++ evs.filterMap TxEvent.addSeqno).Nodup := by
      cases ev with
      | add seqno now ok =>
        cases ok <;> simp_all [TxSpec.step, TxEvent.addSeqno, List.nodup_append]
      | rtt seqno now =>
        simp only [TxSpec.step]; split_ifs <;> simpa [TxEvent.addSeqno] using hd
    simp only [txRun, List.foldl_cons] at ih ⊢
    rw [txStep_chain s hs ev]
    exact ih _ (s.inv_step hs ev hfresh) hd'

/-- Over every interleaving of sends with distinct sequence numbers and lookups, the chain
is the packets from the most recently matched one to the newest, and each lookup either
finds its packet, returns its time and frees exactly the older entries, or changes nothing. -/
theorem txRun_chain (evs : List TxEvent) (hd : (evs.filterMap TxEvent.addSeqno).Nodup)
    (seqno : Nat) (now : Int) :
    txRun [] evs = (evs.foldl TxSpec.step ⟨[], none⟩).chain ∧
      (∀ A e B, txRun [] evs = A ++ e :: B → e.seqno = seqno → seqno ∉ A.map (·.seqno) →
        tfrcTxHistRtt (txRun [] evs) seqno now = (toU32 (ktimeUsDelta now e.stamp), A ++ [e], B)) ∧
      (seqno ∉ (txRun [] evs).map (·.seqno) →
        tfrcTxHistRtt (txRun [] evs) seqno now = (0, txRun [] evs, [])) :=
  ⟨txRun_spec evs ⟨[], none⟩ ⟨List.nodup_nil, fun _ h => nomatch h⟩ (by simpa using hd),
    fun A e B hc he hA => hc ▸ tfrcTxHistRtt_match A B e seqno now he hA,
    tfrcTxHistRtt_miss _ seqno now⟩

theorem txRun_chain_two_sends :
    ([TxEvent.add 1 0 true, .add 2 5000 true, .rtt 1 9000].filterMap TxEvent.addSeqno).Nodup ∧
      (txRun [] [.add 1 0 true, .add 2 5000 true, .rtt 1 9000] =
          ([TxEvent.add 1 0 true, .add 2 5000 true, .rtt 1 9000].foldl TxSpec.step ⟨[], none⟩).chain ∧
        (∀ A e B, txRun [] [.add 1 0 true, .add 2 5000 true, .rtt 1 9000] = A ++ e :: B →
          e.seqno = 2 → 2 ∉ A.map (·.seqno) →
          tfrcTxHistRtt (txRun [] [.add 1 0 true, .add 2 5000 true, .rtt 1 9000]) 2 12000 =
            (toU32 (ktimeUsDelta 12000 e.stamp), A ++ [e], B)) ∧
        (2 ∉ (txRun [] [.add 1 0 true, .add 2 5000 true, .rtt 1 9000]).map (·.seqno) →
          tfrcTxHistRtt (txRun [] [.add 1 0 true, .add 2 5000 true, .rtt 1 9000]) 2 12000 =
            (0, txRun [] [.add 1 0 true, .add 2 5000 true, .rtt 1 9000], []))) :=
  ⟨by decide, txRun_chain _ (by decide) 2 12000⟩

end DccpTfrc
