import DccpTfrc.RxHist
import Mathlib.Data.List.Infix

namespace DccpTfrc.LossModel

/-- The loss-free-successor test of the Rx history on the exact distance from `a` to `b`:
`b` follows `a` directly, or the non-data packets before `b` account for the whole gap. -/
def lossFree (a b : RxHistEntry) : Bool :=
  dccpDeltaSeqno a.seqno b.seqno = 1 || dccpDeltaSeqno a.seqno b.seqno ≤ b.ndp.val

/-- Insert an arrival into records kept in circular sequence-number order. -/
def insert (p : RxHistEntry) : List RxHistEntry → List RxHistEntry
  | [] => [p]
  | e :: l => if before48 p.seqno e.seqno then p :: e :: l else e :: insert p l

/-- Move the anchor past every record that follows it without a loss. -/
def advance : List RxHistEntry → List RxHistEntry
  | a :: b :: l => if lossFree a b then advance (b :: l) else a :: b :: l
  | l => l

/-- What loss detection does with an arrival: insert it and move the anchor forward; once
three records follow an unresolved hole, the four are reported as a loss interval and
tracking continues from the first record after the anchor. -/
def step (l : List RxHistEntry) (p : RxHistEntry) : List RxHistEntry × Option (List RxHistEntry) :=
  let l := advance (insert p l)
  if l.length = 4 then (advance l.tail, some l) else (l, none)

/-- At most three records, in circular order, and the record after the anchor is not a
loss-free successor of it. -/
structure Inv (l : List RxHistEntry) : Prop where
  length_le : l.length ≤ 3
  sorted : l.Pairwise fun a b => before48 a.seqno b.seqno
  pending : ∀ a b t, l = a :: b :: t → lossFree a b = false

theorem length_insert (p : RxHistEntry) (l : List RxHistEntry) :
    (insert p l).length = l.length + 1 := by
  induction l with
  | nil => rfl
  | cons e l ih => unfold insert; split <;> simp [ih]

theorem advance_suffix : ∀ l : List RxHistEntry, advance l <:+ l
  | a :: b :: l => by
    unfold advance
    split
    · exact (advance_suffix (b :: l)).trans (List.suffix_cons a _)
    · exact List.suffix_refl _
  | [] | [_] => List.suffix_refl _

theorem advance_pending : ∀ (l : List RxHistEntry) {a b : RxHistEntry} {t : List RxHistEntry},
    advance l = a :: b :: t → lossFree a b = false
  | x :: y :: l, a, b, t, h => by
    unfold advance at h
    split at h
    · exact advance_pending (y :: l) h
    · rename_i hf
      cases h
      simpa using hf
  | [], _, _, _, h => nomatch h
  | [_], _, _, _, h => nomatch h

theorem advance_of_not_lossFree {a b : RxHistEntry} (l : List RxHistEntry)
    (h : lossFree a b = false) : advance (a :: b :: l) = a :: b :: l := by
  simp [advance, h]

theorem step_of_length_le (l : List RxHistEntry) (p : RxHistEntry) (hl : l.length ≤ 2) :
    step l p = (advance (insert p l), none) := by
  have := (advance_suffix (insert p l)).length_le
  rw [length_insert] at this
  simp only [step]; rw [if_neg (by omega)]

theorem step_of_advance (l : List RxHistEntry) (p : RxHistEntry) {L : List RxHistEntry}
    (hL : advance (insert p l) = L) :
    step l p = if L.length = 4 then (advance L.tail, some L) else (L, none) := by
  simp only [step, hL]

theorem mem_insert {e p : RxHistEntry} {l : List RxHistEntry} :
    e ∈ insert p l ↔ e = p ∨ e ∈ l := by
  induction l with
  | nil => simp [insert]
  | cons a l ih => unfold insert; split <;> simp [ih, or_left_comm]

/-- What a step keeps tracking is a tail of the records with the arrival inserted. -/
theorem step_fst_suffix (l : List RxHistEntry) (p : RxHistEntry) : (step l p).1 <:+ insert p l := by
  have hsuf := advance_suffix (insert p l)
  simp only [step]
  split_ifs
  · exact ((advance_suffix _).trans (List.tail_suffix _)).trans hsuf
  · exact hsuf

theorem mem_step_fst {e p : RxHistEntry} {l : List RxHistEntry} (he : e ∈ (step l p).1) :
    e = p ∨ e ∈ l :=
  mem_insert.1 ((step_fst_suffix l p).subset he)

/-- The step keeps the invariant whenever the arrival lands in order. -/
theorem step_inv (l : List RxHistEntry) (p : RxHistEntry) (hl : l.length ≤ 3)
    (hs : (insert p l).Pairwise fun a b => before48 a.seqno b.seqno) : Inv (step l p).1 := by
  have hlen := (advance_suffix (insert p l)).length_le
  rw [length_insert] at hlen
  refine ⟨?_, hs.sublist (step_fst_suffix l p).sublist, fun a b t ht => ?_⟩
  · simp only [step]
    split_ifs with h4 <;> dsimp only
    · have := (advance_suffix (advance (insert p l)).tail).length_le
      simp only [List.length_tail] at this
      omega
    · omega
  · simp only [step] at ht
    split_ifs at ht <;> exact advance_pending _ ht

/-- A reported interval is four records in circular order with a loss after the first. -/
theorem step_snd {l : List RxHistEntry} {p : RxHistEntry} {L : List RxHistEntry}
    (hs : (insert p l).Pairwise fun a b => before48 a.seqno b.seqno)
    (hL : (step l p).2 = some L) :
    L.length = 4 ∧ (L.Pairwise fun a b => before48 a.seqno b.seqno) ∧
      ∀ a b t, L = a :: b :: t → lossFree a b = false := by
  simp only [step] at hL
  split_ifs at hL with h4
  cases hL
  exact ⟨h4, hs.sublist (advance_suffix _).sublist, fun a b t ht => advance_pending _ ht⟩

theorem insert_of_not_before {p : RxHistEntry} {l : List RxHistEntry}
    (h : ∀ e ∈ l, before48 p.seqno e.seqno = false) : insert p l = l ++ [p] := by
  induction l with
  | nil => rfl
  | cons e l ih =>
    simp only [List.forall_mem_cons] at h
    simp [insert, h.1, ih h.2]

/-- An arrival before none of the records, behind a hole after the anchor, is appended and
the anchor stays. -/
theorem step_of_gap {l : List RxHistEntry} {p : RxHistEntry} (hl : l ≠ [])
    (hord : ∀ e ∈ l, before48 p.seqno e.seqno = false)
    (hgap : ∀ a b t, l ++ [p] = a :: b :: t → lossFree a b = false) :
    step l p = if (l ++ [p]).length = 4 then (advance (l ++ [p]).tail, some (l ++ [p]))
      else (l ++ [p], none) := by
  apply step_of_advance
  rw [insert_of_not_before hord]
  obtain ⟨a, t, rfl⟩ := List.exists_cons_of_ne_nil hl
  cases t with
  | nil => exact advance_of_not_lossFree [] (hgap a p [] rfl)
  | cons b t => exact advance_of_not_lossFree _ (hgap a b _ rfl)

/-- The model over a stream of arrivals: the records tracked at the end, and the loss
intervals reported on the way, oldest first. -/
def run (l : List RxHistEntry) : List RxHistEntry → List RxHistEntry × List (List RxHistEntry)
  | [] => (l, [])
  | p :: ps => ((run (step l p).1 ps).1, (step l p).2.toList ++ (run (step l p).1 ps).2)

example : run [⟨0, 0, 0, 0, 0⟩] [⟨2, 0, 0, 0, 0⟩, ⟨3, 0, 0, 0, 0⟩, ⟨4, 0, 0, 0, 0⟩] =
    ([⟨4, 0, 0, 0, 0⟩],
      [[⟨0, 0, 0, 0, 0⟩, ⟨2, 0, 0, 0, 0⟩, ⟨3, 0, 0, 0, 0⟩, ⟨4, 0, 0, 0, 0⟩]]) := by
  decide

/-- An arrival the model takes: after the anchor, new among the records past it, and within
2^31 of every record, where the code's `int` distances are exact. -/
def Fits (l : List RxHistEntry) (p : RxHistEntry) : Prop :=
  (∀ a ∈ l.head?, before48 a.seqno p.seqno = true) ∧ (∀ e ∈ l.tail, e.seqno ≠ p.seqno) ∧
    ∀ e ∈ l, (sdist48 e.seqno p.seqno).natAbs < 2 ^ 31

instance (l : List RxHistEntry) (p : RxHistEntry) : Decidable (Fits l p) :=
  inferInstanceAs (Decidable (_ ∧ _ ∧ _))

/-- Every arrival of a stream fits the records tracked when it arrives. -/
def Fed (l : List RxHistEntry) : List RxHistEntry → Prop
  | [] => True
  | p :: ps => Fits l p ∧ Fed (step l p).1 ps

instance decidableFed (l : List RxHistEntry) : ∀ ps, Decidable (Fed l ps)
  | [] => isTrue trivial
  | p :: ps => @instDecidableAnd _ _ inferInstance (decidableFed (step l p).1 ps)

end DccpTfrc.LossModel
