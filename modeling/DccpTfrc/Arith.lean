import Mathlib.Tactic.SplitIfs
import Mathlib.Algebra.Group.Int

namespace DccpTfrc

/-- `dccp_delta_seqno`: both operands are shifted into the top 48 bits of a u64, subtracted
there and shifted back, which leaves the forward distance modulo 2^48. -/
def dccpDeltaSeqno (seqno1 seqno2 : Nat) : Nat :=
  (seqno2 * 2 ^ 16 % 2 ^ 64 + 2 ^ 64 - seqno1 * 2 ^ 16 % 2 ^ 64) % 2 ^ 64 / 2 ^ 16

/-- `before48`: the same shifted difference, read as an s64, is negative. -/
def before48 (seq1 seq2 : Nat) : Bool :=
  2 ^ 63 ≤ (seq1 * 2 ^ 16 % 2 ^ 64 + 2 ^ 64 - seq2 * 2 ^ 16 % 2 ^ 64) % 2 ^ 64

def after48 (seq1 seq2 : Nat) : Bool :=
  2 ^ 63 ≤ (seq2 * 2 ^ 16 % 2 ^ 64 + 2 ^ 64 - seq1 * 2 ^ 16 % 2 ^ 64) % 2 ^ 64

/-- `between48`: is seq2 <= seq1 <= seq3, comparing shifted u64 differences. -/
def between48 (seq1 seq2 seq3 : Nat) : Bool :=
  (seq1 * 2 ^ 16 % 2 ^ 64 + 2 ^ 64 - seq2 * 2 ^ 16 % 2 ^ 64) % 2 ^ 64 ≤
    (seq3 * 2 ^ 16 % 2 ^ 64 + 2 ^ 64 - seq2 * 2 ^ 16 % 2 ^ 64) % 2 ^ 64

/-- A u64 or s64 value stored in a C `int`: its low 32 bits in two's complement. -/
def int32 (x : Int) : Int := (x + 2 ^ 31) % 2 ^ 32 - 2 ^ 31

/-- An `int` converted to `u32` for a comparison with an unsigned operand. -/
def toU32 (x : Int) : Nat := (x % 2 ^ 32).toNat

/-- `SUB16`: subtraction of two window counters modulo 16. -/
def sub16 (a b : Nat) : Nat := (a + 16 - b) % 16

/-- `ktime_us_delta`: a `ktime_t` counts nanoseconds, and its microseconds are rounded down
as `ktime_to_us` does through a `timeval`. -/
def ktimeUsDelta (later earlier : Int) : Int := (later - earlier) / 1000

/-- The exact signed circular distance from `a` to `b`, in (-2^47, 2^47]. -/
def sdist48 (a b : Nat) : Int :=
  if dccpDeltaSeqno a b ≤ 2 ^ 47 then dccpDeltaSeqno a b else (dccpDeltaSeqno a b : Int) - 2 ^ 48

@[simp] theorem dccpDeltaSeqno_eq (a b : Nat) :
    dccpDeltaSeqno a b = (b % 2 ^ 48 + 2 ^ 48 - a % 2 ^ 48) % 2 ^ 48 := by
  unfold dccpDeltaSeqno; omega

/-- The shifted u64 difference of `dccp_delta_seqno`, `before48` and `between48` is the
forward distance shifted into the top 48 bits. -/
theorem shiftedSub_eq (a b : Nat) :
    (b * 2 ^ 16 % 2 ^ 64 + 2 ^ 64 - a * 2 ^ 16 % 2 ^ 64) % 2 ^ 64 = dccpDeltaSeqno a b * 2 ^ 16 := by
  unfold dccpDeltaSeqno; omega

theorem before48_iff (a b : Nat) :
    before48 a b ↔ 0 < dccpDeltaSeqno a b ∧ dccpDeltaSeqno a b ≤ 2 ^ 47 := by
  rw [before48, shiftedSub_eq, decide_eq_true_eq, dccpDeltaSeqno_eq, dccpDeltaSeqno_eq]; omega

theorem after48_eq_before48 (a b : Nat) : after48 a b = before48 b a := rfl

/-- `between48` compares the distances from the interval's start. -/
theorem between48_iff (x lo hi : Nat) :
    between48 x lo hi ↔ dccpDeltaSeqno lo x ≤ dccpDeltaSeqno lo hi := by
  rw [between48, shiftedSub_eq, shiftedSub_eq, decide_eq_true_eq]; omega

/-- The forward distance is `(b - a) mod 2^48`. -/
theorem dccpDeltaSeqno_int (a b : Nat) :
    (dccpDeltaSeqno a b : Int) = ((b : Int) - a) % 2 ^ 48 := by
  rw [dccpDeltaSeqno_eq]; omega

@[simp] theorem int32_eq (x : Int) : int32 x = (x + 2 ^ 31) % 2 ^ 32 - 2 ^ 31 := rfl

theorem dccpDeltaSeqno_lt (a b : Nat) : dccpDeltaSeqno a b < 2 ^ 48 := by
  rw [dccpDeltaSeqno_eq]; omega

/-- The distance back is the complement of the distance forward. -/
theorem dccpDeltaSeqno_swap (a b : Nat) :
    dccpDeltaSeqno b a = (2 ^ 48 - dccpDeltaSeqno a b) % 2 ^ 48 := by
  simp only [dccpDeltaSeqno_eq]; omega

theorem dccpDeltaSeqno_self (a : Nat) : dccpDeltaSeqno a a = 0 := by
  rw [dccpDeltaSeqno_eq]; omega

theorem int32_of_lt {x : Nat} (h : x < 2 ^ 31) : int32 x = x := by
  rw [int32_eq]; omega

theorem int32_lt (x : Int) : int32 x < 2 ^ 31 := by rw [int32_eq]; omega

theorem int32_ge (x : Int) : -2 ^ 31 ≤ int32 x := by rw [int32_eq]; omega

theorem int32_le_self {n : Nat} (h : n < 2 ^ 32) : int32 n ≤ n := by rw [int32_eq]; omega

theorem int32_le_toU32 (x : Int) : int32 x ≤ toU32 (int32 x) := by
  unfold toU32; rw [int32_eq]; omega

/-- A distance read backwards: `b` a little before `a` narrows to minus the distance from `b`
to `a`. -/
theorem int32_dccpDeltaSeqno_of_lt (a b : Nat) (h0 : 0 < dccpDeltaSeqno b a)
    (h : dccpDeltaSeqno b a < 2 ^ 31) :
    int32 (dccpDeltaSeqno a b) = -(dccpDeltaSeqno b a : Int) := by
  rw [dccpDeltaSeqno_swap b a, int32_eq]; omega

section Origin

/-! Distances between `a` and `b` read off their distances from a common origin `o`. -/

variable (o a b : Nat)

theorem dccpDeltaSeqno_via :
    dccpDeltaSeqno a b = (dccpDeltaSeqno o b + 2 ^ 48 - dccpDeltaSeqno o a) % 2 ^ 48 := by
  simp only [dccpDeltaSeqno_eq]; omega

theorem dccpDeltaSeqno_via_le (h : dccpDeltaSeqno o a ≤ dccpDeltaSeqno o b) :
    dccpDeltaSeqno a b = dccpDeltaSeqno o b - dccpDeltaSeqno o a := by
  have := dccpDeltaSeqno_lt o b
  rw [dccpDeltaSeqno_via o]; omega

theorem mod_eq_of_dccpDeltaSeqno_eq (h : dccpDeltaSeqno o a = dccpDeltaSeqno o b) :
    a % 2 ^ 48 = b % 2 ^ 48 := by
  simp only [dccpDeltaSeqno_eq] at h; omega

theorem before48_via (ha : dccpDeltaSeqno o a < 2 ^ 47) (hb : dccpDeltaSeqno o b ≤ 2 ^ 47) :
    before48 a b ↔ dccpDeltaSeqno o a < dccpDeltaSeqno o b := by
  rw [before48_iff, dccpDeltaSeqno_via o]; omega

/-- `between48` read off the distances from an origin before the interval's start. -/
theorem between48_via (x lo hi : Nat) (h : dccpDeltaSeqno o lo ≤ dccpDeltaSeqno o hi) :
    between48 x lo hi ↔
      dccpDeltaSeqno o lo ≤ dccpDeltaSeqno o x ∧ dccpDeltaSeqno o x ≤ dccpDeltaSeqno o hi := by
  have := dccpDeltaSeqno_lt o x
  have := dccpDeltaSeqno_lt o hi
  rw [between48_iff, dccpDeltaSeqno_via o lo x, dccpDeltaSeqno_via o lo hi]
  omega

theorem sdist48_via (ha : dccpDeltaSeqno o a ≤ 2 ^ 47) (hb : 0 < dccpDeltaSeqno o b)
    (hb' : dccpDeltaSeqno o b ≤ 2 ^ 47) :
    sdist48 a b = (dccpDeltaSeqno o b : Int) - dccpDeltaSeqno o a := by
  unfold sdist48; rw [dccpDeltaSeqno_via o]; split_ifs <;> omega

end Origin

/-- Sequence numbers are told apart by their distances from any origin. -/
theorem fin_eq_iff_dccpDeltaSeqno (o : Nat) {a b : Fin (2 ^ 48)} :
    a = b ↔ dccpDeltaSeqno o a = dccpDeltaSeqno o b := by
  refine ⟨fun h => h ▸ rfl, fun h => Fin.ext ?_⟩
  have := mod_eq_of_dccpDeltaSeqno_eq o a b h
  omega

/-- The Rx history's `int` distances are exact up to 2^31 in either direction; there the
sign of the narrowed value is the circular order. -/
theorem int32_dccpDeltaSeqno (a b : Nat) (h : (sdist48 a b).natAbs < 2 ^ 31) :
    int32 (dccpDeltaSeqno a b) = sdist48 a b ∧
      int32 (-int32 (dccpDeltaSeqno a b)) = sdist48 b a ∧
      (0 < int32 (dccpDeltaSeqno a b) ↔ after48 b a) := by
  have := dccpDeltaSeqno_lt a b
  rw [after48_eq_before48, before48_iff]
  simp only [sdist48, dccpDeltaSeqno_swap a b, int32_eq] at h ⊢
  split_ifs at h ⊢ <;> omega

/-- At distance 2^31, well inside the 2^47 half circle, `d > 0` on the narrowed distance
says "not after" although `2^31` is after `0`. -/
theorem int32_dccpDeltaSeqno_flips :
    (sdist48 0 (2 ^ 31)).natAbs < 2 ^ 47 ∧ 0 < sdist48 0 (2 ^ 31) ∧ after48 (2 ^ 31) 0 ∧
      int32 (dccpDeltaSeqno 0 (2 ^ 31)) < 0 := by
  decide

/-- The 48-bit primitives agree: `dccp_delta_seqno` is the forward distance, `before48` and
`after48` hold at a forward distance in (0, 2^47], `between48` compares distances from the
start of the interval, and on a window narrower than 2^47 `before48` is a strict total
order. -/
theorem seq48_primitives_agree :
    (∀ a b : Fin (2 ^ 48), (dccpDeltaSeqno a b : Int) = ((b : Int) - a) % 2 ^ 48) ∧
      (∀ a b : Fin (2 ^ 48),
        (before48 a b ↔ 0 < dccpDeltaSeqno a b ∧ dccpDeltaSeqno a b ≤ 2 ^ 47) ∧
          (after48 b a ↔ 0 < dccpDeltaSeqno a b ∧ dccpDeltaSeqno a b ≤ 2 ^ 47)) ∧
      (∀ x lo hi : Fin (2 ^ 48),
        between48 x lo hi ↔ dccpDeltaSeqno lo x ≤ dccpDeltaSeqno lo hi) ∧
      ∀ (S : Set (Fin (2 ^ 48))) (lo : Fin (2 ^ 48)), (∀ s ∈ S, dccpDeltaSeqno lo s < 2 ^ 47) →
        (∀ a ∈ S, ¬before48 a a) ∧
        (∀ a ∈ S, ∀ b ∈ S, ∀ c ∈ S, before48 a b → before48 b c → before48 a c) ∧
        ∀ a ∈ S, ∀ b ∈ S, (before48 a b ∨ a = b ∨ before48 b a) ∧
          ¬(before48 a b ∧ a = b) ∧ ¬(before48 a b ∧ before48 b a) ∧ ¬(a = b ∧ before48 b a) := by
  refine ⟨fun a b => dccpDeltaSeqno_int a b,
    fun a b => ⟨before48_iff a b, by rw [after48_eq_before48]; exact before48_iff a b⟩,
    fun x lo hi => between48_iff x lo hi, fun S lo hS => ?_⟩
  -- inside the window, `before48` is `<` on the distances from `lo`
  have hlt : ∀ a ∈ S, ∀ b ∈ S, before48 a b ↔ dccpDeltaSeqno lo a < dccpDeltaSeqno lo b :=
    fun a ha b hb => before48_via _ _ _ (hS a ha) (Nat.le_of_lt (hS b hb))
  refine ⟨fun a ha => ?_, fun a ha b hb c hc => ?_, fun a ha b hb => ?_⟩
  · rw [hlt a ha a ha]; omega
  · rw [hlt a ha b hb, hlt b hb c hc, hlt a ha c hc]; omega
  · rw [hlt a ha b hb, hlt b hb a ha, fin_eq_iff_dccpDeltaSeqno lo]; omega

/-- A window across the wrap: 2^48 - 5, 0 and 2^46, all within 2^46 + 5 of 2^48 - 5. -/
theorem seq48_primitives_agree_wrap :
    (∀ s ∈ ({281474976710651, 0, 70368744177664} : Set (Fin (2 ^ 48))),
        dccpDeltaSeqno (281474976710651 : Fin (2 ^ 48)) s < 2 ^ 47) ∧
      (∀ a ∈ ({281474976710651, 0, 70368744177664} : Set (Fin (2 ^ 48))), ¬before48 a a) ∧
      (∀ a ∈ ({281474976710651, 0, 70368744177664} : Set (Fin (2 ^ 48))),
        ∀ b ∈ ({281474976710651, 0, 70368744177664} : Set (Fin (2 ^ 48))),
        ∀ c ∈ ({281474976710651, 0, 70368744177664} : Set (Fin (2 ^ 48))),
        before48 a b → before48 b c → before48 a c) ∧
      ∀ a ∈ ({281474976710651, 0, 70368744177664} : Set (Fin (2 ^ 48))),
        ∀ b ∈ ({281474976710651, 0, 70368744177664} : Set (Fin (2 ^ 48))),
        (before48 a b ∨ a = b ∨ before48 b a) ∧
          ¬(before48 a b ∧ a = b) ∧ ¬(before48 a b ∧ before48 b a) ∧ ¬(a = b ∧ before48 b a) :=
  have hS : ∀ s ∈ ({281474976710651, 0, 70368744177664} : Set (Fin (2 ^ 48))),
      dccpDeltaSeqno (281474976710651 : Fin (2 ^ 48)) s < 2 ^ 47 := by
    rintro s (rfl | rfl | rfl) <;> decide
  ⟨hS, seq48_primitives_agree.2.2.2 _ _ hS⟩

end DccpTfrc
