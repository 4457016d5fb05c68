import Mathlib.Algebra.Group.Nat.Defs
import Mathlib.Data.List.Basic
import MoquiLint.Proofs.Utf8
import MoquiLint.Text.Edit

/-!
# The order of bytes

Strings are compared character by character. Their bytes are in the same order, as the code of a character
is written in base 64 and characters with more bytes have the greater first byte.
-/
namespace MoquiLint

theorem byte_cons_lt {a b : Nat} (h : a < b) (hb : b < 256) (x y : Bytes) :
    UInt8.ofNat a :: x < UInt8.ofNat b :: y := by
  have hs : UInt8.size = 256 := rfl
  rw [List.cons_lt_cons_iff]
  exact .inl ((UInt8.ofNat_lt_iff_lt (by omega) (by omega)).mpr h)

theorem div_lt_or_mod_lt {m n : Nat} (h : m < n) (b : Nat) :
    m / b < n / b ∨ m / b = n / b ∧ m % b < n % b := by
  rcases Nat.lt_or_eq_of_le (Nat.div_le_div_right (c := b) (Nat.le_of_lt h)) with hq | hq
  · exact .inl hq
  · have hm := Nat.div_add_mod m b
    have hn := Nat.div_add_mod n b
    rw [hq] at hm
    exact .inr ⟨hq, by omega⟩

/-- The lowest digits of a code in base 64, as the bytes that follow the first one. -/
def continuation : Nat → Nat → Bytes
  | 0, _ => []
  | k + 1, v => UInt8.ofNat (v / 64 ^ k % 64 + 128) :: continuation k v

theorem continuation_lt {m n k : Nat} (h : m % 64 ^ k < n % 64 ^ k) (x y : Bytes) :
    continuation k m ++ x < continuation k n ++ y := by
  induction k with
  | zero => simp [Nat.mod_one] at h
  | succ k ih =>
    rw [Nat.pow_succ] at h
    have hd := div_lt_or_mod_lt h (64 ^ k)
    simp only [Nat.mod_mul_right_div_self, Nat.mod_mul_right_mod] at hd
    rw [continuation, continuation, List.cons_append, List.cons_append]
    rcases hd with hd | ⟨hd, hr⟩
    · exact byte_cons_lt (by omega) (by omega) _ _
    · rw [hd]
      exact List.cons_lt_cons_self.mpr (ih hr)

theorem lead_lt {m n k lead : Nat} (h : m < n) (hn : n / 64 ^ k + lead < 256) (x y : Bytes) :
    UInt8.ofNat (m / 64 ^ k + lead) :: (continuation k m ++ x) <
      UInt8.ofNat (n / 64 ^ k + lead) :: (continuation k n ++ y) := by
  rcases div_lt_or_mod_lt h (64 ^ k) with hd | ⟨hd, hr⟩
  · exact byte_cons_lt (by omega) hn _ _
  · rw [hd]
    exact List.cons_lt_cons_self.mpr (continuation_lt hr x y)

/-- The code of a character decides about its bytes. -/
theorem utf8EncodeChar_eq (c : Char) : String.utf8EncodeChar c =
    let v := c.val.toNat
    if v ≤ 127 then [UInt8.ofNat v]
    else if v ≤ 2047 then UInt8.ofNat (v / 64 ^ 1 + 192) :: continuation 1 v
    else if v ≤ 65535 then UInt8.ofNat (v / 64 ^ 2 + 224) :: continuation 2 v
    else UInt8.ofNat (v / 64 ^ 3 + 240) :: continuation 3 v := by
  have hd : c.val.toNat < 2097152 := by
    rcases (c.valid : Nat.isValidChar c.val.toNat) with hd | ⟨-, hd⟩ <;> omega
  unfold String.utf8EncodeChar
  generalize c.val.toNat = v at *
  simp only [continuation]
  split_ifs
  · rfl
  · rw [Nat.mod_eq_of_lt (a := v / 64) (by omega)]
    simp
  · rw [Nat.mod_eq_of_lt (a := v / 4096) (by omega)]
    simp
  · rw [Nat.mod_eq_of_lt (a := v / 262144) (by omega)]
    simp

theorem encodeChar_append_lt {c d : Char} (h : c < d) (x y : Bytes) :
    String.utf8EncodeChar c ++ x < String.utf8EncodeChar d ++ y := by
  have hv : c.val.toNat < d.val.toNat := h
  have hd : d.val.toNat < 2097152 := by
    rcases (d.valid : Nat.isValidChar d.val.toNat) with hd | ⟨-, hd⟩ <;> omega
  rw [utf8EncodeChar_eq, utf8EncodeChar_eq]
  generalize c.val.toNat = m at *
  generalize d.val.toNat = n at *
  simp only
  split_ifs
  -- more bytes do not go with a smaller code
  any_goals omega
  · exact byte_cons_lt hv (by omega) _ _
  · exact byte_cons_lt (by omega) (by omega) _ _
  · exact byte_cons_lt (by omega) (by omega) _ _
  · exact byte_cons_lt (by omega) (by omega) _ _
  · exact lead_lt hv (by omega) x y
  · exact byte_cons_lt (by omega) (by omega) _ _
  · exact byte_cons_lt (by omega) (by omega) _ _
  · exact lead_lt hv (by omega) x y
  · exact byte_cons_lt (by omega) (by omega) _ _
  · exact lead_lt hv (by omega) x y

theorem utf8_lt_utf8 {s t : String} (h : s < t) : utf8 s < utf8 t := by
  rw [String.lt_iff] at h
  rw [utf8_eq_flatMap, utf8_eq_flatMap]
  generalize s.toList = cs at *
  generalize t.toList = ds at *
  induction cs generalizing ds with
  | nil =>
    cases ds with
    | nil => exact absurd h (List.lt_irrefl [])
    | cons d ds =>
      cases hd : String.utf8EncodeChar d with
      | nil => exact absurd hd String.utf8EncodeChar_ne_nil
      | cons b bs => simp [hd]
  | cons c cs ih =>
    cases ds with
    | nil => exact absurd h (List.not_lt_nil _)
    | cons d ds =>
      rcases List.cons_lt_cons_iff.mp h with hc | ⟨rfl, hr⟩
      · exact encodeChar_append_lt hc _ _
      · exact List.append_left_lt (ih ds hr)

/-! ### Sorting by names -/

theorem Str.le_eq_true_iff {s t : String} : Str.le s t = true ↔ s ≤ t := by
  rw [Str.le, Bool.not_eq_true', decide_eq_false_iff_not, String.not_lt]

section
variable {α : Type} (key : α → String)

theorem pairwise_le_mergeSort_key (xs : List α) :
    (xs.mergeSort fun a b => Str.le (key a) (key b)).Pairwise fun a b => key a ≤ key b := by
  have htrans : ∀ a b c : α, Str.le (key a) (key b) → Str.le (key b) (key c) → Str.le (key a) (key c) := by
    simp only [Str.le_eq_true_iff]
    exact fun a b c => String.le_trans
  have htotal : ∀ a b : α, (Str.le (key a) (key b) || Str.le (key b) (key a)) = true := by
    simp only [Bool.or_eq_true, Str.le_eq_true_iff]
    exact fun a b => String.le_total _ _
  exact (List.pairwise_mergeSort htrans htotal xs).imp Str.le_eq_true_iff.mp

theorem pairwise_lt_mergeSort_key {xs : List α} (h : (xs.map key).Nodup) :
    (xs.mergeSort fun a b => Str.le (key a) (key b)).Pairwise fun a b => key a < key b := by
  have hne : (xs.mergeSort fun a b => Str.le (key a) (key b)).Pairwise fun a b => key a ≠ key b := by
    rw [← List.pairwise_map, ← List.Nodup]
    exact ((List.mergeSort_perm _ _).map key).nodup_iff.mpr h
  refine ((pairwise_le_mergeSort_key key xs).and hne).imp fun {a b} hab => ?_
  by_contra hlt
  exact hab.2 (String.le_antisymm hab.1 (String.not_lt.mp hlt))

end

end MoquiLint
