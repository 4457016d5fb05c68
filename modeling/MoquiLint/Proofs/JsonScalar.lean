import Mathlib.Data.List.Basic
import MoquiLint.Json.Printer
import MoquiLint.Json.Reader
import MoquiLint.Proofs.Utf8

/-!
# Strings and numbers in JSON text

Escaped strings and decimal integers are read back. The statements are on the rest of the text.
-/
namespace MoquiLint.Json
open Text.Quoted (hex hexDigit)

/-! ### Strings -/

theorem hexValue?_hexDigit (n : Nat) : hexValue? (hexDigit n) = some (n % 16) := by
  have table : ∀ n < 16, hexValue? (hexDigit n) = some n := by decide
  have h := table (n % 16) (Nat.mod_lt n (by decide))
  simpa [hexDigit] using h

theorem hexUnit?_hex {n : Nat} (h : n < 65536) (s : List Char) :
    hexUnit? (hex 4 n ++ s) = some (n, s) := by
  have hs : n / 16 / 16 / 16 % 16 * 4096 + n / 16 / 16 % 16 * 256 + n / 16 % 16 * 16 + n % 16 = n := by
    omega
  simp [hex, hexUnit?, hexValue?_hexDigit, hs]

/-- A code point of the first plane that is half of no surrogate pair stands for itself. -/
theorem unicodeEscape?_hex {n : Nat} (h : n < 65536) (hn : n < 0xD800 ∨ 0xE000 ≤ n) (s : List Char) :
    unicodeEscape? (hex 4 n ++ s) = some (Char.ofNat n, s) := by
  have hp : ∀ m, surrogatePair? n m = none := by
    intro m
    simp only [surrogatePair?, Bool.and_eq_true, decide_eq_true_eq, ite_eq_right_iff]
    omega
  have hu : unitChar n = Char.ofNat n := by
    simp only [unitChar, Bool.and_eq_true, decide_eq_true_eq, ite_eq_right_iff]
    omega
  simp only [unicodeEscape?, hexUnit?_hex h, Option.bind_eq_bind, Option.bind_some]
  split
  · split
    · simp [hp, hu]
    · simp [hu]
  · simp [hu]

theorem stringBody_hex {n : Nat} (h : n < 65536) (hn : n < 0xD800 ∨ 0xE000 ≤ n) (fuel : Nat)
    (s : List Char) :
    stringBody (fuel + 1) ('\\' :: 'u' :: (hex 4 n ++ s)) =
      (stringBody fuel s).map fun r => (Char.ofNat n :: r.1, r.2) := by
  rw [stringBody, unicodeEscape?_hex h hn]
  cases hs : stringBody fuel s <;> simp [hs]

theorem stringBody_escapeChar (c : Char) (fuel : Nat) (s : List Char) :
    stringBody (fuel + 1) (escapeChar c ++ s) = (stringBody fuel s).map fun r => (c :: r.1, r.2) := by
  unfold escapeChar
  split
  case h_8 hq hb _ _ _ _ _ =>
    split
    · rename_i hc
      have hn : c.toNat < 32 ∨ c.toNat = 60 ∨ c.toNat = 62 ∨ c.toNat = 38 ∨ c.toNat = 0x2028 ∨
          c.toNat = 0x2029 := by
        simp only [Bool.or_eq_true, decide_eq_true_eq, beq_iff_eq] at hc
        rcases hc with ((((hc | rfl) | rfl) | rfl) | rfl) | rfl
        · exact .inl hc
        all_goals decide
      simpa using stringBody_hex (n := c.toNat) (by omega) (by omega) fuel s
    · rename_i hc
      simp only [Bool.or_eq_true, decide_eq_true_eq, beq_iff_eq, not_or] at hc
      have hl := hc.1.1.1.1.1
      have hb : c ≠ '\\' := hb
      simp only [List.cons_append, List.nil_append]
      rw [stringBody]
      · cases stringBody fuel s <;> simp [hb, hl]
      all_goals grind
  all_goals
    simp only [List.cons_append, List.nil_append]
    rw [stringBody] <;> simp [simpleEscape?]
    cases stringBody fuel s <;> rfl

theorem stringBody_escapeSymbol (a : Symbol) (fuel : Nat) (s : List Char) :
    stringBody (fuel + 1) (escapeSymbol a ++ s) = (stringBody fuel s).map fun r => (a.code :: r.1, r.2) := by
  cases a with
  | char c => exact stringBody_escapeChar c fuel s
  | stray b => exact stringBody_hex (n := 0xFFFD) (by decide) (by decide) fuel s

theorem stringBody_quoted (t : Text) (s : List Char) (fuel : Nat) (h : t.length < fuel) :
    stringBody fuel (t.flatMap escapeSymbol ++ '"' :: s) = some (Text.codes t, s) := by
  induction t generalizing fuel with
  | nil =>
    obtain ⟨fuel, rfl⟩ := Nat.exists_eq_succ_of_ne_zero (Nat.ne_zero_of_lt h)
    simp [stringBody, Text.codes]
  | cons a t ih =>
    obtain ⟨fuel, rfl⟩ := Nat.exists_eq_succ_of_ne_zero (Nat.ne_zero_of_lt h)
    have hf : t.length < fuel := by
      simp only [List.length_cons] at h
      omega
    rw [List.flatMap_cons, List.append_assoc, stringBody_escapeSymbol, ih fuel hf]
    rfl

theorem length_le_length_quoted (t : Text) : t.length ≤ (t.flatMap escapeSymbol).length := by
  induction t with
  | nil => simp
  | cons a t ih =>
    have ha : 0 < (escapeSymbol a).length := by
      cases a with
      | char c =>
        simp only [escapeSymbol, escapeChar]
        split
        case h_8 => split <;> simp
        all_goals simp
      | stray b => simp [escapeSymbol]
    simp only [List.flatMap_cons, List.length_append, List.length_cons]
    omega

/-- A string is read back up to its closing quote; a stray byte reads as the replacement character. -/
theorem stringBody_tail (t : Text) (s : List Char) :
    stringBody ((t.flatMap escapeSymbol ++ '"' :: s).length + 1) (t.flatMap escapeSymbol ++ '"' :: s) =
      some (Text.codes t, s) := by
  have h := length_le_length_quoted t
  refine stringBody_quoted t s _ ?_
  simp only [List.length_append, List.length_cons]
  omega

/-! ### Numbers -/

def EndsNumber (s : List Char) : Prop :=
  ∀ c ∈ s.head?, c.isDigit = false ∧ c ≠ '.' ∧ c ≠ 'e' ∧ c ≠ 'E'

theorem spanDigits_append {ds : List Char} (hd : ∀ d ∈ ds, d.isDigit = true) {s : List Char}
    (hs : EndsNumber s) : spanDigits (ds ++ s) = (ds, s) := by
  have hn : s.takeWhile Char.isDigit = [] ∧ s.dropWhile Char.isDigit = s := by
    cases s with
    | nil => simp
    | cons c s => simp [(hs c rfl).1]
  simp [spanDigits, List.takeWhile_append_of_pos hd, List.dropWhile_append_of_pos hd, hn]

theorem fraction?_none {s : List Char} (hs : EndsNumber s) : fraction? s = some ([], s) := by
  cases s with
  | nil => rfl
  | cons c s =>
    have hc := (hs c rfl).2.1
    simp [fraction?, hc]

theorem exponent?_none {s : List Char} (hs : EndsNumber s) : exponent? s = some ([], s) := by
  cases s with
  | nil => rfl
  | cons c s =>
    have hc := (hs c rfl).2.2
    simp [exponent?, hc]

/-- Only the number zero is written with a zero in front. -/
theorem toDigits_eq_zero_cons {n : Nat} {ds : List Char} (h : Nat.toDigits 10 n = '0' :: ds) : n = 0 := by
  induction n using Nat.base_induction 10 (by decide) generalizing ds with
  | single m hm =>
    rw [Nat.toDigits_of_lt_base hm] at h
    simpa using (List.cons.inj h).1
  | digit m k hk hm ih =>
    rw [← Nat.toDigits_append_toDigits (by decide) hm hk] at h
    obtain ⟨d, more, hd⟩ := List.exists_cons_of_ne_nil (Nat.toDigits_ne_nil : Nat.toDigits 10 m ≠ [])
    rw [hd, List.cons_append, List.cons.injEq] at h
    rw [h.1] at hd
    have := ih hd
    omega

theorem unsigned?_digits (negative : Bool) (n : Nat) {s : List Char} (hs : EndsNumber s) :
    unsigned? negative (Nat.toDigits 10 n ++ s) = some (.int (if negative then -n else n), s) := by
  have hd : ∀ d ∈ Nat.toDigits 10 n, d.isDigit = true := fun d hd =>
    Nat.isDigit_of_mem_toDigits (by decide) (by decide) hd
  have hv : digitsValue (Nat.toDigits 10 n) = n := Nat.ofDigitChars_ten_toDigits
  have hne : Nat.toDigits 10 n ≠ [] := Nat.toDigits_ne_nil
  unfold unsigned?
  split
  rename_i ds rest heq
  have hr : ds = Nat.toDigits 10 n ∧ rest = s := by
    split at heq
    · rename_i t ht
      obtain ⟨d, more, hm⟩ := List.exists_cons_of_ne_nil hne
      rw [hm, List.cons_append, List.cons.injEq] at ht
      rw [ht.1] at hm
      obtain rfl := toDigits_eq_zero_cons hm
      rw [Nat.toDigits_zero, List.cons.injEq] at hm
      obtain ⟨rfl, rfl⟩ := Prod.mk.inj heq
      exact ⟨(Nat.toDigits_zero 10).symm, by rw [← ht.2, ← hm.2, List.nil_append]⟩
    · rw [spanDigits_append hd hs] at heq
      obtain ⟨rfl, rfl⟩ := Prod.mk.inj heq
      exact ⟨rfl, rfl⟩
  obtain ⟨rfl, rfl⟩ := hr
  simp [hne, fraction?_none hs, exponent?_none hs, hv]

/-- An integer is written as its digits, behind a sign if it is negative. -/
theorem toList_int (n : Int) :
    (toString n).toList = if 0 ≤ n then Nat.toDigits 10 n.toNat else '-' :: Nat.toDigits 10 (-n).toNat := by
  rw [Int.toString_eq_repr, Int.repr_eq_if]
  split <;> simp

theorem number?_int (n : Int) {s : List Char} (hs : EndsNumber s) :
    number? ((toString n).toList ++ s) = some (.int n, s) := by
  rw [toList_int]
  split
  · rename_i hn
    have hu := unsigned?_digits false n.toNat hs
    have hi : (n.toNat : Int) = n := Int.toNat_of_nonneg hn
    simp only [Bool.false_eq_true, ↓reduceIte, hi] at hu
    unfold number?
    split
    · rename_i t ht
      obtain ⟨d, ds, hd⟩ := List.exists_cons_of_ne_nil (Nat.toDigits_ne_nil : Nat.toDigits 10 n.toNat ≠ [])
      rw [hd, List.cons_append, List.cons.injEq] at ht
      have hc := Nat.isDigit_of_mem_toDigits (by decide) (by decide) (hd ▸ List.mem_cons_self)
      rw [ht.1] at hc
      cases hc
    · exact hu
  · have hi : -((-n).toNat : Int) = n := by omega
    rw [List.cons_append, number?, unsigned?_digits true _ hs, if_pos rfl, hi]

end MoquiLint.Json
