import MoquiLint.Proofs.ByteOrder
import MoquiLint.Proofs.TokenLines

/-!
# Newlines in bytes

Encoding a text that was decoded gives back its bytes. A line break is written as one newline byte, and no other
character has that byte in it, so that bytes read in any character set have no more line breaks than newline bytes.
-/
namespace MoquiLint

def newlines (bs : Bytes) : Nat := bs.count 10

theorem newlines_append (x y : Bytes) : newlines (x ++ y) = newlines x + newlines y := List.count_append

theorem newlines_drop_le (n : Nat) (bs : Bytes) : newlines (bs.drop n) ≤ newlines bs :=
  (List.drop_sublist n bs).count_le 10

theorem newlines_cons_of_ne {b : UInt8} (h : b ≠ 10) (bs : Bytes) : newlines (b :: bs) = newlines bs :=
  List.count_cons_of_ne h

/-! ### Bytes of characters -/

theorem toNat_newline : UInt8.toNat 10 = 10 := rfl

theorem ofNat_eq_newline_iff {n : Nat} (h : n < 256) : UInt8.ofNat n = 10 ↔ n = 10 := by
  rw [← UInt8.toNat_inj, UInt8.toNat_ofNat_of_lt' h, toNat_newline]

theorem newlines_cons_continuation {n : Nat} (h : 128 ≤ n) (hn : n < 256) (k v : Nat) :
    newlines (UInt8.ofNat n :: continuation k v) = 0 := by
  have hfirst : ∀ {n : Nat}, 128 ≤ n → n < 256 → UInt8.ofNat n ≠ 10 := fun h hn he => by
    have := (ofNat_eq_newline_iff hn).mp he
    omega
  induction k generalizing n with
  | zero => exact newlines_cons_of_ne (hfirst h hn) []
  | succ k ih =>
    rw [newlines_cons_of_ne (hfirst h hn)]
    exact ih (by omega) (by omega)

/-- The newline byte stands for the line break and is in no other character. -/
theorem newlines_encodeChar (c : Char) : newlines (String.utf8EncodeChar c) = if c = '\n' then 1 else 0 := by
  have hd : c.val.toNat < 2097152 := by
    rcases (c.valid : Nat.isValidChar c.val.toNat) with hd | ⟨-, hd⟩ <;> omega
  have hc : c = '\n' ↔ c.val.toNat = 10 := by
    refine ⟨fun h => by rw [h]; rfl, fun h => Char.ext (UInt32.toNat_inj.mp h)⟩
  rw [utf8EncodeChar_eq, if_congr hc rfl rfl]
  generalize c.val.toNat = v at hd
  by_cases hv : v ≤ 127
  · simp only [hv, if_true]
    split_ifs with h
    · rw [h]
      rfl
    · exact newlines_cons_of_ne (mt (ofNat_eq_newline_iff (by omega)).mp h) []
  · have h : v ≠ 10 := by omega
    simp only [hv, h, if_false]
    split_ifs
    · exact newlines_cons_continuation (by omega) (by omega) 1 v
    · exact newlines_cons_continuation (by omega) (by omega) 2 v
    · exact newlines_cons_continuation (by omega) (by omega) 3 v

namespace Text

theorem cons_of_headChar? {b : UInt8} {bs : Bytes} {c : Char} (h : headChar? (b :: bs) = some c) :
    b :: bs = String.utf8EncodeChar c ++ bs.drop (c.utf8Size - 1) := by
  have hwritten := String.toByteArray_utf8EncodeChar_of_utf8DecodeChar?_eq_some h
  have hdata : String.utf8EncodeChar c = ((b :: bs).take 4).take c.utf8Size := by
    simpa using congrArg (fun x : ByteArray => x.data.toList) hwritten
  rw [List.take_take, Nat.min_eq_left c.utf8Size_le_four] at hdata
  have hsize : c.utf8Size = c.utf8Size - 1 + 1 := by
    have := c.utf8Size_pos
    omega
  rw [hdata, hsize, List.take_succ_cons, Nat.add_sub_cancel, List.cons_append, List.take_append_drop]

theorem encode_cons (s : Symbol) (t : Text) : encode (s :: t) = s.bytes ++ encode t := List.flatMap_cons

theorem encode_append (s t : Text) : encode (s ++ t) = encode s ++ encode t := List.flatMap_append

/-- Nothing is lost when bytes are read as text. -/
theorem encode_decode (bs : Bytes) : encode (decode bs) = bs := by
  fun_induction decode bs with
  | case1 => rfl
  | case2 b bs c hc ih =>
    rw [encode_cons, ih]
    exact (cons_of_headChar? hc).symm
  | case3 b bs hc ih =>
    rw [encode_cons, ih]
    rfl

end Text

namespace Markup
open Text (encode encode_cons encode_append)

theorem newlines_encode_char (c : Char) (t : Text) :
    newlines (encode (.char c :: t)) = (if c = '\n' then 1 else 0) + newlines (encode t) := by
  rw [encode_cons, newlines_append]
  exact congrArg (· + _) (newlines_encodeChar c)

theorem newlines_encode_char_of_ne {c : Char} (h : c ≠ '\n') (t : Text) :
    newlines (encode (.char c :: t)) = newlines (encode t) := by
  rw [newlines_encode_char, if_neg h, Nat.zero_add]

theorem lineBreaks_le_newlines (t : Text) : lineBreaks t ≤ newlines (encode t) := by
  induction t with
  | nil => exact Nat.le_refl _
  | cons s t ih =>
    by_cases hs : s = .char '\n'
    · rw [hs, newlines_encode_char, if_pos rfl, lineBreaks, List.count_cons_self, Nat.add_comm]
      exact Nat.add_le_add_left ih 1
    · rw [lineBreaks_cons_of_ne hs, encode_cons, newlines_append]
      exact Nat.le_add_left_of_le ih

/-- A text that holds no newline byte outside its characters has one newline byte for each line break. -/
theorem newlines_encode_eq {t : Text} (h : .stray 10 ∉ t) : newlines (encode t) = lineBreaks t := by
  induction t with
  | nil => rfl
  | cons s t ih =>
    obtain ⟨hs, ht⟩ := not_or.mp (mt List.mem_cons.mpr h)
    rw [encode_cons, newlines_append, ih ht, ← List.singleton_append (l := t), lineBreaks_append]
    congr 1
    cases s with
    | char c =>
      rw [Symbol.bytes, newlines_encodeChar, lineBreaks, List.count_singleton]
      simp
    | stray b =>
      have hb : b ≠ 10 := fun hb => hs (hb ▸ rfl)
      rw [Symbol.bytes, newlines_cons_of_ne hb, lineBreaks_cons_of_ne (by simp)]
      rfl

/-- A newline byte is always read as a line break. -/
theorem stray_notMem_decode (bs : Bytes) : .stray 10 ∉ Text.decode bs := by
  fun_induction Text.decode bs with
  | case1 => exact List.not_mem_nil
  | case2 b bs c _ ih => exact List.not_mem_cons_of_ne_of_not_mem (by simp) ih
  | case3 b bs hb ih =>
    refine List.not_mem_cons_of_ne_of_not_mem (fun he => ?_) ih
    have hnewline : b = 10 := (Symbol.stray.inj he).symm
    rw [hnewline] at hb
    cases hb.symm.trans (Text.headChar?_encode '\n' bs)

/-! ### Character sets -/

theorem ofNat_eq_newline {n : Nat} (h : Char.ofNat n = '\n') : n = 10 := by
  by_cases hn : n.isValidChar
  · rw [Char.ofNat, dif_pos hn] at h
    exact congrArg Char.toNat h
  · rw [Char.ofNat, dif_neg hn] at h
    cases h

/-- A character that is read from one byte or unit adds a newline byte only where it took one. -/
theorem newlines_encode_char_le {α : Type} [BEq α] [LawfulBEq α] {a b : α} {bs : List α} {c : Char} {t : Text}
    (hc : c = '\n' → b = a) (ht : newlines (encode t) ≤ bs.count a) :
    newlines (encode (.char c :: t)) ≤ (b :: bs).count a := by
  by_cases h : c = '\n'
  · rw [newlines_encode_char, if_pos h, hc h, List.count_cons_self, Nat.add_comm]
    exact Nat.add_le_add_right ht 1
  · rw [newlines_encode_char_of_ne h]
    exact Nat.le_trans ht ((List.sublist_cons_self b bs).count_le a)

theorem newlines_decodeUtf8_le (bs : Bytes) : newlines (encode (Charset.decodeUtf8 bs)) ≤ newlines bs := by
  fun_induction Charset.decodeUtf8 bs with
  | case1 => exact Nat.le_refl _
  | case2 b bs c hc ih =>
    rw [Text.cons_of_headChar? hc, encode_cons, newlines_append, newlines_append]
    exact Nat.add_le_add_left ih _
  | case3 b bs hc ih =>
    rw [newlines_encode_char_of_ne (by decide)]
    exact Nat.le_trans ih (newlines_drop_le (Charset.brokenTail (b :: bs) + 1) (b :: bs))

theorem one_le_newlines_pair {bigEndian : Bool} {a b : UInt8}
    (h : (if bigEndian then a.toNat * 256 + b.toNat else b.toNat * 256 + a.toNat) = 10) : 1 ≤ newlines [a, b] := by
  refine List.count_pos_iff.mpr ?_
  cases bigEndian with
  | true =>
    have hb : b = 10 := UInt8.toNat_inj.mp (by rw [toNat_newline]; simp only [if_true] at h; omega)
    exact hb ▸ List.mem_cons_of_mem a List.mem_cons_self
  | false =>
    have ha : a = 10 := UInt8.toNat_inj.mp (by rw [toNat_newline]; simp only [Bool.false_eq_true, if_false] at h; omega)
    exact ha ▸ List.mem_cons_self

/-- A unit of sixteen bits stands for a line break only if one of its bytes is a newline byte. -/
theorem count_units_le (bigEndian : Bool) (bs : Bytes) :
    (Charset.units bigEndian bs).count (some 10) ≤ newlines bs := by
  fun_induction Charset.units bigEndian bs with
  | case1 => exact Nat.le_refl _
  | case2 => exact Nat.zero_le _
  | case3 a b rest ih =>
    have hsplit : newlines (a :: b :: rest) = newlines [a, b] + newlines rest := newlines_append [a, b] rest
    rw [hsplit, List.count_cons, Nat.add_comm]
    refine Nat.add_le_add ?_ ih
    by_cases hunit : (if bigEndian then a.toNat * 256 + b.toNat else b.toNat * 256 + a.toNat) = 10
    · rw [hunit, if_pos (beq_self_eq_true _)]
      exact one_le_newlines_pair hunit
    · rw [if_neg fun h => hunit (Option.some.inj (eq_of_beq h))]
      exact Nat.zero_le _

theorem newlines_decodeUnits_le (us : List (Option Nat)) :
    newlines (encode (Charset.decodeUnits us)) ≤ us.count (some 10) := by
  have hlost : Symbol.replacement = '\n' → ∀ u : Option Nat, u = some 10 := fun h => absurd h (by decide)
  have hunit : ∀ n, Char.ofNat n = '\n' → some n = some 10 := fun n h => congrArg some (ofNat_eq_newline h)
  fun_induction Charset.decodeUnits us with
  | case1 => exact Nat.le_refl _
  | case2 rest ih => exact newlines_encode_char_le (fun h => hlost h _) ih
  | case3 n =>
    refine newlines_encode_char_le (fun h => ?_) (Nat.le_refl _)
    split_ifs at h
    · exact hlost h _
    · exact hunit n h
  | case4 n next rest hn hnext ih =>
    have hpair : Charset.pairChar n (next.getD 0) ≠ '\n' := by
      unfold Charset.pairChar
      split_ifs
      · intro h
        have := ofNat_eq_newline h
        omega
      · decide
    refine newlines_encode_char_le (fun h => absurd h hpair) (Nat.le_trans ih ?_)
    exact (List.sublist_cons_self next rest).count_le _
  | case5 n next rest hn hnext ih => exact newlines_encode_char_le (fun h => hlost h _) ih
  | case6 n next rest hn ih => exact newlines_encode_char_le (hunit n) ih

theorem codePageChar_eq_newline {high : List Char} (h : '\n' ∉ high) {b : UInt8}
    (hb : Charset.codePageChar high b = '\n') : b = 10 := by
  unfold Charset.codePageChar at hb
  split_ifs at hb
  · exact UInt8.toNat_inj.mp (ofNat_eq_newline hb)
  · rw [List.getD_eq_getElem?_getD] at hb
    cases hg : high[b.toNat - 0x80]? with
    | none =>
      rw [hg] at hb
      exact absurd hb (by decide)
    | some c =>
      rw [hg] at hb
      exact absurd (hb ▸ List.mem_of_getElem? hg) h

theorem newlines_map_codePageChar_le {high : List Char} (h : '\n' ∉ high) (bs : Bytes) :
    newlines (encode (bs.map fun b => .char (Charset.codePageChar high b))) ≤ newlines bs := by
  induction bs with
  | nil => exact Nat.le_refl _
  | cons b bs ih => exact newlines_encode_char_le (codePageChar_eq_newline h) ih

/-! ### Tables of character sets -/

theorem newline_notMem_ofList {s : String} (cs : List Char) (hs : String.ofList cs = s)
    (h : cs.contains '\n' = false) : '\n' ∉ s.toList := by
  rw [← hs, String.toList_ofList]
  simpa using h

theorem newline_notMem_append {s t : String} (hs : '\n' ∉ s.toList) (ht : '\n' ∉ t.toList) :
    '\n' ∉ (s ++ t).toList := by
  rw [String.toList_append]
  exact fun h => (List.mem_append.mp h).elim hs ht

open CodePage in
set_option maxRecDepth 2000 in
theorem newline_notMem_all : ∀ p ∈ CodePage.all, '\n' ∉ p.2 := by
  have hunused : '\n' ∉ CodePage.unused := by decide
  have hcontrols : '\n' ∉ CodePage.controls := by decide
  unfold CodePage.all
  repeat' refine List.forall_mem_cons.mpr ⟨?_, ?_⟩
  case refine_2 => exact List.forall_mem_nil _
  -- a table is put together from string literals, behind its first 32 characters or alone
  all_goals first
    | unfold ibm866 | unfold iso88592 | unfold iso88593 | unfold iso88594 | unfold iso88595 | unfold iso88596
    | unfold iso88597 | unfold iso88598 | unfold iso885910 | unfold iso885913 | unfold iso885914 | unfold iso885915
    | unfold iso885916 | unfold koi8R | unfold koi8U | unfold macintosh | unfold windows874 | unfold windows1250
    | unfold windows1251 | unfold windows1252 | unfold windows1253 | unfold windows1254 | unfold windows1255
    | unfold windows1256 | unfold windows1257 | unfold windows1258 | unfold xMacCyrillic
  all_goals try with_reducible first
    | refine List.not_mem_append hunused ?_
    | refine List.not_mem_append hcontrols ?_
  all_goals repeat' with_reducible refine newline_notMem_append ?_ ?_
  all_goals exact newline_notMem_ofList _ rfl rfl

/-- No declared character set has a line break among its upper bytes. -/
theorem newline_notMem_of_ofLabel? {label : Text} {high : List Char}
    (h : Charset.ofLabel? label = some (.codePage high)) : '\n' ∉ high := by
  unfold Charset.ofLabel? at h
  simp only at h
  split_ifs at h
  · cases h
  · cases h
  · cases h
  · cases h
    exact List.not_mem_nil
  · cases h
  · cases h
    decide
  · obtain ⟨p, hp, he⟩ := Option.map_eq_some_iff.mp h
    cases he
    exact newline_notMem_all p (List.mem_of_find?_eq_some hp)

/-- Bytes read in a declared set have no more line breaks than they have newline bytes. -/
theorem newlines_decode_le {label : Text} {cs : Charset} (h : Charset.ofLabel? label = some cs) (bs : Bytes) :
    newlines (encode (cs.decode bs)) ≤ newlines bs := by
  cases cs with
  | utf8 => exact newlines_decodeUtf8_le bs
  | utf16 bigEndian => exact Nat.le_trans (newlines_decodeUnits_le _) (count_units_le bigEndian bs)
  | codePage high => exact newlines_map_codePageChar_le (newline_notMem_of_ofLabel? h) bs
  | unread => exact Nat.zero_le _

end Markup

end MoquiLint
