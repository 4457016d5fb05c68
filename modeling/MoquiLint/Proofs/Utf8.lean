import Mathlib.Data.List.Basic
import MoquiLint.Text.Symbol

/-! Decoding undoes the encoding of strings: the text of a string's bytes is the text of the string. -/
namespace MoquiLint

theorem toList_loop (bs : ByteArray) (i : Nat) (read : List UInt8) :
    ByteArray.toList.loop bs i read = read.reverse ++ bs.data.toList.drop i := by
  fun_induction ByteArray.toList.loop bs i read with
  | case1 i read h ih =>
    have hi : i < bs.data.toList.length := by simpa using h
    have hg : bs.get! i = bs.data.toList[i] := getElem!_pos bs.data i h
    rw [ih, List.drop_eq_getElem_cons hi, hg]
    simp
  | case2 i read h =>
    have hi : bs.data.toList.length ≤ i := by simpa using Nat.le_of_not_lt h
    simp [List.drop_eq_nil_of_le hi]

theorem utf8_eq_flatMap (s : String) : utf8 s = s.toList.flatMap String.utf8EncodeChar := by
  have h : s.toByteArray = (s.toList.flatMap String.utf8EncodeChar).toByteArray :=
    String.utf8Encode_toList.symm
  rw [utf8, String.toUTF8_eq_toByteArray, h, ByteArray.toList, toList_loop]
  simp

theorem length_le_length_utf8 (s : String) : s.toList.length ≤ (utf8 s).length := by
  rw [utf8_eq_flatMap]
  induction s.toList with
  | nil => simp
  | cons c cs ih =>
    have hc := c.utf8Size_pos
    simp only [List.flatMap_cons, List.length_append, List.length_cons, String.length_utf8EncodeChar]
    omega

namespace Text

theorem headChar?_encode (c : Char) (bs : Bytes) :
    headChar? (String.utf8EncodeChar c ++ bs) = some c := by
  have hl : (String.utf8EncodeChar c).length ≤ 4 := by
    rw [String.length_utf8EncodeChar]
    exact c.utf8Size_le_four
  rw [headChar?, List.take_append, List.take_of_length_le hl, List.toByteArray_append]
  exact ByteArray.utf8DecodeChar?_utf8EncodeChar_append

theorem decode_encodeChar (c : Char) (bs : Bytes) :
    decode (String.utf8EncodeChar c ++ bs) = .char c :: decode bs := by
  have hh := headChar?_encode c bs
  have hl := String.length_utf8EncodeChar c
  cases he : String.utf8EncodeChar c with
  | nil => exact absurd he String.utf8EncodeChar_ne_nil
  | cons b more =>
    rw [he] at hh hl
    rw [List.cons_append] at hh ⊢
    rw [decode, hh]
    simp [← hl]

theorem decode_utf8 (s : String) : decode (utf8 s) = ofString s := by
  rw [utf8_eq_flatMap, ofString]
  induction s.toList with
  | nil => rw [List.flatMap_nil, decode]; rfl
  | cons c cs ih => rw [List.flatMap_cons, decode_encodeChar, ih]; rfl

@[simp] theorem codes_ofChars (cs : List Char) : codes (ofChars cs) = cs := by
  simp [codes, ofChars, Function.comp_def, Symbol.code]

@[simp] theorem toString_ofChars (cs : List Char) : Text.toString (ofChars cs) = String.ofList cs := by
  simp [Text.toString]

@[simp] theorem codes_ofString (s : String) : codes (ofString s) = s.toList := codes_ofChars s.toList

@[simp] theorem toString_ofString (s : String) : Text.toString (ofString s) = s := by
  simp [ofString]

theorem isValid_ofString (s : String) : isValid (ofString s) = true := by
  simp [isValid, ofString, ofChars, Symbol.isStray]

/-- A text without stray bytes is the text of its string. -/
theorem ofString_toString_of_valid {t : Text} (h : ∀ s ∈ t, s.isStray = false) : ofString (Text.toString t) = t := by
  have hself : ∀ s ∈ t, Symbol.char s.code = s := fun s hs => by
    cases s with
    | char c => rfl
    | stray b => exact absurd (h _ hs) Bool.true_eq_false.mp
  rw [ofString, Text.toString, String.toList_ofList, ofChars, codes, List.map_map]
  exact (List.map_congr_left hself).trans (List.map_id t)

@[simp] theorem ofChars_append (cs ds : List Char) : ofChars (cs ++ ds) = ofChars cs ++ ofChars ds :=
  List.map_append

@[simp] theorem ofChars_cons (c : Char) (cs : List Char) : ofChars (c :: cs) = .char c :: ofChars cs := rfl

@[simp] theorem ofChars_nil : ofChars [] = [] := rfl

end Text

end MoquiLint
