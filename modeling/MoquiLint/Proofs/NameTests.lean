import Mathlib.Data.List.DropRight
import Mathlib.Data.List.Infix
import MoquiLint.Naming
import MoquiLint.Proofs.Utf8

/-! What the tests on names and types ask of the characters of a string. -/
namespace MoquiLint

theorem ofString_injective : Function.Injective Text.ofString := by
  intro s t h
  simpa using congrArg Text.toString h

theorem Seq.contains_iff_infix {α : Type} [BEq α] [LawfulBEq α] (p s : List α) :
    Seq.contains p s = true ↔ p <:+: s := by
  induction s with
  | nil => simp [Seq.contains]
  | cons a s ih => simp [Seq.contains, ih, List.infix_cons_iff]

theorem Seq.trim_eq_nil_iff {α : Type} (p : α → Bool) (s : List α) :
    Seq.trim p s = [] ↔ ∀ a ∈ s, p a = true := by
  have hr (t : List α) : dropRightWhile p t = [] ↔ ∀ a ∈ t, p a = true := by
    simp [dropRightWhile, List.dropWhile_eq_nil_iff]
  rw [trim, hr, ← List.dropWhile_eq_nil_iff, List.dropWhile_idempotent, List.dropWhile_eq_nil_iff]

theorem Str.contains_iff_infix (s p : String) :
    Str.contains s p = true ↔ p.toList <:+: s.toList :=
  Seq.contains_iff_infix p.toList s.toList

theorem Text.suffix_ofString_iff (p s : String) :
    Text.ofString p <:+ Text.ofString s ↔ p.toList <:+ s.toList := by
  constructor
  · intro h
    have hc := h.map Symbol.code
    rwa [← Text.codes, ← Text.codes, Text.codes_ofString, Text.codes_ofString] at hc
  · intro h
    exact h.map Symbol.char

theorem Text.infix_ofString_iff (p s : String) :
    Text.ofString p <:+: Text.ofString s ↔ p.toList <:+: s.toList := by
  constructor
  · intro h
    have hc := h.map Symbol.code
    rwa [← Text.codes, ← Text.codes, Text.codes_ofString, Text.codes_ofString] at hc
  · intro h
    exact h.map Symbol.char

namespace Naming

theorem contains_ofString (names : List String) (s : String) :
    (names.map Text.ofString).contains (Text.ofString s) = true ↔ s ∈ names := by
  rw [List.contains_iff_mem]
  exact List.mem_map_of_injective ofString_injective

theorem isKnownFieldType_iff (t : String) :
    isKnownFieldType (Text.ofString t) = true ↔ t ∈ fieldTypes :=
  contains_ofString fieldTypes t

theorem isKnownRelationshipType_iff (t : String) :
    isKnownRelationshipType (Text.ofString t) = true ↔ t ∈ relationshipTypes :=
  contains_ofString relationshipTypes t

theorem hasIdSuffix_iff (name : String) :
    hasIdSuffix (Text.ofString name) = true ↔ "Id".toList <:+ name.toList := by
  rw [hasIdSuffix, List.isSuffixOf_iff_suffix, Text.suffix_ofString_iff]

theorem hasDateSuffix_iff (name : String) :
    hasDateSuffix (Text.ofString name) = true ↔ "Date".toList <:+ name.toList := by
  rw [hasDateSuffix, List.isSuffixOf_iff_suffix, Text.suffix_ofString_iff]

theorem isDateType_iff (t : String) :
    isDateType (Text.ofString t) = true ↔ "date".toList <:+: t.toList := by
  rw [isDateType, Seq.contains_iff_infix, Text.infix_ofString_iff]

def Identifier (name : String) : Prop :=
  (∀ c ∈ name.toList, c = '_' ∨ Text.isLetter c = true ∨ Text.isNumber c = true) ∧
    ∃ c ∈ name.toList, Text.isLetter c = true ∨ Text.isNumber c = true

instance (name : String) : Decidable (Identifier name) :=
  decidable_of_iff
    (name.toList.all (fun c => c = '_' ∨ Text.isLetter c = true ∨ Text.isNumber c = true) = true ∧
      name.toList.any (fun c => Text.isLetter c = true ∨ Text.isNumber c = true) = true)
    (by simp [Identifier])

theorem isIdentifier_iff (name : String) :
    isIdentifier (Text.ofString name) = true ↔ Identifier name := by
  simp [isIdentifier, Identifier, isAlphanumeric, Text.ofString]

theorem expectedPrimaryKey_ofString (entity : String) :
    Text.toString (expectedPrimaryKey (Text.ofString entity)) = Str.lower entity ++ "Id" := by
  apply String.toList_injective
  simp [expectedPrimaryKey, Text.lower, Text.ofString, Text.ofChars, Text.toString, Text.codes,
    Str.lower, Symbol.code, Function.comp_def]

theorem toString_entityTitle (name : String) :
    (entityTitle (Text.ofString name)).toString = if name = "" then "unnamed entity" else name := by
  have hempty : (Text.ofString name).isEmpty = true ↔ name = "" := by
    simp [Text.ofString, Text.ofChars]
  simp only [entityTitle, hempty]
  split <;> exact Text.toString_ofString _

def HasCapital (name : String) : Prop := ∃ c ∈ name.toList, Text.isUpper c = true

instance (name : String) : Decidable (HasCapital name) :=
  decidable_of_iff (name.toList.any Text.isUpper = true) (by simp [HasCapital])

theorem hasUpper_iff (name : String) : hasUpper (Text.ofString name) = true ↔ HasCapital name := by
  rw [hasUpper, Text.codes_ofString, List.any_eq_true, HasCapital]

def StartsCapital (name : String) : Prop :=
  ∃ c, name.toList.head? = some c ∧ Text.isUpper c = true

instance (name : String) : Decidable (StartsCapital name) :=
  decidable_of_iff (name.toList.head?.any Text.isUpper = true) (Option.any_eq_true _ _)

theorem startsUpper_iff (name : String) :
    startsUpper (Text.ofString name) = true ↔ StartsCapital name := by
  unfold StartsCapital Text.ofString Text.ofChars
  cases name.toList with
  | nil => simp [startsUpper]
  | cons c cs => simp [startsUpper, Symbol.code]

end Naming

end MoquiLint
