import MoquiLint.Text.Symbol
import MoquiLint.Text.Class

/-! Trimming, splitting and searching lists of symbols, characters or bytes. -/
namespace MoquiLint

namespace Seq

def contains {α : Type} [BEq α] (p : List α) : List α → Bool
  | [] => p.isEmpty
  | a :: s => p.isPrefixOf (a :: s) || contains p s

def find? {α : Type} [BEq α] (p : List α) : List α → Option Nat
  | [] => if p.isEmpty then some 0 else none
  | a :: s => if p.isPrefixOf (a :: s) then some 0 else (find? p s).map (· + 1)

/-- Cuts `s` before and after each element that satisfies `p`; the elements cut at are dropped. -/
def splitOn {α : Type} (p : α → Bool) : List α → List (List α)
  | [] => [[]]
  | a :: s =>
    match splitOn p s with
    | [] => [[a]]
    | w :: ws => if p a then [] :: w :: ws else (a :: w) :: ws

theorem splitOn_ne_nil {α : Type} (p : α → Bool) (s : List α) : splitOn p s ≠ [] := by
  cases s with
  | nil => simp [splitOn]
  | cons a s =>
    unfold splitOn
    split
    · simp
    · split <;> simp

def fields {α : Type} (p : α → Bool) (s : List α) : List (List α) :=
  (splitOn p s).filter fun w => !w.isEmpty

def dropRightWhile {α : Type} (p : α → Bool) (s : List α) : List α :=
  (s.reverse.dropWhile p).reverse

def trim {α : Type} (p : α → Bool) (s : List α) : List α :=
  dropRightWhile p (s.dropWhile p)

def join {α : Type} (sep : List α) : List (List α) → List α
  | [] => []
  | [w] => w
  | w :: v :: ws => w ++ sep ++ join sep (v :: ws)

/-- Every occurrence of the nonempty block `p`, from the left, replaced by `q`. -/
def replace {α : Type} [BEq α] (p q : List α) : Nat → List α → List α
  | _, [] => []
  | skip + 1, _ :: s => replace p q skip s
  | 0, a :: s =>
    if p.isPrefixOf (a :: s) then q ++ replace p q (p.length - 1) s else a :: replace p q 0 s

end Seq

namespace Text

def trimSpace (t : Text) : Text := Seq.trim (fun s => isSpace s.code) t

/-- Lower case throughout. A stray byte has no case and reads as the replacement character, unless
the text is all ASCII. -/
def lower (t : Text) : Text := t.map fun s => .char (toLower s.code)

end Text

namespace Str

def trimSpace (s : String) : String := String.ofList (Seq.trim Text.isSpace s.toList)

def lower (s : String) : String := String.ofList (s.toList.map Text.toLower)

def contains (s p : String) : Bool := Seq.contains p.toList s.toList

def startsWith (s p : String) : Bool := p.toList.isPrefixOf s.toList

def endsWith (s p : String) : Bool := p.toList.isSuffixOf s.toList

def split (c : Char) (s : String) : List String :=
  (Seq.splitOn (· == c) s.toList).map String.ofList

def join (sep : String) : List String → String
  | [] => ""
  | [s] => s
  | s :: t :: ss => s ++ sep ++ join sep (t :: ss)

/-- Whether two strings are equal when ASCII letters of either case count as equal. -/
def equalFold (s t : String) : Bool := s.toList.map Char.toLower == t.toList.map Char.toLower

/-- Order of strings by their bytes, which is the order of their code points. -/
def le (s t : String) : Bool := !decide (t < s)

end Str

end MoquiLint
