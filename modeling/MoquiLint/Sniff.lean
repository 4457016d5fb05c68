import MoquiLint.Dialect

/-! Guessing a document's dialect from its first bytes, without parsing it. -/
namespace MoquiLint

namespace Seq

def after? {α : Type} [BEq α] (p : List α) : List α → Option (List α)
  | [] => if p.isEmpty then some [] else none
  | a :: s => if p.isPrefixOf (a :: s) then some ((a :: s).drop p.length) else after? p s

theorem length_after?_lt {α : Type} [BEq α] {p s r : List α} (hp : p ≠ []) (h : after? p s = some r) :
    r.length < s.length := by
  have hlen : 0 < p.length := List.length_pos_iff.mpr hp
  induction s with
  | nil => cases p with
    | nil => exact absurd rfl hp
    | cons a p => simp [after?] at h
  | cons a s ih =>
    simp only [after?] at h
    split at h
    · cases h
      simp only [List.length_drop, List.length_cons]
      omega
    · have := ih h
      simp only [List.length_cons]
      omega

end Seq

namespace Sniff

def windowSize : Nat := 1000

def lt : UInt8 := 0x3C

def endsName (b : UInt8) : Bool :=
  b == 0x20 || b == 0x09 || b == 0x0D || b == 0x0A || b == 0x3E || b == 0x2F

/-- Whether the bytes hold an opening tag named exactly `tag`. The search goes on behind an occurrence
that turns out to be part of a longer name. A name cut off by the end of the bytes counts. -/
def hasTag (tag : Bytes) (s : Bytes) : Bool :=
  match h : Seq.after? (lt :: tag) s with
  | none => false
  | some [] => true
  | some (b :: rest) =>
    have : (b :: rest).length < s.length := Seq.length_after?_lt (by simp) h
    endsName b || hasTag tag (b :: rest)
termination_by s.length

def window (head : Bytes) : Bytes := head.take windowSize

/-- The kind of document whose root tag appears in the leading bytes, entities first. -/
def detect (head : Bytes) : Option Dialect :=
  let s := window head
  if hasTag (utf8 "entities") s then some .entity
  else if hasTag (utf8 "services") s then some .service
  else none

/-- Classifies a document for a scan of the requested dialect. An open request takes a root tag
alone, so that data files are left out. A request for one dialect also takes a bare definition tag,
as long as no root tag of the other dialect is there. -/
def classify (head : Bytes) (requested : Dialect) : Option Dialect :=
  match detect head with
  | some d => if requested.isOpen || requested == d then some d else none
  | none =>
    if requested.isOpen then none
    else if hasTag (utf8 requested.childTag) (window head) then some requested
    else none

end Sniff

end MoquiLint
