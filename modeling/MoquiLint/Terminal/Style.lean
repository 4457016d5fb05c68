import MoquiLint.Terminal.Width
import MoquiLint.Text.Edit

/-! Coloured text. A piece of text is coloured line by line, and the lines of a piece with several are
filled with blanks to the same width. -/
namespace MoquiLint.Terminal

structure Color where
  red : Nat
  green : Nat
  blue : Nat
  deriving DecidableEq, Repr

structure Style where
  color : Color
  bold : Bool := false
  deriving DecidableEq, Repr

abbrev Colored := Bool

def lit (s : String) : Text := Text.ofString s

def num (n : Int) : Text := lit (toString n)

def blanks (n : Nat) : Text := List.replicate n (.char ' ')

def csi : Text := lit "\x1b["

namespace Style

def opening (st : Style) : Text :=
  let c := st.color
  csi ++ (if st.bold then lit "1;" else []) ++ lit "38;2;" ++ num c.red ++ lit ";" ++ num c.green ++
    lit ";" ++ num c.blue ++ lit "m"

def closing : Text := csi ++ lit "0m"

def line (on : Colored) (st : Style) (t : Text) : Text :=
  if on then st.opening ++ t ++ closing else t

/-- The lines of a piece: tabs become four blanks, and every kind of line break counts. -/
def lines (t : Text) : List Text :=
  let t := t.flatMap fun s => if s.is '\t' then blanks 4 else [s]
  Seq.splitOn (Symbol.is '\n') (Seq.replace (lit "\r\n") (lit "\n") 0 t)

def render (on : Colored) (st : Style) (t : Text) : Text :=
  match lines t with
  | [l] => st.line on l
  | ls =>
    let widest := (ls.map width).foldl max 0
    Seq.join (lit "\n") (ls.map fun l => st.line on l ++ blanks (widest - width l))

end Style

/-! ### The palette -/

def accent : Color := ⟨217, 119, 6⟩
def foreground : Color := ⟨232, 230, 227⟩

def header : Style := ⟨accent, true⟩
def frame : Style := ⟨accent, false⟩
def dim : Style := ⟨⟨107, 113, 128⟩, false⟩
def faint : Style := ⟨⟨63, 63, 70⟩, false⟩
def pass : Style := ⟨⟨34, 197, 94⟩, false⟩
def fail : Style := ⟨⟨239, 68, 68⟩, false⟩
def muted : Style := ⟨⟨75, 85, 99⟩, false⟩
def issueTag : Style := ⟨⟨239, 68, 68⟩, true⟩
def suggestionTag : Style := ⟨⟨245, 158, 11⟩, true⟩
def infoTag : Style := ⟨⟨139, 147, 158⟩, false⟩
def title : Style := ⟨foreground, true⟩

def rule : Text := lit (String.ofList (List.replicate 64 '─'))

/-- Fills up with blanks on the right, counting bytes. -/
def padRight (t : Text) (width : Int) : Text := t ++ blanks (width - Text.size t).toNat

def cut (n : Nat) (t : Text) : Text :=
  let bs := Text.encode t
  if bs.length > n then Text.decode (bs.take n) else t

end MoquiLint.Terminal
