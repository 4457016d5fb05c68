import MoquiLint.Terminal.Style

/-! A frame around centred lines. Lines that are too long are broken between words, and behind a
hyphen if need be. -/
namespace MoquiLint.Terminal.Box

def inner : Nat := 68

def margin : Nat := 4

def limit : Nat := inner - 2 * margin

/-- A line being broken: the lines before it, the current line, the blanks and the word after it; all
last character first. -/
structure Wrap where
  done : List (List Char) := []
  line : List Char := []
  blank : List Char := []
  word : List Char := []
  deriving DecidableEq, Repr

namespace Wrap

def addBlank (w : Wrap) : Wrap := { w with line := w.blank ++ w.line, blank := [] }

def addWord (w : Wrap) : Wrap :=
  if w.word.isEmpty then w else { w.addBlank with line := w.word ++ w.blank ++ w.line, word := [] }

def breakLine (w : Wrap) : Wrap :=
  { w with done := w.line.reverse :: w.done, line := [], blank := [] }

def letter (w : Wrap) (c : Char) : Wrap :=
  let w := if w.word.length + 1 > limit then w.addWord else w
  let w := { w with word := c :: w.word }
  if w.line.length + w.word.length + w.blank.length > limit then w.breakLine else w

def step (w : Wrap) (c : Char) : Wrap :=
  if c == ' ' then { w.addWord with blank := c :: w.addWord.blank }
  else if c == '-' then
    let w := w.addBlank
    if w.line.length + w.word.length + 1 ≤ limit then { w.addWord with line := c :: w.addWord.line }
    else w.letter c
  else w.letter c

def finish (w : Wrap) : List (List Char) :=
  let w := if w.word.isEmpty && w.line.length + w.blank.length ≤ limit then w.addBlank else w
  (w.addWord.line.reverse :: w.done).reverse

end Wrap

def wrap (cs : List Char) : List (List Char) := (cs.foldl Wrap.step {}).finish

/-- Colours the lines of one text: within it the style is closed and opened again at every break. -/
def paint (on : Colored) (st : Style) : List (List Char) → List Text
  | [] => []
  | [l] => [st.line on (Text.ofChars l)]
  | l :: ls =>
    (if on then st.opening ++ Text.ofChars l ++ csi ++ lit "m" else Text.ofChars l) :: paint on st ls

/-- A line between the sides of the frame, centred in `total` columns; of an odd number of blanks the
last stands on the right. -/
def row (on : Colored) (total : Nat) (line : Text × Nat) : Text :=
  let short := total - line.2
  let side := frame.line on (lit "│")
  side ++ blanks (short / 2) ++ line.1 ++ blanks (short - short / 2) ++ side ++ lit "\n"

def rows (on : Colored) (st : Style) (s : String) : List (Text × Nat) :=
  let ls := wrap s.toList
  let sides := blanks margin
  ((paint on st ls).zip ls).map fun (t, l) => (sides ++ t ++ sides, l.length + 2 * margin)

/-- The texts in a frame, each on lines of its own; where there is none, a line is left blank. -/
def render (on : Colored) (texts : List (Option (Style × String))) : Text :=
  let blank : Text × Nat := ([], 0)
  let rows := blank :: (texts.flatMap fun t => match t with
    | some (st, s) => rows on st s
    | none => [blank]) ++ [blank]
  let total := (rows.map Prod.snd).foldl max inner
  let edge (left right : Char) : Text :=
    frame.line on (Text.ofChars (left :: List.replicate total '─' ++ [right]))
  edge '╭' '╮' ++ lit "\n" ++ rows.flatMap (row on total) ++ edge '╰' '╯'

end MoquiLint.Terminal.Box
