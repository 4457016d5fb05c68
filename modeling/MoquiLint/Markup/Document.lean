import MoquiLint.Markup.Token

/-! Building the tree of a document from its tokens. The open elements are kept innermost first; a
document is complete when none is open and there was a root. -/
namespace MoquiLint.Markup

structure OpenElement where
  tag : String
  attrs : List Attr
  line : Nat
  /-- The children that are closed, last first. -/
  children : List Node := []
  text : String := ""
  deriving Repr

namespace OpenElement

def close (e : OpenElement) : Node := ⟨e.tag, e.attrs, e.children.reverse, e.text, e.line⟩

def addChild (e : OpenElement) (n : Node) : OpenElement := { e with children := n :: e.children }

def addText (e : OpenElement) (s : String) : OpenElement := { e with text := e.text ++ s }

end OpenElement

structure Builder where
  /-- The open elements, innermost first. -/
  stack : List OpenElement := []
  root : Option Node := none
  deriving Repr

def duplicate? : List Attr → List String → Option String
  | [], _ => none
  | a :: as, seen => if seen.contains a.name then some a.name else duplicate? as (a.name :: seen)

namespace Builder

def feed (b : Builder) (line : Nat) : Token → Except Misfit Builder
  | .start name attrs =>
    match duplicate? attrs [] with
    | some a => .error (.duplicateAttribute a name)
    | none =>
      match b.stack, b.root with
      | [], some root => .error (.secondRoot name root.tag)
      | stack, _ => .ok { b with stack := { tag := name, attrs := attrs, line := line } :: stack }
  | .close name =>
    match b.stack with
    | [] => .error (.strayClosing name)
    | top :: rest =>
      if top.tag ≠ name then .error (.wrongClosing top.tag name)
      else
        match rest with
        | [] => .ok { stack := [], root := some top.close }
        | parent :: outer => .ok { b with stack := parent.addChild top.close :: outer }
  | .chars text =>
    match b.stack with
    | [] => if text.toList.all Text.isSpace then .ok b else .error .textOutsideRoot
    | top :: rest => .ok { b with stack := top.addText text :: rest }
  | .comment => .ok b
  | .instruction _ => .ok b
  | .directive => .ok b

def feedAll (b : Builder) : List (Token × Nat) → Except (Nat × Misfit) Builder
  | [] => .ok b
  | (t, line) :: rest =>
    match b.feed line t with
    | .error m => .error (line, m)
    | .ok b => b.feedAll rest

def finish (b : Builder) : Except Misfit Node :=
  match b.stack, b.root with
  | top :: _, _ => .error (.unclosed top.tag)
  | [], none => .error .noRoot
  | [], some root => .ok root

end Builder

def byteOrderMark : Bytes := [0xEF, 0xBB, 0xBF]

def dropMark (data : Bytes) : Bytes :=
  if byteOrderMark.isPrefixOf data then data.drop byteOrderMark.length else data

/-- Builds a tree from tokens and the way they ended. A misfit among the tokens comes before the
fault that ended them. -/
def build (path : String) (tokens : List (Token × Nat)) (ending : Ending) : Except ParseError Node :=
  match ({} : Builder).feedAll tokens with
  | .error (line, m) => .error ⟨path, line, Text.ofString m.message⟩
  | .ok b =>
    match ending with
    | .broken line fault => .error ⟨path, line, fault.message⟩
    | .complete line =>
      match b.finish with
      | .error m => .error ⟨path, line, Text.ofString m.message⟩
      | .ok root => .ok root

/-- The element tree of a document. Comments, instructions and directives are dropped. -/
def parse (path : String) (data : Bytes) : Except ParseError Node :=
  let (tokens, ending) := tokenize true (dropMark data)
  build path tokens ending

end MoquiLint.Markup
