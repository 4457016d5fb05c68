import MoquiLint.Text.Edit

/-! Element trees: what the rules look at. -/
namespace MoquiLint.Markup

/-- An attribute; a name with a namespace prefix keeps it. -/
structure Attr where
  name : String
  value : String
  deriving DecidableEq, Repr, Inhabited

/-- An element with its attributes and child elements in document order, its own character data, and
the line its start tag ends on. -/
structure Node where
  tag : String
  attrs : List Attr := []
  children : List Node := []
  text : String := ""
  line : Int := 0
  deriving Repr, Inhabited

namespace Node

def attr? (n : Node) (name : String) : Option String :=
  (n.attrs.find? fun a => a.name == name).map Attr.value

def value (n : Node) (name : String) : String := (n.attr? name).getD ""

def childrenNamed (n : Node) (tag : String) : List Node := n.children.filter fun c => c.tag == tag

def child? (n : Node) (tag : String) : Option Node := n.children.find? fun c => c.tag == tag

/-- Whether the element has neither child elements nor character data other than white space. -/
def isBlank (n : Node) : Bool := n.children.isEmpty && Str.trimSpace n.text == ""

def unplaced : Node → Node
  | ⟨tag, attrs, children, text, _⟩ => ⟨tag, attrs, children.map unplaced, text, 0⟩

end Node

end MoquiLint.Markup
