import MoquiLint.Markup.Node

/-! Writing an element tree as a document. Each element is its start tag with the attributes in order,
its character data, its children and its end tag. Characters that markup would take for something else
are written as references, and so is the carriage return, which would be read as a line break. -/
namespace MoquiLint.Markup

def escapeChar : Char → List Char
  | '&' => "&amp;".toList
  | '<' => "&lt;".toList
  | '>' => "&gt;".toList
  | '"' => "&quot;".toList
  | '\'' => "&apos;".toList
  | '\r' => "&#13;".toList
  | c => [c]

def escape (s : String) : List Char := s.toList.flatMap escapeChar

def Attr.written (a : Attr) : List Char := ' ' :: a.name.toList ++ ['=', '"'] ++ escape a.value ++ ['"']

namespace Node

def written : Node → List Char
  | ⟨tag, attrs, children, text, _⟩ =>
    ['<'] ++ tag.toList ++ attrs.flatMap Attr.written ++ ['>'] ++ escape text ++
      children.flatMap written ++ ['<', '/'] ++ tag.toList ++ ['>']

def document (n : Node) : Bytes := utf8 (String.ofList n.written)

end Node

end MoquiLint.Markup
