import MoquiLint.Text.Quoted
import MoquiLint.Text.Edit

/-! What can be wrong with a document: faults of its markup and faults of its structure. -/
namespace MoquiLint.Markup

inductive Fault where
  | unexpectedEnd
  | noElementName
  | noClosingName
  | noTargetName
  | noAttributeName
  | noEquals
  | noQuotedValue
  | openBracketInValue
  | slashWithoutBracket
  | closingTail (localName : String)
  | badName (name : Text)
  | badReference (written : Text)
  | illegalChar (c : Char)
  | notUtf8
  | bareSectionEnd
  | openSection
  | badSection
  | badCommentStart
  | dashesInComment
  | unsupportedVersion (version : Text)
  | unsupportedCharset (label : Text)
  deriving DecidableEq, Repr

def hexCode (n : Nat) : List Char :=
  let ds := (Nat.toDigits 16 n).map Char.toUpper
  List.replicate (4 - ds.length) '0' ++ ds

def Fault.message : Fault → Text
  | .unexpectedEnd => Text.ofString "unexpected EOF"
  | .noElementName => Text.ofString "expected element name after <"
  | .noClosingName => Text.ofString "expected element name after </"
  | .noTargetName => Text.ofString "expected target name after <?"
  | .noAttributeName => Text.ofString "expected attribute name in element"
  | .noEquals => Text.ofString "attribute name without = in element"
  | .noQuotedValue => Text.ofString "unquoted or missing attribute value in element"
  | .openBracketInValue => Text.ofString "unescaped < inside quoted string"
  | .slashWithoutBracket => Text.ofString "expected /> in element"
  | .closingTail name => Text.ofString ("invalid characters between </" ++ name ++ " and >")
  | .badName name => Text.ofString "invalid XML name: " ++ name
  | .badReference written =>
    Text.ofString "invalid character entity " ++ written ++
      (if written.getLast? = some (.char ';') then [] else Text.ofString " (no semicolon)")
  | .illegalChar c =>
    Text.ofString "illegal character code U+" ++ Text.ofChars (hexCode c.toNat)
  | .notUtf8 => Text.ofString "invalid UTF-8"
  | .bareSectionEnd => Text.ofString "unescaped ]]> not in CDATA section"
  | .openSection => Text.ofString "unexpected EOF in CDATA section"
  | .badSection => Text.ofString "invalid <![ sequence"
  | .badCommentStart => Text.ofString "invalid sequence <!- not part of <!--"
  | .dashesInComment => Text.ofString "invalid sequence \"--\" not allowed in comments"
  | .unsupportedVersion v =>
    Text.ofString ("xml: unsupported version " ++ Text.quote v ++ "; only version 1.0 is supported")
  | .unsupportedCharset l =>
    Text.ofString ("xml: opening charset " ++ Text.quote l ++ ": unsupported charset: " ++ Text.quote l)

inductive Misfit where
  | duplicateAttribute (name tag : String)
  | secondRoot (tag root : String)
  | strayClosing (tag : String)
  | wrongClosing (tag closing : String)
  | textOutsideRoot
  | unclosed (tag : String)
  | noRoot
  deriving DecidableEq, Repr

def Misfit.message : Misfit → String
  | .duplicateAttribute name tag => "duplicate attribute " ++ Str.quote name ++ " on <" ++ tag ++ ">"
  | .secondRoot tag root => "multiple root elements: <" ++ tag ++ "> after <" ++ root ++ ">"
  | .strayClosing tag => "unexpected closing tag </" ++ tag ++ ">"
  | .wrongClosing tag closing => "element <" ++ tag ++ "> closed by </" ++ closing ++ ">"
  | .textOutsideRoot => "text outside the root element"
  | .unclosed tag => "unexpected end of document: <" ++ tag ++ "> is not closed"
  | .noRoot => "no root element"

structure ParseError where
  path : String
  line : Int
  message : Text
  deriving DecidableEq, Repr

namespace ParseError

def text (e : ParseError) : Text :=
  let line := ToString.toString e.line
  if e.path != "" && e.line > 0 then Text.ofString (e.path ++ ":" ++ line ++ ": ") ++ e.message
  else if e.path != "" then Text.ofString (e.path ++ ": ") ++ e.message
  else if e.line > 0 then Text.ofString ("line " ++ line ++ ": ") ++ e.message
  else e.message

/-- The error without its path, for reports that give the path themselves. -/
def detail (e : ParseError) : Text :=
  let line := ToString.toString e.line
  if e.line > 0 then Text.ofString ("XML parse error: line " ++ line ++ ": ") ++ e.message
  else Text.ofString "XML parse error: " ++ e.message

end ParseError

end MoquiLint.Markup
