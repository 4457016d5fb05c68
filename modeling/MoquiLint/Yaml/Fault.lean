import MoquiLint.Text.Symbol

/-! What can be wrong with a YAML document, and how it is reported. -/
namespace MoquiLint.Yaml

/-- A place in a document; all counts start at zero. -/
structure Mark where
  index : Nat := 0
  line : Nat := 0
  column : Nat := 0
  deriving DecidableEq, Repr

inductive Problem where
  | badLead | incompleteSequence | badTrail | overlong | badCharacter | controlCharacter
  | incompleteUnit | lowSurrogate | incompletePair | noLowSurrogate
  | noToken | missingColon | noEntriesHere | noKeysHere | noValuesHere | noAnchorName
  | noTagEnd | noTagSpace | noTagMark | noTagUri | noUriOctet | badUriLead | badUriTrail
  | unknownDirective | noDirectiveName | badDirectiveName | longVersion | noVersion | noVersionDot
  | noSpace | noSpaceOrBreak | noCommentOrBreak
  | zeroIndent | tabIndent | tabInPlain | documentMark | unexpectedEnd | unknownEscape | noHexDigit
  | badEscapeCode
  | tooDeep (limit : Nat)
  | duplicateVersion | incompatibleVersion | duplicateTagDirective | noDocumentStart
  | undefinedHandle | noContent | noDash | noKey | noCommaOrBracket | noCommaOrBrace
  | unknownAnchor (name : String)
  deriving DecidableEq, Repr

def Problem.message : Problem → String
  | .badLead => "invalid leading UTF-8 octet"
  | .incompleteSequence => "incomplete UTF-8 octet sequence"
  | .badTrail => "invalid trailing UTF-8 octet"
  | .overlong => "invalid length of a UTF-8 sequence"
  | .badCharacter => "invalid Unicode character"
  | .controlCharacter => "control characters are not allowed"
  | .incompleteUnit => "incomplete UTF-16 character"
  | .lowSurrogate => "unexpected low surrogate area"
  | .incompletePair => "incomplete UTF-16 surrogate pair"
  | .noLowSurrogate => "expected low surrogate area"
  | .noToken => "found character that cannot start any token"
  | .missingColon => "could not find expected ':'"
  | .noEntriesHere => "block sequence entries are not allowed in this context"
  | .noKeysHere => "mapping keys are not allowed in this context"
  | .noValuesHere => "mapping values are not allowed in this context"
  | .noAnchorName => "did not find expected alphabetic or numeric character"
  | .noTagEnd => "did not find the expected '>'"
  | .noTagSpace => "did not find expected whitespace or line break"
  | .noTagMark => "did not find expected '!'"
  | .noTagUri => "did not find expected tag URI"
  | .noUriOctet => "did not find URI escaped octet"
  | .badUriLead => "found an incorrect leading UTF-8 octet"
  | .badUriTrail => "found an incorrect trailing UTF-8 octet"
  | .unknownDirective => "found unknown directive name"
  | .noDirectiveName => "could not find expected directive name"
  | .badDirectiveName => "found unexpected non-alphabetical character"
  | .longVersion => "found extremely long version number"
  | .noVersion => "did not find expected version number"
  | .noVersionDot => "did not find expected digit or '.' character"
  | .noSpace => "did not find expected whitespace"
  | .noSpaceOrBreak => "did not find expected whitespace or line break"
  | .noCommentOrBreak => "did not find expected comment or line break"
  | .zeroIndent => "found an indentation indicator equal to 0"
  | .tabIndent => "found a tab character where an indentation space is expected"
  | .tabInPlain => "found a tab character that violates indentation"
  | .documentMark => "found unexpected document indicator"
  | .unexpectedEnd => "found unexpected end of stream"
  | .unknownEscape => "found unknown escape character"
  | .noHexDigit => "did not find expected hexdecimal number"
  | .badEscapeCode => "found invalid Unicode character escape code"
  | .tooDeep limit => "exceeded max depth of " ++ toString limit
  | .duplicateVersion => "found duplicate %YAML directive"
  | .incompatibleVersion => "found incompatible YAML document"
  | .duplicateTagDirective => "found duplicate %TAG directive"
  | .noDocumentStart => "did not find expected <document start>"
  | .undefinedHandle => "found undefined tag handle"
  | .noContent => "did not find expected node content"
  | .noDash => "did not find expected '-' indicator"
  | .noKey => "did not find expected key"
  | .noCommaOrBracket => "did not find expected ',' or ']'"
  | .noCommaOrBrace => "did not find expected ',' or '\x7d'"
  | .unknownAnchor name => "unknown anchor '" ++ name ++ "' referenced"

inductive Stage where
  | reading | scanning | parsing | composing
  deriving DecidableEq, Repr

/-- A problem, where what it belongs to began, and where it was noticed. -/
structure Fault where
  stage : Stage
  problem : Problem
  context : Mark := {}
  place : Mark := {}
  deriving DecidableEq, Repr

namespace Fault

/-- The line given with a message: that of the context if it is not the first, else that of the
place. Lines of tokens are counted from one, lines of structure from zero; the first line is not
given. -/
def line? (f : Fault) : Option Nat :=
  let line := if f.context.line ≠ 0 then f.context.line else f.place.line
  if line = 0 then none else some (if f.stage = .scanning then line + 1 else line)

def message (f : Fault) : String :=
  match f.line? with
  | some n => "line " ++ toString n ++ ": " ++ f.problem.message
  | none => f.problem.message

end Fault

end MoquiLint.Yaml
