import MoquiLint.Text.Edit
import MoquiLint.Text.Quoted

/-! Dialects of definition documents. Two kinds of document have a catalog of rules; `auto` stands for
whichever of them a document turns out to be. A dialect is kept as it was spelt, so a request may
carry a name that is none of these. -/
namespace MoquiLint

inductive DocKind where
  | entity | service
  deriving DecidableEq, Repr

namespace DocKind

def rootTag : DocKind → String
  | .entity => "entities"
  | .service => "services"

def childTag : DocKind → String
  | .entity => "entity"
  | .service => "service"

def ofRootTag? (tag : String) : Option DocKind :=
  if tag == "entities" then some .entity
  else if tag == "services" then some .service
  else none

end DocKind

structure Dialect where
  name : String
  deriving DecidableEq, Repr, Inhabited

namespace Dialect

def auto : Dialect := ⟨"auto"⟩
def entity : Dialect := ⟨"entity"⟩
def service : Dialect := ⟨"service"⟩

def unset : Dialect := ⟨""⟩

def valid : List Dialect := [auto, entity, service]

def names : List String := valid.map name

def ofKind : DocKind → Dialect
  | .entity => entity
  | .service => service

/-- The kind of document a dialect names, if it names exactly one. -/
def kind? (d : Dialect) : Option DocKind :=
  if d = entity then some .entity else if d = service then some .service else none

def isOpen (d : Dialect) : Bool := d == auto || d == unset

def rootTag (d : Dialect) : String := (d.kind?.map DocKind.rootTag).getD ""

def childTag (d : Dialect) : String := (d.kind?.map DocKind.childTag).getD ""

def forRoot? (tag : String) : Option Dialect := (DocKind.ofRootTag? tag).map ofKind

structure Unknown where
  given : Text
  deriving DecidableEq, Repr

def Unknown.message (e : Unknown) : String :=
  "unknown dialect " ++ Text.quote e.given ++ " (valid: " ++ Str.join ", " names ++ ")"

/-- Reads a user's dialect name, in any case and with blanks around it. No name means `auto`. -/
def parse (s : Text) : Except Unknown Dialect :=
  let n := Text.lower (Text.trimSpace s)
  if n = [] ∨ n = Text.ofString "auto" then .ok auto
  else if n = Text.ofString "entity" then .ok entity
  else if n = Text.ofString "service" then .ok service
  else .error ⟨s⟩

/-- Reads an optional dialect: a blank name asks for none. -/
def parseOption (s : Text) : Except Unknown Dialect :=
  if Text.trimSpace s = [] then .ok unset else parse s

end Dialect

end MoquiLint
