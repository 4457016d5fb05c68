import MoquiLint.Dialect
import MoquiLint.Finding
import MoquiLint.Keyed
import MoquiLint.Text.Edit

/-! Cached results: the findings computed for a path, valid for one content and one dialect. -/
namespace MoquiLint

structure CachedEntry where
  contentHash : String := ""
  dialect : Dialect := .unset
  result : Findings := {}
  deriving DecidableEq, Repr, Inhabited

/-- The results of a project, valid for one configuration and one version of the tool. The entries
are sorted by path, at most one a path. -/
structure ResultCache where
  projectPath : String := ""
  configHash : String := ""
  version : String := ""
  entries : Option (List (String × CachedEntry)) := none
  deriving DecidableEq, Repr, Inhabited

namespace ResultCache

def put (c : ResultCache) (path contentHash : String) (d : Dialect) (r : Findings) : ResultCache :=
  { c with entries := some (Keyed.insert path ⟨contentHash, d, r⟩ (c.entries.getD [])) }

/-- The recorded result for a path, if content and dialect are still the same. -/
def lookup (c : ResultCache) (path contentHash : String) (d : Dialect) : Option Findings :=
  match (c.entries.getD []).lookup path with
  | some e => if e.contentHash = contentHash ∧ e.dialect = d then some e.result else none
  | none => none

def isInvalidated (c : ResultCache) (configHash version : String) : Bool :=
  c.configHash != configHash || c.version != version

end ResultCache

end MoquiLint
