import MoquiLint.Report.Basic
import MoquiLint.Text.Edit

/-! Components own definition files; a batch is broken down by the components its files belong to. -/
namespace MoquiLint

structure Component where
  name : String
  path : String
  kinds : List String := []
  files : List String := []
  deriving DecidableEq, Repr, Inhabited

namespace Component

/-- The report on a path; a later report on the same path replaces an earlier one. -/
def reportOn? (files : List FileReport) (path : String) : Option FileReport :=
  files.reverse.find? fun f => f.path == path

def reports (c : Component) (files : List FileReport) : List FileReport :=
  c.files.filterMap (reportOn? files)

def summary? (files : List FileReport) (c : Component) : Option ComponentSummary :=
  let own := c.reports files
  if own.isEmpty then none
  else
    let batch := BatchReport.ofFiles (some own)
    some { name := c.name, path := c.path, kinds := c.kinds, passed := batch.passed,
           totals := batch.totals }

/-- The shares of all components that have one, sorted by name. Files that no component claims are
left out. -/
def summarize (components : List Component) (files : List FileReport) : List ComponentSummary :=
  (components.filterMap (summary? files)).mergeSort fun a b => Str.le a.name b.name

end Component

end MoquiLint
