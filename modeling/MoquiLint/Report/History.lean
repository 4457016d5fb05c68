import MoquiLint.Report.Basic

/-! The run history: which entries are kept and which belong to a dialect. -/
namespace MoquiLint.History

def maxRuns : Int := 100

/-- The latest `limit` entries; a limit that is not positive keeps all. -/
def keepLatest (entries : Option (List RunEntry)) (limit : Int) : Option (List RunEntry) :=
  match entries with
  | none => none
  | some es =>
    if limit ≤ 0 ∨ (es.length : Int) ≤ limit then some es
    else some (es.drop (es.length - limit.toNat))

/-- The dialect an entry counts for; one without a dialect counts as `auto`. -/
def dialectOf (e : RunEntry) : Dialect := if e.dialect = .unset then .auto else e.dialect

/-- The entries recorded under a dialect in their order; absent if there are none. -/
def runsOf (entries : Option (List RunEntry)) (d : Dialect) : Option (List RunEntry) :=
  let own := (entries.getD []).filter fun e => dialectOf e = d
  if own.isEmpty then none else some own

end MoquiLint.History
