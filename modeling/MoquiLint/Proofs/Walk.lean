import Mathlib.Data.List.Induction
import MoquiLint.Rules.Engine

/-!
# What a walk reports

The engine adds findings one at a time to those found before. Here the findings of a rule, of the rules
for one node and of a forest of steps are lists of their own, and the engine is proved to file exactly
these lists, in order, behind what it was given.
-/
namespace MoquiLint

namespace Findings

/-- The findings of a list, each in the list of its severity. -/
def filed (fs : List Finding) : Findings :=
  ⟨present (fs.filter fun f => f.severity = .issue),
    present (fs.filter fun f => f.severity = .suggestion)⟩

theorem add_issue {r : Findings} {f : Finding} (h : f.severity = .issue) :
    r.add f = ⟨some (r.issueList ++ [f]), r.suggestions⟩ := by
  simp [add, h]

theorem add_suggestion {r : Findings} {f : Finding} (h : f.severity = .suggestion) :
    r.add f = ⟨r.issues, some (r.suggestionList ++ [f])⟩ := by
  have hne : f.severity ≠ .issue := by
    rw [h]
    decide
  simp [add, hne]

theorem present_append_singleton (fs : List Finding) (f : Finding) :
    present (fs ++ [f]) = some (fs ++ [f]) := by
  simp [present]

/-- Findings that are issues or suggestions are filed by adding them one after the other. -/
theorem foldl_add_eq_filed {fs : List Finding}
    (h : ∀ f ∈ fs, f.severity = .issue ∨ f.severity = .suggestion) : fs.foldl add {} = filed fs := by
  have hne : Severity.issue ≠ .suggestion := by decide
  induction fs using List.reverseRecOn with
  | nil => rfl
  | append_singleton fs f ih =>
    have ih := ih fun g hg => h g (List.mem_append_left _ hg)
    rw [List.foldl_append, ih, List.foldl_cons, List.foldl_nil]
    rcases h f (by simp) with hf | hf
    · rw [add_issue hf, issueList, filed, getD_present]
      simp [filed, hf, hne, present_append_singleton]
    · rw [add_suggestion hf, suggestionList, filed, getD_present]
      simp [filed, hf, hne.symm, present_append_singleton]

end Findings

namespace Rules

open Markup (Node)

def Rule.findings (r : Rule) (ctx : Context) : List Finding :=
  (r.check ctx).map fun m => ⟨r.severity, r.id, ctx.subject, m⟩

/-- The findings of the rules for a kind of node, up to and including those of the first halting rule that
reports something; also whether there was one. -/
def reports (target : Target) (ctx : Context) : List Rule → List Finding × Bool
  | [] => ([], false)
  | r :: rest =>
    if r.target = target then
      if r.halts && !(r.check ctx).isEmpty then (r.findings ctx, true)
      else (r.findings ctx ++ (reports target ctx rest).1, (reports target ctx rest).2)
    else reports target ctx rest

mutual

def below (rules : List Rule) (ctx : Context) : List Step → List Finding
  | [] => []
  | s :: rest => reached rules ctx s ++ below rules ctx rest

/-- The findings of a step: for each node it leads to, what the rules report, and unless one of them
halts, what the steps below find. -/
def reached (rules : List Rule) (ctx : Context) : Step → List Finding
  | .mk target path next =>
    (resolve ctx.node path).flatMap fun n =>
      let c := { ctx with node := n }
      (reports target c rules).1 ++ if (reports target c rules).2 then [] else below rules c next

end

theorem apply_eq (target : Target) (ctx : Context) (rules : List Rule) (res : Findings) :
    apply target ctx rules res =
      ((reports target ctx rules).1.foldl Findings.add res, (reports target ctx rules).2) := by
  induction rules generalizing res with
  | nil => rfl
  | cons r rest ih =>
    have hf : (r.check ctx).foldl (fun acc m => acc.add ⟨r.severity, r.id, ctx.subject, m⟩) res =
        (r.findings ctx).foldl Findings.add res := by
      rw [Rule.findings, List.foldl_map]
    simp only [apply, reports, hf]
    split_ifs
    · rfl
    · rw [ih, List.foldl_append]
    · exact ih res

mutual

/-- A walk files the findings of its steps behind those found before. -/
theorem walk_eq_foldl (rules : List Rule) : ∀ (steps : List Step) (ctx : Context) (res : Findings),
    walk rules steps ctx res = (below rules ctx steps).foldl Findings.add res
  | [], _, _ => by simp [walk, below]
  | s :: rest, ctx, res => by
    rw [walk, below, List.foldl_append, ← walkStep_eq_foldl rules s ctx res]
    exact walk_eq_foldl rules rest ctx _

theorem walkStep_eq_foldl (rules : List Rule) : ∀ (s : Step) (ctx : Context) (res : Findings),
    walkStep rules s ctx res = (reached rules ctx s).foldl Findings.add res
  | .mk target path next, ctx, res => by
    rw [walkStep, reached, List.foldl_flatMap]
    congr 1
    funext acc n
    simp only [apply_eq, List.foldl_append]
    cases (reports target { ctx with node := n } rules).2 with
    | true => rfl
    | false => exact walk_eq_foldl rules next _ _

end

theorem reached_self (rules : List Rule) (ctx : Context) (target : Target) :
    reached rules ctx (.mk target [] []) = (reports target ctx rules).1 := by
  simp only [reached, resolve, below, ite_self, List.append_nil, List.flatMap_cons, List.flatMap_nil]

/-! ### Where findings come from -/

def IsOf (rules : List Rule) (f : Finding) : Prop := ∃ r ∈ rules, f.rule = r.id ∧ f.severity = r.severity

theorem isOf_of_mem_reports {target : Target} {ctx : Context} {rules : List Rule} {f : Finding}
    (h : f ∈ (reports target ctx rules).1) : IsOf rules f := by
  induction rules with
  | nil => simp [reports] at h
  | cons r rest ih =>
    have here (hf : f ∈ r.findings ctx) : IsOf (r :: rest) f := by
      obtain ⟨m, -, rfl⟩ := List.mem_map.mp hf
      exact ⟨r, by simp, rfl, rfl⟩
    have later (hf : f ∈ (reports target ctx rest).1) : IsOf (r :: rest) f := by
      obtain ⟨r', hr, hf⟩ := ih hf
      exact ⟨r', by simp [hr], hf⟩
    simp only [reports] at h
    split_ifs at h
    · exact here h
    · rcases List.mem_append.mp h with h | h
      · exact here h
      · exact later h
    · exact later h

mutual

theorem isOf_of_mem_below {rules : List Rule} {f : Finding} : ∀ {steps : List Step} {ctx : Context},
    f ∈ below rules ctx steps → IsOf rules f
  | [], _, h => by simp [below] at h
  | s :: rest, ctx, h => by
    rw [below, List.mem_append] at h
    rcases h with h | h
    · exact isOf_of_mem_reached h
    · exact isOf_of_mem_below h

theorem isOf_of_mem_reached {rules : List Rule} {f : Finding} : ∀ {s : Step} {ctx : Context},
    f ∈ reached rules ctx s → IsOf rules f
  | .mk target path next, ctx, h => by
    rw [reached] at h
    obtain ⟨n, -, h⟩ := List.mem_flatMap.mp h
    rcases List.mem_append.mp h with h | h
    · exact isOf_of_mem_reports h
    · split_ifs at h
      · cases h
      · exact isOf_of_mem_below h

end

/-! ### Documents -/

/-- What a catalog finds in a document: what its rules report about the document, and what the walk
finds from each definition. -/
def Catalog.findings (c : Catalog) (root : Node) : List Finding :=
  (reports .document { root := root, node := root } c.rules).1 ++
    (root.childrenNamed c.kind.childTag).flatMap fun n =>
      below c.rules { root := root, owner := some n, node := n, name := (c.owner n).1,
                      subject := (c.owner n).2 } c.plan

theorem isOf_of_mem_findings {c : Catalog} {root : Node} {f : Finding} (h : f ∈ c.findings root) :
    IsOf c.rules f := by
  rcases List.mem_append.mp h with h | h
  · exact isOf_of_mem_reports h
  · obtain ⟨n, -, h⟩ := List.mem_flatMap.mp h
    exact isOf_of_mem_below h

theorem evaluate_eq_foldl (c : Catalog) (root : Node) :
    c.evaluate root = (c.findings root).foldl Findings.add {} := by
  rw [Catalog.evaluate, Catalog.findings, apply_eq, List.foldl_append, List.foldl_flatMap]
  congr 1
  funext res n
  exact walk_eq_foldl _ _ _ _

/-- A catalog of issues and suggestions files each finding in the list of its severity. -/
theorem evaluate_eq_filed {c : Catalog}
    (hc : ∀ r ∈ c.rules, r.severity = .issue ∨ r.severity = .suggestion) (root : Node) :
    c.evaluate root = Findings.filed (c.findings root) := by
  rw [evaluate_eq_foldl]
  apply Findings.foldl_add_eq_filed
  intro f hf
  obtain ⟨r, hr, -, hs⟩ := isOf_of_mem_findings hf
  rw [hs]
  exact hc r hr

end Rules

end MoquiLint
