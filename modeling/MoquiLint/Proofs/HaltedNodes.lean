import MoquiLint.Proofs.Walk

/-!
# What a halt ends

Any list of rules and any forest of steps may be walked, not only those of the two catalogs. The walk files what the
rules heard at each selected node report, behind what was filed before. A rule that halts ends the node it halts at:
the rules after it and the steps below are left out, but no other node is and no later step.
-/
namespace MoquiLint

namespace Findings

/-- A list of findings with others behind it. Without others it stays as it was, also if it was absent. -/
def extended (old : Option (List Finding)) (new : List Finding) : Option (List Finding) :=
  if new = [] then old else some (old.getD [] ++ new)

/-- The findings with others filed behind them, each in the list of its severity. -/
def followedBy (r : Findings) (fs : List Finding) : Findings :=
  ⟨extended r.issues (fs.filter fun f => f.severity = .issue),
    extended r.suggestions (fs.filter fun f => f.severity ≠ .issue)⟩

theorem extended_some_append (old : Option (List Finding)) (f : Finding) (new : List Finding) :
    extended (some (old.getD [] ++ [f])) new = extended old (f :: new) := by
  cases new <;> simp [extended]

theorem add_followedBy (r : Findings) (f : Finding) (fs : List Finding) :
    (r.add f).followedBy fs = r.followedBy (f :: fs) := by
  by_cases hf : f.severity = .issue
  · simp [add, followedBy, hf, issueList, extended_some_append]
  · simp [add, followedBy, hf, suggestionList, extended_some_append]

/-- Adding findings one after the other files them behind those that were there. -/
theorem foldl_add_eq_followedBy (r : Findings) (fs : List Finding) : fs.foldl add r = r.followedBy fs := by
  induction fs generalizing r with
  | nil => rfl
  | cons f fs ih => rw [List.foldl_cons, ih, add_followedBy]

end Findings

namespace Rules

open Markup (Node)

/-! ### The nodes of a step -/

/-- The nodes that a path selects: every tag but the last leads to the first child of this name, the last to all of
them, and the empty path selects the node itself. -/
def selected (n : Node) (path : List String) : List Node :=
  match path.getLast? with
  | none => [n]
  | some last => ((path.dropLast.foldlM Node.child? n).map fun m => m.childrenNamed last).getD []

theorem selected_cons_cons (n : Node) (tag next : String) (rest : List String) :
    selected n (tag :: next :: rest) = ((n.child? tag).map fun c => selected c (next :: rest)).getD [] := by
  simp only [selected, List.getLast?_cons, Option.getD_some, List.dropLast_cons_cons,
    List.foldlM_cons]
  cases n.child? tag <;> rfl

theorem resolve_eq_selected (n : Node) (path : List String) : resolve n path = selected n path := by
  fun_induction resolve n path with
  | case1 n => rfl
  | case2 n tag => rfl
  | case3 n tag rest hrest h =>
    obtain ⟨next, rest, rfl⟩ := List.exists_cons_of_ne_nil hrest
    rw [selected_cons_cons, h]
    rfl
  | case4 n tag rest hrest c h ih =>
    obtain ⟨next, rest, rfl⟩ := List.exists_cons_of_ne_nil hrest
    rw [selected_cons_cons, h, ih]
    rfl

/-! ### The rules of a node -/

/-- The rule ends the evaluation of the node: it halts and has something to report. -/
def Rule.Halts (r : Rule) (ctx : Context) : Prop := r.halts = true ∧ r.check ctx ≠ []

instance (r : Rule) (ctx : Context) : Decidable (r.Halts ctx) := inferInstanceAs (Decidable (_ ∧ _))

/-- The rules that are heard at a node: those for its kind, in the order of the list, up to and including the first
that halts. -/
def heard (target : Target) (ctx : Context) (rules : List Rule) : List Rule :=
  let own := rules.filter fun r => r.target = target
  own.takeWhile (fun r => ¬r.Halts ctx) ++ (own.find? fun r => r.Halts ctx).toList

theorem heard_other {target : Target} {ctx : Context} {r : Rule} (rest : List Rule) (h : r.target ≠ target) :
    heard target ctx (r :: rest) = heard target ctx rest := by
  simp [heard, h]

theorem heard_halts {target : Target} {ctx : Context} {r : Rule} (rest : List Rule) (ht : r.target = target)
    (h : r.Halts ctx) : heard target ctx (r :: rest) = [r] := by
  simp [heard, ht, h]

theorem heard_goes_on {target : Target} {ctx : Context} {r : Rule} (rest : List Rule) (ht : r.target = target)
    (h : ¬r.Halts ctx) : heard target ctx (r :: rest) = r :: heard target ctx rest := by
  simp [heard, ht, h]

/-- What is reported about a node are the findings of the rules heard there; it is halted if one of the rules for
its kind halts. -/
theorem reports_eq_heard (target : Target) (ctx : Context) (rules : List Rule) :
    reports target ctx rules = ((heard target ctx rules).flatMap fun r => r.findings ctx,
      decide (∃ r ∈ rules, r.target = target ∧ r.Halts ctx)) := by
  induction rules with
  | nil => rfl
  | cons r rest ih =>
    have hhalts : (r.halts && !(r.check ctx).isEmpty) = true ↔ r.Halts ctx := by simp [Rule.Halts]
    simp only [reports, hhalts, ih]
    by_cases ht : r.target = target
    · by_cases h : r.Halts ctx
      · simp [ht, h, heard_halts]
      · simp [ht, h, heard_goes_on]
    · simp [ht, heard_other]

/-- A walk files, behind the findings that were there and leaving these as they are, those of its steps one after the
other, and for each step those of the nodes that its path selects from the context's node: what the rules heard at
the node report, and unless one of them halts, what the steps below find from there. -/
theorem walk_any_rules (rules : List Rule) (steps : List Step) (ctx : Context) (res : Findings) :
    walk rules steps ctx res = res.followedBy (below rules ctx steps) ∧
      below rules ctx steps = steps.flatMap fun ⟨target, path, next⟩ =>
        (selected ctx.node path).flatMap fun n =>
          let c := { ctx with node := n }
          ((heard target c rules).flatMap fun r => r.findings c) ++
            if ∃ r ∈ rules, r.target = target ∧ r.Halts c then [] else below rules c next := by
  refine ⟨by rw [walk_eq_foldl, Findings.foldl_add_eq_followedBy], ?_⟩
  induction steps with
  | nil => simp only [below, List.flatMap_nil]
  | cons s rest ih =>
    obtain ⟨target, path, next⟩ := s
    rw [below, List.flatMap_cons, ← ih, reached, resolve_eq_selected]
    simp only [reports_eq_heard, decide_eq_true_eq]

end Rules

end MoquiLint
