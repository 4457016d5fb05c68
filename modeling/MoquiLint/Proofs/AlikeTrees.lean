import Mathlib.Data.List.Find
import Mathlib.Data.List.Forall2
import Mathlib.Data.List.Nodup
import MoquiLint.Proofs.ListedRules

/-!
# What an evaluation looks at

Of a document the rules see tags, attributes by name, the order of child elements and whether the actions of a
service are blank. Documents that agree in these have the same findings, whatever the order of their attributes,
their line numbers and the rest of their character data.
-/
namespace MoquiLint

namespace Markup

/-- Trees of the same shape and tags, whose elements have the same attributes in any order, each name once. -/
inductive Node.Alike : Node → Node → Prop
  | mk {tag : String} {attrs attrs' : List Attr} {children children' : List Node} {text text' : String}
      {line line' : Int} (distinct : (attrs.map Attr.name).Nodup) (attrs_perm : attrs.Perm attrs')
      (children_alike : List.Forall₂ Alike children children') :
      Alike ⟨tag, attrs, children, text, line⟩ ⟨tag, attrs', children', text', line'⟩

namespace Node.Alike

variable {n m : Node}

theorem tag_eq (h : Alike n m) : n.tag = m.tag := by
  cases h
  rfl

theorem attrs_perm (h : Alike n m) : n.attrs.Perm m.attrs := by
  cases h with
  | mk _ hp _ => exact hp

theorem children (h : Alike n m) : List.Forall₂ Alike n.children m.children := by
  cases h with
  | mk _ _ hc => exact hc

/-- The first attribute of a name is the only one, so it is found in any order. -/
theorem attr?_eq (h : Alike n m) (name : String) : n.attr? name = m.attr? name := by
  cases h with
  | mk hn hp _ =>
    refine congrArg (Option.map Attr.value) (List.find?_eq_find?_of_perm hp ?_)
    rintro a ⟨ha, hname⟩ b ⟨hb, hname'⟩
    exact List.inj_on_of_nodup_map hn ha hb ((beq_iff_eq.mp hname).trans (beq_iff_eq.mp hname').symm)

theorem value_eq (h : Alike n m) (name : String) : n.value name = m.value name := by
  rw [value, value, h.attr?_eq]

theorem childrenNamed (h : Alike n m) (tag : String) :
    List.Forall₂ Alike (n.childrenNamed tag) (m.childrenNamed tag) :=
  List.rel_filter (fun _ _ hc => by simp only [hc.tag_eq]) h.children

end Node.Alike

end Markup

namespace Rules

open Markup (Node)
open Markup.Node (Alike)

/-- Conditions that hold alike decide alike about a row. -/
@[congr]
theorem row_congr {p q : Prop} {hp : Decidable p} [Decidable q] {f g : Finding} (h : p ↔ q) (hf : f = g) :
    row p f = row q g := by
  subst hf
  simp only [row, h]

theorem flatMap_related {R : Node → Node → Prop} {ns ms : List Node} (h : List.Forall₂ R ns ms)
    {f g : Node → List Finding} (hf : ∀ n m, R n m → f n = g m) : ns.flatMap f = ms.flatMap g := by
  induction h with
  | nil => rfl
  | cons hn _ ih => rw [List.flatMap_cons, List.flatMap_cons, hf _ _ hn, ih]

theorem exists_mem_alike {ns ms : List Node} (h : List.Forall₂ Alike ns ms) {p : Node → Prop}
    (hp : ∀ n m, Alike n m → (p n ↔ p m)) : (∃ n ∈ ns, p n) ↔ ∃ m ∈ ms, p m := by
  induction h with
  | nil => rfl
  | cons hn _ ih => simp only [List.exists_mem_cons_iff, hp _ _ hn, ih]

section
variable {n m : Node}

theorem lacks_alike (h : Alike n m) (name : String) : Lacks n name ↔ Lacks m name := by
  rw [Lacks, Lacks, h.attr?_eq]

theorem childless_alike (h : Alike n m) (tag : String) : Childless n tag ↔ Childless m tag :=
  not_congr (exists_mem_alike h.children fun _ _ hc => by rw [hc.tag_eq])

end

/-! ### The tables -/

namespace EntityTable

variable {e e' n n' : Node}

theorem title_alike (h : Alike e e') : title e = title e' := by
  simp only [title, lacks_alike h, h.value_eq]

theorem subject_alike (h : Alike e e') : subject e = subject e' := by
  rw [subject, subject, title_alike h]

theorem ownRows_alike (h : Alike e e') : ownRows e = ownRows e' := by
  simp only [ownRows, title_alike h, subject_alike h, lacks_alike h, childless_alike h]

theorem fieldRows_alike (h : Alike e e') (hn : Alike n n') : fieldRows e n = fieldRows e' n' := by
  simp only [fieldRows, namedFieldRows, subject_alike h, lacks_alike h, h.value_eq, lacks_alike hn,
    hn.attr?_eq, hn.value_eq]

theorem keyRows_alike (h : Alike e e') : keyRows e = keyRows e' := by
  have hkey : (∃ f ∈ e.childrenNamed "field", ¬Lacks f "name" ∧ f.attr? "is-pk" = some "true") ↔
      ∃ f ∈ e'.childrenNamed "field", ¬Lacks f "name" ∧ f.attr? "is-pk" = some "true" :=
    exists_mem_alike (h.childrenNamed "field") fun f f' hf => by rw [lacks_alike hf, hf.attr?_eq]
  simp only [keyRows, hkey, subject_alike h]

theorem relationshipRows_alike (h : Alike e e') (hn : Alike n n') :
    relationshipRows e n = relationshipRows e' n' := by
  have hown : ownRelationshipRows e n = ownRelationshipRows e' n' := by
    simp only [ownRelationshipRows, subject_alike h, lacks_alike hn, hn.value_eq, childless_alike hn]
  have hmaps : (n.childrenNamed "key-map").flatMap (keyMapRows e) =
      (n'.childrenNamed "key-map").flatMap (keyMapRows e') :=
    flatMap_related (hn.childrenNamed "key-map") fun k k' hk => by
      simp only [keyMapRows, lacks_alike hk, subject_alike h]
  rw [relationshipRows, relationshipRows, hown, hmaps]

theorem entityRows_alike (h : Alike e e') : entityRows e = entityRows e' := by
  rw [entityRows, entityRows, ownRows_alike h, keyRows_alike h,
    flatMap_related (h.childrenNamed "field") fun _ _ hf => fieldRows_alike h hf,
    flatMap_related (h.childrenNamed "relationship") fun _ _ hr => relationshipRows_alike h hr]

theorem table_alike (h : Alike n n') : table n = table n' := by
  have hdocument : documentRows n = documentRows n' := by
    simp only [documentRows, h.attrs_perm.mem_iff]
  rw [table, table, hdocument,
    flatMap_related (h.childrenNamed "entity") fun _ _ he => entityRows_alike he]

end EntityTable

namespace ServiceTable

variable {s s' n n' : Node}

/-- The first actions of two services are both blank or both not. -/
def SameActions (s s' : Node) : Prop :=
  ∀ a ∈ s.child? "actions", ∀ a' ∈ s'.child? "actions", a.isBlank = a'.isBlank

theorem unnamed_alike (h : Alike s s') : Unnamed s ↔ Unnamed s' := by
  rw [Unnamed, Unnamed, lacks_alike h, lacks_alike h]

theorem subject_alike (h : Alike s s') : subject s = subject s' := by
  simp only [subject, title, unnamed_alike h, h.value_eq]

theorem ownRows_alike (h : Alike s s') : ownRows s = ownRows s' := by
  simp only [ownRows, subject_alike h, unnamed_alike h, lacks_alike h, h.value_eq, h.attr?_eq]

theorem parameterRows_alike (h : Alike s s') (hn : Alike n n') :
    parameterRows s n = parameterRows s' n' := by
  simp only [parameterRows, subject_alike h, lacks_alike hn, hn.value_eq]

theorem parameters_alike (h : Alike s s') : List.Forall₂ Alike (parameters s) (parameters s') := by
  have hc := h.childrenNamed "in-parameters"
  unfold parameters
  generalize s.childrenNamed "in-parameters" = ns, s'.childrenNamed "in-parameters" = ns' at hc ⊢
  cases hc with
  | nil => exact .nil
  | cons hfirst _ => exact hfirst.childrenNamed "parameter"

/-- The rows about actions are the only ones that depend on character data. -/
theorem actionsRows_alike (h : Alike s s') (ha : SameActions s s') : actionsRows s = actionsRows s' := by
  have hc := h.childrenNamed "actions"
  rw [SameActions, child?_eq_head?, child?_eq_head?] at ha
  unfold actionsRows
  generalize s.childrenNamed "actions" = ns, s'.childrenNamed "actions" = ns' at hc ha ⊢
  cases hc with
  | nil => rw [subject_alike h]
  | @cons a a' _ _ hfirst _ =>
    have hblank : Blank a ↔ Blank a' := by
      rw [← isBlank_iff, ← isBlank_iff, ha a rfl a' rfl]
    simp only [hblank, subject_alike h]

theorem serviceRows_alike (h : Alike s s') (ha : SameActions s s') : serviceRows s = serviceRows s' := by
  rw [serviceRows, serviceRows, ownRows_alike h, actionsRows_alike h ha,
    flatMap_related (parameters_alike h) fun _ _ hp => parameterRows_alike h hp]

theorem table_alike (h : Alike n n')
    (ha : List.Forall₂ SameActions (n.childrenNamed "service") (n'.childrenNamed "service")) :
    table n = table n' := by
  have hdocument : documentRows n = documentRows n' := by
    simp only [documentRows, h.attrs_perm.mem_iff]
  obtain ⟨hlength, hs⟩ := List.forall₂_iff_zip.mp (h.childrenNamed "service")
  have hboth : List.Forall₂ (fun s s' => Alike s s' ∧ SameActions s s') (n.childrenNamed "service")
      (n'.childrenNamed "service") :=
    List.forall₂_iff_zip.mpr ⟨hlength, fun hm => ⟨hs hm, (List.forall₂_iff_zip.mp ha).2 hm⟩⟩
  rw [table, table, hdocument, flatMap_related hboth fun _ _ h => serviceRows_alike h.1 h.2]

end ServiceTable

/-! ### Evaluation -/

theorem findings_alike {root root' : Node} (h : Alike root root')
    (ha : List.Forall₂ ServiceTable.SameActions (root.childrenNamed "service") (root'.childrenNamed "service"))
    (kind : DocKind) : (catalogOf kind).findings root = (catalogOf kind).findings root' := by
  cases kind with
  | entity =>
    rw [catalogOf, EntityTable.findings_catalog, EntityTable.findings_catalog, EntityTable.table_alike h]
  | service =>
    rw [catalogOf, ServiceTable.findings_catalog, ServiceTable.findings_catalog, ServiceTable.table_alike h ha]

/-- Documents have the same findings if they agree in what the rules look at. -/
theorem evaluate_alike {root root' : Node} (h : Alike root root')
    (ha : List.Forall₂ ServiceTable.SameActions (root.childrenNamed "service") (root'.childrenNamed "service"))
    (d : Dialect) : evaluate (some root) d = evaluate (some root') d := by
  have he : ∀ kind, (catalogOf kind).evaluate root = (catalogOf kind).evaluate root' := by
    intro kind
    rw [evaluate_eq_filed (severity_of_mem_catalog kind), evaluate_eq_filed (severity_of_mem_catalog kind),
      findings_alike h ha kind]
  simp only [evaluate, Option.map_some, h.tag_eq, he]

/-- Attributes in another order, other lines and other character data. -/
theorem evaluate_alike_service :
    let actions (text : String) (line : Int) : Node := ⟨"actions", [], [], text, line⟩
    let service : Node := ⟨"service", [⟨"verb", "get"⟩, ⟨"noun", "order"⟩],
      [actions " " 3, actions "log" 4], "", 2⟩
    let service' : Node := ⟨"service", [⟨"noun", "order"⟩, ⟨"verb", "get"⟩],
      [actions "" 5, actions " " 5], "note", 5⟩
    let root : Node := ⟨"services", [], [service], "", 1⟩
    let root' : Node := ⟨"services", [], [service'], " ", 0⟩
    evaluate (some root) .auto = evaluate (some root') .auto ∧
      (evaluate (some root') .auto).issueList.map Finding.rule = ["actions-empty"] := by
  intro actions service service' root root'
  have hactions : ∀ text text' line line', Alike (actions text line) (actions text' line') :=
    fun _ _ _ _ => .mk List.nodup_nil .nil .nil
  have hservice : Alike service service' :=
    .mk (by decide) (.swap _ _ _) (.cons (hactions _ _ _ _) (.cons (hactions _ _ _ _) .nil))
  have hsame : ServiceTable.SameActions service service' := by
    rintro _ ⟨⟩ _ ⟨⟩
    decide +kernel
  have hroot : Alike root root' := .mk List.nodup_nil .nil (.cons hservice .nil)
  have hservices : List.Forall₂ ServiceTable.SameActions (root.childrenNamed "service")
      (root'.childrenNamed "service") := .cons hsame .nil
  exact ⟨evaluate_alike hroot hservices .auto, by decide +kernel⟩

end Rules

end MoquiLint
