import MoquiLint.Component.Owner
import MoquiLint.Proofs.RoundTrip

/-!
# The name that a descriptor declares

A descriptor declares a name by an attribute of its first element, if that element is closed and so are the
elements in it, each by its own name. What stands before and after it does not matter, so a descriptor is
understood as far as it is read.
-/
namespace MoquiLint.Component

open Markup (Attr Content Element Node Token localPart tokenize)

def isTag : Token → Bool
  | .start _ _ | .close _ => true
  | .chars _ | .comment | .instruction _ | .directive => false

/-- Tokens in which every start tag is followed by its closing tag, with such tokens between the two. -/
inductive Nested : List (Token × Nat) → Prop
  | nil : Nested []
  | other {t : Token × Nat} {rest : List (Token × Nat)} (plain : isTag t.1 = false) (more : Nested rest) :
      Nested (t :: rest)
  | element {tag : String} {attrs : List Attr} {line last : Nat} {body rest : List (Token × Nat)}
      (within : Nested body) (more : Nested rest) :
      Nested ((.start tag attrs, line) :: (body ++ (.close tag, last) :: rest))

theorem nested_of_content {ts : List (Token × Nat)} {nodes : List Node} {text : String}
    (h : Content ts nodes text) : Nested ts := by
  induction h with
  | nil => exact .nil
  | chars _ ih => exact .other rfl ih
  | element _ _ _ ihBody ih => exact .element ihBody ih

/-! ### Closing -/

/-- Nested tokens leave the open elements as they are. -/
theorem closes_append {body : List (Token × Nat)} (h : Nested body) (top : String) (others : List String)
    (ts : List (Token × Nat)) : closes (top :: others) (body ++ ts) = closes (top :: others) ts := by
  induction h generalizing top others ts with
  | nil => rfl
  | @other t rest plain _ ih =>
    obtain ⟨t, line⟩ := t
    cases t with
    | start | close => cases plain
    | chars | comment | instruction | directive => exact ih top others ts
  | @element tag attrs line last body rest _ _ ihBody ih =>
    rw [List.cons_append, List.append_assoc, List.cons_append, closes, ihBody, closes, ih]
    simp

/-- The innermost open element is closed after nested tokens, and then the others are. -/
theorem closes_cons_iff {top : String} {others : List String} {ts : List (Token × Nat)} :
    closes (top :: others) ts = true ↔
      ∃ body last after, ts = body ++ (.close top, last) :: after ∧ Nested body ∧ closes others after = true := by
  constructor
  · intro h
    induction hlen : ts.length using Nat.strongRecOn generalizing top others ts with
    | ind n ih =>
      subst hlen
      cases ts with
      | nil => cases h
      | cons t ts =>
        obtain ⟨t, line⟩ := t
        have hts : ts.length < (List.length ((t, line) :: ts)) := Nat.lt_succ_self _
        cases t with
        | start tag attrs =>
          -- first the new element is closed, then the one that was open before
          have hinner : closes (tag :: top :: others) ts = true := h
          obtain ⟨body, last, rest, rfl, hbody, hrest⟩ := ih _ hts hinner rfl
          have hshorter : rest.length < (List.length ((Token.start tag attrs, line) ::
              (body ++ (.close tag, last) :: rest))) := by
            simp only [List.length_cons, List.length_append]
            omega
          obtain ⟨more, final, after, rfl, hmore, hafter⟩ := ih _ hshorter hrest rfl
          refine ⟨(.start tag attrs, line) :: (body ++ (.close tag, last) :: more), final, after, ?_,
            .element hbody hmore, hafter⟩
          simp
        | close name =>
          rw [closes, Bool.and_eq_true, beq_iff_eq] at h
          obtain ⟨rfl, hrest⟩ := h
          exact ⟨[], line, ts, rfl, .nil, hrest⟩
        | chars | comment | instruction | directive =>
          have hmore : closes (top :: others) ts = true := h
          obtain ⟨body, last, after, rfl, hbody, hafter⟩ := ih _ hts hmore rfl
          exact ⟨_ :: body, last, after, rfl, .other rfl hbody, hafter⟩
  · rintro ⟨body, last, after, rfl, hbody, hafter⟩
    rw [closes_append hbody, closes, hafter]
    simp

/-! ### Declaring -/

/-- The value of the last attribute that is called a name, whatever its prefix; empty without one. -/
def nameAmong (attrs : List Attr) : String :=
  ((attrs.reverse.find? fun a => localPart a.name == "name").map (·.value)).getD ""

/-- A descriptor whose first element is properly closed and gives this name, perhaps an empty one. -/
def IsDeclared (descriptor : Bytes) (name : String) : Prop :=
  ∃ before tag attrs line body last after,
    (tokenize false descriptor).1 = before ++ (.start tag attrs, line) :: (body ++ (.close tag, last) :: after) ∧
      (∀ t ∈ before, isTag t.1 = false) ∧ Nested body ∧ name = nameAmong attrs

theorem declaredName?_eq_some_iff {ts : List (Token × Nat)} {name : String} :
    declaredName? ts = some name ↔
      ∃ before tag attrs line body last after,
        ts = before ++ (.start tag attrs, line) :: (body ++ (.close tag, last) :: after) ∧
          (∀ t ∈ before, isTag t.1 = false) ∧ Nested body ∧ name = nameAmong attrs := by
  constructor
  · intro h
    induction ts with
    | nil => cases h
    | cons t ts ih =>
      obtain ⟨t, line⟩ := t
      cases t with
      | start tag attrs =>
        rw [declaredName?] at h
        split at h
        · rename_i hc
          obtain ⟨body, last, after, rfl, hbody, -⟩ := closes_cons_iff.mp hc
          exact ⟨[], tag, attrs, line, body, last, after, rfl, by simp, hbody, (Option.some.inj h).symm⟩
        · cases h
      | close name => cases h
      | chars | comment | instruction | directive =>
        obtain ⟨before, tag, attrs, line', body, last, after, rfl, hbefore, hrest⟩ := ih h
        refine ⟨_ :: before, tag, attrs, line', body, last, after, rfl, ?_, hrest⟩
        exact List.forall_mem_cons.mpr ⟨rfl, hbefore⟩
  · rintro ⟨before, tag, attrs, line, body, last, after, rfl, hbefore, hbody, rfl⟩
    induction before with
    | nil =>
      have hc : closes [tag] (body ++ (.close tag, last) :: after) = true :=
        closes_cons_iff.mpr ⟨body, last, after, rfl, hbody, by rw [closes]⟩
      simp [declaredName?, hc, nameAmong]
    | cons t before ih =>
      obtain ⟨ht, hrest⟩ := List.forall_mem_cons.mp hbefore
      obtain ⟨t, line'⟩ := t
      cases t with
      | start | close => cases ht
      | chars | comment | instruction | directive => exact ih hrest

theorem isDeclared_iff {descriptor : Bytes} {name : String} :
    IsDeclared descriptor name ↔ declaredName? (tokenize false descriptor).1 = some name :=
  declaredName?_eq_some_iff.symm

/-- A folder with a descriptor is called by the declared name if there is one, otherwise by its own. -/
theorem nameOf_cases (folder : String) (descriptor : Bytes) :
    (nameOf folder descriptor ≠ "" ∧ IsDeclared descriptor (nameOf folder descriptor)) ∨
      ((∀ name, IsDeclared descriptor name → name = "") ∧ nameOf folder descriptor = Path.base folder) := by
  simp only [isDeclared_iff]
  unfold nameOf
  cases hd : declaredName? (tokenize false descriptor).1 with
  | none => exact .inr ⟨nofun, rfl⟩
  | some name =>
    by_cases hname : name = ""
    · subst hname
      exact .inr ⟨fun n hn => (Option.some.inj hn).symm, by simp⟩
    · exact .inl (by simp [hname])

/-- A written tree declares the name that its attributes give. -/
theorem isDeclared_document {t : Node} (h : t.IsWritable) : IsDeclared t.document (nameAmong t.attrs) := by
  obtain ⟨ts, line, n, hsplits, helement, hn, hlength⟩ := Markup.readsBack_of_isWritable false h 1 []
  rw [List.append_nil] at hsplits
  have hattrs : n.attrs = t.attrs := by
    obtain ⟨tag, attrs, children, text, l⟩ := t
    cases helement with
    | mk distinct within =>
      simp only [Node.unplaced, Node.mk.injEq] at hn
      exact hn.2.1
  cases helement with
  | @mk tag attrs start last body children inner distinct within =>
    refine ⟨[], tag, attrs, start, body, last, [], ?_, by simp, nested_of_content within, ?_⟩
    · rw [Markup.tokenize_document hsplits hlength]
      rfl
    · rw [← hattrs]

end MoquiLint.Component
