import MoquiLint.Proofs.Grammar
import MoquiLint.Proofs.Newlines

/-!
# Lines of a parsed document

Each token is on a line of the file, no token is on a line before that of the token in front of it, and splitting
ends on the last of these lines or after it. The errors of a document and the elements of its tree take their lines
from there.
-/
namespace MoquiLint.Markup
open Text (encode encode_append encode_decode)

/-! ### The lines of tokens -/

/-- A line between that of a cursor and the one after the last newline byte that is left. -/
def Cursor.Spans (c : Cursor) (line : Nat) : Prop := c.line ≤ line ∧ line ≤ c.line + newlines (encode c.rest)

theorem Cursor.spans_self (c : Cursor) : c.Spans c.line := ⟨Nat.le_refl _, Nat.le_add_right _ _⟩

section
variable {c c' : Cursor} {piece : Text} {line : Nat}

theorem Cursor.Meets.spans (h : c.Meets line) : c.Spans line :=
  ⟨h.1, Nat.le_trans h.2 (Nat.add_le_add_left (lineBreaks_le_newlines c.rest) c.line)⟩

theorem Cursor.Passes.spans (h : c.Passes piece c') (hl : c'.Spans line) : c.Spans line := by
  obtain ⟨hfirst, hlast⟩ := hl
  have hpiece := lineBreaks_le_newlines piece
  have hrest : newlines (encode c.rest) = newlines (encode piece) + newlines (encode c'.rest) := by
    rw [h.rest, encode_append, newlines_append]
  have hline := h.line
  exact ⟨by omega, by omega⟩

/-- Also where the rest is read anew, no line is added to it. -/
theorem Cursor.Leaves.spans (h : c.Leaves piece c') (hl : c'.Spans line) : c.Spans line := by
  obtain hp | ⟨label, cs, c₁, -, hcs, hp, rfl⟩ := h
  · exact hp.spans hl
  · have hread := newlines_decode_le hcs (encode c₁.rest)
    exact hp.spans ⟨hl.1, Nat.le_trans hl.2 (Nat.add_le_add_left hread c₁.line)⟩

end

def Ending.line : Ending → Nat
  | .complete line | .broken line _ => line

def placesOf (tokens : List (Token × Nat)) (ending : Ending) : List Nat := tokens.map Prod.snd ++ [ending.line]

theorem split_lines (charsets : Bool) (fuel : Nat) (c : Cursor) :
    (placesOf (split charsets fuel c).1 (split charsets fuel c).2).Pairwise (· ≤ ·) ∧
      ∀ line ∈ placesOf (split charsets fuel c).1 (split charsets fuel c).2, c.Spans line := by
  have hend : ∀ {c : Cursor} {ending : Ending}, c.Spans ending.line →
      (placesOf [] ending).Pairwise (· ≤ ·) ∧ ∀ line ∈ placesOf [] ending, c.Spans line := by
    intro c ending h
    exact ⟨List.pairwise_singleton _ _, fun line hm => List.mem_singleton.mp hm ▸ h⟩
  induction fuel generalizing c with
  | zero => exact hend c.spans_self
  | succ fuel ih =>
    have hread := isRead_nextTokens charsets c
    unfold split
    split
    · exact hend c.spans_self
    · split
      · rename_i line fault he
        rw [he] at hread
        exact hend (Cursor.Meets.spans hread)
      · rename_i tokens c' he
        rw [he] at hread
        obtain ⟨piece, hleaves⟩ := hread
        obtain ⟨hsorted, hspans⟩ := ih c'
        have hfirst : ∀ line ∈ (tokens.map (·, c'.line)).map Prod.snd, line = c'.line := by
          intro line hm
          simp only [List.map_map, List.mem_map] at hm
          obtain ⟨t, -, rfl⟩ := hm
          rfl
        simp only [placesOf, List.map_append, List.append_assoc] at hsorted hspans ⊢
        refine ⟨List.pairwise_append.mpr ⟨?_, hsorted, ?_⟩, ?_⟩
        · exact List.pairwise_of_forall_mem_list fun a ha b hb => Nat.le_of_eq ((hfirst a ha).trans (hfirst b hb).symm)
        · intro a ha b hb
          exact hfirst a ha ▸ (hspans b hb).1
        · intro line hm
          refine hleaves.spans ?_
          rcases List.mem_append.mp hm with hm | hm
          · exact hfirst line hm ▸ c'.spans_self
          · exact hspans line hm

/-- Every place of a document is on a line of its file. -/
theorem tokenize_lines (data : Bytes) :
    (placesOf (tokenize true (dropMark data)).1 (tokenize true (dropMark data)).2).Pairwise (· ≤ ·) ∧
      ∀ line ∈ placesOf (tokenize true (dropMark data)).1 (tokenize true (dropMark data)).2,
        1 ≤ line ∧ line ≤ 1 + newlines data := by
  have hmark : newlines (dropMark data) ≤ newlines data := by
    unfold dropMark
    split
    · exact newlines_drop_le _ data
    · exact Nat.le_refl _
  obtain ⟨hsorted, hspans⟩ := split_lines true (2 * (dropMark data).length + 2) ⟨Text.decode (dropMark data), 1⟩
  refine ⟨hsorted, fun line hm => ?_⟩
  obtain ⟨hfirst, hlast⟩ := hspans line hm
  rw [encode_decode] at hlast
  exact ⟨hfirst, Nat.le_trans hlast (Nat.add_le_add_left hmark 1)⟩

/-! ### The lines of a tree -/

def Node.preorder : Node → List Node
  | ⟨tag, attrs, children, text, line⟩ => ⟨tag, attrs, children, text, line⟩ :: children.flatMap preorder

def Node.start (n : Node) : String × List Attr × Int := (n.tag, n.attrs, n.line)

def starts (tokens : List (Token × Nat)) : List (String × List Attr × Int) :=
  tokens.filterMap fun
    | (.start tag attrs, line) => some (tag, attrs, line)
    | _ => none

theorem starts_append (ts us : List (Token × Nat)) : starts (ts ++ us) = starts ts ++ starts us :=
  List.filterMap_append

theorem starts_significant (ts : List (Token × Nat)) : starts (significant ts) = starts ts := by
  induction ts with
  | nil => rfl
  | cons t ts ih =>
    obtain ⟨t, line⟩ := t
    cases t with
    | start tag attrs => exact congrArg ((tag, attrs, (line : Int)) :: ·) ih
    | close | chars | comment | instruction | directive => exact ih

/-- Content has the start tags of its elements and of those below them, in document order. -/
theorem Content.starts_eq {ts : List (Token × Nat)} {nodes : List Node} {text : String} (h : Content ts nodes text) :
    starts ts = (nodes.flatMap Node.preorder).map Node.start := by
  induction h with
  | nil => rfl
  | chars _ ih => exact ih
  | @element tag attrs line last body rest children nodes inner text _ _ _ ihBody ih =>
    have hsplit : starts ((.start tag attrs, line) :: (body ++ (.close tag, last) :: rest)) =
        (tag, attrs, (line : Int)) :: (starts body ++ starts rest) :=
      congrArg ((tag, attrs, (line : Int)) :: ·) (starts_append body _)
    rw [hsplit, ihBody, ih, List.flatMap_cons, Node.preorder, List.cons_append, List.map_cons, List.map_append]
    rfl

theorem starts_of_blank {ts : List (Token × Nat)} (h : ∀ t ∈ ts, Blank t) : starts ts = [] := by
  refine List.filterMap_eq_nil_iff.mpr fun t ht => ?_
  obtain ⟨s, hs, -⟩ := h t ht
  obtain ⟨t, line⟩ := t
  obtain rfl : t = .chars s := hs
  rfl

theorem complete_of_build {path : String} {tokens : List (Token × Nat)} {ending : Ending} {root : Node}
    (h : build path tokens ending = .ok root) : ∃ line, ending = .complete line := by
  cases ending with
  | broken line fault =>
    unfold build at h
    split at h <;> cases h
  | complete line => exact ⟨line, rfl⟩

/-- A tree has the start tags of its document. -/
theorem starts_of_build {path : String} {tokens : List (Token × Nat)} {ending : Ending} {root : Node}
    (h : build path tokens ending = .ok root) : starts tokens = root.preorder.map Node.start := by
  obtain ⟨line, rfl⟩ := complete_of_build h
  obtain ⟨before, body, after, hts, hbefore, helement, hafter⟩ := isDocument_of_build h
  have hbody := helement.content.starts_eq
  rw [← starts_significant, hts, starts_append, starts_append, starts_of_blank hbefore, starts_of_blank hafter, hbody,
    List.nil_append, List.append_nil, List.flatMap_singleton]

/-! ### The lines of errors -/

theorem Builder.line_of_feedAll {b : Builder} {ts : List (Token × Nat)} {line : Nat} {m : Misfit}
    (h : b.feedAll ts = .error (line, m)) : line ∈ ts.map Prod.snd := by
  induction ts generalizing b with
  | nil => cases h
  | cons t ts ih =>
    obtain ⟨t, l⟩ := t
    unfold Builder.feedAll at h
    split at h
    · cases h
      exact List.mem_cons_self
    · exact List.mem_cons_of_mem _ (ih h)

theorem error_of_build {path : String} {tokens : List (Token × Nat)} {ending : Ending} {e : ParseError}
    (h : build path tokens ending = .error e) : e.path = path ∧ ∃ line ∈ placesOf tokens ending, e.line = line := by
  unfold build at h
  split at h
  · rename_i line m hf
    cases h
    exact ⟨rfl, line, List.mem_append_left _ (Builder.line_of_feedAll hf), rfl⟩
  · split at h
    · cases h
      exact ⟨rfl, _, List.mem_append_right _ List.mem_cons_self, rfl⟩
    · split at h
      · cases h
        exact ⟨rfl, _, List.mem_append_right _ List.mem_cons_self, rfl⟩
      · cases h

/-- The lines of start tags are among those of their tokens, in the same order. -/
theorem lines_starts_sublist (tokens : List (Token × Nat)) (ending : Ending) :
    ((starts tokens).map fun s => s.2.2).Sublist ((placesOf tokens ending).map Int.ofNat) := by
  have hstarts : ((starts tokens).map fun s => s.2.2).Sublist ((tokens.map Prod.snd).map Int.ofNat) := by
    induction tokens with
    | nil => exact .slnil
    | cons t tokens ih =>
      obtain ⟨t, line⟩ := t
      cases t with
      | start tag attrs => exact ih.cons_cons _
      | close | chars | comment | instruction | directive => exact ih.cons _
  refine hstarts.trans ?_
  rw [placesOf, List.map_append]
  exact List.sublist_append_left _ _

theorem parse_eq_build (path : String) (data : Bytes) : parse path data =
    build path (tokenize true (dropMark data)).1 (tokenize true (dropMark data)).2 := rfl

/-- An error of a document has its path and names a line of its file. If there is none, the elements of the tree are
on such lines, and no element is on a line before that of the element in front of it. -/
theorem parse_lines (path : String) (data : Bytes) :
    match parse path data with
    | .error e => e.path = path ∧ 1 ≤ e.line ∧ e.line ≤ 1 + newlines data ∧
        e.detail = Text.ofString ("XML parse error: line " ++ toString e.line ++ ": ") ++ e.message
    | .ok root => (root.preorder.map Node.line).Pairwise (· ≤ ·) ∧
        ∀ n ∈ root.preorder, 1 ≤ n.line ∧ n.line ≤ 1 + newlines data := by
  obtain ⟨hsorted, hplaces⟩ := tokenize_lines data
  cases hp : parse path data with
  | error e =>
    obtain ⟨hpath, line, hm, hline⟩ := error_of_build ((parse_eq_build path data).symm.trans hp)
    obtain ⟨hfirst, hlast⟩ := hplaces line hm
    have hpos : e.line > 0 := by omega
    refine ⟨hpath, by omega, by omega, ?_⟩
    simp only [ParseError.detail, if_pos hpos]
  | ok root =>
    have hsub := lines_starts_sublist (tokenize true (dropMark data)).1 (tokenize true (dropMark data)).2
    rw [starts_of_build ((parse_eq_build path data).symm.trans hp), List.map_map] at hsub
    have hsub : (root.preorder.map Node.line).Sublist _ := hsub
    refine ⟨(List.pairwise_map.mpr (hsorted.imp Int.ofNat_le.mpr)).sublist hsub, fun n hn => ?_⟩
    obtain ⟨line, hm, hline⟩ := List.mem_map.mp (hsub.subset (List.mem_map_of_mem hn))
    obtain ⟨hfirst, hlast⟩ := hplaces line hm
    rw [← hline]
    exact ⟨Int.ofNat_le.mpr hfirst, by simp only [Int.ofNat_eq_natCast]; omega⟩

/-- An element is left open at the end of the third line. -/
theorem parse_lines_unclosed : ∃ e, parse "a.xml" (utf8 "<a>\n<b/>\n") = .error e ∧
    e.path = "a.xml" ∧ e.line = 3 ∧ e.line ≤ 1 + newlines (utf8 "<a>\n<b/>\n") := by
  have h := parse_lines "a.xml" (utf8 "<a>\n<b/>\n")
  have hline : ((parse "a.xml" (utf8 "<a>\n<b/>\n")).mapError ParseError.line).map (fun _ => ()) = .error 3 := by
    decide +kernel
  cases hp : parse "a.xml" (utf8 "<a>\n<b/>\n") with
  | ok root =>
    rw [hp] at hline
    cases hline
  | error e =>
    rw [hp] at h hline
    exact ⟨e, rfl, h.1, Except.error.inj hline, h.2.2.1⟩

end MoquiLint.Markup
