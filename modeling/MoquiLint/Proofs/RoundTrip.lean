import MoquiLint.Proofs.Grammar
import MoquiLint.Proofs.WrittenForm

/-!
# Parsing undoes writing

The tokens of a written tree derive that tree in the grammar of documents, so that reading the written
document gives back the tree, except for the lines of its elements.
-/
namespace MoquiLint.Markup
open Text (ofChars)

/-- Trees that a document can hold: names are names, attributes are told apart by them, and values and
character data are legal. -/
inductive Node.IsWritable : Node → Prop
  | mk {tag : String} {attrs : List Attr} {children : List Node} {text : String} {line : Int}
      (name : IsTagName tag) (values : ∀ a ∈ attrs, a.IsWritable)
      (distinct : (attrs.map Attr.name).Nodup) (legal : IsLegal text)
      (below : ∀ c ∈ children, c.IsWritable) : IsWritable ⟨tag, attrs, children, text, line⟩

/-- Splitting takes the tokens off one place of a document and goes on at another. -/
def Splits (charsets : Bool) (c : Cursor) (ts : List (Token × Nat)) (c' : Cursor) : Prop :=
  ∀ fuel, split charsets (ts.length + fuel) c =
    (ts ++ (split charsets fuel c').1, (split charsets fuel c').2)

theorem Splits.refl (charsets : Bool) (c : Cursor) : Splits charsets c [] c := by
  intro fuel
  simp

theorem Splits.trans {charsets : Bool} {c c' c'' : Cursor} {ts us : List (Token × Nat)}
    (h : Splits charsets c ts c') (h' : Splits charsets c' us c'') :
    Splits charsets c (ts ++ us) c'' := by
  intro fuel
  rw [List.length_append, Nat.add_assoc, h, h']
  simp

theorem Splits.next {charsets : Bool} {c c' : Cursor} {t : Token} (hc : c.rest ≠ [])
    (h : nextTokens charsets c = .ok ([t], c')) : Splits charsets c [(t, c'.line)] c' := by
  intro fuel
  rw [List.length_singleton, Nat.add_comm, split]
  simp [hc, h]

theorem Content.significant_eq {ts : List (Token × Nat)} {nodes : List Node} {text : String}
    (h : Content ts nodes text) : significant ts = ts := by
  induction h with
  | nil => rfl
  | chars _ ih => exact congrArg (_ :: ·) ih
  | element _ _ _ ihBody ih =>
    simp only [significant, List.filter_cons, List.filter_append, Token.isSilent] at ihBody ih ⊢
    simp [ihBody, ih]

/-- The written form of an element is split into the tokens of an element, which has the same tree up to
lines, and no more of them than it has characters. -/
def Node.ReadsBack (charsets : Bool) (t : Node) : Prop :=
  ∀ line rest, ∃ ts line' n, Splits charsets ⟨ofChars t.written ++ rest, line⟩ ts ⟨rest, line'⟩ ∧
    Element ts n ∧ n.unplaced = t.unplaced ∧ ts.length ≤ t.written.length

theorem splits_text (charsets : Bool) {s : String} (h : IsLegal s) (line : Nat) (rest : Text) :
    ∃ ts line', Splits charsets ⟨ofChars (escape s) ++ .char '<' :: rest, line⟩ ts
      ⟨.char '<' :: rest, line'⟩ ∧ Content ts [] s ∧ ts.length ≤ (escape s).length := by
  by_cases hs : s = ""
  · subst hs
    exact ⟨[], line, Splits.refl charsets _, .nil, by simp⟩
  · obtain ⟨line', hn⟩ := nextTokens_text charsets h hs line rest
    have hne : escape s ≠ [] := by
      cases hl : s.toList with
      | nil => exact absurd (String.toList_eq_nil_iff.mp hl) hs
      | cons c cs =>
        obtain ⟨d, ds, hd, -⟩ := escapeChar_head c
        simp [escape, hl, hd]
    have hc : Content [(.chars s, line')] [] (s ++ "") := .chars .nil
    refine ⟨_, line', Splits.next (by simp) hn, by simpa using hc, ?_⟩
    exact List.length_pos_iff.mpr hne

theorem splits_children {charsets : Bool} {children : List Node}
    (h : ∀ c ∈ children, c.ReadsBack charsets) (line : Nat) (rest : Text) :
    ∃ ts line' ns, Splits charsets ⟨ofChars (children.flatMap Node.written) ++ rest, line⟩ ts
        ⟨rest, line'⟩ ∧
      Content ts ns "" ∧ ns.map Node.unplaced = children.map Node.unplaced ∧
      ts.length ≤ (children.flatMap Node.written).length := by
  induction children generalizing line with
  | nil => exact ⟨[], line, [], Splits.refl charsets _, .nil, rfl, by simp⟩
  | cons c cs ih =>
    obtain ⟨ts, line₁, n, hs, he, hn, hl⟩ :=
      h c (by simp) line (ofChars (cs.flatMap Node.written) ++ rest)
    obtain ⟨us, line₂, ns, hs', hc, hns, hl'⟩ := ih (fun d hd => h d (by simp [hd])) line₁
    refine ⟨ts ++ us, line₂, n :: ns, ?_, ?_, by simp [hn, hns], ?_⟩
    · rw [List.flatMap_cons, Text.ofChars_append, List.append_assoc]
      exact hs.trans hs'
    · simpa using he.content.append hc
    · rw [List.flatMap_cons, List.length_append, List.length_append]
      omega

theorem children_written_head (children : List Node) (closing : List Char) (rest : Text) :
    ∃ more, ofChars (children.flatMap Node.written) ++ (ofChars ('<' :: closing) ++ rest) =
      .char '<' :: more := by
  cases children with
  | nil => exact ⟨_, rfl⟩
  | cons c cs =>
    obtain ⟨tag, attrs, children, text, line⟩ := c
    rw [List.flatMap_cons, Node.written]
    exact ⟨_, rfl⟩

theorem readsBack_of_isWritable (charsets : Bool) {t : Node} (h : t.IsWritable) :
    t.ReadsBack charsets := by
  induction h with
  | @mk tag attrs children text line₀ name values distinct legal _ ih =>
    intro line rest
    let closing := ofChars (['<', '/'] ++ tag.toList ++ ['>']) ++ rest
    let below := ofChars (children.flatMap Node.written) ++ closing
    obtain ⟨more, hm⟩ := children_written_head children ('/' :: (tag.toList ++ ['>'])) rest
    obtain ⟨line₁, h₁⟩ := nextTokens_start charsets name values line (ofChars (escape text) ++ below)
    obtain ⟨ts, line₂, h₂, hc₂, hl₂⟩ := splits_text charsets legal line₁ more
    obtain ⟨us, line₃, ns, h₃, hc₃, hn, hl₃⟩ := splits_children ih line₂ closing
    have h₄ := nextTokens_close charsets name line₃ rest
    have hbelow : below = .char '<' :: more := hm
    rw [← hbelow] at h₂
    have hs := (Splits.next (by simp) h₁).trans
      (h₂.trans (h₃.trans (Splits.next (by simp [closing]) h₄)))
    have he : Element ((.start tag attrs, line₁) :: (ts ++ us ++ [(.close tag, line₃)]))
        ⟨tag, attrs, [] ++ ns, text ++ "", line₁⟩ := .mk distinct (hc₂.append hc₃)
    rw [List.nil_append, String.append_empty] at he
    have hw : (⟨tag, attrs, children, text, line₀⟩ : Node).written =
        ['<'] ++ tag.toList ++ attrs.flatMap Attr.written ++ ['>'] ++ escape text ++
          children.flatMap Node.written ++ (['<', '/'] ++ tag.toList ++ ['>']) := by
      simp [Node.written]
    refine ⟨_, line₃, _, ?_, he, by simp [Node.unplaced, hn], ?_⟩
    · have hr : ofChars (⟨tag, attrs, children, text, line₀⟩ : Node).written ++ rest =
          ofChars (['<'] ++ tag.toList ++ attrs.flatMap Attr.written ++ ['>']) ++
            (ofChars (escape text) ++ below) := by
        rw [hw]
        simp only [below, closing, Text.ofChars_append, List.append_assoc]
      rw [hr]
      simpa using hs
    · rw [hw]
      simp only [List.length_cons, List.length_append, List.length_nil]
      omega

theorem dropMark_document (t : Node) : dropMark t.document = t.document := by
  obtain ⟨tag, attrs, children, text, line⟩ := t
  have hb : String.utf8EncodeChar '<' = [60] := by decide
  rw [Node.document, Node.written, utf8_eq_flatMap, String.toList_ofList]
  simp [dropMark, byteOrderMark, hb]

/-- The written tree is all there is to split, and there is fuel for all its tokens. -/
theorem tokenize_document {charsets : Bool} {t : Node} {ts : List (Token × Nat)} {line : Nat}
    (h : Splits charsets ⟨ofChars t.written, 1⟩ ts ⟨[], line⟩) (hl : ts.length ≤ t.written.length) :
    tokenize charsets t.document = (ts, .complete line) := by
  have hf : t.written.length ≤ t.document.length := by
    simpa [Node.document] using length_le_length_utf8 (String.ofList t.written)
  obtain ⟨fuel, hfuel⟩ : ∃ fuel, 2 * t.document.length + 2 = ts.length + (fuel + 1) :=
    ⟨2 * t.document.length + 1 - ts.length, by omega⟩
  have hd : Text.decode t.document = ofChars t.written := by
    rw [Node.document, Text.decode_utf8, Text.ofString, String.toList_ofList]
  rw [tokenize, hd, hfuel, h]
  simp [split]

/-- Reading the document of a writable tree gives back the tree, up to the lines of its elements. -/
theorem parse_document {t : Node} (h : t.IsWritable) (path : String) :
    (parse path t.document).map Node.unplaced = .ok t.unplaced := by
  obtain ⟨ts, line, n, hs, he, hn, hl⟩ := readsBack_of_isWritable true h 1 []
  rw [List.append_nil] at hs
  have hb : build path ts (.complete line) = .ok n := by
    refine build_of_isDocument path ?_ line
    rw [he.content.significant_eq]
    exact ⟨[], ts, [], by simp, by simp, he, by simp⟩
  simp only [parse, dropMark_document, tokenize_document hs hl, hb, Except.map, hn]

theorem parse_document_escapes :
    let note : Node := ⟨"m:note", [⟨"a", ""⟩, ⟨"é", "'\r\n"⟩], [], "]]>\r", 5⟩
    let root : Node := ⟨"entities", [⟨"xsi:schema", "<\"&>\t"⟩], [note, note], " & ", 2⟩
    root.IsWritable ∧ (parse "a.xml" root.document).map Node.unplaced = .ok root.unplaced := by
  intro note root
  have ha : Attr.IsWritable ⟨"a", ""⟩ := by decide +kernel
  have hé : Attr.IsWritable ⟨"é", "'\r\n"⟩ := by decide +kernel
  have hx : Attr.IsWritable ⟨"xsi:schema", "<\"&>\t"⟩ := by decide +kernel
  have hn : note.IsWritable :=
    .mk (by decide +kernel) (by simp [ha, hé]) (by decide) (by decide +kernel) (by simp)
  have hr : root.IsWritable :=
    .mk (by decide +kernel) (by simp [hx]) (by decide) (by decide +kernel) (by simp [hn])
  exact ⟨hr, parse_document hr "a.xml"⟩

end MoquiLint.Markup
