import Mathlib.Data.List.Forall2
import MoquiLint.Proofs.ParsedLines

/-!
# Start tags

A document is cut into pieces, each of which is read with all that follows it. A start tag is one piece, from its `<`
to its `>`. The tree has one element for each start tag, in the same order, and the line of the element is the one on
which its start tag ends.
-/
namespace MoquiLint.Markup
open Text (encode encode_append encode_cons encode_decode)

/-! ### The text of start tags -/

theorem exists_of_bind_eq_ok {ε α β : Type} {x : Except ε α} {f : α → Except ε β} {b : β} (h : x >>= f = .ok b) :
    ∃ a, x = .ok a ∧ f a = .ok b := by
  cases x with
  | error e => cases h
  | ok a => exact ⟨a, rfl, h⟩

theorem exists_of_toOption_map {ε α β : Type} {x : Except ε α} {f : α → β} {b : β} (h : x.toOption.map f = some b) :
    ∃ a, x = .ok a ∧ f a = b := by
  cases x with
  | error e => cases h
  | ok a => exact ⟨a, rfl, Option.some.inj h⟩

theorem valid_of_isName {t : Text} (h : isName t = true) : ∀ s ∈ t, s.isStray = false := by
  cases t with
  | nil => cases h
  | cons s rest =>
    simp only [isName, Bool.and_eq_true, List.all_eq_true, Bool.not_eq_true'] at h
    obtain ⟨⟨hs, -⟩, hrest⟩ := h
    exact List.forall_mem_cons.mpr ⟨hs, fun r hr => (hrest r hr).1⟩

theorem text_of_readName {c c' : Cursor} {name : String} (h : readName c = .ok (some (name, c'))) :
    c.rest = Text.ofString name ++ c'.rest := by
  unfold readName at h
  split at h
  · cases h
  · split at h
    · split at h
      · cases h
      · rename_i t rest ht
        split at h
        · rename_i hname
          cases h
          rw [Text.ofString_toString_of_valid (valid_of_isName hname), ← ht]
          exact List.takeWhile_append_dropWhile.symm
        · cases h
    · cases h

theorem text_of_readQName {c c' : Cursor} {missing : Fault} {name : String}
    (h : readQName c missing = .ok (name, c')) : c.rest = Text.ofString name ++ c'.rest := by
  unfold readQName at h
  split at h
  · cases h
  · cases h
  · rename_i he
    split at h
    · cases h
    · cases h
      exact text_of_readName he

theorem text_of_readAttrs {c c' : Cursor} {attrs : List Attr} {closed : Bool}
    (h : readAttrs c = .ok (attrs, closed, c')) : ∃ middle, c.rest = middle ++ .char '>' :: c'.rest := by
  fun_induction readAttrs c generalizing attrs closed with
  | case1 | case3 | case5 | case6 | case7 => cases h
  | case2 c rest line hs =>
    cases h
    have hspace := c.passes_skipSpace.rest
    rw [hs] at hspace
    exact ⟨_, hspace⟩
  | case4 c line rest _ hs _ =>
    cases h
    have hspace := c.passes_skipSpace.rest
    rw [hs] at hspace
    exact ⟨_ ++ [.char '/'], by rw [hspace, List.append_assoc]; rfl⟩
  | case8 c s rest line hs _ _ a c₁ ha _ _ _ as closed c₂ he ih =>
    cases h
    have hspace := c.passes_skipSpace.rest
    have hattr := isPlaced_readAttr ⟨s :: rest, line⟩
    rw [hs] at hspace
    rw [ha] at hattr
    obtain ⟨piece, hpiece⟩ := hattr
    obtain ⟨middle, hmiddle⟩ := ih he
    refine ⟨c.rest.takeWhile isMarkupSpace ++ (piece ++ middle), hspace.trans ?_⟩
    rw [hpiece.rest, hmiddle, List.append_assoc, List.append_assoc]

theorem text_of_readStart {c c' : Cursor} {tokens : List Token} (h : readStart c = .ok (tokens, c'))
    {name : String} {attrs : List Attr} (hm : .start name attrs ∈ tokens) :
    ∃ middle, c.rest = Text.ofString name ++ middle ++ .char '>' :: c'.rest := by
  obtain ⟨⟨n, c₁⟩, hn, h⟩ := exists_of_bind_eq_ok h
  obtain ⟨⟨as, closed, c₂⟩, ha, h⟩ := exists_of_bind_eq_ok h
  obtain ⟨middle, hmiddle⟩ := text_of_readAttrs ha
  cases h
  have hname : name = n := by
    cases closed <;> simp at hm <;> exact hm.1
  refine ⟨middle, ?_⟩
  rw [text_of_readQName hn, hmiddle, hname, List.append_assoc]

theorem not_start_of_readText {place : Place} {line : Nat} {p0 p1 : Option Symbol} {read s : Text}
    {tokens : List Token} {c : Cursor}
    (h : (readText place line p0 p1 read s >>= fun r => .ok ([.chars r.1], r.2)) = .ok (tokens, c)) :
    ∀ name attrs, .start name attrs ∉ tokens := by
  obtain ⟨r, -, h⟩ := exists_of_bind_eq_ok h
  cases h
  simp

theorem not_start_of_readBang {c c' : Cursor} {tokens : List Token} (h : readBang c = .ok (tokens, c')) :
    ∀ name attrs, .start name attrs ∉ tokens := by
  unfold readBang at h
  split at h
  · cases h
  · cases h
  · split at h
    · obtain ⟨r, -, h⟩ := exists_of_bind_eq_ok h
      cases h
      simp
    · cases h
  · simp only at h
    split at h
    · exact not_start_of_readText h
    · split at h <;> cases h
  · obtain ⟨r, -, h⟩ := exists_of_bind_eq_ok h
    cases h
    simp

/-- A start tag is written with its name behind `<`, and ends with `>`. -/
theorem text_of_nextTokens {charsets : Bool} {c c' : Cursor} {tokens : List Token}
    (h : nextTokens charsets c = .ok (tokens, c')) {name : String} {attrs : List Attr}
    (hm : .start name attrs ∈ tokens) :
    ∃ middle, c.rest = .char '<' :: (Text.ofString name ++ middle ++ .char '>' :: c'.rest) := by
  unfold nextTokens at h
  split at h
  · cases h
  · obtain ⟨⟨n, c₁⟩, -, h⟩ := exists_of_bind_eq_ok h
    simp only at h
    split at h
    · cases h
    · split at h
      · cases h
        simp at hm
      · cases h
  · rw [readTarget_eq] at h
    obtain ⟨r, -, h⟩ := exists_of_bind_eq_ok h
    obtain ⟨c₁, -, h⟩ := exists_of_bind_eq_ok h
    cases h
    simp at hm
  · exact absurd hm (not_start_of_readBang h name attrs)
  · rename_i rest _ _ _ _ hrest
    obtain ⟨middle, hmiddle⟩ := text_of_readStart h hm
    exact ⟨middle, by rw [hrest, ← hmiddle]⟩
  · exact absurd hm (not_start_of_readText h name attrs)

/-! ### Documents in UTF-8 -/

/-- The declarations in what is left of a document, each with where it ends. -/
def declarations : Nat → Cursor → List (Text × Cursor)
  | 0, _ => []
  | fuel + 1, c =>
    c.declaration?.toList ++
      match nextTokens true c with
      | .error _ => []
      | .ok (_, c') => declarations fuel c'

/-- What follows a declaration is read in the declared set as it is in UTF-8. -/
def KeepsUtf8 (d : Text × Cursor) : Prop := ∀ cs ∈ Charset.ofLabel? d.1, cs.decode (encode d.2.rest) = d.2.rest

instance (d : Text × Cursor) : Decidable (KeepsUtf8 d) :=
  inferInstanceAs (Decidable (∀ cs ∈ Charset.ofLabel? d.1, cs.decode (encode d.2.rest) = d.2.rest))

/-- A document all of which is read as UTF-8. -/
def IsUtf8 (data : Bytes) : Prop :=
  ∀ d ∈ declarations (2 * data.length + 2) ⟨Text.decode data, 1⟩, KeepsUtf8 d

instance (data : Bytes) : Decidable (IsUtf8 data) :=
  inferInstanceAs (Decidable (∀ d ∈ declarations (2 * data.length + 2) ⟨Text.decode data, 1⟩, KeepsUtf8 d))

theorem decodeUtf8_encode {t : Text} (h : ∀ s ∈ t, s.isStray = false) : Charset.decodeUtf8 (encode t) = t := by
  induction t with
  | nil => rw [Charset.decodeUtf8.eq_def]; rfl
  | cons s t ih =>
    obtain ⟨hs, ht⟩ := List.forall_mem_cons.mp h
    cases s with
    | stray b => cases hs
    | char c =>
      have hhead := Text.headChar?_encode c (encode t)
      have hsize := String.length_utf8EncodeChar c
      rw [encode_cons, Symbol.bytes]
      cases hc : String.utf8EncodeChar c with
      | nil => exact absurd hc String.utf8EncodeChar_ne_nil
      | cons b more =>
        rw [hc] at hhead hsize
        rw [List.cons_append] at hhead ⊢
        rw [Charset.decodeUtf8, hhead]
        simp only
        rw [← hsize, List.length_cons, Nat.add_sub_cancel, List.drop_left, ih ht]

theorem passes_declaration {c c' : Cursor} {label : Text} (h : c.declaration? = some (label, c')) :
    ∃ piece, c.Passes piece c' := by
  obtain ⟨rest, line⟩ := c
  unfold Cursor.declaration? at h
  split at h
  · rename_i rest hrest
    obtain rfl : _ = .char '<' :: .char '?' :: rest := hrest
    have hbody := (Cursor.passes_pair_of_ne (s := .char '<') (t := .char '?') (by decide) (by decide) rest
      line).isPlaced (isPlaced_readBody ⟨rest, line⟩)
    split at h
    · rename_i target body c₁ he
      rw [he] at hbody
      split at h
      · cases h
        exact hbody
      · cases h
    · cases h
  · cases h

theorem Cursor.Leaves.passes {c c' : Cursor} {piece : Text} (h : c.Leaves piece c')
    (hkeeps : ∀ d ∈ c.declaration?.toList, KeepsUtf8 d) : c.Passes piece c' := by
  obtain hp | ⟨label, cs, c₁, hd, hcs, hp, rfl⟩ := h
  · exact hp
  · have hread := hkeeps _ (Option.mem_toList.mpr hd) cs hcs
    rw [hread]
    exact hp

/-- Characters that declare no other set are read again as they are, whatever is declared before them. -/
theorem keepsUtf8_of_valid {fuel : Nat} {c : Cursor} (hvalid : ∀ s ∈ c.rest, s.isStray = false)
    (hlabels : ∀ d ∈ declarations fuel c, ∀ cs ∈ Charset.ofLabel? d.1, cs = .utf8) :
    ∀ d ∈ declarations fuel c, KeepsUtf8 d := by
  induction fuel generalizing c with
  | zero => exact fun d hd => absurd hd List.not_mem_nil
  | succ fuel ih =>
    rw [declarations, List.forall_mem_append] at hlabels ⊢
    have hfirst : ∀ d ∈ c.declaration?.toList, KeepsUtf8 d := by
      intro d hd cs hcs
      obtain ⟨piece, hp⟩ := passes_declaration (Option.mem_toList.mp hd)
      rw [hlabels.1 d hd cs hcs]
      exact decodeUtf8_encode fun s hs => hvalid s (hp.rest ▸ List.mem_append_right _ hs)
    refine ⟨hfirst, ?_⟩
    have hread := isRead_nextTokens true c
    cases hnext : nextTokens true c with
    | error e => exact fun d hd => absurd hd List.not_mem_nil
    | ok r =>
      rw [hnext] at hread hlabels
      obtain ⟨piece, hleaves⟩ := hread
      have hp := hleaves.passes hfirst
      exact ih (fun s hs => hvalid s (hp.rest ▸ List.mem_append_right _ hs)) hlabels.2

/-- Bytes of characters that declare no other set are read as UTF-8. -/
theorem isUtf8_of_valid {data : Bytes} (hvalid : ∀ s ∈ Text.decode data, s.isStray = false)
    (hlabels : ∀ d ∈ declarations (2 * data.length + 2) ⟨Text.decode data, 1⟩,
      ∀ cs ∈ Charset.ofLabel? d.1, cs = .utf8) : IsUtf8 data :=
  keepsUtf8_of_valid hvalid hlabels

/-! ### Pieces -/

structure Piece where
  text : Text
  tokens : List Token

/-- A text cut into pieces from the front. A piece is what is read of all that is left. -/
inductive Cut : Cursor → List Piece → Prop
  | done {line : Nat} : Cut ⟨[], line⟩ []
  | next {line : Nat} {piece : Piece} {c : Cursor} {pieces : List Piece}
      (read : nextTokens true ⟨piece.text ++ c.rest, line⟩ = .ok (piece.tokens, c)) (more : Cut c pieces) :
      Cut ⟨piece.text ++ c.rest, line⟩ (piece :: pieces)

structure StartTag where
  before : Text
  text : Text
  name : String
  attrs : List Attr

def startTag? (before text : Text) : Token → Option StartTag
  | .start name attrs => some ⟨before, text, name, attrs⟩
  | _ => none

/-- The start tags among pieces that follow a text. -/
def startTags (before : Text) : List Piece → List StartTag
  | [] => []
  | piece :: pieces =>
    piece.tokens.filterMap (startTag? before piece.text) ++ startTags (before ++ piece.text) pieces

def StartTag.gives (t : StartTag) : String × List Attr × Int :=
  (t.name, t.attrs, ((1 + lineBreaks (t.before ++ t.text) : Nat) : Int))

theorem starts_of_piece {before text : Text} {line : Nat} (h : line = 1 + lineBreaks (before ++ text))
    (tokens : List Token) :
    starts (tokens.map (·, line)) = (tokens.filterMap (startTag? before text)).map StartTag.gives := by
  rw [starts, List.filterMap_map, List.map_filterMap]
  refine List.filterMap_congr fun t _ => ?_
  cases t with
  | start name attrs =>
    rw [h]
    rfl
  | close | chars | comment | instruction | directive => rfl

/-- Splitting a document in UTF-8 cuts it into pieces. -/
theorem cut_of_split {fuel : Nat} {c : Cursor} {last : Nat} (hend : (split true fuel c).2 = .complete last)
    (hkeeps : ∀ d ∈ declarations fuel c, KeepsUtf8 d) :
    ∃ pieces, Cut c pieces ∧ ∀ before, c.line = 1 + lineBreaks before →
      starts (split true fuel c).1 = (startTags before pieces).map StartTag.gives := by
  induction fuel generalizing c with
  | zero => cases hend
  | succ fuel ih =>
    obtain ⟨rest, line⟩ := c
    by_cases hrest : rest = []
    · subst hrest
      exact ⟨[], .done, fun before _ => rfl⟩
    · cases hnext : nextTokens true ⟨rest, line⟩ with
      | error e => simp [split, hrest, hnext] at hend
      | ok r =>
        obtain ⟨tokens, c'⟩ := r
        simp only [split, hrest, if_false, hnext] at hend ⊢
        simp only [declarations, hnext, List.forall_mem_append] at hkeeps
        have hread := isRead_nextTokens true ⟨rest, line⟩
        rw [hnext] at hread
        obtain ⟨piece, hleaves⟩ := hread
        have hpasses := hleaves.passes hkeeps.1
        obtain ⟨pieces, hcut, hstarts⟩ := ih hend hkeeps.2
        obtain rfl : rest = piece ++ c'.rest := hpasses.rest
        refine ⟨⟨piece, tokens⟩ :: pieces, @Cut.next line ⟨piece, tokens⟩ c' pieces hnext hcut, fun before hline => ?_⟩
        have hline' : c'.line = 1 + lineBreaks (before ++ piece) := by
          rw [hpasses.line, lineBreaks_append, hline, Nat.add_assoc]
        rw [starts_append, hstarts _ hline', startTags, List.map_append, starts_of_piece hline']

theorem mem_startTag? {before text : Text} {token : Token} {t : StartTag} (h : startTag? before text token = some t) :
    t.before = before ∧ t.text = text ∧ token = .start t.name t.attrs := by
  cases token with
  | start name attrs =>
    cases h
    exact ⟨rfl, rfl, rfl⟩
  | close | chars | comment | instruction | directive => cases h

/-- A start tag goes from its `<` to its `>`, and with what stands before it begins the document. -/
theorem Cut.startTag {c : Cursor} {pieces : List Piece} (h : Cut c pieces) (before : Text) :
    ∀ t ∈ startTags before pieces, t.before ++ t.text <+: before ++ c.rest ∧
      ∃ middle, t.text = .char '<' :: (Text.ofString t.name ++ middle ++ [.char '>']) := by
  induction h generalizing before with
  | done => exact fun t ht => absurd ht List.not_mem_nil
  | @next line piece c pieces hread _ ih =>
    intro t ht
    rcases List.mem_append.mp ht with ht | ht
    · obtain ⟨token, htoken, hstart⟩ := List.mem_filterMap.mp ht
      obtain ⟨hbefore, htext, rfl⟩ := mem_startTag? hstart
      obtain ⟨middle, hmiddle⟩ := text_of_nextTokens hread htoken
      rw [hbefore, htext]
      refine ⟨⟨c.rest, List.append_assoc _ _ _⟩, middle, List.append_cancel_right (hmiddle.trans ?_)⟩
      simp only [List.cons_append, List.append_assoc, List.nil_append]
    · have hlater := ih (before ++ piece.text) t ht
      rwa [List.append_assoc] at hlater

/-! ### Lines of elements -/

/-- An element comes from a start tag of a document. -/
structure StartTag.Opens (data : Bytes) (t : StartTag) (n : Node) : Prop where
  tag : n.tag = t.name
  attrs : n.attrs = t.attrs
  written : ∃ middle, t.text = .char '<' :: (Text.ofString t.name ++ middle ++ [.char '>'])
  placed : encode t.before ++ encode t.text <+: data

/-- The line of the `<`: there is one newline byte for each line before it. -/
def StartTag.firstLine (t : StartTag) : Int := 1 + newlines (encode t.before)

def StartTag.lastLine (t : StartTag) : Int := t.firstLine + newlines (encode t.text)

theorem newlines_encode_of_infix {t : Text} {data : Bytes} (h : t <:+: Text.decode data) :
    newlines (encode t) = lineBreaks t :=
  newlines_encode_eq fun hm => stray_notMem_decode data (h.subset hm)

/-- Each element of a document in UTF-8 is on the line of the `>` of its start tag. So it is on the line of the `<`
exactly if there is no line break within the tag. -/
theorem start_tag_lines {path : String} {data : Bytes} {root : Node} (hutf8 : IsUtf8 (dropMark data))
    (h : parse path data = .ok root) :
    ∃ pieces, Cut ⟨Text.decode (dropMark data), 1⟩ pieces ∧
      List.Forall₂ (fun t n => t.Opens (dropMark data) n ∧ n.line = t.lastLine ∧
        (n.line = t.firstLine ↔ .char '\n' ∉ t.text)) (startTags [] pieces) root.preorder := by
  have hbuild := (parse_eq_build path data).symm.trans h
  obtain ⟨last, hlast⟩ := complete_of_build hbuild
  obtain ⟨pieces, hcut, hstarts⟩ := cut_of_split hlast hutf8
  have hsame := (hstarts [] rfl).symm.trans (starts_of_build hbuild)
  have hpairs : List.Forall₂ (fun (t : StartTag) (n : Node) => t.gives = n.start) (startTags [] pieces) root.preorder :=
    List.forall₂_map_left_iff.mp (List.forall₂_map_right_iff.mp (List.forall₂_eq_eq_eq ▸ hsame))
  refine ⟨pieces, hcut, ((List.forall₂_and_left _ _).mpr ⟨hcut.startTag [], hpairs⟩).imp ?_⟩
  rintro t n ⟨⟨⟨after, hafter⟩, hwritten⟩, hgives⟩
  have hafter : t.before ++ t.text ++ after = Text.decode (dropMark data) := hafter
  have htag : t.name = n.tag := congrArg Prod.fst hgives
  have hattrs : t.attrs = n.attrs := congrArg (fun s => s.2.1) hgives
  have hline : ((1 + lineBreaks (t.before ++ t.text) : Nat) : Int) = n.line := congrArg (fun s => s.2.2) hgives
  rw [lineBreaks_append] at hline
  have hbefore : newlines (encode t.before) = lineBreaks t.before :=
    newlines_encode_of_infix ⟨[], t.text ++ after, by rw [← hafter]; simp⟩
  have htext : newlines (encode t.text) = lineBreaks t.text :=
    newlines_encode_of_infix ⟨t.before, after, hafter⟩
  refine ⟨⟨htag.symm, hattrs.symm, hwritten, encode after, ?_⟩, ?_, ?_⟩
  · rw [← encode_append, ← encode_append, hafter]
    exact encode_decode _
  · rw [StartTag.lastLine, StartTag.firstLine, hbefore, htext, ← hline]
    omega
  · rw [StartTag.firstLine, hbefore, ← hline, ← List.count_eq_zero, ← lineBreaks]
    omega

theorem start_tag_lines_declared :
    ∃ root pieces, parse "a.xml" (utf8 "<?xml encoding='utf8'?>\n<a\n/>") = .ok root ∧ root.line = 3 ∧
      List.Forall₂ (fun t n => n.line = t.lastLine ∧ (n.line = t.firstLine ↔ .char '\n' ∉ t.text))
        (startTags [] pieces) root.preorder := by
  have hline : (parse "a.xml" (utf8 "<?xml encoding='utf8'?>\n<a\n/>")).toOption.map Node.line = some 3 := by
    decide +kernel
  obtain ⟨root, hp, hline⟩ := exists_of_toOption_map hline
  have hutf8 : IsUtf8 (dropMark (utf8 "<?xml encoding='utf8'?>\n<a\n/>")) :=
    isUtf8_of_valid (by decide +kernel) (by decide +kernel)
  obtain ⟨pieces, -, hlines⟩ := start_tag_lines hutf8 hp
  exact ⟨root, pieces, hp, hline, hlines.imp fun _ _ h => h.2⟩

/-- The only tag begins on the first line and ends on the second. -/
theorem start_tag_lines_fails :
    ∃ root, parse "a.xml" (utf8 "<a\n/>") = .ok root ∧ IsUtf8 (dropMark (utf8 "<a\n/>")) ∧
      root.line ≠ 1 + newlines ((utf8 "<a\n/>").takeWhile (· != 60)) := by
  have hline : (parse "a.xml" (utf8 "<a\n/>")).toOption.map Node.line = some 2 := by decide +kernel
  obtain ⟨root, hp, hline⟩ := exists_of_toOption_map hline
  refine ⟨root, hp, by decide +kernel, ?_⟩
  rw [hline]
  decide +kernel

end MoquiLint.Markup
