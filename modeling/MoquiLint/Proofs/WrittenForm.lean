import MoquiLint.Markup.Token
import MoquiLint.Markup.Writer
import MoquiLint.Proofs.Utf8

/-!
# Reading back what was written

Each piece of a written element is read back whole: names, character data behind its references, quoted
values, attributes, start tags and closing tags. All statements are on the rest of the document, so that
they can be chained.
-/
namespace MoquiLint.Markup
open Text (ofChars ofString)

/-! ### Names -/

/-- The name of an element or an attribute, which has at most one colon. -/
structure IsTagName (s : String) : Prop where
  accepted : isName (ofString s) = true
  colons : s.toList.count ':' ≤ 1

instance (s : String) : Decidable (IsTagName s) :=
  decidable_of_iff (isName (ofString s) = true ∧ s.toList.count ':' ≤ 1)
    ⟨fun h => ⟨h.1, h.2⟩, fun h => ⟨h.accepted, h.colons⟩⟩

theorem isNamePart_of_lt {n : Nat} (h : n < 128)
    (hn : (Text.inRanges NameTable.start n || Text.inRanges NameTable.continuing n) = true) :
    isNamePart (.char (Char.ofNat n)) = true := by
  have table : ∀ n < 128, (Text.inRanges NameTable.start n ||
      Text.inRanges NameTable.continuing n) = true → isNamePart (.char (Char.ofNat n)) = true := by
    decide +kernel
  exact table n h hn

theorem isNamePart_of_isNameChar {c : Char} (h : isNameChar c = true) :
    isNamePart (.char c) = true := by
  by_cases hc : c.toNat < 128
  · have hp := isNamePart_of_lt hc h
    rwa [Char.ofNat_toNat] at hp
  · have hc : c.toNat ≥ 128 := by omega
    simp [isNamePart, hc]

theorem isName_cons_iff (s : Symbol) (rest : Text) :
    isName (s :: rest) = true ↔ s.isStray = false ∧ isNameStart s.code = true ∧
      ∀ t ∈ rest, t.isStray = false ∧ isNameChar t.code = true := by
  simp [isName, and_assoc]

theorem isNamePart_of_mem {s : String} (h : isName (ofString s) = true) :
    ∀ b ∈ ofString s, isNamePart b = true := by
  intro b hb
  obtain ⟨c, hc, rfl⟩ := List.mem_map.mp hb
  cases hs : s.toList with
  | nil => simp [hs] at hc
  | cons d ds =>
    rw [ofString, hs, ofChars, List.map_cons, isName_cons_iff] at h
    obtain ⟨-, hd, hds⟩ := h
    apply isNamePart_of_isNameChar
    rw [hs] at hc
    rcases List.mem_cons.mp hc with rfl | hc
    · rw [isNameChar, Bool.or_eq_true]
      exact .inl hd
    · exact (hds (.char c) (List.mem_map.mpr ⟨c, hc, rfl⟩)).2

/-- A name starts with a character that nothing else in a tag starts with. -/
theorem IsTagName.head {s : String} (h : IsTagName s) :
    ∃ c cs, s.toList = c :: cs ∧ isNameStart c = true := by
  have hn := h.accepted
  cases hs : s.toList with
  | nil => simp [ofString, hs, ofChars, isName] at hn
  | cons c cs =>
    rw [ofString, hs, ofChars, List.map_cons, isName_cons_iff] at hn
    exact ⟨c, cs, rfl, hn.2.1⟩

theorem readName_written {s : String} (h : isName (ofString s) = true) {b : Symbol}
    (hb : isNamePart b = false) (rest : Text) (line : Nat) :
    readName ⟨ofString s ++ b :: rest, line⟩ = .ok (some (s, ⟨b :: rest, line⟩)) := by
  have hp := isNamePart_of_mem h
  have ht : (ofString s ++ b :: rest).takeWhile isNamePart = ofString s := by
    simp [List.takeWhile_append_of_pos hp, hb]
  have hd : (ofString s ++ b :: rest).dropWhile isNamePart = b :: rest := by
    simp [List.dropWhile_append_of_pos hp, hb]
  cases hs : ofString s with
  | nil => simp [hs, isName] at h
  | cons a as =>
    have ha : isNamePart a = true := hp a (by simp [hs])
    rw [hs] at ht hd h
    unfold readName
    simp only [List.cons_append] at ht hd ⊢
    simp only [ha, ht, hd, h, ↓reduceIte]
    rw [← hs, Text.toString_ofString]

theorem readQName_written {s : String} (h : IsTagName s) {b : Symbol} (hb : isNamePart b = false)
    (rest : Text) (line : Nat) (f : Fault) :
    readQName ⟨ofString s ++ b :: rest, line⟩ f = .ok (s, ⟨b :: rest, line⟩) := by
  have hc := h.colons
  simp [readQName, readName_written h.accepted hb, Nat.not_lt.mpr hc]

/-! ### Character data -/

/-- Text of characters that a document may hold. -/
def IsLegal (s : String) : Prop := ∀ c ∈ s.toList, isLegalChar c = true

instance (s : String) : Decidable (IsLegal s) :=
  decidable_of_iff (s.toList.all isLegalChar = true) List.all_eq_true

theorem charFault?_ofChars {cs : List Char} (h : ∀ c ∈ cs, isLegalChar c = true) :
    charFault? (ofChars cs) = none := by
  induction cs with
  | nil => rfl
  | cons c cs ih =>
    have hc := h c (by simp)
    have hcs := ih fun d hd => h d (by simp [hd])
    simpa [charFault?, hc] using hcs

/-- The character that a reference stands for is read in its place. -/
theorem readText_reference {place : Place} (hp : place ≠ .cdata)
    (hq : place.closedBy (.char '&') = false) {rest rest' : Text} {c : Char}
    (h : readReference rest = .ok (c, rest')) (line : Nat) (p0 p1 : Option Symbol) (read : Text) :
    readText place line p0 p1 read (.char '&' :: rest) =
      readText place line none none (.char c :: read) rest' := by
  rw [readText]
  simp only [hq, hp, Symbol.char.injEq, Char.reduceEq, and_false, false_and, ↓reduceIte,
    ne_eq, not_false_eq_true, and_self, Bool.false_eq_true]
  split
  · rename_i f hf
    rw [h] at hf
    cases hf
  · rename_i c' r' hr
    rw [h] at hr
    cases hr
    rfl

/-- Any other character is read as it is, except that a line feed after a carriage return is passed
over. -/
theorem readText_plain {place : Place} (hp : place ≠ .cdata) {c : Char}
    (hq : place.closedBy (.char c) = false) (hc : c ≠ '>' ∧ c ≠ '<' ∧ c ≠ '&' ∧ c ≠ '\r')
    {p1 : Option Symbol} (h1 : p1 ≠ some (.char '\r')) (line : Nat) (p0 : Option Symbol)
    (read rest : Text) :
    readText place line p0 p1 read (.char c :: rest) =
      readText place (lineAfter line (.char c)) p1 (some (.char c)) (.char c :: read) rest := by
  obtain ⟨hgt, hlt, hamp, hcr⟩ := hc
  rw [readText]
  simp only [hq, hp, hgt, hlt, hamp, hcr, h1, Symbol.char.injEq, false_and, and_false, ↓reduceIte,
    Bool.false_eq_true]

/-- The places a written text stands in: element content and values in double quotes. -/
def Place.IsWritten (place : Place) : Prop := place = .content ∨ place = .quoted '"'

theorem readText_escapeChar {place : Place} (hw : place.IsWritten) (c : Char) {p1 : Option Symbol}
    (h1 : p1 ≠ some (.char '\r')) (line : Nat) (p0 : Option Symbol) (read rest : Text) :
    ∃ line' q0 q1, q1 ≠ some (.char '\r') ∧
      readText place line p0 p1 read (ofChars (escapeChar c) ++ rest) =
        readText place line' q0 q1 (.char c :: read) rest := by
  have hp : place ≠ .cdata := by rcases hw with rfl | rfl <;> simp
  have hq : place.closedBy (.char '&') = false := by rcases hw with rfl | rfl <;> rfl
  have reference (name : Text) (h : readReference (name ++ rest) = .ok (c, rest)) :
      ∃ line' q0 q1, q1 ≠ some (.char '\r') ∧
        readText place line p0 p1 read (.char '&' :: (name ++ rest)) =
          readText place line' q0 q1 (.char c :: read) rest :=
    ⟨line, none, none, by simp, readText_reference hp hq h line p0 p1 read⟩
  unfold escapeChar
  split
  · exact reference (ofChars "amp;".toList) rfl
  · exact reference (ofChars "lt;".toList) rfl
  · exact reference (ofChars "gt;".toList) rfl
  · exact reference (ofChars "quot;".toList) rfl
  · exact reference (ofChars "apos;".toList) rfl
  · exact reference (ofChars "#13;".toList) rfl
  · rename_i hamp hlt hgt hquot _ hcr
    have hc : place.closedBy (.char c) = false := by
      rcases hw with rfl | rfl
      · rfl
      · simpa [Place.closedBy, Symbol.is] using hquot
    refine ⟨lineAfter line (.char c), p1, some (.char c), by simpa using hcr, ?_⟩
    exact readText_plain hp hc ⟨hgt, hlt, hamp, hcr⟩ h1 line p0 read rest

theorem readText_escape {place : Place} (hw : place.IsWritten) (cs : List Char)
    {p1 : Option Symbol} (h1 : p1 ≠ some (.char '\r')) (line : Nat) (p0 : Option Symbol)
    (read rest : Text) :
    ∃ line' q0 q1, readText place line p0 p1 read (ofChars (cs.flatMap escapeChar) ++ rest) =
      readText place line' q0 q1 (ofChars cs.reverse ++ read) rest := by
  induction cs generalizing line p0 p1 read with
  | nil => exact ⟨line, p0, p1, rfl⟩
  | cons c cs ih =>
    obtain ⟨line₁, q0, q1, hq, hc⟩ :=
      readText_escapeChar hw c h1 line p0 read (ofChars (cs.flatMap escapeChar) ++ rest)
    obtain ⟨line₂, r0, r1, hr⟩ := ih hq line₁ q0 (.char c :: read)
    refine ⟨line₂, r0, r1, ?_⟩
    rw [List.flatMap_cons, Text.ofChars_append, List.append_assoc, hc, hr]
    simp

theorem finishText_written {s : String} (h : IsLegal s) (line : Nat) (rest : Text) :
    finishText line (ofChars s.toList.reverse).reverse rest = .ok (s, ⟨rest, line⟩) := by
  have hr : (ofChars s.toList.reverse).reverse = ofChars s.toList := by simp [ofChars]
  rw [hr, finishText, charFault?_ofChars h, Text.toString_ofChars, String.ofList_toList]

theorem readText_content {s : String} (h : IsLegal s) (line : Nat) (rest : Text) :
    ∃ line', readText .content line none none [] (ofChars (escape s) ++ .char '<' :: rest) =
      .ok (s, ⟨.char '<' :: rest, line'⟩) := by
  have h1 : (none : Option Symbol) ≠ some (.char '\r') := by simp
  obtain ⟨line', q0, q1, hr⟩ :=
    readText_escape (.inl rfl) s.toList h1 line none [] (.char '<' :: rest)
  refine ⟨line', ?_⟩
  rw [escape, hr, readText]
  simp only [Symbol.char.injEq, Char.reduceEq, false_and, and_false, ↓reduceIte, and_self,
    List.append_nil]
  exact finishText_written h line' _

theorem readText_quoted {s : String} (h : IsLegal s) (line : Nat) (rest : Text) :
    ∃ line', readText (.quoted '"') line none none [] (ofChars (escape s) ++ .char '"' :: rest) =
      .ok (s, ⟨rest, line'⟩) := by
  have h1 : (none : Option Symbol) ≠ some (.char '\r') := by simp
  obtain ⟨line', q0, q1, hr⟩ :=
    readText_escape (.inr rfl) s.toList h1 line none [] (.char '"' :: rest)
  refine ⟨line', ?_⟩
  rw [escape, hr, readText]
  simp only [Symbol.char.injEq, Char.reduceEq, false_and, and_false, ↓reduceIte, List.append_nil,
    Place.closedBy, Symbol.is, beq_self_eq_true]
  exact finishText_written h line' _

/-! ### Tags -/

def Attr.IsWritable (a : Attr) : Prop := IsTagName a.name ∧ IsLegal a.value

instance (a : Attr) : Decidable a.IsWritable :=
  inferInstanceAs (Decidable (IsTagName a.name ∧ IsLegal a.value))

theorem skipSpace_of_head {s : Symbol} (h : isMarkupSpace s = false) (rest : Text) (line : Nat) :
    Cursor.skipSpace ⟨s :: rest, line⟩ = ⟨s :: rest, line⟩ := by
  simp [Cursor.skipSpace, h, lineBreaks]

theorem isNameStart_ne {c d : Char} (h : isNameStart c = true) (hd : isNameStart d = false) : c ≠ d := by
  rintro rfl
  rw [h] at hd
  cases hd

theorem isMarkupSpace_of_isNameStart {c : Char} (h : isNameStart c = true) :
    isMarkupSpace (.char c) = false := by
  have hs : c ≠ ' ' ∧ c ≠ '\r' ∧ c ≠ '\n' ∧ c ≠ '\t' :=
    ⟨isNameStart_ne h (by decide), isNameStart_ne h (by decide), isNameStart_ne h (by decide),
      isNameStart_ne h (by decide)⟩
  simp [isMarkupSpace, Symbol.is, hs]

theorem readAttr_written {a : Attr} (h : a.IsWritable) (line : Nat) (rest : Text) :
    ∃ line', readAttr ⟨ofString a.name ++ (.char '=' :: .char '"' ::
      (ofChars (escape a.value) ++ .char '"' :: rest)), line⟩ = .ok (a, ⟨rest, line'⟩) := by
  obtain ⟨hn, hv⟩ := h
  obtain ⟨line', hr⟩ := readText_quoted hv line rest
  have hb : isNamePart (.char '=') = false := by decide
  have he : isMarkupSpace (.char '=') = false := by decide
  have hq : isMarkupSpace (.char '"') = false := by decide
  refine ⟨line', ?_⟩
  simp only [readAttr, readQName_written hn hb, skipSpace_of_head he, skipSpace_of_head hq, readValue,
    ↓reduceIte, hr]

theorem readAttrs_end {c : Cursor} {rest : Text} {line : Nat}
    (h : c.skipSpace = ⟨.char '>' :: rest, line⟩) : readAttrs c = .ok ([], false, ⟨rest, line⟩) := by
  rw [readAttrs]
  split
  · rename_i hs
    rw [h] at hs
    cases hs
  · rename_i hs
    rw [h] at hs
    cases hs
    rfl

theorem readAttrs_cons {c c' c'' : Cursor} {s : Symbol} {rest : Text} {line : Nat} {a : Attr}
    {as : List Attr} {closed : Bool} (h : c.skipSpace = ⟨s :: rest, line⟩)
    (hs : s ≠ .char '>' ∧ s ≠ .char '/') (ha : readAttr ⟨s :: rest, line⟩ = .ok (a, c'))
    (has : readAttrs c' = .ok (as, closed, c'')) : readAttrs c = .ok (a :: as, closed, c'') := by
  rw [readAttrs]
  split
  · rename_i hn
    rw [h] at hn
    cases hn
  · rename_i t rest' line' ht
    rw [h] at ht
    cases ht
    simp only [hs.1, hs.2, ↓reduceIte]
    split
    · rename_i he
      rw [ha] at he
      cases he
    · rename_i b d hb
      rw [ha] at hb
      cases hb
      simp [has]

theorem readAttrs_written {attrs : List Attr} (h : ∀ a ∈ attrs, a.IsWritable) (line : Nat)
    (rest : Text) :
    ∃ line', readAttrs ⟨ofChars (attrs.flatMap Attr.written) ++ .char '>' :: rest, line⟩ =
      .ok (attrs, false, ⟨rest, line'⟩) := by
  induction attrs generalizing line with
  | nil => exact ⟨line, readAttrs_end (skipSpace_of_head (by decide) rest line)⟩
  | cons a attrs ih =>
    have ha := h a (by simp)
    let more := ofChars (attrs.flatMap Attr.written) ++ .char '>' :: rest
    let tail := ofString a.name ++ (.char '=' :: .char '"' ::
      (ofChars (escape a.value) ++ .char '"' :: more))
    obtain ⟨line₁, h₁⟩ := readAttr_written ha line more
    obtain ⟨line₂, h₂⟩ := ih (fun b hb => h b (by simp [hb])) line₁
    obtain ⟨c, cs, hn, hc⟩ := ha.1.head
    have ht : tail = .char c :: tail.tail := by simp [tail, ofString, hn]
    have hw : ofChars ((a :: attrs).flatMap Attr.written) ++ .char '>' :: rest =
        .char ' ' :: tail := by
      simp [Attr.written, tail, more, ofString]
    have hs : Cursor.skipSpace ⟨.char ' ' :: tail, line⟩ = ⟨.char c :: tail.tail, line⟩ := by
      have hb := skipSpace_of_head (isMarkupSpace_of_isNameStart hc) tail.tail line
      have hsp : isMarkupSpace (.char ' ') = true := by decide
      rw [← ht] at hb ⊢
      simpa [Cursor.skipSpace, hsp, lineBreaks] using hb
    have hne : Symbol.char c ≠ .char '>' ∧ Symbol.char c ≠ .char '/' := by
      simp [isNameStart_ne hc (d := '>') (by decide), isNameStart_ne hc (d := '/') (by decide)]
    rw [hw]
    exact ⟨line₂, readAttrs_cons hs hne (ht ▸ h₁) h₂⟩

/-- What follows a tag's name is no part of it. -/
theorem attrs_written_head (attrs : List Attr) (rest : Text) :
    ∃ b more, ofChars (attrs.flatMap Attr.written) ++ .char '>' :: rest = b :: more ∧
      isNamePart b = false := by
  cases attrs with
  | nil => exact ⟨_, _, rfl, by decide⟩
  | cons a attrs => exact ⟨.char ' ', _, rfl, by decide⟩

theorem nextTokens_start (charsets : Bool) {tag : String} (ht : IsTagName tag) {attrs : List Attr}
    (ha : ∀ a ∈ attrs, a.IsWritable) (line : Nat) (rest : Text) :
    ∃ line', nextTokens charsets ⟨ofChars (['<'] ++ tag.toList ++ attrs.flatMap Attr.written ++ ['>']) ++
      rest, line⟩ = .ok ([.start tag attrs], ⟨rest, line'⟩) := by
  obtain ⟨b, more, hb, hp⟩ := attrs_written_head attrs rest
  obtain ⟨line', hr⟩ := readAttrs_written ha line rest
  obtain ⟨c, cs, hn, hc⟩ := ht.head
  have hw : ofChars (['<'] ++ tag.toList ++ attrs.flatMap Attr.written ++ ['>']) ++ rest =
      .char '<' :: (ofString tag ++ b :: more) := by
    rw [← hb]
    simp [ofString]
  have hs : nextTokens charsets ⟨.char '<' :: (ofString tag ++ b :: more), line⟩ =
      readStart ⟨ofString tag ++ b :: more, line⟩ := by
    have h1 : c ≠ '/' := isNameStart_ne hc (by decide)
    have h2 : c ≠ '?' := isNameStart_ne hc (by decide)
    have h3 : c ≠ '!' := isNameStart_ne hc (by decide)
    simp only [ofString, hn, Text.ofChars_cons, List.cons_append]
    unfold nextTokens
    simp [h1, h2, h3]
  rw [hb] at hr
  refine ⟨line', ?_⟩
  rw [hw, hs]
  simp [readStart, readQName_written ht hp, hr, bind, Except.bind]

theorem nextTokens_close (charsets : Bool) {tag : String} (ht : IsTagName tag) (line : Nat)
    (rest : Text) :
    nextTokens charsets ⟨ofChars (['<', '/'] ++ tag.toList ++ ['>']) ++ rest, line⟩ =
      .ok ([.close tag], ⟨rest, line⟩) := by
  have hw : ofChars (['<', '/'] ++ tag.toList ++ ['>']) ++ rest =
      .char '<' :: .char '/' :: (ofString tag ++ .char '>' :: rest) := by
    simp [ofString]
  have hb : isNamePart (.char '>') = false := by decide
  have hs : isMarkupSpace (.char '>') = false := by decide
  rw [hw]
  simp [nextTokens, readClosing, readQName_written ht hb, skipSpace_of_head hs, bind, Except.bind]

theorem escapeChar_head (c : Char) : ∃ d ds, escapeChar c = d :: ds ∧ d ≠ '<' := by
  unfold escapeChar
  split <;> first | exact ⟨_, _, rfl, by decide⟩ | skip
  rename_i hlt _ _ _ _
  exact ⟨_, _, rfl, hlt⟩

theorem nextTokens_text (charsets : Bool) {s : String} (hs : IsLegal s) (hne : s ≠ "") (line : Nat)
    (rest : Text) :
    ∃ line', nextTokens charsets ⟨ofChars (escape s) ++ .char '<' :: rest, line⟩ =
      .ok ([.chars s], ⟨.char '<' :: rest, line'⟩) := by
  obtain ⟨line', hr⟩ := readText_content hs line rest
  refine ⟨line', ?_⟩
  cases hl : s.toList with
  | nil => exact absurd (String.toList_eq_nil_iff.mp hl) hne
  | cons c cs =>
    obtain ⟨d, ds, hd, hlt⟩ := escapeChar_head c
    have he : escape s = d :: (ds ++ cs.flatMap escapeChar) := by simp [escape, hl, hd]
    rw [he] at hr ⊢
    simp only [Text.ofChars_cons, List.cons_append] at hr ⊢
    generalize ofChars (ds ++ cs.flatMap escapeChar) ++ .char '<' :: rest = tail at hr ⊢
    unfold nextTokens
    simp [hlt, hr, bind, Except.bind]

end MoquiLint.Markup
