import Mathlib.Data.List.Nodup
import MoquiLint.Markup.Document

/-!
# The grammar of documents

A document is one element between blanks, and an element is a start tag, its content and the closing
tag of the same name. The grammar is stated on tokens without comments, instructions and directives,
and each derivation carries the tree it stands for. The builder of trees is proved to accept exactly
the documents of this grammar and to return the tree of the derivation.
-/
namespace MoquiLint.Markup

/-- Comments, instructions and directives, which leave no trace in a tree. -/
def Token.isSilent : Token → Bool
  | .comment | .instruction _ | .directive => true
  | .start _ _ | .close _ | .chars _ => false

def significant (ts : List (Token × Nat)) : List (Token × Nat) := ts.filter fun t => !t.1.isSilent

/-- Character data and elements in any order, with the elements and the whole character data. An
element is a start tag whose attributes have distinct names, content, and a closing tag of its name. -/
inductive Content : List (Token × Nat) → List Node → String → Prop
  | nil : Content [] [] ""
  | chars {s : String} {line : Nat} {rest : List (Token × Nat)} {nodes : List Node} {text : String}
      (more : Content rest nodes text) : Content ((.chars s, line) :: rest) nodes (s ++ text)
  | element {tag : String} {attrs : List Attr} {line last : Nat} {body rest : List (Token × Nat)}
      {children nodes : List Node} {inner text : String}
      (distinct : (attrs.map Attr.name).Nodup) (within : Content body children inner)
      (more : Content rest nodes text) :
      Content ((.start tag attrs, line) :: (body ++ (.close tag, last) :: rest))
        (⟨tag, attrs, children, inner, line⟩ :: nodes) text

inductive Element : List (Token × Nat) → Node → Prop
  | mk {tag : String} {attrs : List Attr} {line last : Nat} {body : List (Token × Nat)}
      {children : List Node} {inner : String}
      (distinct : (attrs.map Attr.name).Nodup) (within : Content body children inner) :
      Element ((.start tag attrs, line) :: (body ++ [(.close tag, last)]))
        ⟨tag, attrs, children, inner, line⟩

def Blank (t : Token × Nat) : Prop := ∃ s, t.1 = .chars s ∧ ∀ c ∈ s.toList, Text.isSpace c = true

/-- One element between blanks. -/
def IsDocument (ts : List (Token × Nat)) (root : Node) : Prop :=
  ∃ before body after, ts = before ++ body ++ after ∧
    (∀ t ∈ before, Blank t) ∧ Element body root ∧ ∀ t ∈ after, Blank t

theorem Content.append {ts us : List (Token × Nat)} {ns ms : List Node} {s t : String}
    (h : Content ts ns s) (h' : Content us ms t) : Content (ts ++ us) (ns ++ ms) (s ++ t) := by
  induction h with
  | nil => simpa using h'
  | chars _ ih =>
    rw [List.cons_append, String.append_assoc]
    exact .chars ih
  | element distinct within _ _ ih =>
    simp only [List.cons_append, List.append_assoc]
    exact .element distinct within ih

theorem Element.content {ts : List (Token × Nat)} {n : Node} (h : Element ts n) :
    Content ts [n] "" := by
  cases h with
  | mk distinct within => exact .element distinct within .nil

/-! ### Attribute names -/

theorem duplicate?_eq_none_iff (attrs : List Attr) (seen : List String) :
    duplicate? attrs seen = none ↔ (attrs.map Attr.name).Nodup ∧ ∀ a ∈ attrs, a.name ∉ seen := by
  induction attrs generalizing seen with
  | nil => simp [duplicate?]
  | cons a attrs ih =>
    by_cases ha : a.name ∈ seen
    · simp [duplicate?, ha]
    · simp only [duplicate?, List.contains_eq_mem, ha, decide_false, Bool.false_eq_true, ↓reduceIte,
        ih, List.mem_cons, not_or, List.map_cons, List.nodup_cons, List.mem_map, not_exists, not_and]
      constructor
      · rintro ⟨hn, hs⟩
        refine ⟨⟨fun b hb => (hs b hb).1, hn⟩, ?_⟩
        rintro b (rfl | hb)
        · exact ha
        · exact (hs b hb).2
      · rintro ⟨⟨hne, hn⟩, hs⟩
        exact ⟨hn, fun b hb => ⟨hne b hb, hs b (.inr hb)⟩⟩

theorem duplicate?_nil_eq_none_iff (attrs : List Attr) :
    duplicate? attrs [] = none ↔ (attrs.map Attr.name).Nodup := by
  simp [duplicate?_eq_none_iff]

namespace Builder

/-! ### From derivations to runs -/

theorem feedAll_cons_ok {b b' : Builder} {t : Token} {line : Nat} (ts : List (Token × Nat))
    (h : b.feed line t = .ok b') : b.feedAll ((t, line) :: ts) = b'.feedAll ts := by
  simp [feedAll, h]

theorem feed_silent (b : Builder) (line : Nat) {t : Token} (h : t.isSilent = true) :
    b.feed line t = .ok b := by
  cases t <;> first | rfl | cases h

theorem feedAll_significant (b : Builder) (ts : List (Token × Nat)) :
    b.feedAll (significant ts) = b.feedAll ts := by
  induction ts generalizing b with
  | nil => rfl
  | cons t ts ih =>
    obtain ⟨t, line⟩ := t
    cases ht : t.isSilent with
    | true =>
      rw [feedAll_cons_ok ts (feed_silent b line ht), ← ih b]
      simp [significant, ht]
    | false =>
      have hs : significant ((t, line) :: ts) = (t, line) :: significant ts := by
        simp [significant, ht]
      rw [hs, feedAll, feedAll]
      cases b.feed line t with
      | error m => rfl
      | ok b' => exact ih b'

def grown (top : OpenElement) (nodes : List Node) (text : String) : OpenElement :=
  { top with children := nodes.reverse ++ top.children, text := top.text ++ text }

/-- Content is taken in by the innermost open element. -/
theorem feedAll_content {ts : List (Token × Nat)} {nodes : List Node} {text : String}
    (h : Content ts nodes text) (top : OpenElement) (outer : List OpenElement) (root : Option Node)
    (rest : List (Token × Nat)) :
    feedAll ⟨top :: outer, root⟩ (ts ++ rest) = feedAll ⟨grown top nodes text :: outer, root⟩ rest := by
  induction h generalizing top outer rest with
  | nil => simp [grown]
  | @chars s line ts nodes text _ ih =>
    have hf : feed ⟨top :: outer, root⟩ line (.chars s) = .ok ⟨top.addText s :: outer, root⟩ := rfl
    rw [List.cons_append, feedAll_cons_ok _ hf, ih]
    simp [grown, OpenElement.addText, String.append_assoc]
  | @element tag attrs line last body ts children nodes inner text distinct _ _ ihBody ih =>
    let e : OpenElement := { tag := tag, attrs := attrs, line := line }
    have hs : feed ⟨top :: outer, root⟩ line (.start tag attrs) = .ok ⟨e :: top :: outer, root⟩ := by
      simp [feed, (duplicate?_nil_eq_none_iff attrs).mpr distinct, e]
    have hc : feed ⟨grown e children inner :: top :: outer, root⟩ last (.close tag) =
        .ok ⟨top.addChild (grown e children inner).close :: outer, root⟩ := by
      simp [feed, grown, e]
    rw [List.cons_append, feedAll_cons_ok _ hs, List.append_assoc, ihBody, List.cons_append,
      feedAll_cons_ok _ hc, ih]
    simp [grown, e, OpenElement.addChild, OpenElement.close]

theorem feedAll_blank {ts : List (Token × Nat)} (h : ∀ t ∈ ts, Blank t) (root : Option Node)
    (rest : List (Token × Nat)) : feedAll ⟨[], root⟩ (ts ++ rest) = feedAll ⟨[], root⟩ rest := by
  induction ts with
  | nil => rfl
  | cons t ts ih =>
    obtain ⟨t, line⟩ := t
    obtain ⟨s, rfl, hs⟩ := h (t, line) (by simp)
    have hf : feed ⟨[], root⟩ line (.chars s) = .ok ⟨[], root⟩ := by
      simpa [feed] using hs
    rw [List.cons_append, feedAll_cons_ok _ hf]
    exact ih fun t ht => h t (by simp [ht])

theorem feedAll_element {ts : List (Token × Nat)} {n : Node} (h : Element ts n)
    (rest : List (Token × Nat)) : feedAll {} (ts ++ rest) = feedAll ⟨[], some n⟩ rest := by
  cases h with
  | @mk tag attrs line last body children inner distinct within =>
    let e : OpenElement := { tag := tag, attrs := attrs, line := line }
    have hs : feed {} line (.start tag attrs) = .ok ⟨[e], none⟩ := by
      simp [feed, (duplicate?_nil_eq_none_iff attrs).mpr distinct, e]
    have hc : feed ⟨[grown e children inner], none⟩ last (.close tag) =
        .ok ⟨[], some (grown e children inner).close⟩ := by
      simp [feed, grown, e]
    rw [List.cons_append, feedAll_cons_ok _ hs, List.append_assoc, feedAll_content within,
      List.singleton_append, feedAll_cons_ok _ hc]
    simp [grown, e, OpenElement.close]

theorem feedAll_document {ts : List (Token × Nat)} {root : Node} (h : IsDocument ts root) :
    feedAll {} ts = .ok ⟨[], some root⟩ := by
  obtain ⟨before, body, after, rfl, hb, he, ha⟩ := h
  rw [List.append_assoc]
  refine (feedAll_blank hb none _).trans ((feedAll_element he after).trans ?_)
  simpa [feedAll] using feedAll_blank ha (some root) []

/-! ### From runs to derivations -/

/-- What the tokens read so far say about the open elements, innermost first: after blanks, each element
has its start tag, followed by the content it has taken in. -/
inductive Opened : List (Token × Nat) → List OpenElement → Prop
  | nil {ts : List (Token × Nat)} (blank : ∀ t ∈ ts, Blank t) : Opened ts []
  | cons {ts body : List (Token × Nat)} {e : OpenElement} {outer : List OpenElement}
      (prior : Opened ts outer) (distinct : (e.attrs.map Attr.name).Nodup)
      (within : Content body e.children.reverse e.text) :
      Opened (ts ++ (.start e.tag e.attrs, e.line) :: body) (e :: outer)

/-- What the tokens read so far say about a builder: no element is closed at the outermost level, or
the document is complete. -/
inductive Reads : List (Token × Nat) → Builder → Prop
  | opened {ts : List (Token × Nat)} {stack : List OpenElement} (h : Opened ts stack) :
      Reads ts ⟨stack, none⟩
  | closed {ts : List (Token × Nat)} {root : Node} (h : IsDocument ts root) :
      Reads ts ⟨[], some root⟩

theorem Opened.grow {ts us : List (Token × Nat)} {top : OpenElement} {outer : List OpenElement}
    {nodes : List Node} {text : String} (h : Opened ts (top :: outer)) (more : Content us nodes text) :
    Opened (ts ++ us) (grown top nodes text :: outer) := by
  cases h with
  | @cons ts body _ _ prior distinct within =>
    rw [List.append_assoc, List.cons_append]
    refine Opened.cons (e := grown top nodes text) prior distinct ?_
    simpa [grown] using within.append more

/-- The closing tag of the innermost element completes its derivation. -/
theorem Opened.close {ts : List (Token × Nat)} {top : OpenElement} {outer : List OpenElement}
    (h : Opened ts (top :: outer)) (last : Nat) :
    ∃ us body, ts ++ [(.close top.tag, last)] = us ++ body ∧ Opened us outer ∧
      Element body top.close := by
  cases h with
  | @cons us body _ _ prior distinct within =>
    refine ⟨us, (.start top.tag top.attrs, top.line) :: (body ++ [(.close top.tag, last)]), ?_, prior,
      .mk distinct within⟩
    simp

theorem Opened.blank_of_nil {ts : List (Token × Nat)} (h : Opened ts []) : ∀ t ∈ ts, Blank t := by
  cases h with
  | nil blank => exact blank

theorem Reads.start {ts : List (Token × Nat)} {b b' : Builder} {tag : String} {attrs : List Attr}
    {line : Nat} (h : Reads ts b) (hf : b.feed line (.start tag attrs) = .ok b') :
    Reads (ts ++ [(.start tag attrs, line)]) b' := by
  cases hd : duplicate? attrs [] with
  | some a => simp [feed, hd] at hf
  | none =>
    have distinct := (duplicate?_nil_eq_none_iff attrs).mp hd
    cases h with
    | closed _ => simp [feed, hd] at hf
    | @opened stack h =>
      let e : OpenElement := { tag := tag, attrs := attrs, line := line }
      obtain rfl : b' = ⟨e :: stack, none⟩ := by simpa [feed, hd] using hf.symm
      exact .opened (.cons (e := e) h distinct .nil)

theorem Reads.close {ts : List (Token × Nat)} {b b' : Builder} {tag : String} {line : Nat}
    (h : Reads ts b) (hf : b.feed line (.close tag) = .ok b') :
    Reads (ts ++ [(.close tag, line)]) b' := by
  cases h with
  | closed _ => simp [feed] at hf
  | @opened stack h =>
    cases stack with
    | nil => simp [feed] at hf
    | cons top outer =>
      by_cases ht : top.tag = tag
      · subst ht
        obtain ⟨us, body, hts, hus, hbody⟩ := h.close line
        rw [hts]
        cases outer with
        | nil =>
          obtain rfl : b' = ⟨[], some top.close⟩ := by simpa [feed] using hf.symm
          exact .closed ⟨us, body, [], by simp, hus.blank_of_nil, hbody, by simp⟩
        | cons parent outer =>
          obtain rfl : b' = ⟨parent.addChild top.close :: outer, none⟩ := by
            simpa [feed] using hf.symm
          have hg := hus.grow hbody.content
          simpa [grown, OpenElement.addChild] using Reads.opened hg
      · simp [feed, ht] at hf

theorem Reads.blank {ts : List (Token × Nat)} {root : Option Node} {t : Token × Nat}
    (h : Reads ts ⟨[], root⟩) (ht : Blank t) : Reads (ts ++ [t]) ⟨[], root⟩ := by
  have snoc {us : List (Token × Nat)} (hu : ∀ u ∈ us, Blank u) : ∀ u ∈ us ++ [t], Blank u := by
    intro u hm
    rcases List.mem_append.mp hm with hm | hm
    · exact hu u hm
    · rwa [List.mem_singleton.mp hm]
  cases h with
  | opened h => exact .opened (.nil (snoc h.blank_of_nil))
  | closed h =>
    obtain ⟨before, body, after, rfl, hb, he, ha⟩ := h
    exact .closed ⟨before, body, after ++ [t], by simp, hb, he, snoc ha⟩

theorem Reads.chars {ts : List (Token × Nat)} {b b' : Builder} {s : String} {line : Nat}
    (h : Reads ts b) (hf : b.feed line (.chars s) = .ok b') :
    Reads (ts ++ [(.chars s, line)]) b' := by
  obtain ⟨stack, root⟩ := b
  cases stack with
  | nil =>
    by_cases hs : s.toList.all Text.isSpace = true
    · obtain rfl : b' = ⟨[], root⟩ := by
        simp only [feed, hs, ↓reduceIte, Except.ok.injEq] at hf
        exact hf.symm
      exact h.blank ⟨s, rfl, List.all_eq_true.mp hs⟩
    · simp only [feed, hs, ↓reduceIte, reduceCtorEq] at hf
  | cons top outer =>
    cases h with
    | opened h =>
      obtain rfl : b' = ⟨top.addText s :: outer, none⟩ := by simpa [feed] using hf.symm
      have hs : Content [(.chars s, line)] [] (s ++ "") := .chars .nil
      have hg := h.grow hs
      simpa [grown, OpenElement.addText] using Reads.opened hg

/-- Each token that fits extends what was read. -/
theorem Reads.feed {ts : List (Token × Nat)} {b b' : Builder} {t : Token} {line : Nat}
    (h : Reads ts b) (hf : b.feed line t = .ok b') : Reads (ts ++ significant [(t, line)]) b' := by
  cases ht : t.isSilent with
  | true =>
    obtain rfl : b' = b := by simpa [feed_silent b line ht] using hf.symm
    simpa [significant, ht] using h
  | false =>
    simp only [significant, ht, Bool.not_false, List.filter_cons_of_pos, List.filter_nil]
    cases t with
    | start tag attrs => exact h.start hf
    | close tag => exact h.close hf
    | chars s => exact h.chars hf
    | comment | instruction _ | directive => cases ht

theorem Reads.feedAll {ts us : List (Token × Nat)} {b b' : Builder} (h : Reads ts b)
    (hf : b.feedAll us = .ok b') : Reads (ts ++ significant us) b' := by
  induction us generalizing ts b with
  | nil =>
    cases hf
    simpa [significant] using h
  | cons u us ih =>
    obtain ⟨t, line⟩ := u
    cases hb : b.feed line t with
    | error m => simp [Builder.feedAll, hb] at hf
    | ok c =>
      rw [feedAll_cons_ok us hb] at hf
      have hr := ih (h.feed hb) hf
      have hs : significant ((t, line) :: us) = significant [(t, line)] ++ significant us := by
        simp [significant, ← List.filter_append]
      rwa [hs, ← List.append_assoc]

theorem isDocument_of_feedAll {ts : List (Token × Nat)} {b : Builder} {root : Node}
    (hf : feedAll {} ts = .ok b) (hr : b.finish = .ok root) : IsDocument (significant ts) root := by
  have h₀ : Reads [] {} := .opened (.nil (by simp))
  have h : Reads (significant ts) b := by simpa using h₀.feedAll hf
  cases h with
  | @opened stack _ => cases stack <;> simp [finish] at hr
  | closed h =>
    obtain rfl := Except.ok.inj hr
    exact h

end Builder

theorem build_of_isDocument (path : String) {tokens : List (Token × Nat)} {root : Node}
    (h : IsDocument (significant tokens) root) (line : Nat) :
    build path tokens (.complete line) = .ok root := by
  have hf := Builder.feedAll_document h
  rw [Builder.feedAll_significant] at hf
  simp [build, hf, Builder.finish]

theorem isDocument_of_build {path : String} {tokens : List (Token × Nat)} {root : Node} {line : Nat}
    (h : build path tokens (.complete line) = .ok root) : IsDocument (significant tokens) root := by
  unfold build at h
  split at h
  · cases h
  · rename_i b hf
    cases hr : b.finish with
    | error m => simp [hr] at h
    | ok n =>
      obtain rfl : n = root := by simpa [hr] using h
      exact Builder.isDocument_of_feedAll hf hr

/-- A sequence of tokens without a fault is refused only for a misfit. -/
theorem build_ok_or_misfit (path : String) (tokens : List (Token × Nat)) (line : Nat) :
    (∃ root, build path tokens (.complete line) = .ok root) ∨
      ∃ place misfit, build path tokens (.complete line) =
        .error ⟨path, place, Text.ofString (Misfit.message misfit)⟩ := by
  unfold build
  cases Builder.feedAll {} tokens with
  | error e => exact .inr ⟨e.1, e.2, rfl⟩
  | ok b =>
    cases hr : b.finish with
    | error m => exact .inr ⟨line, m, by simp [hr]⟩
    | ok n => exact .inl ⟨n, by simp [hr]⟩

/-- A sequence of tokens has a tree exactly if it is a document, and then it is the tree of the
derivation; every other sequence is refused with the message of a misfit. -/
theorem build_complete_iff_isDocument (path : String) (tokens : List (Token × Nat)) (line : Nat) :
    (∀ root, build path tokens (.complete line) = .ok root ↔ IsDocument (significant tokens) root) ∧
    ((¬∃ root, IsDocument (significant tokens) root) ↔
      ∃ place misfit, build path tokens (.complete line) =
        .error ⟨path, place, Text.ofString (Misfit.message misfit)⟩) := by
  refine ⟨fun root => ⟨isDocument_of_build, fun h => build_of_isDocument path h line⟩, ?_⟩
  constructor
  · intro hn
    rcases build_ok_or_misfit path tokens line with ⟨root, h⟩ | h
    · exact absurd ⟨root, isDocument_of_build h⟩ hn
    · exact h
  · rintro ⟨place, misfit, he⟩ ⟨root, h⟩
    rw [build_of_isDocument path h line] at he
    cases he

end MoquiLint.Markup
