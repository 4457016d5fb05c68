import MoquiLint.Markup.Document
import MoquiLint.Proofs.ByteOrder

/-!
# Lines of a document

A reader goes on from one cursor to another over a piece of the text, and the line goes up with every line break of
that piece. So what a reader finds, or where it fails, is on a line that the rest of the text has. A change of the
character set makes no line breaks.
-/
namespace MoquiLint.Markup

theorem lineBreaks_append (s t : Text) : lineBreaks (s ++ t) = lineBreaks s + lineBreaks t := List.count_append

theorem lineBreaks_cons_of_ne {s : Symbol} (h : s ≠ .char '\n') (t : Text) : lineBreaks (s :: t) = lineBreaks t :=
  List.count_cons_of_ne h

theorem lineAfter_eq (line : Nat) (s : Symbol) : lineAfter line s = line + lineBreaks [s] := by
  unfold lineAfter lineBreaks
  split
  · rename_i h
    rw [h]
    rfl
  · rename_i h
    rw [List.count_cons_of_ne h]
    rfl

theorem lineBreaks_eq_zero {t : Text} (h : ∀ s ∈ t, s ≠ .char '\n') : lineBreaks t = 0 :=
  List.count_eq_zero.mpr fun hm => h _ hm rfl

theorem lineBreaks_takeWhile {p : Symbol → Bool} (h : p (.char '\n') = false) (t : Text) :
    lineBreaks (t.takeWhile p) = 0 := by
  refine lineBreaks_eq_zero fun s hs he => ?_
  have hp := List.all_eq_true.mp List.all_takeWhile s hs
  rw [he, h] at hp
  cases hp

namespace Cursor

/-- Reading has come from one cursor to another over a piece of the text. -/
structure Passes (c : Cursor) (piece : Text) (c' : Cursor) : Prop where
  rest : c.rest = piece ++ c'.rest
  line : c'.line = c.line + lineBreaks piece

/-- A line that what is left of the text has. -/
def Meets (c : Cursor) (line : Nat) : Prop := c.line ≤ line ∧ line ≤ c.line + lineBreaks c.rest

theorem Passes.refl (c : Cursor) : c.Passes [] c := ⟨rfl, rfl⟩

variable {c c' c'' : Cursor} {piece more : Text}

theorem Passes.trans (h : c.Passes piece c') (h' : c'.Passes more c'') : c.Passes (piece ++ more) c'' := by
  refine ⟨?_, ?_⟩
  · rw [h.rest, h'.rest, List.append_assoc]
  · rw [h'.line, h.line, lineBreaks_append, Nat.add_assoc]

theorem meets_self (c : Cursor) : c.Meets c.line := ⟨Nat.le_refl _, Nat.le_add_right _ _⟩

theorem Passes.meets (h : c.Passes piece c') {line : Nat} (hl : c'.Meets line) : c.Meets line := by
  have hrest := congrArg lineBreaks h.rest
  have hline := h.line
  rw [lineBreaks_append] at hrest
  obtain ⟨h₁, h₂⟩ := hl
  exact ⟨by omega, by omega⟩

theorem passes_symbol (s : Symbol) (rest : Text) (line : Nat) :
    Passes ⟨s :: rest, line⟩ [s] ⟨rest, lineAfter line s⟩ :=
  ⟨rfl, lineAfter_eq line s⟩

theorem passes_of_ne {s : Symbol} (h : s ≠ .char '\n') (rest : Text) (line : Nat) :
    Passes ⟨s :: rest, line⟩ [s] ⟨rest, line⟩ := by
  have hp := passes_symbol s rest line
  rwa [lineAfter, if_neg h] at hp

theorem passes_pair_of_ne {s t : Symbol} (hs : s ≠ .char '\n') (ht : t ≠ .char '\n') (rest : Text) (line : Nat) :
    Passes ⟨s :: t :: rest, line⟩ [s, t] ⟨rest, line⟩ :=
  (passes_of_ne hs (t :: rest) line).trans (passes_of_ne ht rest line)

theorem passes_skipSpace (c : Cursor) : c.Passes (c.rest.takeWhile isMarkupSpace) c.skipSpace :=
  ⟨List.takeWhile_append_dropWhile.symm, rfl⟩

end Cursor

open Cursor

/-- A reader goes on behind the piece that it has read, or fails on a line that is left. -/
def IsPlaced {α : Type} (c : Cursor) (next : α → Cursor) : Except Placed α → Prop
  | .ok a => ∃ piece, c.Passes piece (next a)
  | .error e => c.Meets e.1

section
variable {α β : Type} {c c' : Cursor} {piece : Text} {next : α → Cursor} {next' : β → Cursor}

theorem Cursor.Passes.isPlaced (h : c.Passes piece c') {r : Except Placed α} (hr : IsPlaced c' next r) :
    IsPlaced c next r := by
  cases r with
  | ok a =>
    obtain ⟨more, hmore⟩ := hr
    exact ⟨_, h.trans hmore⟩
  | error e => exact h.meets hr

theorem IsPlaced.bind {x : Except Placed α} (h : IsPlaced c next x) {f : α → Except Placed β}
    (hf : ∀ a, x = .ok a → IsPlaced (next a) next' (f a)) : IsPlaced c next' (x >>= f) := by
  cases x with
  | ok a =>
    obtain ⟨piece, hp⟩ := h
    exact hp.isPlaced (hf a rfl)
  | error e => exact h

end

/-! ### Names and spaces -/

theorem isNamePart_newline : isNamePart (.char '\n') = false := by decide

theorem isPlaced_readName (c : Cursor) : IsPlaced c (fun r => r.elim c Prod.snd) (readName c) := by
  unfold readName
  split
  · exact c.meets_self
  · rename_i s more hs
    split
    · split
      · exact c.meets_self
      · rename_i t rest ht
        split
        · refine ⟨c.rest.takeWhile isNamePart, ?_, ?_⟩
          · exact (List.takeWhile_append_dropWhile (p := isNamePart)).symm.trans (by rw [ht]; rfl)
          · exact (Nat.add_zero _).symm.trans (by rw [lineBreaks_takeWhile isNamePart_newline]; rfl)
        · exact c.meets_self
    · exact ⟨[], .refl c⟩

theorem isPlaced_readQName (c : Cursor) (missing : Fault) : IsPlaced c Prod.snd (readQName c missing) := by
  have h := isPlaced_readName c
  unfold readQName
  split
  · rename_i e he
    rw [he] at h
    exact h
  · exact c.meets_self
  · rename_i name rest he
    rw [he] at h
    split
    · exact c.meets_self
    · exact h

/-! ### Character data -/

theorem exists_of_closeReference {written : Text} {c? : Option Char} {s r : Text} {c : Char}
    (h : closeReference written c? s = .ok (c, r)) : s = .char ';' :: r := by
  unfold closeReference at h
  split at h
  · cases h
  · split at h
    · rename_i hs
      split at h
      · cases h
        rw [hs]
      · cases h
    · cases h

/-- A first part, a part of symbols of one kind, and a semicolon are on one line. -/
theorem exists_of_dropWhile {first rest r : Text} {p : Symbol → Bool} (hfirst : lineBreaks first = 0)
    (hp : p (.char '\n') = false) (hrest : rest.dropWhile p = .char ';' :: r) :
    ∃ written, first ++ rest = written ++ r ∧ lineBreaks written = 0 := by
  refine ⟨first ++ (rest.takeWhile p ++ [.char ';']), ?_, ?_⟩
  · have hsplit := List.takeWhile_append_dropWhile (p := p) (l := rest)
    rw [hrest] at hsplit
    rw [List.append_assoc, List.append_assoc]
    exact congrArg (first ++ ·) hsplit.symm
  · rw [lineBreaks_append, lineBreaks_append, hfirst, lineBreaks_takeWhile hp]
    decide

/-- A reference is on one line. -/
theorem exists_of_readReference {s r : Text} {c : Char} (h : readReference s = .ok (c, r)) :
    ∃ written, s = written ++ r ∧ lineBreaks written = 0 := by
  have hhash : lineBreaks [.char '#', .char 'x'] = 0 ∧ lineBreaks [.char '#'] = 0 := by decide
  unfold readReference at h
  split at h
  · exact exists_of_dropWhile hhash.1 (by decide) (exists_of_closeReference h)
  · exact exists_of_dropWhile hhash.2 (by decide) (exists_of_closeReference h)
  · exact @exists_of_dropWhile [] s r isNamePart rfl isNamePart_newline (exists_of_closeReference h)

theorem isPlaced_finishText (line : Nat) (t rest : Text) :
    IsPlaced ⟨rest, line⟩ Prod.snd (finishText line t rest) := by
  unfold finishText
  split
  · exact meets_self _
  · exact ⟨[], .refl _⟩

/-- Quotes do not end lines. -/
def Place.IsOnLine (place : Place) : Prop := place.closedBy (.char '\n') = false

theorem isPlaced_readText {place : Place} (hplace : place.IsOnLine) (line : Nat) (p0 p1 : Option Symbol)
    (read s : Text) : IsPlaced ⟨s, line⟩ Prod.snd (readText place line p0 p1 read s) := by
  fun_induction readText place line p0 p1 read s with
  | case1 => exact meets_self _
  | case2 => exact isPlaced_finishText ..
  | case3 line p0 p1 read b rest h =>
    obtain ⟨-, -, rfl, -⟩ := h
    exact (passes_of_ne (by decide) rest line).isPlaced (isPlaced_finishText ..)
  | case4 => exact meets_self _
  | case5 => exact isPlaced_finishText ..
  | case6 => exact meets_self _
  | case7 line p0 p1 read b rest _ _ _ _ hclosed =>
    have hb : b ≠ .char '\n' := by
      rintro rfl
      rw [Place.IsOnLine, hclosed] at hplace
      cases hplace
    exact (passes_of_ne hb rest line).isPlaced (isPlaced_finishText ..)
  | case8 => exact meets_self _
  | case9 line p0 p1 read b rest _ _ _ _ _ hb c rest' href _ ih =>
    obtain ⟨rfl, -⟩ := hb
    obtain ⟨written, rfl, hwritten⟩ := exists_of_readReference href
    have hp : Passes ⟨.char '&' :: (written ++ rest'), line⟩ (.char '&' :: written) ⟨rest', line⟩ := by
      refine ⟨rfl, ?_⟩
      rw [lineBreaks_cons_of_ne (by decide), hwritten, Nat.add_zero]
    exact hp.isPlaced ih
  | case10 line p0 p1 read rest _ _ _ _ _ _ ih => exact (passes_of_ne (by decide) rest line).isPlaced ih
  | case11 line p0 p1 read b rest _ _ _ _ _ _ _ hb ih =>
    obtain ⟨rfl, -⟩ := hb
    exact (passes_symbol _ rest line).isPlaced ih
  | case12 line p0 p1 read b rest _ _ _ _ _ _ _ _ ih => exact (passes_symbol b rest line).isPlaced ih

/-! ### Tags -/

theorem isPlaced_readValue (c : Cursor) : IsPlaced c Prod.snd (readValue c) := by
  obtain ⟨s, line⟩ := c
  cases s with
  | nil => exact meets_self _
  | cons s rest =>
    have hdouble : (Place.quoted '"').IsOnLine := rfl
    have hsingle : (Place.quoted '\'').IsOnLine := rfl
    simp only [readValue]
    split
    · rename_i hs
      exact (passes_of_ne (by simp [hs]) rest line).isPlaced (isPlaced_readText hdouble ..)
    · split
      · rename_i hs
        exact (passes_of_ne (by simp [hs]) rest line).isPlaced (isPlaced_readText hsingle ..)
      · exact (passes_symbol s rest line).meets (meets_self _)

theorem isPlaced_readAttr (c : Cursor) : IsPlaced c Prod.snd (readAttr c) := by
  have hname := isPlaced_readQName c .noAttributeName
  unfold readAttr
  split
  · rename_i e he
    rw [he] at hname
    exact hname
  · rename_i name c₁ he
    rw [he] at hname
    obtain ⟨piece, hp⟩ := hname
    refine (hp.trans c₁.passes_skipSpace).isPlaced ?_
    split
    · rename_i line hs
      rw [hs]
      exact meets_self _
    · rename_i s rest line hs
      rw [hs]
      split
      · rename_i heq
        refine ((passes_of_ne (by simp [heq]) rest line).trans (passes_skipSpace _)).isPlaced ?_
        have hvalue := isPlaced_readValue (Cursor.skipSpace ⟨rest, line⟩)
        split
        · rename_i e hv
          rw [hv] at hvalue
          exact hvalue
        · rename_i value c₂ hv
          rw [hv] at hvalue
          exact hvalue
      · exact meets_self _

theorem isPlaced_readAttrs (c : Cursor) : IsPlaced c (fun r => r.2.2) (readAttrs c) := by
  fun_induction readAttrs c with
  | case1 c line hs | case3 c line _ hs _ =>
    refine c.passes_skipSpace.isPlaced ?_
    rw [hs]
    exact ⟨Nat.le_refl _, Nat.le_add_right _ _⟩
  | case2 c rest line hs =>
    refine c.passes_skipSpace.isPlaced ?_
    rw [hs]
    exact ⟨_, passes_of_ne (by decide) rest line⟩
  | case4 c line rest _ hs _ =>
    refine c.passes_skipSpace.isPlaced ?_
    rw [hs]
    exact ⟨_, passes_pair_of_ne (by decide) (by decide) rest line⟩
  | case5 c line t rest _ _ hs _ =>
    refine c.passes_skipSpace.isPlaced ?_
    rw [hs]
    exact ((passes_of_ne (by decide) _ line).trans (passes_symbol t rest line)).meets (meets_self _)
  | case6 c s rest line hs _ _ e ha =>
    refine c.passes_skipSpace.isPlaced ?_
    have hattr := isPlaced_readAttr ⟨s :: rest, line⟩
    rw [ha] at hattr
    rw [hs]
    exact hattr
  | case7 c s rest line hs _ _ a c' ha _ _ _ e he ih | case8 c s rest line hs _ _ a c' ha _ _ _ as closed c'' he ih =>
    refine c.passes_skipSpace.isPlaced ?_
    have hattr := isPlaced_readAttr ⟨s :: rest, line⟩
    rw [ha] at hattr
    obtain ⟨piece, hp⟩ := hattr
    rw [hs]
    rw [he] at ih
    exact hp.isPlaced ih

theorem isPlaced_readStart (c : Cursor) : IsPlaced c Prod.snd (readStart c) :=
  (isPlaced_readQName c _).bind fun _ _ => (isPlaced_readAttrs _).bind fun _ _ => ⟨[], .refl _⟩

theorem isPlaced_readClosing (c : Cursor) : IsPlaced c Prod.snd (readClosing c) := by
  refine (isPlaced_readQName c _).bind fun ⟨name, c₁⟩ _ => c₁.passes_skipSpace.isPlaced ?_
  simp only
  split
  · rename_i line hs
    rw [hs]
    exact meets_self _
  · rename_i s rest line hs
    rw [hs]
    split
    · rename_i he
      exact ⟨_, passes_of_ne (by simp [he]) rest line⟩
    · exact meets_self _

/-! ### Comments, instructions and directives -/

theorem isPlaced_skipComment (line : Nat) (p0 p1 : Option Symbol) (t : Text) :
    IsPlaced ⟨t, line⟩ id (skipComment line p0 p1 t) := by
  fun_induction skipComment line p0 p1 t with
  | case1 => exact meets_self _
  | case2 line p0 p1 rest => exact ⟨_, passes_of_ne (by decide) rest line⟩
  | case3 line p0 p1 s rest => exact (passes_symbol s rest line).meets (meets_self _)
  | case4 line p0 p1 s rest _ ih => exact (passes_symbol s rest line).isPlaced ih

theorem isPlaced_readInstruction (line : Nat) (p : Option Symbol) (read t : Text) :
    IsPlaced ⟨t, line⟩ Prod.snd (readInstruction line p read t) := by
  fun_induction readInstruction line p read t with
  | case1 => exact meets_self _
  | case2 line p read s rest hs => exact ⟨_, passes_of_ne (by simp [hs.2]) rest line⟩
  | case3 line p read s rest _ ih => exact (passes_symbol s rest line).isPlaced ih

theorem isPlaced_skipDirective (line : Nat) (quote : Option Symbol) (depth : Nat) (state : DirectiveState) (t : Text) :
    IsPlaced ⟨t, line⟩ id (skipDirective line quote depth state t) := by
  induction t generalizing line quote depth state with
  | nil => exact meets_self _
  | cons b rest ih =>
    have hgo : ∀ quote depth state,
        IsPlaced ⟨b :: rest, line⟩ id (skipDirective (lineAfter line b) quote depth state rest) :=
      fun quote depth state => (passes_symbol b rest line).isPlaced (ih _ quote depth state)
    unfold skipDirective
    extract_lets line' plain
    have hplain : ∀ depth, IsPlaced ⟨b :: rest, line⟩ id (plain depth) := by
      intro depth
      simp only [plain]
      split_ifs with h₁ h₂ h₃ h₄
      · exact hgo ..
      · exact hgo ..
      · exact hgo ..
      · exact ⟨_, passes_of_ne (by simp [h₄]) rest line⟩
      · exact hgo ..
      · exact hgo ..
      · exact hgo ..
    cases state with
    | plain => exact hplain depth
    | opened seen =>
      simp only
      split_ifs
      · exact hgo ..
      · exact hgo ..
      · exact hplain _
    | comment p0 p1 =>
      simp only
      split_ifs
      · exact hgo ..
      · exact hgo ..

theorem isPlaced_readBang (c : Cursor) : IsPlaced c Prod.snd (readBang c) := by
  obtain ⟨t, line⟩ := c
  unfold readBang
  split
  · exact meets_self _
  · exact meets_self _
  · rename_i s rest ht
    obtain rfl : t = .char '-' :: s :: rest := ht
    split
    · rename_i hs
      refine (passes_pair_of_ne (by decide) (by simp [hs]) rest line).isPlaced ?_
      exact (isPlaced_skipComment line none none rest).bind fun c₁ _ => ⟨[], .refl _⟩
    · exact ((passes_of_ne (by decide) _ line).trans (passes_symbol s rest line)).meets (meets_self _)
  · rename_i rest ht
    obtain rfl : t = .char '[' :: rest := ht
    have hbracket := passes_of_ne (s := .char '[') (by decide) rest line
    simp only
    have hcdata : Place.cdata.IsOnLine := rfl
    split
    · rename_i hopen
      obtain ⟨more, rfl⟩ := List.isPrefixOf_iff_prefix.mp hopen
      rw [List.drop_left]
      have hopening : Passes ⟨Text.ofString "CDATA[" ++ more, line⟩ (Text.ofString "CDATA[") ⟨more, line⟩ := ⟨rfl, rfl⟩
      refine (hbracket.trans hopening).isPlaced ?_
      exact (isPlaced_readText hcdata line none none [] more).bind fun ⟨text, c₁⟩ _ => ⟨[], .refl _⟩
    · split
      · exact meets_self _
      · refine ⟨Nat.le_add_right _ _, Nat.add_le_add_left ?_ line⟩
        exact (((List.take_sublist _ _).trans (List.drop_sublist _ _)).cons _).count_le _
  · rename_i s rest _ _ _ ht
    obtain rfl : t = s :: rest := ht
    refine (passes_symbol s rest line).isPlaced ?_
    exact (isPlaced_skipDirective (lineAfter line s) none 0 .plain rest).bind fun c₁ _ => ⟨[], .refl _⟩

/-! ### Declarations -/

def readBody (c : Cursor) : Except Placed (String × Text × Cursor) :=
  match readName c with
  | .error e => .error e
  | .ok none => .error (c.line, .noTargetName)
  | .ok (some (target, c)) =>
    match readInstruction c.skipSpace.line none [] c.skipSpace.rest with
    | .error e => .error e
    | .ok (body, c) => .ok (target, body, c)

/-- The label of the character set that a declaration asks for; it is empty if there is none. -/
def declaredLabel (body : Text) : Text := pseudoAttr (Text.ofString "encoding=") body

/-- The label in a declaration that stands at a cursor, and where the declaration ends. -/
def Cursor.declaration? (c : Cursor) : Option (Text × Cursor) :=
  match c.rest with
  | .char '<' :: .char '?' :: rest =>
    match readBody ⟨rest, c.line⟩ with
    | .ok (target, body, c) => if target == "xml" then some (declaredLabel body, c) else none
    | .error _ => none
  | _ => none

theorem isPlaced_readBody (c : Cursor) : IsPlaced c (fun r => r.2.2) (readBody c) := by
  have hname := isPlaced_readName c
  unfold readBody
  split
  · rename_i e he
    rw [he] at hname
    exact hname
  · exact c.meets_self
  · rename_i target c₁ he
    rw [he] at hname
    obtain ⟨piece, hp⟩ := hname
    have hbody := isPlaced_readInstruction c₁.skipSpace.line none [] c₁.skipSpace.rest
    refine (hp.trans c₁.passes_skipSpace).isPlaced ?_
    split
    · rename_i e hi
      rw [hi] at hbody
      exact hbody
    · rename_i body c₂ hi
      rw [hi] at hbody
      exact hbody

theorem readTarget_eq (charsets : Bool) (c : Cursor) : readTarget charsets c =
    readBody c >>= fun r =>
      (if r.1 == "xml" then declare charsets r.2.1 r.2.2 else .ok r.2.2) >>= fun c' =>
        .ok ([.instruction r.1], c') := by
  unfold readTarget readBody
  cases readName c with
  | error e => rfl
  | ok r =>
    cases r with
    | none => rfl
    | some r =>
      obtain ⟨target, c₁⟩ := r
      simp only [bind, Except.bind]
      cases readInstruction c₁.skipSpace.line none [] c₁.skipSpace.rest with
      | error e => rfl
      | ok r =>
        simp only
        split_ifs <;> rfl

/-- A declaration leaves the rest of the document as it is, or has it read anew in the set that it asks for. -/
theorem declare_cases (charsets : Bool) (body : Text) (c : Cursor) :
    (∃ f, declare charsets body c = .error (c.line, f)) ∨ declare charsets body c = .ok c ∨
      ∃ cs, Charset.ofLabel? (declaredLabel body) = some cs ∧
        declare charsets body c = .ok ⟨cs.decode (Text.encode c.rest), c.line⟩ := by
  unfold declare
  simp only
  split
  · exact .inl ⟨_, rfl⟩
  · split
    · exact .inr (.inl rfl)
    · split
      · exact .inl ⟨_, rfl⟩
      · rename_i cs hcs
        cases charsets with
        | false => cases hcs
        | true => exact .inr (.inr ⟨cs, hcs, rfl⟩)

/-- What is left behind tokens: the text behind the piece that was read, or that text read anew in a declared set. -/
def Cursor.Leaves (c : Cursor) (piece : Text) (c' : Cursor) : Prop :=
  c.Passes piece c' ∨ ∃ label cs c₁, c.declaration? = some (label, c₁) ∧ Charset.ofLabel? label = some cs ∧
    c.Passes piece c₁ ∧ c' = ⟨cs.decode (Text.encode c₁.rest), c₁.line⟩

/-- Tokens are read from a piece of the text, or there is a fault on a line that is left. -/
def IsRead (c : Cursor) : Except Placed (List Token × Cursor) → Prop
  | .ok r => ∃ piece, c.Leaves piece r.2
  | .error e => c.Meets e.1

theorem IsPlaced.isRead {c : Cursor} {r : Except Placed (List Token × Cursor)} (h : IsPlaced c Prod.snd r) :
    IsRead c r := by
  cases r with
  | ok r =>
    obtain ⟨piece, hp⟩ := h
    exact ⟨piece, .inl hp⟩
  | error e => exact h

theorem isRead_readTarget (charsets : Bool) (rest : Text) (line : Nat) :
    IsRead ⟨.char '<' :: .char '?' :: rest, line⟩ (readTarget charsets ⟨rest, line⟩) := by
  have hbody := (passes_pair_of_ne (s := .char '<') (t := .char '?') (by decide) (by decide) rest line).isPlaced
    (isPlaced_readBody ⟨rest, line⟩)
  rw [readTarget_eq]
  cases hr : readBody ⟨rest, line⟩ with
  | error e =>
    rw [hr] at hbody
    exact hbody
  | ok r =>
    obtain ⟨target, body, c₁⟩ := r
    rw [hr] at hbody
    obtain ⟨piece, hp⟩ := hbody
    simp only [bind, Except.bind]
    split_ifs with htarget
    · obtain ⟨f, hd⟩ | hd | ⟨cs, hcs, hd⟩ := declare_cases charsets body c₁
      · rw [hd]
        exact hp.meets c₁.meets_self
      · rw [hd]
        exact ⟨piece, .inl hp⟩
      · rw [hd]
        refine ⟨piece, .inr ⟨declaredLabel body, cs, c₁, ?_, hcs, hp, rfl⟩⟩
        simp only [Cursor.declaration?, hr, htarget, if_pos]
    · exact ⟨piece, .inl hp⟩

theorem isRead_nextTokens (charsets : Bool) (c : Cursor) : IsRead c (nextTokens charsets c) := by
  obtain ⟨t, line⟩ := c
  unfold nextTokens
  split
  · exact meets_self _
  · rename_i rest ht
    obtain rfl : t = .char '<' :: .char '/' :: rest := ht
    exact ((passes_pair_of_ne (by decide) (by decide) rest line).isPlaced (isPlaced_readClosing _)).isRead
  · rename_i rest ht
    obtain rfl : t = .char '<' :: .char '?' :: rest := ht
    exact isRead_readTarget charsets rest line
  · rename_i rest ht
    obtain rfl : t = .char '<' :: .char '!' :: rest := ht
    exact ((passes_pair_of_ne (by decide) (by decide) rest line).isPlaced (isPlaced_readBang _)).isRead
  · rename_i rest _ _ _ _ ht
    obtain rfl : t = .char '<' :: rest := ht
    exact ((passes_of_ne (by decide) rest line).isPlaced (isPlaced_readStart _)).isRead
  · have hcontent : Place.content.IsOnLine := rfl
    refine IsPlaced.isRead ((isPlaced_readText hcontent line none none [] t).bind fun ⟨text, c₁⟩ _ => ?_)
    exact ⟨[], .refl _⟩

end MoquiLint.Markup
