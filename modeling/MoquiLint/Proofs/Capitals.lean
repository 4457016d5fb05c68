import Mathlib.Data.List.Forall2
import Mathlib.Data.List.Induction
import Mathlib.Data.List.SplitBy
import MoquiLint.Proofs.CleanPath
import MoquiLint.Proofs.NameTests

/-!
# Spelling with capitals

The spelling with capitals is found in two stages: a name is cut at separators, its parts into words. Here it is
proved to be one pass over each part that looks at the neighbours of a character only. So no character is lost, added
or moved, and what is spelled with capitals once stays as it is, if it is ASCII.
-/
namespace MoquiLint

theorem Seq.flatten_splitOn {α : Type} (p : α → Bool) (s : List α) :
    (splitOn p s).flatten = s.filter fun a => !p a := by
  induction s with
  | nil => rfl
  | cons a s ih =>
    cases hs : splitOn p s with
    | nil => exact absurd hs (splitOn_ne_nil p s)
    | cons w ws =>
      rw [hs, List.flatten_cons] at ih
      by_cases ha : p a <;> simp [splitOn, hs, ha, ← ih]

theorem Seq.flatten_fields {α : Type} (p : α → Bool) (s : List α) :
    (fields p s).flatten = s.filter fun a => !p a := by
  rw [fields, List.flatten_filter_not_isEmpty, flatten_splitOn]

theorem Seq.mem_of_mem_fields {α : Type} {p : α → Bool} {s part : List α} (h : part ∈ fields p s) {a : α}
    (ha : a ∈ part) : a ∈ s := by
  have hmem : a ∈ (fields p s).flatten := List.mem_flatten.mpr ⟨part, h, ha⟩
  rw [flatten_fields] at hmem
  exact List.mem_of_mem_filter hmem

namespace Text

theorem inRuns_filter {n m : Nat} (h : n < m) (table : List (Nat × Nat × Nat)) :
    inRuns (table.filter fun r => r.1 < m) n = inRuns table n := by
  rw [inRuns, inRuns, List.any_filter]
  congr 1
  funext r
  by_cases hr : r.1 ≤ n
  · simp [Nat.lt_of_le_of_lt hr h]
  · simp [hr]

theorem shiftBy_filter {n m : Nat} (h : n < m) (table : List (Nat × Nat × Nat × Nat)) :
    shiftBy (table.filter fun r => r.1 < m) n = shiftBy table n := by
  rw [shiftBy, shiftBy, List.find?_filter]
  congr 2
  funext r
  rw [Bool.eq_iff_iff, decide_eq_true_eq]
  refine ⟨And.right, fun hq => ⟨?_, hq⟩⟩
  simp only [Bool.and_eq_true, decide_eq_true_eq] at hq ⊢
  exact Nat.lt_of_le_of_lt hq.1.1 h

end Text

namespace Naming

/-! ### One pass over a part -/

def raised (s : Symbol) : Symbol := .char (Text.toUpper s.code)

/-- Whether a word starts at a symbol, judged by the kind of the symbol before it, none at the front, and by what
comes after. A word is of one kind, but the last capital before a lower-case letter starts the word of that letter. -/
def opens (before : Option Shape) (s : Symbol) (after : Text) : Bool :=
  if before = some .upper then
    match shape s.code with
    | .lower => false
    | .upper => startsWith .lower after
    | _ => true
  else before != some (shape s.code)

def raiseWords : Option Shape → Text → Text
  | _, [] => []
  | before, s :: t => (if opens before s t then raised s else s) :: raiseWords (some (shape s.code)) t

theorem opens_of_ne {before : Option Shape} {s : Symbol} (h : before ≠ some (shape s.code))
    (hlower : before = some .upper → shape s.code ≠ .lower) (after : Text) : opens before s after = true := by
  unfold opens
  split
  · rename_i hb
    have hupper : shape s.code ≠ .upper := fun he => h (hb.trans (congrArg some he.symm))
    have hl := hlower hb
    cases hs : shape s.code <;> simp_all
  · simpa using h

/-- Symbols of the kind before them start no word, unless it is a capital before a lower-case letter. -/
theorem raiseWords_same {k : Shape} {w t : Text} (hw : ∀ s ∈ w, shape s.code = k)
    (ht : k = .upper → startsWith .lower t = false) :
    raiseWords (some k) (w ++ t) = w ++ raiseWords (some k) t := by
  induction w with
  | nil => rfl
  | cons s w ih =>
    obtain ⟨hs, hrest⟩ := List.forall_mem_cons.mp hw
    have hnot : opens (some k) s (w ++ t) = false := by
      unfold opens
      split
      · rename_i hk
        obtain rfl := Option.some.inj hk
        rw [hs]
        cases w with
        | nil => exact ht rfl
        | cons r w => simp [startsWith, hrest r List.mem_cons_self]
      · simp [hs]
    rw [List.cons_append, raiseWords, hnot, hs, ih hrest]
    rfl

/-- The first symbol of a run starts a word, unless it is a lower-case letter after a capital. -/
theorem raiseWords_run {before : Option Shape} {k : Shape} {w t : Text} (hne : w ≠ [])
    (hw : ∀ s ∈ w, shape s.code = k) (hk : before ≠ some k) (hlower : before = some .upper → k ≠ .lower)
    (ht : k = .upper → startsWith .lower t = false) :
    raiseWords before (w ++ t) = capitalize w ++ raiseWords (some k) t := by
  obtain ⟨s, w, rfl⟩ := List.exists_cons_of_ne_nil hne
  obtain ⟨hs, hrest⟩ := List.forall_mem_cons.mp hw
  have hopens : opens before s (w ++ t) = true := opens_of_ne (hs ▸ hk) (hs ▸ hlower) _
  rw [List.cons_append, raiseWords, hopens, hs, raiseWords_same hrest ht]
  rfl

theorem startsWith_append {k : Shape} {w : Text} (hne : w ≠ []) (hw : ∀ s ∈ w, shape s.code = k) (j : Shape)
    (t : Text) : startsWith j (w ++ t) = decide (k = j) := by
  obtain ⟨s, w, rfl⟩ := List.exists_cons_of_ne_nil hne
  simp [startsWith, hw s List.mem_cons_self, beq_eq_decide]

theorem startsWith_eq {k : Shape} {w : Text} (hne : w ≠ []) (hw : ∀ s ∈ w, shape s.code = k) (j : Shape) :
    startsWith j w = decide (k = j) := by
  simpa using startsWith_append hne hw j []

/-- Of capitals before a lower-case run the first starts a word, and the last starts that of the run. -/
theorem raiseWords_handOver {before : Option Shape} {w b t : Text} {x : Symbol} (hb : b ≠ [])
    (hw : ∀ s ∈ w ++ [x], shape s.code = .upper) (hlower : ∀ s ∈ b, shape s.code = .lower)
    (hk : before ≠ some .upper) :
    raiseWords before (w ++ [x] ++ (b ++ t)) = capitalize w ++ (capitalize (x :: b) ++ raiseWords (some .lower) t) := by
  have hx : shape x.code = .upper := hw x (by simp)
  have hstart : startsWith .lower (b ++ t) = true := by simp [startsWith_append hb hlower]
  have hrun : raiseWords (some .upper) (b ++ t) = b ++ raiseWords (some .lower) t := by
    obtain ⟨s, b, rfl⟩ := List.exists_cons_of_ne_nil hb
    obtain ⟨hs, hrest⟩ := List.forall_mem_cons.mp hlower
    have hnot : opens (some .upper) s (b ++ t) = false := by simp [opens, hs]
    rw [List.cons_append, raiseWords, hnot, hs, raiseWords_same hrest (by simp)]
    rfl
  rw [List.append_assoc, List.singleton_append]
  by_cases hne : w = []
  · subst hne
    have hopens : opens before x (b ++ t) = true := opens_of_ne (hx ▸ hk) (fun _ => by rw [hx]; decide) _
    rw [List.nil_append, raiseWords, hopens, hx, hrun]
    rfl
  · have hopens : opens (some .upper) x (b ++ t) = true := by simp [opens, hx, hstart]
    have hother : startsWith .lower (x :: (b ++ t)) = false := by simp [startsWith, hx]
    rw [raiseWords_run hne (fun s hs => hw s (List.mem_append_left _ hs)) hk (by simp) (fun _ => hother), raiseWords,
      hopens, hx, hrun]
    rfl

/-! ### Words -/

/-- Runs of one kind each, and of another kind than the one before. -/
inductive AreRuns : Option Shape → List Text → Prop
  | nil {before : Option Shape} : AreRuns before []
  | cons {before : Option Shape} {k : Shape} {w : Text} {ws : List Text} (hne : w ≠ [])
      (hw : ∀ s ∈ w, shape s.code = k) (hk : before ≠ some k) (h : AreRuns (some k) ws) : AreRuns before (w :: ws)

theorem shape_of_isChain {s : Symbol} {w : Text}
    (h : (s :: w).IsChain fun a b => (shape a.code == shape b.code) = true) :
    ∀ r ∈ s :: w, shape r.code = shape s.code := by
  induction w generalizing s with
  | nil => simp
  | cons r w ih =>
    rw [List.isChain_cons_cons, beq_iff_eq] at h
    refine List.forall_mem_cons.mpr ⟨rfl, ?_⟩
    rw [h.1]
    exact ih h.2

theorem areRuns_of_isChain {ws : List Text} {before : Option Shape} (hne : [] ∉ ws)
    (hsame : ∀ w ∈ ws, w.IsChain fun a b => (shape a.code == shape b.code) = true)
    (hdiff : ws.IsChain fun v w => ∃ hv hw, (shape (v.getLast hv).code == shape (w.head hw).code) = false)
    (hfirst : ∀ s w ws', ws = (s :: w) :: ws' → before ≠ some (shape s.code)) : AreRuns before ws := by
  induction ws generalizing before with
  | nil => exact .nil
  | cons w ws ih =>
    obtain ⟨s, w, rfl⟩ := List.exists_cons_of_ne_nil fun he : w = [] => hne (he ▸ List.mem_cons_self)
    have hshape := shape_of_isChain (hsame _ List.mem_cons_self)
    refine .cons (by simp) hshape (hfirst s w ws rfl) ?_
    refine ih (fun hin => hne (List.mem_cons_of_mem _ hin)) (fun v hv => hsame v (List.mem_cons_of_mem _ hv))
      hdiff.tail ?_
    rintro r v ws' rfl
    rw [List.isChain_cons_cons] at hdiff
    obtain ⟨⟨hv, hw, hlast⟩, -⟩ := hdiff
    rw [hshape _ (List.getLast_mem hv)] at hlast
    simpa using hlast

theorem areRuns_runs (t : Text) : AreRuns none (runs t) :=
  areRuns_of_isChain (List.nil_notMem_splitBy _ t) (fun _ => List.isChain_of_mem_splitBy)
    (List.isChain_getLast_head_splitBy (fun a b : Symbol => shape a.code == shape b.code) t) (by simp)

theorem handOver_cons {w : Text} {ws : List Text}
    (h : ∀ v ws', ws = v :: ws' → (startsWith .upper w && startsWith .lower v) = false) :
    handOver (w :: ws) = w :: handOver ws := by
  cases ws with
  | nil => simp [handOver]
  | cons v ws => rw [handOver, if_neg (by simpa using h v ws rfl)]

theorem AreRuns.of_cons {before : Option Shape} {w : Text} {ws : List Text} (h : AreRuns before (w :: ws)) :
    ∃ k, w ≠ [] ∧ (∀ s ∈ w, shape s.code = k) ∧ before ≠ some k ∧ AreRuns (some k) ws := by
  cases h with
  | cons hne hw hk h => exact ⟨_, hne, hw, hk, h⟩

theorem flatMap_capitalize_handOver {ws : List Text} {before : Option Shape} (h : AreRuns before ws)
    (hfirst : before = some .upper → startsWith .lower ws.flatten = false) :
    (handOver ws).flatMap capitalize = raiseWords before ws.flatten := by
  induction ws using List.twoStepInduction generalizing before with
  | nil => simp [handOver, raiseWords]
  | singleton w =>
    obtain ⟨k, hne, hw, hk, -⟩ := h.of_cons
    have hl : before = some .upper → k ≠ .lower := by
      rintro hb rfl
      simpa [startsWith_eq hne hw] using hfirst hb
    have hrun := raiseWords_run (t := []) hne hw hk hl (fun _ => rfl)
    simpa [handOver, raiseWords] using hrun.symm
  | cons_cons a b ws ih ih' =>
    obtain ⟨k, hne, hw, hk, hrest⟩ := h.of_cons
    obtain ⟨j, hne', hw', hk', hrest'⟩ := hrest.of_cons
    have hl : before = some .upper → k ≠ .lower := by
      rintro hb rfl
      simpa [startsWith_append hne hw .lower] using hfirst hb
    have hstart (i : Shape) : startsWith i (b :: ws).flatten = decide (j = i) := by
      rw [List.flatten_cons, startsWith_append hne' hw']
    by_cases hgive : k = .upper ∧ j = .lower
    · -- the last capital goes to the lower-case run, and nothing goes from there to the next
      obtain ⟨rfl, rfl⟩ := hgive
      obtain ⟨w, x, rfl⟩ := (List.eq_nil_or_concat' a).resolve_left hne
      have hnext : handOver ((x :: b) :: ws) = (x :: b) :: handOver ws := by
        refine handOver_cons fun v ws' he => ?_
        subst he
        obtain ⟨i, hv, hvs, hi, -⟩ := hrest'.of_cons
        have hne : i ≠ .lower := fun he => hi (he ▸ rfl)
        simp [startsWith_eq hv hvs, hne]
      have hgiven : handOver ((w ++ [x]) :: b :: ws) = w :: (x :: b) :: handOver ws := by
        rw [handOver, if_pos (by simp [startsWith_eq hne hw, startsWith_eq hne' hw']), ← hnext]
        simp
      have hrun := raiseWords_handOver (t := ws.flatten) hne' hw hw' hk
      rw [hgiven, List.flatMap_cons, List.flatMap_cons, List.flatten_cons, List.flatten_cons, hrun,
        ih hrest' (by simp)]
    · have hkeep : handOver (a :: b :: ws) = a :: handOver (b :: ws) := by
        refine handOver_cons fun v ws' he => ?_
        obtain rfl := (List.cons.inj he).1
        simpa [startsWith_eq hne hw, startsWith_eq hne' hw'] using fun hu hj => hgive ⟨hu, hj⟩
      have hlower : k = .upper → startsWith .lower (b :: ws).flatten = false := by
        intro hu
        rw [hstart]
        simpa using fun hj => hgive ⟨hu, hj⟩
      rw [hkeep, List.flatMap_cons, List.flatten_cons, raiseWords_run hne hw hk hl hlower,
        ih' b hrest fun hu => hlower (Option.some.inj hu)]

/-- The words of a part with capitals are found in one pass. -/
theorem flatMap_capitalize_words {part : Text} (h : Text.isValid part = true) :
    (words part).flatMap capitalize = raiseWords none part := by
  have hblank (ws : List Text) : (ws.filter fun w => !w.isEmpty).flatMap capitalize = ws.flatMap capitalize := by
    induction ws with
    | nil => rfl
    | cons w ws ih => cases w <;> simp [capitalize, ih]
  rw [words, if_pos h, hblank, flatMap_capitalize_handOver (areRuns_runs part) (by simp), runs, List.flatten_splitBy]

/-- The spelling with capitals raises the starts of words in each part between separators. -/
theorem pascalCase_eq {t : Text} (h : Text.isValid t = true) :
    pascalCase t = (Seq.fields (fun s => isSeparator s.code) t).flatMap (raiseWords none) := by
  unfold pascalCase
  rw [Text.isValid, List.all_eq_true] at h
  refine List.flatMap_congr fun part hp => flatMap_capitalize_words ?_
  exact List.all_eq_true.mpr fun s hs => h s (Seq.mem_of_mem_fields hp hs)

/-- The spelling begins with the first symbol that is no separator, in upper case. -/
theorem head?_pascalCase {t : Text} (h : Text.isValid t = true) :
    (pascalCase t).head? = (t.filter fun s => !isSeparator s.code).head?.map raised := by
  rw [pascalCase_eq h, ← Seq.flatten_fields]
  cases hf : Seq.fields (fun s => isSeparator s.code) t with
  | nil => rfl
  | cons part parts =>
    have hne : part ≠ [] := by
      have hmem : part ∈ Seq.fields (fun s => isSeparator s.code) t := hf ▸ List.mem_cons_self
      simpa using (List.mem_filter.mp hmem).2
    obtain ⟨s, w, rfl⟩ := List.exists_cons_of_ne_nil hne
    have hopens : opens none s w = true := by simp [opens]
    simp [raiseWords, hopens]

/-! ### What becomes of each symbol -/

theorem forall₂_raiseWords (before : Option Shape) (t : Text) :
    List.Forall₂ (fun s r => r = s ∨ r = raised s) t (raiseWords before t) := by
  induction t generalizing before with
  | nil => exact .nil
  | cons s t ih =>
    refine .cons ?_ (ih _)
    split
    · exact .inr rfl
    · exact .inl rfl

/-- What is no separator is kept in its place, with its character as it was or in upper case. -/
theorem forall₂_pascalCase {t : Text} (h : Text.isValid t = true) :
    List.Forall₂ (fun s r => r = s ∨ r = raised s) (t.filter fun s => !isSeparator s.code) (pascalCase t) := by
  have hparts (parts : List Text) : List.Forall₂ (fun s r => r = s ∨ r = raised s) parts.flatten
      (parts.flatMap (raiseWords none)) := by
    induction parts with
    | nil => exact .nil
    | cons part parts ih => exact List.rel_append (forall₂_raiseWords none part) ih
  rw [pascalCase_eq h, ← Seq.flatten_fields]
  exact hparts _

/-- What holds of all that is kept and of its upper case holds throughout. -/
theorem forall_mem_pascalCase {t : Text} (h : Text.isValid t = true) {P : Symbol → Prop}
    (hkept : ∀ s ∈ t, isSeparator s.code = false → P s ∧ P (raised s)) : ∀ r ∈ pascalCase t, P r := by
  have hall {l u : Text} (hl : ∀ s ∈ l, P s ∧ P (raised s))
      (hrel : List.Forall₂ (fun s r => r = s ∨ r = raised s) l u) : ∀ r ∈ u, P r := by
    induction hrel with
    | nil => simp
    | cons hr _ ih =>
      obtain ⟨hs, hrest⟩ := List.forall_mem_cons.mp hl
      refine List.forall_mem_cons.mpr ⟨?_, ih hrest⟩
      rcases hr with rfl | rfl
      · exact hs.1
      · exact hs.2
  refine hall (fun s hs => ?_) (forall₂_pascalCase h)
  obtain ⟨hmem, hsep⟩ := List.mem_filter.mp hs
  exact hkept s hmem (by simpa using hsep)

/-! ### ASCII -/

def IsAscii (t : Text) : Prop := ∀ s ∈ t, ∃ c : Char, s = .char c ∧ c.toNat < 128

theorem toUpper_ascii {c : Char} (h : c.toNat < 128) :
    Text.toUpper c = if 97 ≤ c.toNat ∧ c.toNat ≤ 122 then Char.ofNat (c.toNat - 32) else c := by
  have htable : (Text.Table.toUpper.filter fun r => r.1 < 128) = [(97, 122, 1, 65)] := by decide +kernel
  rw [Text.toUpper, ← Text.shiftBy_filter h, htable, Text.shiftBy]
  by_cases hc : 97 ≤ c.toNat ∧ c.toNat ≤ 122
  · have hn : 65 + (c.toNat - 97) = c.toNat - 32 := by omega
    simp [hc, Nat.mod_one, hn]
  · simp only [List.find?_cons, List.find?_nil, Nat.mod_one, beq_self_eq_true, Bool.and_true, ← Bool.decide_and, hc,
      decide_false, ↓reduceIte, Char.ofNat_toNat]

theorem holds_ascii {k : Text.Category} {first last : Nat}
    (htable : (k.runs.filter fun r => r.1 < 128) = [(first, last, 1)]) {c : Char} (h : c.toNat < 128) :
    k.holds c = decide (first ≤ c.toNat ∧ c.toNat ≤ last) := by
  rw [Text.Category.holds, ← Text.inRuns_filter h, htable]
  simp [Text.inRuns, Nat.mod_one]

theorem shape_ascii {c : Char} (h : c.toNat < 128) :
    shape c = if 97 ≤ c.toNat ∧ c.toNat ≤ 122 then .lower
      else if 65 ≤ c.toNat ∧ c.toNat ≤ 90 then .upper
      else if 48 ≤ c.toNat ∧ c.toNat ≤ 57 then .digit else .other := by
  have hlower : Text.isLower c = decide (97 ≤ c.toNat ∧ c.toNat ≤ 122) := holds_ascii (by decide +kernel) h
  have hupper : Text.isUpper c = decide (65 ≤ c.toNat ∧ c.toNat ≤ 90) := holds_ascii (by decide +kernel) h
  have hdigit : Text.isDigit c = decide (48 ≤ c.toNat ∧ c.toNat ≤ 57) := holds_ascii (by decide +kernel) h
  simp only [shape, hlower, hupper, hdigit, decide_eq_true_eq]

/-- In ASCII only lower-case letters have another upper case, which is a capital. -/
theorem raised_ascii {s : Symbol} (h : ∃ c : Char, s = .char c ∧ c.toNat < 128) :
    (∃ c : Char, raised s = .char c ∧ c.toNat < 128) ∧
      (shape s.code = .lower → shape (raised s).code = .upper) ∧ (shape s.code ≠ .lower → raised s = s) ∧
      (isSeparator s.code = false → isSeparator (raised s).code = false) := by
  obtain ⟨c, rfl, hc⟩ := h
  have hraised : raised (.char c) = .char (Text.toUpper c) := rfl
  rw [hraised, toUpper_ascii hc]
  by_cases hl : 97 ≤ c.toNat ∧ c.toNat ≤ 122
  · have hcapital : ∀ n < 128, 65 ≤ n ∧ n ≤ 90 → (Char.ofNat n).toNat = n ∧ isSeparator (Char.ofNat n) = false := by
      decide +kernel
    obtain ⟨hn, hsep⟩ := hcapital (c.toNat - 32) (by omega) (by omega)
    have hshape : shape (Char.ofNat (c.toNat - 32)) = .upper := by
      rw [shape_ascii (by omega), hn, if_neg (by omega), if_pos (by omega)]
    rw [if_pos hl]
    refine ⟨⟨_, rfl, by omega⟩, fun _ => hshape, fun hne => absurd ?_ hne, fun _ => hsep⟩
    rw [Symbol.code, shape_ascii hc, if_pos hl]
  · rw [if_neg hl]
    refine ⟨⟨c, rfl, hc⟩, fun hs => absurd hs ?_, fun _ => rfl, id⟩
    rw [Symbol.code, shape_ascii hc, if_neg hl]
    split_ifs <;> decide

/-- Every lower-case letter follows a letter, so no word starts with one. -/
def IsSettled : Option Shape → Text → Prop
  | _, [] => True
  | before, s :: t =>
    (shape s.code = .lower → before = some .lower ∨ before = some .upper) ∧ IsSettled (some (shape s.code)) t

theorem IsSettled.append {before : Option Shape} {t u : Text} (ht : IsSettled before t) (hu : IsSettled none u) :
    IsSettled before (t ++ u) := by
  induction t generalizing before with
  | nil =>
    cases u with
    | nil => exact trivial
    | cons s u => exact ⟨fun hs => absurd (hu.1 hs) (by simp), hu.2⟩
  | cons s t ih => exact ⟨ht.1, ih ht.2⟩

/-- After the letters at the starts of words are raised, no word starts in lower case, also if the pass before it had
seen a letter of the other case. -/
theorem isSettled_raiseWords {before before' : Option Shape} {t : Text} (ht : IsAscii t)
    (h : before = some .lower ∨ before = some .upper → before' = some .lower ∨ before' = some .upper) :
    IsSettled before' (raiseWords before t) := by
  induction t generalizing before before' with
  | nil => exact trivial
  | cons s t ih =>
    obtain ⟨hs, hrest⟩ := List.forall_mem_cons.mp ht
    obtain ⟨-, hlower, hother, -⟩ := raised_ascii hs
    rw [raiseWords]
    split
    · refine ⟨fun hl => ?_, ih hrest fun hb => ?_⟩
      · by_cases hcase : shape s.code = .lower
        · rw [hlower hcase] at hl
          cases hl
        · rw [hother hcase] at hl
          exact absurd hl hcase
      · by_cases hcase : shape s.code = .lower
        · exact .inr (congrArg some (hlower hcase))
        · rwa [hother hcase]
    · rename_i hopens
      refine ⟨fun hl => h ?_, ih hrest id⟩
      -- a lower-case letter that starts no word follows a letter
      by_contra hb
      simp only [not_or] at hb
      exact hopens (opens_of_ne (hl ▸ hb.1) (fun hu => absurd hu hb.2) t)

theorem raiseWords_of_isSettled {before : Option Shape} {t : Text} (ht : IsAscii t) (h : IsSettled before t) :
    raiseWords before t = t := by
  induction t generalizing before with
  | nil => rfl
  | cons s t ih =>
    obtain ⟨hs, hrest⟩ := List.forall_mem_cons.mp ht
    obtain ⟨-, -, hother, -⟩ := raised_ascii hs
    rw [raiseWords, ih hrest h.2]
    split
    · rename_i hopens
      rw [hother]
      intro hl
      rcases h.1 hl with rfl | rfl <;> simp [opens, hl] at hopens
    · rfl

theorem isSettled_pascalCase {t : Text} (ht : IsAscii t) (h : Text.isValid t = true) :
    IsSettled none (pascalCase t) := by
  have hparts : ∀ parts : List Text, (∀ part ∈ parts, IsAscii part) →
      IsSettled none (parts.flatMap (raiseWords none)) := by
    intro parts
    induction parts with
    | nil => exact fun _ => trivial
    | cons part parts ih =>
      intro hall
      obtain ⟨hpart, hrest⟩ := List.forall_mem_cons.mp hall
      rw [List.flatMap_cons]
      exact (isSettled_raiseWords hpart id).append (ih hrest)
  rw [pascalCase_eq h]
  exact hparts _ fun part hpart s hs => ht s (Seq.mem_of_mem_fields hpart hs)

theorem IsAscii.isValid {t : Text} (h : IsAscii t) : Text.isValid t = true := by
  refine List.all_eq_true.mpr fun s hs => ?_
  obtain ⟨c, rfl, -⟩ := h s hs
  rfl

/-- A name in ASCII is not changed by spelling it with capitals again. -/
theorem pascalCase_pascalCase {t : Text} (ht : IsAscii t) : pascalCase (pascalCase t) = pascalCase t := by
  have hkept : ∀ r ∈ pascalCase t, (∃ c : Char, r = .char c ∧ c.toNat < 128) ∧ isSeparator r.code = false :=
    forall_mem_pascalCase ht.isValid fun s hs hsep =>
      have hraised := raised_ascii (ht s hs)
      ⟨⟨ht s hs, hsep⟩, hraised.1, hraised.2.2.2 hsep⟩
  have hascii : IsAscii (pascalCase t) := fun r hr => (hkept r hr).1
  have hsettled := raiseWords_of_isSettled hascii (isSettled_pascalCase ht ht.isValid)
  rw [pascalCase_eq hascii.isValid, Seq.fields, Seq.splitOn_eq_singleton fun r hr => (hkept r hr).2]
  cases hu : pascalCase t with
  | nil => rfl
  | cons s u => simpa [hu] using hsettled

/-! ### Strings -/

/-- The spelling with capitals keeps all characters but separators (underscores, hyphens, dots and white space) in
their order, each as it is or in its simple upper case. In ASCII doing it twice is doing it once. -/
theorem pascalCase_keeps (s : String) :
    (∃ p : String, pascalCase (Text.ofString s) = Text.ofString p ∧
      List.Forall₂ (fun c d => d = c ∨ d = Text.toUpper c)
        (s.toList.filter fun c => c ≠ '_' ∧ c ≠ '-' ∧ c ≠ '.' ∧ Text.isSpace c = false) p.toList) ∧
    ((∀ c ∈ s.toList, c.toNat < 128) →
      pascalCase (pascalCase (Text.ofString s)) = pascalCase (Text.ofString s)) := by
  have hvalid := Text.isValid_ofString s
  refine ⟨⟨Text.toString (pascalCase (Text.ofString s)), ?_, ?_⟩, fun hascii => pascalCase_pascalCase fun r hr => ?_⟩
  · refine (Text.ofString_toString_of_valid (forall_mem_pascalCase hvalid fun r hr _ => ⟨?_, rfl⟩)).symm
    obtain ⟨c, -, rfl⟩ := List.mem_map.mp hr
    rfl
  · have hsource : (Text.ofString s).filter (fun r => !isSeparator r.code) =
        (s.toList.filter fun c => c ≠ '_' ∧ c ≠ '-' ∧ c ≠ '.' ∧ Text.isSpace c = false).map Symbol.char := by
      rw [Text.ofString, Text.ofChars, List.filter_map]
      congr 2
      funext c
      rw [Bool.eq_iff_iff]
      simp [isSeparator, Symbol.code, and_assoc]
    have hrel := forall₂_pascalCase hvalid
    rw [hsource, List.forall₂_map_left_iff] at hrel
    rw [Text.toString, String.toList_ofList, Text.codes, List.forall₂_map_right_iff]
    refine hrel.imp fun c r hr => ?_
    rcases hr with rfl | rfl
    · exact .inl rfl
    · exact .inr rfl
  · obtain ⟨c, hc, rfl⟩ := List.mem_map.mp hr
    exact ⟨c, rfl, hascii c hc⟩

/-- Separators go, and digits, lone capitals and runs of capitals start words; a second time nothing is left to do. -/
theorem pascalCase_keeps_words :
    (∀ c ∈ "order_item.2x PDFLoader".toList, c.toNat < 128) ∧
      pascalCase (Text.ofString "order_item.2x PDFLoader") = Text.ofString "OrderItem2XPDFLoader" ∧
      pascalCase (Text.ofString "OrderItem2XPDFLoader") = Text.ofString "OrderItem2XPDFLoader" := by
  have hall : "order_item.2x PDFLoader".toList.all (fun c => c.toNat < 128) = true := by decide
  have hascii : ∀ c ∈ "order_item.2x PDFLoader".toList, c.toNat < 128 := fun c hc =>
    of_decide_eq_true (List.all_eq_true.mp hall c hc)
  have hspelled : pascalCase (Text.ofString "order_item.2x PDFLoader") = Text.ofString "OrderItem2XPDFLoader" := by
    decide +kernel
  have htwice := (pascalCase_keeps "order_item.2x PDFLoader").2 hascii
  rw [hspelled] at htwice
  exact ⟨hascii, hspelled, htwice⟩

end Naming

end MoquiLint
