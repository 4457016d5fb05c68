import MoquiLint.Proofs.JsonScalar

/-!
# Reading printed JSON

What the two printers write is read back. Both write texts of one grammar, in which blanks may stand
between the parts of a value, and the reader takes every such text. Fuel is counted in characters.
-/
namespace MoquiLint.Json

/-! ### Values -/

mutual

/-- A value as its reader sees it: stray bytes in texts have become replacement characters. -/
def seen : Json → Json
  | .str t => .str (Text.ofChars (Text.codes t))
  | .arr xs => .arr (seenItems xs)
  | .obj ms => .obj (seenMembers ms)
  | j => j

def seenItems : List Json → List Json
  | [] => []
  | x :: xs => seen x :: seenItems xs

def seenMembers : List (String × Json) → List (String × Json)
  | [] => []
  | (k, v) :: ms => (k, seen v) :: seenMembers ms

end

mutual

def isExact : Json → Bool
  | .real _ => false
  | .arr xs => areItemsExact xs
  | .obj ms => areMembersExact ms
  | _ => true

def areItemsExact : List Json → Bool
  | [] => true
  | x :: xs => isExact x && areItemsExact xs

def areMembersExact : List (String × Json) → Bool
  | [] => true
  | (_, v) :: ms => isExact v && areMembersExact ms

end

theorem seenItems_eq_map (xs : List Json) : seenItems xs = xs.map seen := by
  induction xs with
  | nil => rfl
  | cons x xs ih => rw [seenItems, ih, List.map_cons]

theorem areItemsExact_eq_all (xs : List Json) : areItemsExact xs = xs.all isExact := by
  induction xs with
  | nil => rfl
  | cons x xs ih => rw [areItemsExact, ih, List.all_cons]

theorem seenMembers_eq_map (ms : List (String × Json)) :
    seenMembers ms = ms.map fun m => (m.1, m.2.seen) := by
  induction ms with
  | nil => rfl
  | cons m ms ih => rw [seenMembers, ih, List.map_cons]

theorem areMembersExact_eq_all (ms : List (String × Json)) :
    areMembersExact ms = ms.all fun m => m.2.isExact := by
  induction ms with
  | nil => rfl
  | cons m ms ih => rw [areMembersExact, ih, List.all_cons]

def IsGap (s : List Char) : Prop := ∀ c ∈ s, isBlank c = true

mutual

/-- The texts that write a value, on one line or on several. -/
inductive Writes : Json → List Char → Prop
  | null : Writes .null "null".toList
  | bool (b : Bool) : Writes (.bool b) (scalar (.bool b))
  | int (n : Int) : Writes (.int n) (toString n).toList
  | str (t : Text) : Writes (.str (Text.ofChars (Text.codes t))) (quoted t)
  | noItems : Writes (.arr []) ['[', ']']
  | arr {xs : List Json} {gap s : List Char} (hg : IsGap gap) (h : WritesItems xs s) :
      Writes (.arr xs) ('[' :: (gap ++ s))
  | noMembers : Writes (.obj []) ['\x7b', '\x7d']
  | obj {ms : List (String × Json)} {gap s : List Char} (hg : IsGap gap) (h : WritesMembers ms s) :
      Writes (.obj ms) ('\x7b' :: (gap ++ s))

/-- The texts that write the items of a list, with the closing bracket. -/
inductive WritesItems : List Json → List Char → Prop
  | last {x : Json} {s gap : List Char} (h : Writes x s) (hg : IsGap gap) :
      WritesItems [x] (s ++ (gap ++ [']']))
  | more {x : Json} {s gap : List Char} {xs : List Json} {t : List Char} (h : Writes x s)
      (hg : IsGap gap) (hs : WritesItems xs t) : WritesItems (x :: xs) (s ++ ',' :: (gap ++ t))

/-- The texts that write the members of an object, with the closing brace. -/
inductive WritesMembers : List (String × Json) → List Char → Prop
  | last {k : String} {v : Json} {s gap gap' : List Char} (hg : IsGap gap) (h : Writes v s)
      (hg' : IsGap gap') :
      WritesMembers [(k, v)] (quoted (Text.ofString k) ++ ':' :: (gap ++ (s ++ (gap' ++ ['\x7d']))))
  | more {k : String} {v : Json} {s gap gap' : List Char} {ms : List (String × Json)} {t : List Char}
      (hg : IsGap gap) (h : Writes v s) (hg' : IsGap gap') (hs : WritesMembers ms t) :
      WritesMembers ((k, v) :: ms)
        (quoted (Text.ofString k) ++ ':' :: (gap ++ (s ++ ',' :: (gap' ++ t))))

end

/-! ### Printers -/

theorem isGap_nil : IsGap [] := by simp [IsGap]

theorem isGap_space : IsGap [' '] := by simp [IsGap, isBlank]

theorem isGap_newline (level : Nat) : IsGap (newline level) := by
  intro c hc
  simp only [newline, List.mem_cons, List.mem_replicate] at hc
  rcases hc with rfl | ⟨-, rfl⟩ <;> decide

theorem isExact_cons {x : Json} {xs : List Json} (h : areItemsExact (x :: xs) = true) :
    x.isExact = true ∧ areItemsExact xs = true := by
  simpa [areItemsExact] using h

theorem isExact_member {k : String} {v : Json} {ms : List (String × Json)}
    (h : areMembersExact ((k, v) :: ms) = true) : v.isExact = true ∧ areMembersExact ms = true := by
  simpa [areMembersExact] using h

mutual

theorem writes_compact {j : Json} (h : j.isExact = true) : Writes j.seen (compactChars j) := by
  match j with
  | .null => exact .null
  | .bool b => exact .bool b
  | .int n => exact .int n
  | .str t => exact .str t
  | .arr [] => exact .noItems
  | .arr (x :: xs) =>
    simpa [compactChars, seen] using Writes.arr isGap_nil (writesItems_compact (by simp) h)
  | .obj [] => exact .noMembers
  | .obj (m :: ms) =>
    simpa [compactChars, seen] using Writes.obj isGap_nil (writesMembers_compact (by simp) h)

theorem writesItems_compact {xs : List Json} (hne : xs ≠ []) (h : areItemsExact xs = true) :
    WritesItems (seenItems xs) (compactItems xs ++ [']']) := by
  match xs with
  | [x] =>
    have hx := writes_compact (isExact_cons h).1
    exact .last hx isGap_nil
  | x :: y :: ys =>
    have hx := writes_compact (isExact_cons h).1
    have hs := WritesItems.more hx isGap_nil (writesItems_compact (by simp) (isExact_cons h).2)
    simpa [compactItems, seenItems] using hs

theorem writesMembers_compact {ms : List (String × Json)} (hne : ms ≠ [])
    (h : areMembersExact ms = true) :
    WritesMembers (seenMembers ms) (compactMembers ms ++ ['\x7d']) := by
  match ms with
  | [(k, v)] =>
    have hv := writes_compact (isExact_member h).1
    have hs := WritesMembers.last (k := k) isGap_nil hv isGap_nil
    simpa [compactMembers, seenMembers] using hs
  | (k, v) :: m :: ms =>
    have hv := writes_compact (isExact_member h).1
    have hs := WritesMembers.more (k := k) isGap_nil hv isGap_nil
      (writesMembers_compact (by simp) (isExact_member h).2)
    simpa [compactMembers, seenMembers] using hs

end

mutual

theorem writes_indented (level : Nat) {j : Json} (h : j.isExact = true) :
    Writes j.seen (indentedChars level j) := by
  match j with
  | .null => exact .null
  | .bool b => exact .bool b
  | .int n => exact .int n
  | .str t => exact .str t
  | .arr [] => exact .noItems
  | .arr (x :: xs) =>
    obtain ⟨s, hs, he⟩ := writesItems_indented (level + 1) (isGap_newline level) (by simp) h
    have ha := Writes.arr (isGap_newline (level + 1)) hs
    rw [indentedChars, List.append_assoc, List.cons_append, he]
    exact ha
  | .obj [] => exact .noMembers
  | .obj (m :: ms) =>
    obtain ⟨s, hs, he⟩ := writesMembers_indented (level + 1) (isGap_newline level) (by simp) h
    have ha := Writes.obj (isGap_newline (level + 1)) hs
    rw [indentedChars, List.append_assoc, List.cons_append, he]
    exact ha

/-- Every item starts with a line break, which is the gap before it. -/
theorem writesItems_indented (level : Nat) {gap : List Char} (hg : IsGap gap) {xs : List Json}
    (hne : xs ≠ []) (h : areItemsExact xs = true) :
    ∃ s, WritesItems (seenItems xs) s ∧
      indentedItems level xs ++ (gap ++ [']']) = newline level ++ s := by
  match xs with
  | [x] =>
    have hx := writes_indented level (isExact_cons h).1
    exact ⟨_, .last hx hg, by simp [indentedItems]⟩
  | x :: y :: ys =>
    have hx := writes_indented level (isExact_cons h).1
    obtain ⟨s, hs, he⟩ := writesItems_indented level hg (by simp) (isExact_cons h).2
    exact ⟨_, .more hx (isGap_newline level) hs, by simp [indentedItems, ← he]⟩

theorem writesMembers_indented (level : Nat) {gap : List Char} (hg : IsGap gap)
    {ms : List (String × Json)} (hne : ms ≠ []) (h : areMembersExact ms = true) :
    ∃ s, WritesMembers (seenMembers ms) s ∧
      indentedMembers level ms ++ (gap ++ ['\x7d']) = newline level ++ s := by
  match ms with
  | [(k, v)] =>
    have hv := writes_indented level (isExact_member h).1
    exact ⟨_, .last isGap_space hv hg, by simp [indentedMembers]⟩
  | (k, v) :: m :: ms =>
    have hv := writes_indented level (isExact_member h).1
    obtain ⟨s, hs, he⟩ := writesMembers_indented level hg (by simp) (isExact_member h).2
    exact ⟨_, .more isGap_space hv (isGap_newline level) hs, by simp [indentedMembers, ← he]⟩

end

/-! ### The reader -/

theorem skip_gap {gap : List Char} (hg : IsGap gap) {c : Char} (hc : isBlank c = false) (s : List Char) :
    skip (gap ++ c :: s) = c :: s := by
  simp [skip, List.dropWhile_append_of_pos hg, hc]

def startsValue (c : Char) : Bool := !isBlank c && c != ']' && c != '\x7d'

theorem startsValue_digit {c : Char} (h : c.isDigit = true) : startsValue c = true := by
  simp only [startsValue, isBlank, Bool.and_eq_true, Bool.not_eq_true', Bool.or_eq_false_iff,
    beq_eq_false_iff_ne, bne_iff_ne]
  refine ⟨⟨⟨⟨⟨?_, ?_⟩, ?_⟩, ?_⟩, ?_⟩, ?_⟩ <;> (rintro rfl; cases h)

theorem head_int (n : Int) : ∃ c t, (toString n).toList = c :: t ∧ (c.isDigit = true ∨ c = '-') := by
  rw [toList_int]
  split
  · obtain ⟨d, ds, hd⟩ := List.exists_cons_of_ne_nil (Nat.toDigits_ne_nil : Nat.toDigits 10 n.toNat ≠ [])
    have hc := Nat.isDigit_of_mem_toDigits (by decide) (by decide) (hd ▸ List.mem_cons_self)
    exact ⟨d, ds, hd, .inl hc⟩
  · exact ⟨_, _, rfl, .inr rfl⟩

theorem Writes.head {j : Json} {s : List Char} (h : Writes j s) :
    ∃ c t, s = c :: t ∧ startsValue c = true := by
  cases h with
  | null => exact ⟨'n', "ull".toList, rfl, by decide⟩
  | bool b =>
    cases b
    · exact ⟨'f', "alse".toList, rfl, by decide⟩
    · exact ⟨'t', "rue".toList, rfl, by decide⟩
  | int n =>
    obtain ⟨c, t, ht, hc | rfl⟩ := head_int n
    · exact ⟨c, t, ht, startsValue_digit hc⟩
    · exact ⟨'-', t, ht, by decide⟩
  | str t => exact ⟨'"', _, rfl, by decide⟩
  | noItems => exact ⟨'[', _, rfl, by decide⟩
  | arr => exact ⟨'[', _, rfl, by decide⟩
  | noMembers => exact ⟨'\x7b', _, rfl, by decide⟩
  | obj => exact ⟨'\x7b', _, rfl, by decide⟩

theorem WritesItems.head {xs : List Json} {s : List Char} (h : WritesItems xs s) :
    ∃ c t, s = c :: t ∧ startsValue c = true := by
  cases h with
  | last h | more h =>
    obtain ⟨c, t, rfl, hc⟩ := h.head
    exact ⟨c, _, rfl, hc⟩

theorem WritesMembers.head {ms : List (String × Json)} {s : List Char} (h : WritesMembers ms s) :
    ∃ t, s = '"' :: t := by
  cases h <;> exact ⟨_, rfl⟩

theorem value?_int (n : Int) (fuel : Nat) {s : List Char} (hs : EndsNumber s) :
    value? (fuel + 1) ((toString n).toList ++ s) = some (.int n, s) := by
  have hn := number?_int n hs
  obtain ⟨c, t, ht, hc⟩ := head_int n
  have hd : ∀ d, d.isDigit = false → d ≠ '-' → c ≠ d := by
    rintro d hd hm rfl
    simp [hd, hm] at hc
  rw [ht, List.cons_append] at hn ⊢
  rw [value?]
  · exact hn
  all_goals
    intros
    rename_i he
    exact hd _ (by decide) (by decide) (List.cons.inj he).1

theorem value?_quoted (t : Text) (fuel : Nat) (s : List Char) :
    value? (fuel + 1) (quoted t ++ s) = some (.str (Text.ofChars (Text.codes t)), s) := by
  rw [quoted, List.cons_append, List.cons_append, List.append_assoc, List.singleton_append, value?,
    stringBody_tail]
  rfl

theorem endsNumber_cons {c : Char} (hc : c.isDigit = false ∧ c ≠ '.' ∧ c ≠ 'e' ∧ c ≠ 'E')
    (s : List Char) : EndsNumber (c :: s) := by
  simpa [EndsNumber] using hc

theorem endsNumber_gap {gap : List Char} (hg : IsGap gap) {c : Char}
    (hc : c.isDigit = false ∧ c ≠ '.' ∧ c ≠ 'e' ∧ c ≠ 'E') (s : List Char) :
    EndsNumber (gap ++ c :: s) := by
  cases gap with
  | nil => exact endsNumber_cons hc s
  | cons b gap =>
    have hb := hg b (by simp)
    refine endsNumber_cons ?_ _
    simp only [isBlank, Bool.or_eq_true, beq_iff_eq] at hb
    rcases hb with ((rfl | rfl) | rfl) | rfl <;> decide

theorem value?_arr {t : List Char} {c : Char} {u : List Char} (ht : skip t = c :: u) (hc : c ≠ ']')
    (fuel : Nat) :
    value? (fuel + 1) ('[' :: t) = (items? fuel (c :: u)).map fun r => (.arr r.1, r.2) := by
  rw [value?, ht]
  split
  · rename_i he
    exact absurd (List.cons.inj he).1 hc
  · cases items? fuel (c :: u) <;> simp

theorem value?_obj {t : List Char} {c : Char} {u : List Char} (ht : skip t = c :: u) (hc : c ≠ '\x7d')
    (fuel : Nat) :
    value? (fuel + 1) ('\x7b' :: t) = (members? fuel (c :: u)).map fun r => (.obj r.1, r.2) := by
  rw [value?, ht]
  split
  · rename_i he
    exact absurd (List.cons.inj he).1 hc
  · cases members? fuel (c :: u) <;> simp

theorem skip_gap_value {gap : List Char} (hg : IsGap gap) {c : Char} (hc : startsValue c = true)
    (s : List Char) : skip (gap ++ c :: s) = c :: s ∧ c ≠ ']' ∧ c ≠ '\x7d' := by
  simp only [startsValue, Bool.and_eq_true, Bool.not_eq_true', bne_iff_ne] at hc
  exact ⟨skip_gap hg hc.1.1 s, hc.1.2, hc.2⟩

theorem items?_more {s t : List Char} {x : Json} {fuel : Nat} (hv : value? fuel s = some (x, ',' :: t)) :
    items? (fuel + 1) s = (items? fuel (skip t)).map fun r => (x :: r.1, r.2) := by
  have hs : skip (',' :: t) = ',' :: t := skip_gap isGap_nil (by decide) t
  rw [items?, hv]
  cases hi : items? fuel (skip t) <;> simp [hs, hi]

theorem members?_last {k : String} {t u out : List Char} {v : Json} {fuel : Nat}
    (hv : value? fuel (skip t) = some (v, u)) (hu : skip u = '\x7d' :: out) :
    members? (fuel + 1) (quoted (Text.ofString k) ++ ':' :: t) = some ([(k, v)], out) := by
  have hs : skip (':' :: t) = ':' :: t := skip_gap isGap_nil (by decide) t
  rw [quoted, List.cons_append, List.cons_append, List.append_assoc, List.singleton_append, members?,
    stringBody_tail]
  simp [hs, hv, hu]

theorem members?_more {k : String} {t u more : List Char} {v : Json} {fuel : Nat}
    (hv : value? fuel (skip t) = some (v, u)) (hu : skip u = ',' :: more) :
    members? (fuel + 1) (quoted (Text.ofString k) ++ ':' :: t) =
      (members? fuel (skip more)).map fun r => ((k, v) :: r.1, r.2) := by
  have hs : skip (':' :: t) = ':' :: t := skip_gap isGap_nil (by decide) t
  rw [quoted, List.cons_append, List.cons_append, List.append_assoc, List.singleton_append, members?,
    stringBody_tail]
  cases hm : members? fuel (skip more) <;> simp [hs, hv, hu, hm]

-- By recursion on the derivation: the values below a list or an object are written by shorter texts, so
-- there is fuel for them.
mutual

/-- A value is read back from any text that writes it, whatever follows that is no part of a number. -/
theorem Writes.value? {j : Json} {s : List Char} (h : Writes j s) {rest : List Char}
    (hr : EndsNumber rest) (fuel : Nat) (hf : 2 * s.length ≤ fuel) :
    value? fuel (s ++ rest) = some (j, rest) := by
  have hpos : fuel ≠ 0 := by
    obtain ⟨c, t, rfl, -⟩ := h.head
    simp only [List.length_cons] at hf
    omega
  obtain ⟨fuel, rfl⟩ := Nat.exists_eq_succ_of_ne_zero hpos
  match h with
  | .null => rfl
  | .bool true => rfl
  | .bool false => rfl
  | .int n => exact value?_int n fuel hr
  | .str t => exact value?_quoted t fuel rest
  | .noItems => rfl
  | @Writes.arr xs gap s hg hi =>
    have hf' : 2 * s.length < fuel := by
      simp only [List.length_cons, List.length_append] at hf
      omega
    have hi' := hi.items? rest fuel hf'
    obtain ⟨c, t, rfl, hc⟩ := hi.head
    obtain ⟨hs, hb, -⟩ := skip_gap_value hg hc (t ++ rest)
    rw [List.cons_append] at hi'
    rw [List.cons_append, List.append_assoc, List.cons_append, value?_arr hs hb, hi']
    rfl
  | .noMembers => rfl
  | @Writes.obj ms gap s hg hm =>
    have hf' : 2 * s.length < fuel := by
      simp only [List.length_cons, List.length_append] at hf
      omega
    have hm' := hm.members? rest fuel hf'
    obtain ⟨t, rfl⟩ := hm.head
    obtain ⟨hs, -, hb⟩ := skip_gap_value hg (c := '"') (by decide) (t ++ rest)
    rw [List.cons_append] at hm'
    rw [List.cons_append, List.append_assoc, List.cons_append, value?_obj hs hb, hm']
    rfl

theorem WritesItems.items? {xs : List Json} {s : List Char} (h : WritesItems xs s) (rest : List Char)
    (fuel : Nat) (hf : 2 * s.length < fuel) : items? fuel (s ++ rest) = some (xs, rest) := by
  obtain ⟨fuel, rfl⟩ := Nat.exists_eq_succ_of_ne_zero (Nat.ne_zero_of_lt hf)
  match h with
  | @WritesItems.last x s gap hx hg =>
    have hr : EndsNumber (gap ++ ']' :: rest) := endsNumber_gap hg (by decide) rest
    have hf' : 2 * s.length ≤ fuel := by
      simp only [List.length_append] at hf
      omega
    have hv := hx.value? hr fuel hf'
    have hs : skip (gap ++ ']' :: rest) = ']' :: rest := skip_gap hg (by decide) rest
    simp [Json.items?, hv, hs]
  | @WritesItems.more x s gap xs t hx hg hi =>
    have hr : EndsNumber (',' :: (gap ++ (t ++ rest))) := endsNumber_cons (by decide) _
    have hf' : 2 * s.length ≤ fuel ∧ 2 * t.length < fuel := by
      simp only [List.length_append, List.length_cons] at hf
      omega
    have hv := hx.value? hr fuel hf'.1
    have hi' := hi.items? rest fuel hf'.2
    obtain ⟨c, u, rfl, hc⟩ := hi.head
    obtain ⟨hs, -, -⟩ := skip_gap_value hg hc (u ++ rest)
    rw [List.cons_append] at hi' hv
    rw [List.append_assoc, List.cons_append, List.append_assoc, List.cons_append, items?_more hv, hs, hi']
    rfl

theorem WritesMembers.members? {ms : List (String × Json)} {s : List Char} (h : WritesMembers ms s)
    (rest : List Char) (fuel : Nat) (hf : 2 * s.length < fuel) :
    members? fuel (s ++ rest) = some (ms, rest) := by
  obtain ⟨fuel, rfl⟩ := Nat.exists_eq_succ_of_ne_zero (Nat.ne_zero_of_lt hf)
  match h with
  | @WritesMembers.last k v s gap gap' hg hv hg' =>
    have hr : EndsNumber (gap' ++ '\x7d' :: rest) := endsNumber_gap hg' (by decide) rest
    have hf' : 2 * s.length ≤ fuel := by
      simp only [List.length_append, List.length_cons] at hf
      omega
    have hv' := hv.value? hr fuel hf'
    have hs' : skip (gap' ++ '\x7d' :: rest) = '\x7d' :: rest := skip_gap hg' (by decide) rest
    obtain ⟨c, u, rfl, hc⟩ := hv.head
    obtain ⟨hs, -, -⟩ := skip_gap_value hg hc (u ++ (gap' ++ '\x7d' :: rest))
    rw [List.cons_append, ← hs] at hv'
    simpa using members?_last (k := k) hv' hs'
  | @WritesMembers.more k v s gap gap' ms t hg hv hg' hm =>
    have hr : EndsNumber (',' :: (gap' ++ (t ++ rest))) := endsNumber_cons (by decide) _
    have hf' : 2 * s.length ≤ fuel ∧ 2 * t.length < fuel := by
      simp only [List.length_append, List.length_cons] at hf
      omega
    have hv' := hv.value? hr fuel hf'.1
    have hm' := hm.members? rest fuel hf'.2
    obtain ⟨c, u, rfl, hc⟩ := hv.head
    obtain ⟨t, rfl⟩ := hm.head
    obtain ⟨hs, -, -⟩ := skip_gap_value hg hc (u ++ ',' :: (gap' ++ ('"' :: t ++ rest)))
    obtain ⟨hs', -, -⟩ := skip_gap_value hg' (c := '"') (by decide) (t ++ rest)
    have hu : skip (',' :: (gap' ++ ('"' :: t ++ rest))) = ',' :: (gap' ++ ('"' :: t ++ rest)) :=
      skip_gap isGap_nil (by decide) _
    rw [List.cons_append, ← hs] at hv'
    have hk := members?_more (k := k) hv' hu
    rw [List.cons_append] at hk hm'
    rw [hs', hm'] at hk
    simpa using hk

end

theorem Writes.ofChars? {j : Json} {s : List Char} (h : Writes j s) : ofChars? s = some j := by
  have hr : EndsNumber [] := by simp [EndsNumber]
  have hv := h.value? hr (2 * s.length + 2) (by omega)
  obtain ⟨c, t, rfl, hc⟩ := h.head
  obtain ⟨hs, -, -⟩ := skip_gap_value isGap_nil hc t
  rw [List.append_nil] at hv
  rw [List.nil_append] at hs
  rw [Json.ofChars?, hs, hv]
  rfl

theorem ofChars?_compact {j : Json} (h : j.isExact = true) : ofChars? (compact j).toList = some j.seen := by
  rw [compact, String.toList_ofList]
  exact (writes_compact h).ofChars?

theorem ofChars?_indented {j : Json} (h : j.isExact = true) :
    ofChars? (indented j).toList = some j.seen := by
  rw [indented, String.toList_ofList]
  exact (writes_indented 0 h).ofChars?

/-! ### Values that print without loss -/

@[simp] theorem seen_string (s : String) : (Json.string s).seen = .string s := by
  simp [Json.string, seen, Text.ofString]

/-- All texts are valid and all numbers are integers. -/
def IsFaithful (j : Json) : Prop := j.isExact = true ∧ j.seen = j

theorem isFaithful_null : IsFaithful .null := ⟨rfl, rfl⟩

theorem isFaithful_string (s : String) : (Json.string s).IsFaithful := ⟨rfl, seen_string s⟩

theorem isFaithful_arr {xs : List Json} (h : ∀ x ∈ xs, x.IsFaithful) : (Json.arr xs).IsFaithful := by
  constructor
  · rw [isExact, areItemsExact_eq_all, List.all_eq_true]
    exact fun x hx => (h x hx).1
  · rw [seen, seenItems_eq_map, List.map_congr_left fun x hx => (h x hx).2, List.map_id']

theorem isFaithful_obj {ms : List (String × Json)} (h : ∀ m ∈ ms, m.2.IsFaithful) :
    (Json.obj ms).IsFaithful := by
  constructor
  · rw [isExact, areMembersExact_eq_all, List.all_eq_true]
    exact fun m hm => (h m hm).1
  · rw [seen, seenMembers_eq_map]
    have he : ∀ m ∈ ms, (m.1, m.2.seen) = m := fun m hm => by rw [(h m hm).2]
    rw [List.map_congr_left he, List.map_id']

theorem isFaithful_list {α : Type} {f : α → Json} (h : ∀ a, (f a).IsFaithful) (xs : Option (List α)) :
    (Json.list f xs).IsFaithful := by
  cases xs with
  | none => exact isFaithful_null
  | some xs =>
    refine isFaithful_arr fun x hx => ?_
    obtain ⟨a, -, rfl⟩ := List.mem_map.mp hx
    exact h a

end MoquiLint.Json
