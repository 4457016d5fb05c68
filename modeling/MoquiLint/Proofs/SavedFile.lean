import MoquiLint.Proofs.FolderPath
import MoquiLint.Proofs.SpelledPath

/-!
# Saved files

A file in a folder of its own is saved in two steps: the missing folders on the way are made, then the file is
written, or put in place of what stands there. Afterwards it is read back. A folder was missing only if nothing
stood in it, so what was there before is what the file replaces.
-/
namespace MoquiLint

namespace Str

theorem mem_join {c : Char} (hc : c ≠ '/') {names : List String} :
    c ∈ (join "/" names).toList ↔ ∃ n ∈ names, c ∈ n.toList := by
  induction names with
  | nil => simp [join]
  | cons n names ih =>
    cases names with
    | nil => simp [join]
    | cons m names => simp [join, ih, hc]

end Str

theorem Path.contains_spell {c : Char} (hs : c ≠ '/') (hd : c ≠ '.') (absolute : Bool) (names : List String) :
    (spell absolute names).toList.contains c = names.any fun n => n.toList.contains c := by
  have hj : c ∈ (Str.join "/" names).toList ↔ ∃ n ∈ names, c ∈ n.toList := Str.mem_join hs
  rw [Bool.eq_iff_iff, List.any_eq_true]
  simp only [List.contains_iff_mem]
  unfold spell
  split
  · simpa [hs] using hj
  · split
    · rename_i hnil
      simp [List.isEmpty_iff.mp hnil, hd]
    · exact hj

namespace Disk

open Entry (IsFolderAt IsHosted Alike)

variable {d d' : Disk}

/-- The folder that relative paths start from is there. -/
def IsGrounded (d : Disk) : Prop := d.root.IsFolderAt d.here

/-- Where a path starts, innermost name first. -/
def origin (d : Disk) (absolute : Bool) : List String := if absolute then [] else d.here.reverse

theorem IsGrounded.isFolderAt_origin (h : d.IsGrounded) (absolute : Bool) :
    d.root.IsFolderAt (d.origin absolute).reverse := by
  unfold origin
  split
  · exact IsFolderAt.nil h
  · rwa [List.reverse_reverse]

theorem locate_eq (d : Disk) (last : Bool) {path : String} (h : path ≠ "") :
    d.locate last path = if path.toList.contains '\x00' then .error .invalid
      else d.follow last maxLinks (d.origin (Path.isAbsolute path)) (Path.split path) := by
  rw [locate, if_neg (by simpa using h)]
  rfl

/-- A path that is spelled from its names is followed name by name. -/
theorem locate_spell {absolute : Bool} {names : List String} (h : Path.IsClean absolute names) (last : Bool) :
    d.locate last (Path.spell absolute names) =
      if names.any fun n => n.toList.contains '\x00' then .error .invalid
      else d.follow last maxLinks (d.origin absolute) names := by
  have hjoin : names ≠ [] → Path.split (Str.join "/" names) = names := fun hn =>
    Path.split_join hn fun n hn => (h.of_mem hn).2.2
  rw [locate_eq d last (Path.spell_ne_empty h), Path.contains_spell (by decide) (by decide), Path.isAbsolute_spell_of_isClean h,
    Path.split_spell h]
  split
  · rfl
  · cases absolute with
    | true =>
      rw [if_pos rfl, follow_blank (by decide)]
      by_cases hn : names = []
      · subst hn
        exact follow_blank (by decide) _ _ _
      · rw [hjoin hn]
    | false =>
      rw [if_neg Bool.false_ne_true]
      split
      · rename_i hn
        subst hn
        exact follow_blank (by decide) _ _ _
      · rfl

theorem isHosted_of_locate (h : d.IsGrounded) {last : Bool} {path : String} {spot : Spot}
    (hl : d.locate last path = .ok spot) : d.root.IsHosted spot.place := by
  by_cases hne : path = ""
  · subst hne
    cases hl
  · rw [locate_eq d last hne] at hl
    split at hl
    · cases hl
    · exact isHosted_of_follow (h.isFolderAt_origin _) hl

/-- A name that a file or a folder can have. -/
structure IsFileName (n : String) : Prop where
  name : Path.IsName n
  short : n.utf8ByteSize ≤ maxName
  terminated : '\x00' ∉ n.toList

instance (n : String) : Decidable (IsFileName n) :=
  decidable_of_iff (Path.IsName n ∧ n.utf8ByteSize ≤ maxName ∧ '\x00' ∉ n.toList)
    ⟨fun ⟨h₁, h₂, h₃⟩ => ⟨h₁, h₂, h₃⟩, fun ⟨h₁, h₂, h₃⟩ => ⟨h₁, h₂, h₃⟩⟩

theorem IsFileName.isProper {n : String} (h : IsFileName n) : IsProper n :=
  ⟨by simp [h.name.ne_empty, h.name.ne_dot], by simp [h.name.ne_dots], Nat.not_lt.mpr h.short⟩

section
variable {absolute : Bool} {names more : List String}

/-- Names without the character that ends a path. -/
def AreTerminated (names : List String) : Prop := names.any (fun n => n.toList.contains '\x00') = false

theorem areTerminated_of_locate (hc : Path.IsClean absolute names) {last : Bool} {spot : Spot}
    (h : d.locate last (Path.spell absolute names) = .ok spot) : AreTerminated names := by
  rw [locate_spell hc] at h
  split at h
  · cases h
  · rename_i hz
    exact Bool.eq_false_iff.mpr hz

theorem AreTerminated.append (h : AreTerminated names) (hm : ∀ n ∈ more, IsFileName n) :
    AreTerminated (names ++ more) := by
  rw [AreTerminated, List.any_append, Bool.or_eq_false_iff]
  refine ⟨h, List.any_eq_false.mpr fun n hn => ?_⟩
  simpa using (hm n hn).terminated

theorem AreTerminated.of_append (h : AreTerminated (names ++ more)) : AreTerminated names := by
  rw [AreTerminated, List.any_append, Bool.or_eq_false_iff] at h
  exact h.1

theorem locate_of_areTerminated (hc : Path.IsClean absolute names) (hz : AreTerminated names) (last : Bool) :
    d.locate last (Path.spell absolute names) = d.follow last maxLinks (d.origin absolute) names := by
  rw [locate_spell hc, if_neg (Bool.eq_false_iff.mp hz)]

end

/-! ### What a change keeps -/

theorem isSlot_of_eq_none {e : Option Entry} (h : e = none) : IsSlot e := by simp [IsSlot, h]

theorem isSlot_of_eq_file {e : Option Entry} {c : Bytes} (h : e = some (.file c)) : IsSlot e := by simp [IsSlot, h]

/-- All that is no file is still there; folders may have other members. -/
structure Keeps (d d' : Disk) : Prop where
  here : d'.here = d.here
  alike : ∀ place e, d.root.at? place = some e → (∀ c, e ≠ .file c) → Alike (some e) (d'.root.at? place)

theorem Keeps.refl (d : Disk) : Keeps d d := ⟨rfl, fun _ _ h _ => h ▸ .same _⟩

theorem Keeps.trans {d'' : Disk} (h : Keeps d d') (h' : Keeps d' d'') : Keeps d d'' := by
  refine ⟨h'.here.trans h.here, fun place e he hf => ?_⟩
  have ha := h.alike place e he hf
  cases hs : d'.root.at? place with
  | none =>
    rw [hs] at ha
    cases ha
  | some f =>
    have hf' : ∀ c, f ≠ .file c := by
      rintro c rfl
      rw [hs] at ha
      cases ha
      exact hf c rfl
    have hb := h'.alike place f hs hf'
    rw [hs] at ha
    cases ha with
    | same => exact hb
    | folders ms ns =>
      obtain ⟨ns', hns⟩ := hb.eq_folder
      rw [hns]
      exact .folders ms ns'

theorem Keeps.carries (h : Keeps d d') : d.Carries d' := fun place e he hf => .inl (h.alike place e he hf)

theorem Keeps.isFolderAt (h : Keeps d d') {place : List String} (hp : d.root.IsFolderAt place) :
    d'.root.IsFolderAt place := by
  obtain ⟨ms, hms⟩ := hp
  exact (h.alike place _ hms (by simp)).eq_folder

theorem Keeps.isGrounded (h : Keeps d d') (hg : d.IsGrounded) : d'.IsGrounded := by
  unfold IsGrounded
  rw [h.here]
  exact h.isFolderAt hg

theorem Keeps.origin (h : Keeps d d') (absolute : Bool) : d'.origin absolute = d.origin absolute := by
  unfold Disk.origin
  rw [h.here]

theorem keeps_set {place : List String} (h : IsSlot (d.root.at? place)) (new : Option Entry) :
    Keeps d { d with root := d.root.set new place } := by
  refine ⟨rfl, fun q f hq hf => ?_⟩
  rw [← hq]
  exact Entry.alike_set d.root new (h.not_prefix hq hf)

theorem keeps_put {place : List String} (h : IsSlot (d.root.at? place)) (e : Entry) : Keeps d (d.put place e) :=
  keeps_set h (some e)

theorem at?_put (h : d.root.IsHosted place) (e : Entry) : (d.put place e).root.at? place = some e :=
  Entry.at?_set_of_isHosted h e

/-! ### Making folders -/

/-- A folder that is made was there, or it is put at a free place. -/
theorem makeFolder_cases {path : String} (h : d.makeFolder path = .ok d') :
    (d' = d ∧ ∃ p ms, d.locate true path = .ok ⟨p, some (.folder ms)⟩) ∨
      ∃ p, d.locate false path = .ok ⟨p, none⟩ ∧ d' = d.put p (.folder []) := by
  unfold makeFolder at h
  split at h
  · rename_i e he
    obtain ⟨p, hp⟩ := entryAt_eq_ok.mp (fail_eq_ok.mp he)
    cases e with
    | folder ms =>
      cases h
      exact .inl ⟨rfl, p, ms, hp⟩
    | file | link | socket => cases h
  · right
    have hc := fail_eq_ok.mp h
    cases hl : d.locate false path with
    | error c =>
      rw [hl] at hc
      cases hc
    | ok spot =>
      obtain ⟨p, e⟩ := spot
      rw [hl] at hc
      cases e with
      | none =>
        cases hc
        exact ⟨p, rfl, rfl⟩
      | some f => cases hc

def waysOf (absolute : Bool) (names : List String) : List String :=
  (List.range names.length).map fun i => Path.spell absolute (names.take (i + 1))

theorem ways_spell {absolute : Bool} {names : List String} (h : Path.IsClean absolute names) :
    ways (Path.spell absolute names) = waysOf absolute names := by
  rw [ways, Path.segments_spell_of_isClean h, Path.isAbsolute_spell_of_isClean h]
  rfl

theorem waysOf_append_singleton (absolute : Bool) (names : List String) (n : String) :
    waysOf absolute (names ++ [n]) = waysOf absolute names ++ [Path.spell absolute (names ++ [n])] := by
  have htake : ∀ i ∈ List.range names.length, (names ++ [n]).take (i + 1) = names.take (i + 1) := fun i hi =>
    List.take_append_of_le_length (List.mem_range.mp hi)
  unfold waysOf
  rw [List.length_append, List.length_singleton, List.range_succ, List.map_append,
    List.map_congr_left fun i hi => by rw [htake i hi], List.map_singleton,
    List.take_of_length_le (by simp)]

/-- What is at the end of a path that leads nowhere yet: a name in a folder. -/
theorem free_of_follow {links : Nat} {p q : List String} {n : String} (hp : d.root.IsFolderAt p)
    (h : d.follow false links p.reverse [n] = .ok ⟨q, none⟩) :
    IsProper n ∧ q = p ++ [n] ∧ d.root.at? (p ++ [n]) = none := by
  have hrev : (n :: p.reverse).reverse = p ++ [n] := by simp
  obtain ⟨ms, hms⟩ := hp
  cases d.next p.reverse n with
  | blank hb =>
    rw [follow_blank hb, follow_nil, List.reverse_reverse, hms] at h
    cases h
  | up hb hu =>
    have hback : d.root.IsFolderAt p.reverse.reverse := by
      rw [List.reverse_reverse]
      exact ⟨ms, hms⟩
    obtain ⟨es, hes⟩ := hback.tail
    rw [follow_up hb hu, follow_nil, hes] at h
    cases h
  | long hb hu hl =>
    rw [follow_long hb hu hl] at h
    cases h
  | none hn hq =>
    rw [follow_none hn _ _ hq] at h
    cases h
    exact ⟨hn, hrev, hrev ▸ hq⟩
  | folder hn es hq =>
    rw [follow_folder hn _ _ hq, follow_nil, hq] at h
    cases h
  | link hn target hq =>
    rw [follow_link hn _ _ hq] at h
    cases h
  | other hn f hf hl hq =>
    rw [follow_end hn _ _ hf hl hq] at h
    cases h

/-- A name that is followed to a folder from an empty one is no name of its own. -/
theorem not_isName_of_follow {links : Nat} {p q : List String} {n : String} {ms : List (String × Entry)}
    (hp : d.root.at? p = some (.folder [])) (h : d.follow true links p.reverse [n] = .ok ⟨q, some (.folder ms)⟩) :
    ¬ Path.IsName n := by
  intro hname
  have hnone : d.root.at? (n :: p.reverse).reverse = none := by
    rw [List.reverse_cons, List.reverse_reverse, Entry.at?_append, hp]
    rfl
  cases d.next p.reverse n with
  | blank hb => simp [hname.ne_empty, hname.ne_dot] at hb
  | up hb hu => exact hname.ne_dots (beq_iff_eq.mp hu)
  | long hb hu hl =>
    rw [follow_long hb hu hl] at h
    cases h
  | none hn hq =>
    rw [follow_none hn _ _ hq] at h
    cases h
  | folder hn es hq => exact absurd (hq.symm.trans hnone) (by simp)
  | link hn target hq => exact absurd (hq.symm.trans hnone) (by simp)
  | other hn f hf hl hq => exact absurd (hq.symm.trans hnone) (by simp)

theorem entry_of_found {absolute : Bool} {names p : List String} {e : Option Entry}
    (h : d.follow true maxLinks (d.origin absolute) names = .ok ⟨p, e⟩) : d.root.at? p = e :=
  (entry_of_follow h).symm

theorem follow_put_folder (hg : d.IsGrounded) {absolute : Bool} {names p : List String} {n : String}
    {ms : List (String × Entry)} (hn : IsProper n)
    (h : d.follow true maxLinks (d.origin absolute) names = .ok ⟨p, some (.folder ms)⟩)
    (hnone : d.root.at? (p ++ [n]) = none) :
    Keeps d (d.put (p ++ [n]) (.folder [])) ∧
      (d.put (p ++ [n]) (.folder [])).root.at? (p ++ [n]) = some (.folder []) ∧
      (d.put (p ++ [n]) (.folder [])).follow true maxLinks (d.origin absolute) (names ++ [n]) =
        .ok ⟨p ++ [n], some (.folder [])⟩ := by
  have hk := keeps_put (isSlot_of_eq_none hnone) (.folder [])
  have hhosted : d.root.IsHosted (p ++ [n]) := .inr ⟨p, n, rfl, ms, entry_of_found h⟩
  have hput := at?_put hhosted (.folder [])
  obtain ⟨ns, hns⟩ := follow_carried hk.carries (hg.isFolderAt_origin absolute) h
  obtain ⟨left, -, happend⟩ := follow_append (List.cons_ne_nil n []) hns
  have hrev : (n :: p.reverse).reverse = p ++ [n] := by simp
  refine ⟨hk, hput, ?_⟩
  rw [happend, follow_folder hn _ _ (by rw [hrev, hput]), follow_nil, hrev, hput]

/-- The folders on the way to names are there: they were there before, or the last one is new and empty. Going
up from a folder leads to one that was there before. -/
structure Made (d d' : Disk) (absolute : Bool) (names p : List String) (ms : List (String × Entry)) : Prop where
  keeps : Keeps d d'
  found : d'.follow true maxLinks (d'.origin absolute) names = .ok ⟨p, some (.folder ms)⟩
  same_or_new : d' = d ∨ (ms = [] ∧ ∃ n ∈ names, n ≠ "..")

theorem Made.step {d₁ : Disk} (hg : d.IsGrounded) {absolute : Bool} {names p : List String} {n : String}
    {ms : List (String × Entry)} (hc : Path.IsClean absolute (names ++ [n])) (hm : Made d d₁ absolute names p ms)
    (h : d₁.makeFolder (Path.spell absolute (names ++ [n])) = .ok d') :
    ∃ q es, Made d d' absolute (names ++ [n]) q es := by
  have hg₁ := hm.keeps.isGrounded hg
  have hp := entry_of_found hm.found
  have hl : ∀ {last spot}, d₁.locate last (Path.spell absolute (names ++ [n])) = .ok spot →
      d₁.follow last maxLinks (d₁.origin absolute) (names ++ [n]) = .ok spot := by
    intro last spot hl
    rwa [locate_of_areTerminated hc (areTerminated_of_locate hc hl)] at hl
  obtain ⟨left, -, happend⟩ := follow_append (List.cons_ne_nil n []) hm.found
  rcases makeFolder_cases h with ⟨rfl, q, es, hq⟩ | ⟨q, hq, rfl⟩
  · refine ⟨q, es, hm.keeps, hl hq, ?_⟩
    rcases hm.same_or_new with hsame | ⟨rfl, m, hmem, hne⟩
    · exact .inl hsame
    · -- nothing stands in the new folder, and below a name no `..` follows
      have hq' := hl hq
      rw [happend] at hq'
      have hno := not_isName_of_follow hp hq'
      obtain ⟨ups, own, he, hown, -⟩ := hc.exists_names
      have hmem' : m ∈ List.replicate ups ".." ++ own := he ▸ List.mem_append_left _ hmem
      rcases List.mem_append.mp hmem' with hup | hmo
      · exact absurd (List.eq_of_mem_replicate hup) hne
      · obtain ⟨own', k, rfl⟩ := (List.eq_nil_or_concat' own).resolve_left (List.ne_nil_of_mem hmo)
        rw [← List.append_assoc] at he
        obtain rfl : n = k := List.singleton_inj.mp (List.append_inj' he rfl).2
        exact absurd (hown n (by simp)) hno
  · have hq' := hl hq
    rw [happend] at hq'
    obtain ⟨hn, rfl, hnone⟩ := free_of_follow ⟨ms, hp⟩ hq'
    obtain ⟨hk, -, hfound⟩ := follow_put_folder hg₁ hn hm.found hnone
    refine ⟨p ++ [n], [], hm.keeps.trans hk, ?_, .inr ⟨rfl, n, by simp, fun he => hn.down (beq_iff_eq.mpr he)⟩⟩
    rw [hk.origin]
    exact hfound

theorem foldlM_makeFolder_singleton (d : Disk) (path : String) : [path].foldlM makeFolder d = d.makeFolder path :=
  bind_pure (d.makeFolder path)

theorem made_of_foldlM (hg : d.IsGrounded) {absolute : Bool} {names : List String}
    (hc : Path.IsClean absolute names) (h : (waysOf absolute names).foldlM makeFolder d = .ok d') :
    ∃ p ms, Made d d' absolute names p ms := by
  induction names using List.reverseRecOn generalizing d' with
  | nil =>
    cases h
    obtain ⟨ms, hms⟩ := hg.isFolderAt_origin absolute
    exact ⟨_, ms, .refl d, by rw [follow_nil, hms], .inl rfl⟩
  | append_singleton names n ih =>
    rw [waysOf_append_singleton, List.foldlM_append] at h
    cases hfold : (waysOf absolute names).foldlM makeFolder d with
    | error f =>
      rw [hfold] at h
      cases h
    | ok d₁ =>
      obtain ⟨p, ms, hm⟩ := ih hc.of_append hfold
      rw [hfold] at h
      exact hm.step hg hc ((foldlM_makeFolder_singleton _ _).symm.trans h)

theorem made_of_makeFolders (hg : d.IsGrounded) {absolute : Bool} {names : List String}
    (hc : Path.IsClean absolute names) (h : d.makeFolders (Path.spell absolute names) = .ok d') :
    ∃ p ms, Made d d' absolute names p ms := by
  rw [makeFolders, ways_spell hc] at h
  exact made_of_foldlM hg hc h

/-! ### Files -/

theorem read?_of_write_eq (hg : d.IsGrounded) {path : String} {content : Bytes}
    (h : d.write path content = .ok d') : d'.read? path = .ok (some content) ∧ Keeps d d' := by
  obtain ⟨p, hl, he, rfl⟩ := write_eq_ok h
  have hk := keeps_put he (.file content)
  have hput : (d.put p (.file content)).root.at? p = some (.file content) :=
    at?_put (isHosted_of_locate hg hl) _
  have hslot := isSlot_of_eq_file hput
  have halike : ∀ q, ¬ p <+: q → Alike (d.root.at? q) ((d.put p (.file content)).root.at? q) :=
    fun q hq => Entry.alike_set d.root _ hq
  have hhere : (d.put p (.file content)).here = d.here := rfl
  have hl' := locate_changed hhere he hslot halike hl
  refine ⟨?_, hk⟩
  rw [read?_eq, hl', hput]

theorem Carries.isFolderAt (h : d.Carries d') {place : List String} (hp : d.root.IsFolderAt place) :
    d'.root.IsFolderAt place := by
  obtain ⟨ms, hms⟩ := hp
  rcases h place _ hms (by simp) with ha | ⟨_, _, _, -, hl, -⟩
  · exact ha.eq_folder
  · cases hl

/-- What is put in place of a link that no path leads through takes nothing else away. -/
theorem carries_put_of_isDead {place : List String} {target : String}
    (hl : d.root.at? place = some (.link target)) (hdead : d.IsDead place (.link target)) (e : Entry) :
    d.Carries (d.put place e) := by
  intro q f hq hf
  by_cases hp : place <+: q
  · obtain ⟨more, rfl⟩ := hp
    cases more with
    | nil =>
      rw [List.append_nil] at hq ⊢
      obtain rfl := Option.some.inj (hl.symm.trans hq)
      exact .inr hdead
    | cons m more =>
      rw [Entry.at?_append, hl] at hq
      cases hq
  · left
    rw [← hq]
    exact Entry.alike_set d.root (some e) hp

/-- What a path leads to holds nothing, or a file. -/
structure IsReadable (r : Except Cause Spot) : Prop where
  no_folder : ∀ p ms, r ≠ .ok ⟨p, some (.folder ms)⟩
  no_socket : ∀ p, r ≠ .ok ⟨p, some .socket⟩
  few_links : r ≠ .error .tooManyLinks

theorem isReadable_of_read? {path : String} {content : Option Bytes} (h : d.read? path = .ok content) :
    IsReadable (d.locate true path) := by
  rw [read?_eq] at h
  refine ⟨fun p ms hl => ?_, fun p hl => ?_, fun hl => ?_⟩ <;>
    · rw [hl] at h
      cases h

/-- A link that a file can be read through, or nothing, is no way to a folder. -/
theorem isDead_of_isReadable {links : Nat} {p : List String} {n target : String} (hn : IsProper n)
    (hl : d.root.at? (n :: p.reverse).reverse = some (.link target))
    (hr : IsReadable (d.follow true links p.reverse [n])) : d.IsDead (p ++ [n]) (.link target) := by
  rw [follow_link hn _ _ hl, Bool.not_true, Bool.and_false, if_neg Bool.false_ne_true, List.append_nil] at hr
  cases links with
  | zero => exact absurd rfl hr.few_links
  | succ links =>
    refine ⟨p, n, target, rfl, rfl, fun more q ms hq => hr.no_folder q ms ?_⟩
    -- both ways to follow the target agree where enough links are left
    have hfew : d.follow true more (linkStart p.reverse target) (Path.split target) ≠ .error .tooManyLinks := by
      rw [hq]
      simp
    have hmore := follow_mono (le_max_right links more) hfew
    have hlinks := follow_mono (le_max_left links more) hr.few_links
    exact hlinks.symm.trans (hmore.trans hq)

theorem replace_eq_ok {path : String} {e : Entry} (h : d.replace path e = .ok d') :
    ∃ spot, d.locate false path = .ok spot ∧ d' = d.put spot.place e := by
  have hf := fail_eq_ok.mp h
  cases hl : d.locate false path with
  | error c =>
    rw [hl] at hf
    cases hf
  | ok spot =>
    rw [hl] at hf
    cases hf
    exact ⟨spot, rfl, rfl⟩

/-- A file takes the place of what stands under a name of a folder, so far as that can be read. -/
theorem carries_put_of_follow {links : Nat} {p : List String} {n : String} {spot : Spot} (hname : Path.IsName n)
    (h : d.follow false links p.reverse [n] = .ok spot)
    (hr : d.root.at? (p ++ [n]) ≠ none → IsReadable (d.follow true links p.reverse [n])) (content : Bytes) :
    IsProper n ∧ spot.place = p ++ [n] ∧ d.Carries (d.put (p ++ [n]) (.file content)) := by
  have hrev : (n :: p.reverse).reverse = p ++ [n] := by simp
  have hread : ∀ f, d.root.at? (n :: p.reverse).reverse = some f → IsReadable (d.follow true links p.reverse [n]) := by
    intro f hf
    refine hr fun hnone => ?_
    rw [hrev, hnone] at hf
    cases hf
  cases d.next p.reverse n with
  | blank hb => simp [hname.ne_empty, hname.ne_dot] at hb
  | up hb hu => exact absurd (beq_iff_eq.mp hu) hname.ne_dots
  | long hb hu hs =>
    rw [follow_long hb hu hs] at h
    cases h
  | none hn hq =>
    rw [follow_none hn _ _ hq] at h
    cases h
    rw [hrev] at hq
    exact ⟨hn, hrev, (keeps_put (isSlot_of_eq_none hq) _).carries⟩
  | folder hn es hq =>
    have hfolder := hread _ hq
    rw [follow_folder hn _ _ hq, follow_nil, hq] at hfolder
    exact absurd rfl (hfolder.no_folder _ es)
  | link hn target hq =>
    have hdead := isDead_of_isReadable hn hq (hread _ hq)
    rw [follow_link hn _ _ hq] at h
    cases h
    exact ⟨hn, hrev, carries_put_of_isDead (hrev ▸ hq) hdead _⟩
  | other hn f hf hl hq =>
    have hend := hread _ hq
    rw [follow_end hn _ _ hf hl hq] at h hend
    cases h
    rw [hrev] at hq
    refine ⟨hn, hrev, (keeps_put ?_ _).carries⟩
    cases f with
    | file c => exact isSlot_of_eq_file hq
    | socket => exact absurd rfl (hend.no_socket _)
    | folder es => exact absurd rfl (hf es)
    | link target => exact absurd rfl (hl target)

/-- A file that is put at a path is read back, if what was there could be read and its folders were made. -/
theorem read?_of_replace {d₁ : Disk} (hg : d.IsGrounded) {absolute : Bool} {names : List String} {n : String}
    (hc : Path.IsClean absolute (names ++ [n])) (hname : Path.IsName n) {old : Option Bytes} {content : Bytes}
    (hr : d.read? (Path.spell absolute (names ++ [n])) = .ok old)
    (hm : d.makeFolders (Path.spell absolute names) = .ok d₁)
    (h : d₁.replace (Path.spell absolute (names ++ [n])) (.file content) = .ok d') :
    d'.read? (Path.spell absolute (names ++ [n])) = .ok (some content) ∧ d'.IsGrounded := by
  obtain ⟨p, ms, hmade⟩ := made_of_makeFolders hg hc.of_append hm
  have hg₁ := hmade.keeps.isGrounded hg
  have hp := entry_of_found hmade.found
  obtain ⟨spot, hl, rfl⟩ := replace_eq_ok h
  have hz := areTerminated_of_locate hc hl
  obtain ⟨left, -, happend⟩ := follow_append (List.cons_ne_nil n []) hmade.found
  have hlocate : ∀ last, d₁.locate last (Path.spell absolute (names ++ [n])) = d₁.follow last left p.reverse [n] := by
    intro last
    rw [locate_of_areTerminated hc hz, happend]
  have hread : d₁.root.at? (p ++ [n]) ≠ none → IsReadable (d₁.follow true left p.reverse [n]) := by
    intro hsome
    rcases hmade.same_or_new with rfl | ⟨rfl, -⟩
    · rw [← hlocate]
      exact isReadable_of_read? hr
    · -- nothing stands in a new folder
      rw [Entry.at?_append, hp] at hsome
      exact absurd rfl hsome
  obtain ⟨hn, hplace, hcar⟩ := carries_put_of_follow hname (hlocate false ▸ hl) hread content
  rw [hplace]
  have hat : (d₁.put (p ++ [n]) (.file content)).root.at? (n :: p.reverse).reverse = some (.file content) := by
    rw [List.reverse_cons, List.reverse_reverse]
    exact at?_put (.inr ⟨p, n, rfl, ms, hp⟩) _
  obtain ⟨ns, hfound⟩ := follow_carried hcar (hg₁.isFolderAt_origin absolute) hmade.found
  obtain ⟨left', -, happend'⟩ := follow_append (List.cons_ne_nil n []) hfound
  refine ⟨?_, hcar.isFolderAt hg₁⟩
  have horigin : (d₁.put (p ++ [n]) (.file content)).origin absolute = d₁.origin absolute := rfl
  rw [read?_eq, locate_of_areTerminated hc hz, horigin, happend', follow_end hn _ _ (by simp) (by simp) hat]
  rfl

end Disk

end MoquiLint
