import MoquiLint.Proofs.WatchedTree

/-!
# What a watcher does not lose

While folders are made and files are written and removed, a changed file that is still there in the end was handed
over or is to be, if it was written at a time when its folder was watched, and only then. A folder is not watched
as long as the watcher has not taken notice of its creation, or of that of a folder on the way to it, and it is
never watched if one of them was made under the name of an XML file.
-/
namespace MoquiLint.Watch

open Entry (IsFolderAt)
open Disk (Keeps IsSlot IsFileName)
open Scan (place)

/-! ### Places below the root -/

/-- A folder stands at the root, and the path of the root leads to it. -/
structure Site.IsRoot (t : Site) (d : Disk) : Prop where
  isAbsolute : Path.isAbsolute t.path = true
  isClean : Path.clean t.path = t.path
  isFolder : ∃ ms, d.locate false t.path = .ok ⟨t.base, some (.folder ms)⟩

section
variable {t : Site} {d d' : Disk} {dirs : List String}

theorem isName_of_isFileName (h : ∀ n ∈ dirs, IsFileName n) : ∀ n ∈ dirs, Path.IsName n :=
  fun n hn => (h n hn).name

theorem Site.IsRoot.follow_root (h : t.IsRoot d) :
    Path.IsClean true (Path.segments t.path) ∧ Disk.AreTerminated (Path.segments t.path) ∧
      ∃ ms, d.follow false Disk.maxLinks (d.origin true) (Path.segments t.path) =
        .ok ⟨t.base, some (.folder ms)⟩ := by
  have hspell := Path.clean_eq_spell h.isAbsolute
  have hclean := Path.isClean_segments t.path
  rw [h.isAbsolute] at hclean
  obtain ⟨ms, hms⟩ := h.isFolder
  rw [← h.isClean, hspell] at hms
  have hz := Disk.areTerminated_of_locate hclean hms
  exact ⟨hclean, hz, ms, (Disk.locate_of_areTerminated hclean hz false).symm.trans hms⟩

theorem Site.IsRoot.isFolderAt (h : t.IsRoot d) : d.root.IsFolderAt t.base := by
  obtain ⟨-, -, ms, hms⟩ := h.follow_root
  exact ⟨ms, (Disk.entry_of_follow hms).symm⟩

theorem Site.IsRoot.keeps (h : t.IsRoot d) (hk : Keeps d d') : t.IsRoot d' := by
  obtain ⟨hclean, hz, ms, hms⟩ := h.follow_root
  have horigin : d.root.IsFolderAt (d.origin true).reverse := h.isFolderAt.nil
  obtain ⟨ns, hns⟩ := Disk.follow_carried hk.carries horigin hms
  refine ⟨h.isAbsolute, h.isClean, ns, ?_⟩
  rw [← h.isClean, Path.clean_eq_spell h.isAbsolute, Disk.locate_of_areTerminated hclean hz, hk.origin]
  exact hns

theorem Site.IsRoot.locate_place (h : t.IsRoot d) (hd : ∀ n ∈ dirs, IsFileName n) (hne : dirs ≠ []) {e : Entry}
    (he : d.root.at? (t.base ++ dirs) = some e) (hl : ∀ target, e ≠ .link target) (last : Bool) :
    d.locate last (place t.path dirs) = .ok ⟨t.base ++ dirs, some e⟩ := by
  obtain ⟨hclean, hz, ms, hms⟩ := h.follow_root
  obtain ⟨left, -, happend⟩ := Disk.follow_append hne hms
  have hproper : ∀ n ∈ dirs, Disk.IsProper n := fun n hn => (hd n hn).isProper
  have hplace : d.root.at? (t.base.reverse.reverse ++ dirs) = some e := by rwa [List.reverse_reverse]
  rw [Scan.place_eq_spell h.isAbsolute h.isClean (isName_of_isFileName hd),
    Disk.locate_of_areTerminated (hclean.append (isName_of_isFileName hd)) (hz.append hd), happend,
    Disk.follow_names hproper hplace hl, List.reverse_reverse]

theorem Site.IsRoot.stat_place (h : t.IsRoot d) (hd : ∀ n ∈ dirs, IsFileName n) (hne : dirs ≠ []) {e : Entry}
    (he : d.root.at? (t.base ++ dirs) = some e) (hl : ∀ target, e ≠ .link target) :
    d.stat (place t.path dirs) = .ok e ∧ d.lstat (place t.path dirs) = .ok e := by
  have hlocate := h.locate_place hd hne he hl
  exact ⟨Disk.fail_eq_ok.mpr (Disk.entryAt_eq_ok.mpr ⟨_, hlocate true⟩),
    Disk.fail_eq_ok.mpr (Disk.entryAt_eq_ok.mpr ⟨_, hlocate false⟩)⟩

theorem Site.IsRoot.place_injective (h : t.IsRoot d) {dirs' : List String} (hd : ∀ n ∈ dirs, IsFileName n)
    (hd' : ∀ n ∈ dirs', IsFileName n) (he : place t.path dirs = place t.path dirs') : dirs = dirs' :=
  Scan.place_injective h.isAbsolute h.isClean (isName_of_isFileName hd) (isName_of_isFileName hd') he

end

namespace Run

/-! ### One step -/

inductive Step (t : Site) (r : Run) : Act → Run → Prop
  | makeFolder {dirs : List String} {n : String} (hn : ∀ m ∈ dirs ++ [n], IsFileName m)
      (hd : r.disk.root.IsFolderAt (t.base ++ dirs)) (hfree : r.disk.root.at? (t.base ++ dirs ++ [n]) = none) :
      Step t r (.makeFolder dirs n) (r.put t dirs n (.folder []) .create)
  | write {dirs : List String} {n : String} {content : Bytes} {o : Operation}
      (hn : ∀ m ∈ dirs ++ [n], IsFileName m) (hd : r.disk.root.IsFolderAt (t.base ++ dirs))
      (hslot : IsSlot (r.disk.root.at? (t.base ++ dirs ++ [n]))) (ho : o.created = true ∨ o.written = true) :
      Step t r (.write dirs n content) (r.put t dirs n (.file content) o)
  | remove {dirs : List String} {n : String} (hslot : IsSlot (r.disk.root.at? (t.base ++ dirs ++ [n]))) :
      Step t r (.remove dirs n) { r with disk := r.disk.erase (t.base ++ dirs ++ [n]) }
  | notice {path : String} {o : Operation} {told : List (String × Operation)} (h : r.told = (path, o) :: told) :
      Step t r .notice { r with watcher := (r.watcher.notice r.disk path o).1, told := told }
  | tick : Step t r .tick { r with
      watcher := { r.watcher with pending := [] }
      handed := r.handed ++ r.watcher.pending.filter r.disk.isPlain }

variable {t : Site} {r r' : Run} {a : Act} {dirs : List String} {n p : String}

theorem under?_eq_some {e : Option Entry} (h : r.under? t dirs n = some e) :
    (∀ m ∈ dirs ++ [n], IsFileName m) ∧ r.disk.root.IsFolderAt (t.base ++ dirs) ∧
      r.disk.root.at? (t.base ++ dirs ++ [n]) = e := by
  unfold under? at h
  split at h
  · rename_i hn
    refine ⟨fun m hm => isFileName_iff.mp (List.all_eq_true.mp hn m hm), ?_⟩
    split at h
    · rename_i ms hms
      refine ⟨⟨ms, hms⟩, ?_⟩
      rw [Entry.at?_append, hms, ← Option.some.inj h, Option.bind_some, Entry.at?_cons_folder]
      cases ms.lookup n <;> rfl
    · cases h
  · cases h

theorem step_of_step? (h : r.step? t a = some r') : r.Step t a r' := by
  cases a with
  | makeFolder dirs n =>
    rw [step?] at h
    split at h
    · rename_i hu
      obtain ⟨hn, hd, hfree⟩ := under?_eq_some hu
      cases h
      exact .makeFolder hn hd hfree
    · cases h
  | write dirs n content =>
    rw [step?] at h
    split at h
    · rename_i hu
      obtain ⟨hn, hd, hfree⟩ := under?_eq_some hu
      cases h
      exact .write hn hd (Disk.isSlot_of_eq_none hfree) (.inl rfl)
    · rename_i c hu
      obtain ⟨hn, hd, hfile⟩ := under?_eq_some hu
      cases h
      exact .write hn hd (Disk.isSlot_of_eq_file hfile) (.inr rfl)
    · cases h
  | remove dirs n =>
    rw [step?] at h
    split at h
    · rename_i c hu
      obtain ⟨-, -, hfile⟩ := under?_eq_some hu
      cases h
      exact .remove (Disk.isSlot_of_eq_file hfile)
    · cases h
  | notice =>
    rw [step?] at h
    split at h
    · cases h
    · rename_i path o told htold
      cases h
      exact .notice htold
  | tick =>
    obtain ⟨hwatcher, hbatch⟩ := State.flush_eq r.watcher r.disk
    have htick : r' = { r with
        watcher := (r.watcher.flush r.disk).1, handed := r.handed ++ (r.watcher.flush r.disk).2.getD [] } :=
      (Option.some.inj h).symm
    rw [htick, hwatcher, hbatch]
    exact .tick

theorem Step.keeps (h : r.Step t a r') : Keeps r.disk r'.disk := by
  cases h with
  | makeFolder hn hd hfree => exact Disk.keeps_put (Disk.isSlot_of_eq_none hfree) _
  | write hn hd hslot ho => exact Disk.keeps_put hslot _
  | remove hslot => exact Disk.keeps_erase hslot
  | notice | tick => exact .refl _

theorem Step.watched (h : r.Step t a r') (hp : p ∈ r.watcher.watched) : p ∈ r'.watcher.watched := by
  cases h with
  | notice htold => exact State.watched_notice hp
  | makeFolder | write | remove | tick => exact hp

theorem mem_told_put {e : Entry} {o : Operation} {c : String × Operation} :
    c ∈ (r.put t dirs n e o).told ↔
      c ∈ r.told ∨ (c = (place t.path (dirs ++ [n]), o) ∧ place t.path dirs ∈ r.watcher.watched) := by
  unfold put
  simp only [List.contains_iff_mem]
  split
  · rename_i hw
    simp [hw]
  · rename_i hw
    simp [hw]

/-! ### Runs -/

theorem follow_append_singleton (r : Run) (acts : List Act) (a : Act) :
    r.follow t (acts ++ [a]) = (r.follow t acts).bind fun r' => r'.step? t a := by
  induction acts generalizing r with
  | nil =>
    rw [List.nil_append, follow, follow, Option.bind_some]
    cases r.step? t a <;> rfl
  | cons b acts ih =>
    rw [List.cons_append, follow, follow]
    cases r.step? t b with
    | none => rfl
    | some r' => exact ih r'

/-- What holds in the beginning and is kept by every step holds throughout. -/
theorem follow_induction {P : List Act → Run → Prop} {r₀ : Run} (h₀ : P [] r₀)
    (hstep : ∀ acts a r r', r₀.follow t acts = some r → r.Step t a r' → P acts r → P (acts ++ [a]) r')
    {acts : List Act} {r : Run} (h : r₀.follow t acts = some r) : P acts r := by
  induction acts using List.reverseRecOn generalizing r with
  | nil =>
    cases h
    exact h₀
  | append_singleton acts a ih =>
    rw [follow_append_singleton] at h
    obtain ⟨r', hr', hstep'⟩ := Option.bind_eq_some_iff.mp h
    exact hstep acts a r' r hr' (step_of_step? hstep') (ih hr')

theorem keeps_of_follow {r₀ : Run} {acts : List Act} (h : r₀.follow t acts = some r) : Keeps r₀.disk r.disk :=
  follow_induction (P := fun _ r => Keeps r₀.disk r.disk) (.refl _)
    (fun _ _ _ _ _ hs hk => hk.trans hs.keeps) h

/-! ### Changed files -/

theorem Step.file_cases (h : r.Step t a r') {q : List String} {c : Bytes}
    (hc : r'.disk.root.at? q = some (.file c)) :
    r.disk.root.at? q = some (.file c) ∨ ∃ dirs n, a = .write dirs n c ∧ q = t.base ++ dirs ++ [n] := by
  cases h with
  | makeFolder hn hd hfree =>
    rcases Entry.at?_set_cases (by simp) (fun g hg _ _ => by cases hg; rfl) hc with ⟨-, hnew⟩ | ha
    · cases hnew
    · exact .inl (Entry.eq_file_of_alike ha)
  | write hn hd hslot ho =>
    rcases Entry.at?_set_cases (by simp) (fun g hg _ _ => by cases hg; rfl) hc with ⟨hq, hnew⟩ | ha
    · cases hnew
      exact .inr ⟨_, _, rfl, hq⟩
    · exact .inl (Entry.eq_file_of_alike ha)
  | remove hslot =>
    rcases Entry.at?_set_cases (by simp) (fun g hg => by cases hg) hc with ⟨-, hnew⟩ | ha
    · cases hnew
    · exact .inl (Entry.eq_file_of_alike ha)
  | notice | tick => exact .inl hc

/-- A path was handed over, or it is going to be. -/
def Tracked (r : Run) (p : String) : Prop :=
  p ∈ r.handed ∨ p ∈ r.watcher.pending ∨
    ∃ o : Operation, (p, o) ∈ r.told ∧ (o.created = true ∨ o.written = true)

theorem tracked_of_write {content : Bytes} (h : r.Step t (.write dirs n content) r')
    (hw : place t.path dirs ∈ r.watcher.watched) : r'.Tracked (place t.path (dirs ++ [n])) := by
  cases h with
  | write hn hd hslot ho => exact .inr (.inr ⟨_, mem_told_put.mpr (.inr ⟨rfl, hw⟩), ho⟩)

theorem Tracked.step (h : r.Step t a r') (hx : Path.isXml p = true) (hp : r.disk.isPlain p = true)
    (ht : r.Tracked p) : r'.Tracked p := by
  cases h with
  | makeFolder | write =>
    rcases ht with hh | hp | ⟨o, hmem, ho⟩
    · exact .inl hh
    · exact .inr (.inl hp)
    · exact .inr (.inr ⟨o, mem_told_put.mpr (.inl hmem), ho⟩)
  | remove => exact ht
  | notice htold =>
    rcases ht with hh | hpending | ⟨o, hmem, ho⟩
    · exact .inl hh
    · exact .inr (.inl (State.mem_pending_notice_iff.mpr (.inl hpending)))
    · rw [htold] at hmem
      rcases List.mem_cons.mp hmem with he | hmem
      · cases he
        exact .inr (.inl (State.mem_pending_notice_iff.mpr (.inr ⟨rfl, ho, hx⟩)))
      · exact .inr (.inr ⟨o, hmem, ho⟩)
  | tick =>
    rcases ht with hh | hpending | htold
    · exact .inl (List.mem_append_left _ hh)
    · exact .inl (List.mem_append_right _ (List.mem_filter.mpr ⟨hpending, hp⟩))
    · exact .inr (.inr htold)

/-- In the course of a run a file was written while its folder was watched. -/
def Saw (t : Site) (r₀ : Run) (acts : List Act) (dirs : List String) (n : String) : Prop :=
  ∃ before content after r, acts = before ++ .write dirs n content :: after ∧
    r₀.follow t before = some r ∧ place t.path dirs ∈ r.watcher.watched

section
variable {r₀ : Run} {acts : List Act}

theorem saw_append_singleton (hr : r₀.follow t acts = some r) :
    Saw t r₀ (acts ++ [a]) dirs n ↔
      Saw t r₀ acts dirs n ∨ ∃ content, a = .write dirs n content ∧ place t.path dirs ∈ r.watcher.watched := by
  constructor
  · rintro ⟨before, content, after, r₁, hacts, hr₁, hw⟩
    rcases List.eq_nil_or_concat' after with rfl | ⟨after, b, rfl⟩
    · obtain ⟨rfl, hlast⟩ := List.append_inj' hacts rfl
      obtain rfl := Option.some.inj (hr.symm.trans hr₁)
      exact .inr ⟨content, List.singleton_inj.mp hlast, hw⟩
    · rw [← List.cons_append, ← List.append_assoc] at hacts
      exact .inl ⟨before, content, after, r₁, (List.append_inj' hacts rfl).1, hr₁, hw⟩
  · rintro (⟨before, content, after, r₁, rfl, hr₁, hw⟩ | ⟨content, rfl, hw⟩)
    · exact ⟨before, content, after ++ [a], r₁, by simp, hr₁, hw⟩
    · exact ⟨acts, content, [], r, rfl, hr, hw⟩

theorem not_saw_nil : ¬ Saw t r₀ [] dirs n := by
  rintro ⟨before, content, after, _, hacts, -⟩
  simp at hacts

theorem Saw.watched (hs : Saw t r₀ acts dirs n) (hr : r₀.follow t acts = some r) :
    place t.path dirs ∈ r.watcher.watched := by
  refine follow_induction (P := fun acts r => Saw t r₀ acts dirs n → place t.path dirs ∈ r.watcher.watched)
    (fun h => absurd h not_saw_nil) (fun acts a r r' hr hstep ih hs => ?_) hr hs
  rcases (saw_append_singleton hr).mp hs with hs | ⟨_, -, hw⟩
  · exact hstep.watched (ih hs)
  · exact hstep.watched hw

/-- A file that was written while its folder was watched is not lost. -/
theorem tracked_of_saw (hroot : t.IsRoot r₀.disk) (hr : r₀.follow t acts = some r)
    (hn : ∀ m ∈ dirs ++ [n], IsFileName m) (hx : Path.isXml (place t.path (dirs ++ [n])) = true)
    (hs : Saw t r₀ acts dirs n) (hc : ∃ c, r.disk.root.at? (t.base ++ dirs ++ [n]) = some (.file c)) :
    r.Tracked (place t.path (dirs ++ [n])) := by
  refine follow_induction (P := fun acts r => Saw t r₀ acts dirs n →
    (∃ c, r.disk.root.at? (t.base ++ dirs ++ [n]) = some (.file c)) → r.Tracked (place t.path (dirs ++ [n])))
    (fun h => absurd h not_saw_nil) (fun acts a r r' hr hstep ih hs ⟨c, hc⟩ => ?_) hr hs hc
  rcases (saw_append_singleton hr).mp hs with hbefore | ⟨content, rfl, hw⟩
  · -- the file was there before the step, or the step has written it again
    rcases hstep.file_cases hc with hfile | ⟨dirs', n', rfl, hq⟩
    · have hfound : r.disk.root.at? (t.base ++ (dirs ++ [n])) = some (.file c) := by
        rwa [← List.append_assoc]
      have hstat := ((hroot.keeps (keeps_of_follow hr)).stat_place hn (by simp) hfound (by simp)).1
      have hplain : r.disk.isPlain (place t.path (dirs ++ [n])) = true := by
        rw [Disk.isPlain, hstat]
        rfl
      exact (ih hbefore ⟨c, hfile⟩).step hstep hx hplain
    · obtain ⟨hdirs, hlast⟩ := List.append_inj' hq rfl
      obtain rfl := List.append_cancel_left hdirs
      obtain rfl := List.singleton_inj.mp hlast
      exact tracked_of_write hstep (hbefore.watched hr)
  · exact tracked_of_write hstep hw

/-! ### Mentioned paths -/

def Mentions (r : Run) (p : String) : Prop :=
  p ∈ r.handed ∨ p ∈ r.watcher.pending ∨ ∃ o, (p, o) ∈ r.told

theorem Step.mentions_cases (h : r.Step t a r') (hp : r'.Mentions p) :
    r.Mentions p ∨ ∃ dirs n, (∀ m ∈ dirs ++ [n], IsFileName m) ∧ p = place t.path (dirs ++ [n]) ∧
      (r'.disk.root.IsFolderAt (t.base ++ dirs ++ [n]) ∨
        ∃ content, a = .write dirs n content ∧ place t.path dirs ∈ r.watcher.watched) := by
  cases h with
  | makeFolder hn hd hfree =>
    rcases hp with hh | hp | ⟨o, hmem⟩
    · exact .inl (.inl hh)
    · exact .inl (.inr (.inl hp))
    · rcases mem_told_put.mp hmem with hmem | ⟨he, -⟩
      · exact .inl (.inr (.inr ⟨o, hmem⟩))
      · exact .inr ⟨_, _, hn, congrArg Prod.fst he, .inl ⟨[], Disk.at?_put (.inr ⟨_, _, rfl, hd⟩) _⟩⟩
  | write hn hd hslot ho =>
    rcases hp with hh | hp | ⟨o, hmem⟩
    · exact .inl (.inl hh)
    · exact .inl (.inr (.inl hp))
    · rcases mem_told_put.mp hmem with hmem | ⟨he, hw⟩
      · exact .inl (.inr (.inr ⟨o, hmem⟩))
      · exact .inr ⟨_, _, hn, congrArg Prod.fst he, .inr ⟨_, rfl, hw⟩⟩
  | remove => exact .inl hp
  | notice htold =>
    left
    rcases hp with hh | hp | ⟨o, hmem⟩
    · exact .inl hh
    · rcases State.mem_pending_notice_iff.mp hp with hp | ⟨rfl, -⟩
      · exact .inr (.inl hp)
      · exact .inr (.inr ⟨_, htold ▸ List.mem_cons_self⟩)
    · exact .inr (.inr ⟨o, htold ▸ List.mem_cons_of_mem _ hmem⟩)
  | tick =>
    left
    rcases hp with hh | hp | htold
    · rcases List.mem_append.mp hh with hh | hp
      · exact .inl hh
      · exact .inr (.inl (List.mem_of_mem_filter hp))
    · cases hp
    · exact .inr (.inr htold)

/-- What the watcher is told of is a folder, or a file that was written while its folder was watched. -/
theorem known_of_mentions (hr : r₀.follow t acts = some r) (h₀ : ∀ p, ¬ r₀.Mentions p) (hp : r.Mentions p) :
    ∃ dirs n, (∀ m ∈ dirs ++ [n], IsFileName m) ∧ p = place t.path (dirs ++ [n]) ∧
      (r.disk.root.IsFolderAt (t.base ++ dirs ++ [n]) ∨ Saw t r₀ acts dirs n) := by
  refine follow_induction (P := fun acts r => r.Mentions p → ∃ dirs n, (∀ m ∈ dirs ++ [n], IsFileName m) ∧
    p = place t.path (dirs ++ [n]) ∧ (r.disk.root.IsFolderAt (t.base ++ dirs ++ [n]) ∨ Saw t r₀ acts dirs n))
    (fun h => absurd h (h₀ p)) (fun acts a r r' hr hstep ih hp => ?_) hr hp
  rcases hstep.mentions_cases hp with hp | ⟨dirs, n, hn, he, hfolder | ⟨content, rfl, hw⟩⟩
  · obtain ⟨dirs, n, hn, he, hfolder | hs⟩ := ih hp
    · exact ⟨dirs, n, hn, he, .inl (hstep.keeps.isFolderAt hfolder)⟩
    · exact ⟨dirs, n, hn, he, .inr ((saw_append_singleton hr).mpr (.inl hs))⟩
  · exact ⟨dirs, n, hn, he, .inl hfolder⟩
  · exact ⟨dirs, n, hn, he, .inr ((saw_append_singleton hr).mpr (.inr ⟨content, rfl, hw⟩))⟩

/-! ### Watched folders -/

/-- A folder on the way was made since the beginning, and the watcher has not taken notice of it yet, or takes its
name for that of an XML file. -/
def Awaits (t : Site) (r₀ r : Run) (dirs : List String) : Prop :=
  ∃ way, way ≠ [] ∧ way <+: dirs ∧ ¬ r₀.disk.root.IsFolderAt (t.base ++ way) ∧
    ((place t.path way, Operation.create) ∈ r.told ∨ Path.isXml (place t.path way) = true)

theorem Awaits.mono {dirs' : List String} (h : Awaits t r₀ r dirs) (hd : dirs <+: dirs')
    (ht : ∀ c ∈ r.told, c ∈ r'.told) : Awaits t r₀ r' dirs' := by
  obtain ⟨way, hne, hway, hnew, hmem | hx⟩ := h
  · exact ⟨way, hne, hway.trans hd, hnew, .inl (ht _ hmem)⟩
  · exact ⟨way, hne, hway.trans hd, hnew, .inr hx⟩

/-- Directories that are not left out are watched, or wait to be. -/
def Covers (t : Site) (r₀ r : Run) : Prop :=
  ∀ dirs, (∀ n ∈ dirs, IsFileName n) → (∀ n ∈ dirs, skips n = false) → r.disk.root.IsFolderAt (t.base ++ dirs) →
    place t.path dirs ∈ r.watcher.watched ∨ Awaits t r₀ r dirs

theorem watched_of_notice (hroot : t.IsRoot r.disk) {way more : List String} (hne : way ≠ [])
    (hd : ∀ n ∈ way ++ more, IsFileName n) (hs : ∀ n ∈ way ++ more, skips n = false)
    (hf : r.disk.root.IsFolderAt (t.base ++ (way ++ more))) (hx : Path.isXml (place t.path way) = false) :
    place t.path (way ++ more) ∈ (r.watcher.notice r.disk (place t.path way) .create).1.watched := by
  obtain ⟨hway, hmore⟩ := List.forall_mem_append.mp hd
  rw [← List.append_assoc] at hf
  obtain ⟨ms, hms⟩ := hf.of_append
  obtain ⟨hstat, hlstat⟩ := hroot.stat_place hway hne hms (by simp)
  have hbelow : (Entry.folder ms).IsFolderAt more := by
    obtain ⟨es, hes⟩ := hf
    rw [Entry.at?_append, hms] at hes
    exact ⟨es, hes⟩
  have hname := isName_of_isFileName hway
  have hin := mem_folders (Scan.isAbsolute_place hroot.isAbsolute hroot.isClean hname)
    (Scan.clean_place hroot.isAbsolute hroot.isClean hname) (isName_of_isFileName hmore)
    (List.forall_mem_append.mp hs).2 hbelow
  rw [Scan.place_place hroot.isAbsolute hroot.isClean hname (isName_of_isFileName hmore)] at hin
  exact State.mem_watched_notice hx rfl hstat hlstat hin

theorem Covers.step (hroot : t.IsRoot r.disk) (hk : Keeps r₀.disk r.disk) (h : r.Step t a r')
    (hc : Covers t r₀ r) : Covers t r₀ r' := by
  intro dirs hd hs hf
  cases h with
  | @makeFolder dirs' n hn hd' hfree =>
    have htold : ∀ c ∈ r.told, c ∈ (r.put t dirs' n (.folder []) .create).told := fun c hc =>
      mem_told_put.mpr (.inl hc)
    obtain ⟨ms, hms⟩ := hf
    rcases Entry.at?_set_cases (by simp) (fun g hg _ _ => by cases hg; rfl) hms with ⟨hq, -⟩ | ha
    · -- the new folder: its own creation waits, or what its folder waits for
      rw [List.append_assoc] at hq
      obtain rfl := List.append_cancel_left hq
      have hnew : ¬ r₀.disk.root.IsFolderAt (t.base ++ (dirs' ++ [n])) := by
        intro hold
        obtain ⟨es, hes⟩ := hk.isFolderAt hold
        rw [← List.append_assoc, hfree] at hes
        cases hes
      rcases hc dirs' (List.forall_mem_append.mp hd).1 (List.forall_mem_append.mp hs).1 hd' with hw | hawaits
      · exact .inr ⟨dirs' ++ [n], by simp, List.prefix_rfl, hnew, .inl (mem_told_put.mpr (.inr ⟨rfl, hw⟩))⟩
      · exact .inr (hawaits.mono (List.prefix_append _ _) htold)
    · rcases hc dirs hd hs (Entry.isFolderAt_of_alike ha) with hw | hawaits
      · exact .inl hw
      · exact .inr (hawaits.mono List.prefix_rfl htold)
  | @write dirs' n content o hn hd' hslot ho =>
    obtain ⟨ms, hms⟩ := hf
    rcases Entry.at?_set_cases (by simp) (fun g hg _ _ => by cases hg; rfl) hms with ⟨-, hnew⟩ | ha
    · cases hnew
    · rcases hc dirs hd hs (Entry.isFolderAt_of_alike ha) with hw | hawaits
      · exact .inl hw
      · exact .inr (hawaits.mono List.prefix_rfl fun c hc => mem_told_put.mpr (.inl hc))
  | remove hslot =>
    obtain ⟨ms, hms⟩ := hf
    rcases Entry.at?_set_cases (by simp) (fun g hg => by cases hg) hms with ⟨-, hnew⟩ | ha
    · cases hnew
    · exact hc dirs hd hs (Entry.isFolderAt_of_alike ha)
  | @notice path o told htold =>
    rcases hc dirs hd hs hf with hw | ⟨way, hne, hway, hnew, hmem | hx⟩
    · exact .inl (State.watched_notice hw)
    · rw [htold] at hmem
      rcases List.mem_cons.mp hmem with he | hmem
      · cases he
        cases hx : Path.isXml (place t.path way) with
        | true => exact .inr ⟨way, hne, hway, hnew, .inr hx⟩
        | false =>
          -- all that lies below is watched at once, made in the meantime or not
          obtain ⟨more, rfl⟩ := hway
          left
          dsimp only
          exact watched_of_notice hroot hne hd hs hf hx
      · exact .inr ⟨way, hne, hway, hnew, .inl hmem⟩
    · exact .inr ⟨way, hne, hway, hnew, .inr hx⟩
  | tick => exact hc dirs hd hs hf

theorem covers_of_follow (hroot : t.IsRoot r₀.disk) (h₀ : Covers t r₀ r₀) (hr : r₀.follow t acts = some r) :
    Covers t r₀ r :=
  follow_induction (P := fun _ r => Covers t r₀ r) h₀
    (fun _ _ _ _ hr hstep hc => hc.step (hroot.keeps (keeps_of_follow hr)) (keeps_of_follow hr) hstep) hr

end

end Run

/-! ### The whole watch -/

section
variable {d : Disk} {t : Site} {root : String} {r₀ : Run}

theorem Run.start_eq_ok (h : Run.start d root = .ok r₀) :
    r₀.disk = d ∧ (∀ p, ¬ r₀.Mentions p) ∧
      ∃ e, d.lstat (d.absolute root) = .ok e ∧ ∀ p, p ∈ r₀.watcher.watched ↔ p ∈ folders (d.absolute root) e := by
  unfold Run.start at h
  cases hs : Watch.start d root with
  | error f =>
    rw [hs] at h
    cases h
  | ok s =>
    rw [hs] at h
    cases h
    obtain ⟨e, he, hw⟩ := State.watch_eq_ok hs
    have hp : s.pending = [] := State.pending_of_watch hs
    refine ⟨rfl, fun p hm => ?_, e, he, fun p => (hw p).trans (by simp)⟩
    rcases hm with hh | hpending | ⟨o, hmem⟩
    · cases hh
    · rw [hp] at hpending
      cases hpending
    · cases hmem

theorem Run.covers_start (hroot : t.IsRoot d) (hpath : t.path = d.absolute root) (h : Run.start d root = .ok r₀) :
    Run.Covers t r₀ r₀ := by
  obtain ⟨rfl, -, e, he, hw⟩ := Run.start_eq_ok h
  intro dirs hd hs hf
  obtain ⟨ms, hms⟩ := hroot.isFolder
  obtain rfl : e = .folder ms := by
    have hl : r₀.disk.lstat t.path = .ok (.folder ms) := Disk.fail_eq_ok.mpr (Disk.entryAt_eq_ok.mpr ⟨_, hms⟩)
    rw [hpath] at hl
    exact Except.ok.inj (he.symm.trans hl)
  have hat : r₀.disk.root.at? t.base = some (.folder ms) := (Disk.entry_of_locate hms).symm
  have hbelow : (Entry.folder ms).IsFolderAt dirs := by
    obtain ⟨es, hes⟩ := hf
    rw [Entry.at?_append, hat] at hes
    exact ⟨es, hes⟩
  left
  rw [hw, ← hpath]
  exact mem_folders hroot.isAbsolute hroot.isClean (isName_of_isFileName hd) hs hbelow

/-- When the watcher has taken notice of all that it was told, a changed XML file that is still there was handed
over or is to be just if it was written at some time while its folder was watched. At any time a directory that is
not left out is watched, unless a folder on the way to it was made since the beginning and the watcher has not
taken notice of it yet, or its name is that of an XML file. -/
theorem changed_file_kept_iff (hroot : t.IsRoot d) (hpath : t.path = d.absolute root)
    (h₀ : Run.start d root = .ok r₀) {acts : List Act} {r : Run} (hr : r₀.follow t acts = some r) :
    (r.told = [] → ∀ dirs n, (∀ m ∈ dirs ++ [n], IsFileName m) →
      Path.isXml (place t.path (dirs ++ [n])) = true →
      (∃ c, r.disk.root.at? (t.base ++ dirs ++ [n]) = some (.file c)) →
      (place t.path (dirs ++ [n]) ∈ r.handed ∨ place t.path (dirs ++ [n]) ∈ r.watcher.pending ↔
        ∃ before content after r₁, acts = before ++ .write dirs n content :: after ∧
          r₀.follow t before = some r₁ ∧ place t.path dirs ∈ r₁.watcher.watched)) ∧
    ∀ dirs, (∀ n ∈ dirs, IsFileName n) → (∀ n ∈ dirs, skips n = false) →
      r.disk.root.IsFolderAt (t.base ++ dirs) →
      place t.path dirs ∈ r.watcher.watched ∨
        ∃ way, way ≠ [] ∧ way <+: dirs ∧ ¬ d.root.IsFolderAt (t.base ++ way) ∧
          ((place t.path way, Operation.create) ∈ r.told ∨ Path.isXml (place t.path way) = true) := by
  have hcovers := Run.covers_start hroot hpath h₀
  obtain ⟨rfl, hnothing, -⟩ := Run.start_eq_ok h₀
  refine ⟨fun htold dirs n hn hx ⟨c, hc⟩ => ⟨fun hkept => ?_, fun hsaw => ?_⟩, Run.covers_of_follow hroot hcovers hr⟩
  · have hmentions : r.Mentions (place t.path (dirs ++ [n])) := hkept.elim .inl fun hp => .inr (.inl hp)
    obtain ⟨dirs', n', hn', he, hknown⟩ := Run.known_of_mentions hr hnothing hmentions
    obtain ⟨rfl, hlast⟩ := List.append_inj' (hroot.place_injective hn hn' he) rfl
    obtain rfl := List.singleton_inj.mp hlast
    rcases hknown with ⟨ms, hms⟩ | hsaw
    · rw [hc] at hms
      cases hms
    · exact hsaw
  · rcases Run.tracked_of_saw hroot hr hn hx hsaw ⟨c, hc⟩ with hh | hp | ⟨o, hmem, -⟩
    · exact .inl hh
    · exact .inr hp
    · rw [htold] at hmem
      cases hmem

end

/-- A file that is written in a new folder after the watcher has taken notice of the folder. -/
theorem changed_file_kept_below :
    let d : Disk := { root := .folder [("p", .folder [])] }
    let before : List Act := [.makeFolder [] "sub", .notice]
    ∃ r₀ r, Run.start d "/p" = .ok r₀ ∧
      r₀.follow ⟨"/p", ["p"]⟩ (before ++ .write ["sub"] "a.xml" [] :: [.notice, .tick]) = some r ∧ r.told = [] ∧
      ("/p/sub/a.xml" ∈ r.handed ∨ "/p/sub/a.xml" ∈ r.watcher.pending) := by
  intro d before
  let t : Site := ⟨"/p", ["p"]⟩
  have hrun : ((Run.start d "/p").toOption.bind fun r₀ => (r₀.follow t before).bind fun r₁ =>
      (r₀.follow t (before ++ .write ["sub"] "a.xml" [] :: [.notice, .tick])).map fun r =>
        (r₁.watcher.watched.contains "/p/sub", r.told, (r.disk.root.at? ["p", "sub", "a.xml"]).any Entry.isFile)) =
      some (true, [], true) := by decide +kernel
  obtain ⟨r₀, hs, hrun⟩ := Option.bind_eq_some_iff.mp hrun
  obtain ⟨r₁, hr₁, hrun⟩ := Option.bind_eq_some_iff.mp hrun
  obtain ⟨r, hr, hfacts⟩ := Option.map_eq_some_iff.mp hrun
  obtain ⟨hw, hfacts⟩ := Prod.mk.inj hfacts
  obtain ⟨htold, hany⟩ := Prod.mk.inj hfacts
  have h₀ : Run.start d "/p" = .ok r₀ := by
    cases he : Run.start d "/p" with
    | error f =>
      rw [he] at hs
      cases hs
    | ok r =>
      rw [he] at hs
      cases hs
      rfl
  have hc : ∃ c, r.disk.root.at? (t.base ++ ["sub"] ++ ["a.xml"]) = some (.file c) := by
    obtain ⟨e, he, hfile⟩ := (Option.any_eq_true _ _).mp hany
    obtain ⟨c, rfl⟩ := Entry.exists_eq_file hfile
    exact ⟨c, he⟩
  have hfound : d.locate false "/p" = .ok ⟨["p"], some (.folder [])⟩ := by
    rw [Disk.locate_eq d false (by decide)]
    rfl
  have hroot : t.IsRoot d := ⟨by decide +kernel, by decide +kernel, [], hfound⟩
  have hpath : t.path = d.absolute "/p" := by decide +kernel
  have hfolder : place t.path ["sub"] = "/p/sub" := by decide +kernel
  have hplace : place t.path (["sub"] ++ ["a.xml"]) = "/p/sub/a.xml" := by decide +kernel
  have hkept := (changed_file_kept_iff hroot hpath h₀ hr).1 htold ["sub"] "a.xml" (by decide) (by decide +kernel) hc
  rw [hplace, hfolder] at hkept
  exact ⟨r₀, r, h₀, hr, htold, hkept.mpr ⟨before, [], _, r₁, rfl, hr₁, List.contains_iff_mem.mp hw⟩⟩

/-- A file is lost if it is written before the watcher has taken notice of its new folder, and so is every file in
a new folder under the name of an XML file. -/
theorem changed_file_lost :
    let d : Disk := { root := .folder [("p", .folder [])] }
    let kept (acts : List Act) (file : String) : Option (List (String × Operation) × Bool × List String) :=
      ((Run.start d "/p").toOption.bind fun r₀ => r₀.follow ⟨"/p", ["p"]⟩ acts).map fun r =>
        (r.told, r.disk.isPlain file, r.handed ++ r.watcher.pending)
    kept [.makeFolder [] "sub", .write ["sub"] "a.xml" [], .notice] "/p/sub/a.xml" = some ([], true, []) ∧
      kept [.makeFolder [] "sub.xml", .notice, .write ["sub.xml"] "a.xml" []] "/p/sub.xml/a.xml" =
        some ([], true, ["/p/sub.xml"]) := by
  decide +kernel

end MoquiLint.Watch
