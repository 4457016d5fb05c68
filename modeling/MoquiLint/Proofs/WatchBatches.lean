import MoquiLint.Proofs.WatchedTree

/-!
# The batches of a watch

A watcher meets one thing after the other: a change of a path, or a tick of its clock. At a tick it hands over the XML
files that were created or written since the tick before and are still there, and nothing if there is none.
-/
namespace MoquiLint

namespace Watch

/-- What a watcher meets, with the disk as it is at that time. -/
inductive Moment where
  | change (d : Disk) (path : String) (o : Operation)
  | tick (d : Disk)

namespace Moment

def isTick : Moment → Bool
  | .change _ _ _ => false
  | .tick _ => true

/-- A path is created or written. -/
def Touches (m : Moment) (p : String) : Prop :=
  ∃ d o, m = .change d p o ∧ (o.created = true ∨ o.written = true)

end Moment

/-- The path was created or written since the last tick. -/
def IsChanged (before : List Moment) (p : String) : Prop :=
  ∃ early m late, before = early ++ m :: late ∧ m.Touches p ∧ ∀ k ∈ late, k.isTick = false

theorem not_isChanged_nil (p : String) : ¬ IsChanged [] p := by
  rintro ⟨early, m, late, he, -⟩
  simp at he

/-- What was changed before stays changed until the next tick. -/
theorem isChanged_append_singleton (before : List Moment) (m : Moment) (p : String) :
    IsChanged (before ++ [m]) p ↔ (IsChanged before p ∧ m.isTick = false) ∨ m.Touches p := by
  constructor
  · rintro ⟨early, k, late, he, htouch, hlate⟩
    rcases List.eq_nil_or_concat' late with rfl | ⟨late, l, rfl⟩
    · obtain ⟨-, hlast⟩ := List.append_inj' he rfl
      obtain rfl := List.singleton_inj.mp hlast
      exact .inr htouch
    · rw [← List.cons_append, ← List.append_assoc] at he
      obtain ⟨rfl, hlast⟩ := List.append_inj' he rfl
      obtain rfl := List.singleton_inj.mp hlast
      obtain ⟨hlate, hlast⟩ := List.forall_mem_append.mp hlate
      exact .inl ⟨⟨early, k, late, rfl, htouch, hlate⟩, hlast m List.mem_cons_self⟩
  · rintro (⟨⟨early, k, late, rfl, htouch, hlate⟩, hm⟩ | htouch)
    · refine ⟨early, k, late ++ [m], by simp, htouch, List.forall_mem_append.mpr ⟨hlate, ?_⟩⟩
      exact List.forall_mem_singleton.mpr hm
    · exact ⟨before, m, [], rfl, htouch, by simp⟩

theorem Moment.not_touches_tick (d : Disk) (p : String) : ¬ (Moment.tick d).Touches p := by
  rintro ⟨d', o, he, -⟩
  cases he

theorem Moment.touches_change {d : Disk} {path p : String} {o : Operation} :
    (Moment.change d path o).Touches p ↔ p = path ∧ (o.created = true ∨ o.written = true) := by
  constructor
  · rintro ⟨d', o', he, ho⟩
    cases he
    exact ⟨rfl, ho⟩
  · rintro ⟨rfl, ho⟩
    exact ⟨d, o, rfl, ho⟩

theorem not_isChanged_tick (before : List Moment) (d : Disk) (p : String) :
    ¬ IsChanged (before ++ [.tick d]) p := by
  rw [isChanged_append_singleton]
  rintro (⟨-, h⟩ | h)
  · cases h
  · exact Moment.not_touches_tick d p h

/-- What is changed now was touched after any earlier tick. -/
theorem touched_of_isChanged {early late : List Moment} {d : Disk} {p : String}
    (h : IsChanged (early ++ .tick d :: late) p) : ∃ m ∈ late, m.Touches p := by
  induction late using List.reverseRecOn with
  | nil => exact absurd h (not_isChanged_tick early d p)
  | append_singleton late k ih =>
    rw [← List.cons_append, ← List.append_assoc, isChanged_append_singleton] at h
    rcases h with ⟨h, -⟩ | h
    · obtain ⟨m, hm, htouch⟩ := ih h
      exact ⟨m, List.mem_append_left [k] hm, htouch⟩
    · exact ⟨k, by simp, h⟩

/-! ### One step -/

theorem insert_eq_names (path : String) (ps : List String) :
    insert path ps = (Keyed.insert path () (ps.map fun p => (p, ()))).map Prod.fst := by
  induction ps with
  | nil => rfl
  | cons p ps ih =>
    rw [insert, List.map_cons, Keyed.insert]
    split_ifs with he hlt
    · simp [he, Function.comp_def]
    · simp [Function.comp_def]
    · rw [List.map_cons, ih]

theorem pairwise_insert (path : String) {ps : List String} (h : ps.Pairwise (· < ·)) :
    (insert path ps).Pairwise (· < ·) := by
  have hsorted : Keyed.Sorted (ps.map fun p => (p, ())) := by
    simpa [Keyed.Sorted, Function.comp_def] using h
  rw [insert_eq_names]
  exact Keyed.sorted_insert path () hsorted

namespace State

variable {s : State}

theorem pairwise_pending_notice (h : s.pending.Pairwise (· < ·)) (d : Disk) (path : String) (o : Operation) :
    (s.notice d path o).1.pending.Pairwise (· < ·) := by
  rcases notice_cases s d path o with ⟨-, -, he⟩ | ⟨-, -, -, he⟩ | ⟨he, -, -⟩
  · rw [he]
    exact pairwise_insert path h
  · rw [pending_of_watch he]
    exact h
  · rw [he]
    exact h

/-- What is handed over at a tick, none if there is nothing to hand over. -/
def tick (s : State) (d : Disk) : State × Option (List String) :=
  let (s, batch) := s.flush d
  (s, batch.filter fun paths => !paths.isEmpty)

def meet (s : State) : Moment → State × Option (List String)
  | .change d path o => ((s.notice d path o).1, none)
  | .tick d => s.tick d

theorem tick_eq (s : State) (d : Disk) : s.tick d =
    ({ s with pending := [] },
      if s.pending.filter d.isPlain = [] then none else some (s.pending.filter d.isPlain)) := by
  obtain ⟨hs, hbatch⟩ := flush_eq s d
  have htick : s.tick d = ((s.flush d).1, (s.flush d).2.filter fun paths => !paths.isEmpty) := rfl
  rw [htick, hs, ← hbatch]
  cases (s.flush d).2 with
  | none => rfl
  | some batch => cases batch <;> simp

/-! ### All steps -/

def after (s : State) (ms : List Moment) : State := ms.foldl (fun s m => (s.meet m).1) s

def batches (s : State) : List Moment → List (List String)
  | [] => []
  | m :: ms => (s.meet m).2.toList ++ (s.meet m).1.batches ms

theorem after_append_singleton (s : State) (ms : List Moment) (m : Moment) :
    s.after (ms ++ [m]) = ((s.after ms).meet m).1 := by
  simp [after]

theorem batches_append_singleton (s : State) (ms : List Moment) (m : Moment) :
    s.batches (ms ++ [m]) = s.batches ms ++ ((s.after ms).meet m).2.toList := by
  induction ms generalizing s with
  | nil => simp [batches, after]
  | cons k ms ih =>
    rw [List.cons_append, batches, ih, batches, List.append_assoc]
    rfl

def changes (d : Disk) (happened : List (String × Operation)) : List Moment :=
  happened.map fun c => .change d c.1 c.2

theorem after_changes (s : State) (d : Disk) (happened : List (String × Operation)) :
    s.after (changes d happened) = (s.noticeAll d happened).1 := by
  induction happened generalizing s with
  | nil => rfl
  | cons c happened ih => exact ih (s.notice d c.1 c.2).1

theorem batches_changes (s : State) (d : Disk) (happened : List (String × Operation)) :
    s.batches (changes d happened) = [] := by
  induction happened generalizing s with
  | nil => rfl
  | cons c happened ih => exact ih (s.notice d c.1 c.2).1

/-- What a watcher has collected are the XML files that were changed since the last tick, in the order of their
names. -/
theorem collected_after (hs : s.pending = []) (before : List Moment) :
    (s.after before).pending.Pairwise (· < ·) ∧
      ∀ p, p ∈ (s.after before).pending ↔ IsChanged before p ∧ Path.isXml p = true := by
  induction before using List.reverseRecOn with
  | nil =>
    have hnil : (s.after []).pending = [] := hs
    rw [hnil]
    exact ⟨List.Pairwise.nil, fun p => iff_of_false List.not_mem_nil fun h => not_isChanged_nil p h.1⟩
  | append_singleton before m ih =>
    obtain ⟨hsorted, hmem⟩ := ih
    rw [after_append_singleton]
    cases m with
    | change d path o =>
      refine ⟨pairwise_pending_notice hsorted d path o, fun p => ?_⟩
      rw [isChanged_append_singleton, Moment.touches_change, meet, mem_pending_notice_iff, hmem]
      constructor
      · rintro (⟨hp, hx⟩ | ⟨rfl, ho, hx⟩)
        · exact ⟨.inl ⟨hp, rfl⟩, hx⟩
        · exact ⟨.inr ⟨rfl, ho⟩, hx⟩
      · rintro ⟨⟨hp, -⟩ | ⟨rfl, ho⟩, hx⟩
        · exact .inl ⟨hp, hx⟩
        · exact .inr ⟨rfl, ho, hx⟩
    | tick d =>
      rw [meet, tick_eq]
      exact ⟨List.Pairwise.nil, fun p => iff_of_false List.not_mem_nil fun h => not_isChanged_tick before d p h.1⟩

end State

/-- At every tick the batch is, in the order of their bytes, exactly the paths with the extension of XML that were
created or written since the tick before and are no directories now. It is handed over unless it is empty. So a path
that is handed over was changed again after any earlier tick. -/
theorem batch_of_changes {d₀ : Disk} {root : String} {s : State} (h : start d₀ root = .ok s) (before : List Moment)
    (d : Disk) :
    ∃ batch : List String,
      s.batches (before ++ [.tick d]) = s.batches before ++ (if batch = [] then [] else [batch]) ∧
      batch.Pairwise (fun p q => utf8 p < utf8 q) ∧
      (∀ p, p ∈ batch ↔ IsChanged before p ∧ Path.isXml p = true ∧ d.isPlain p = true) ∧
      ∀ early d' late, before = early ++ .tick d' :: late → ∀ p ∈ batch, ∃ m ∈ late, m.Touches p := by
  obtain ⟨hsorted, hmem⟩ := State.collected_after (State.pending_of_watch h) before
  refine ⟨(s.after before).pending.filter d.isPlain, ?_, ?_, ?_, ?_⟩
  · rw [State.batches_append_singleton, State.meet, State.tick_eq]
    split <;> rfl
  · exact (hsorted.imp utf8_lt_utf8).filter _
  · intro p
    rw [List.mem_filter, hmem, and_assoc]
  · rintro early d' late rfl p hp
    exact touched_of_isChanged ((hmem p).mp (List.mem_of_mem_filter hp)).1

/-- A file that is gone at one tick and there again at the next is not handed over. -/
theorem batch_of_changes_gone :
    let gone : Disk := { root := .folder [("p", .folder [])] }
    let there : Disk := { root := .folder [("p", .folder [("a.xml", .file []), ("b.XML", .file [])])] }
    let before : List Moment :=
      [.change there "/p/a.xml" .create, .tick gone, .change there "/p/b.XML" { written := true }]
    ∃ s batch, start gone "/p" = .ok s ∧
      s.batches (before ++ [.tick there]) = s.batches before ++ [batch] ∧ "/p/b.XML" ∈ batch ∧ "/p/a.xml" ∉ batch := by
  intro gone there before
  have hs : start gone "/p" = .ok ⟨["/p"], []⟩ := by decide +kernel
  obtain ⟨batch, hbatch, -, hmem, hlate⟩ := batch_of_changes hs before there
  have hchanged : IsChanged before "/p/b.XML" :=
    (isChanged_append_singleton [.change there "/p/a.xml" .create, .tick gone] _ _).mpr
      (.inr (Moment.touches_change.mpr ⟨rfl, .inr rfl⟩))
  have hin : "/p/b.XML" ∈ batch := (hmem _).mpr ⟨hchanged, by decide +kernel, by decide +kernel⟩
  refine ⟨_, batch, hs, ?_, hin, fun hout => ?_⟩
  · rw [hbatch, if_neg (List.ne_nil_of_mem hin)]
  · obtain ⟨m, hm, htouch⟩ := hlate [.change there "/p/a.xml" .create] gone _ rfl _ hout
    obtain rfl := List.mem_singleton.mp hm
    obtain ⟨hpath, -⟩ := Moment.touches_change.mp htouch
    exact absurd hpath (by decide)

end Watch

namespace Command.Watching

/-- The watch command lints each batch that is handed over. -/
theorem proceed_eq (env : Environment) (w : Watching) (r : Result) (happened : List (String × Watch.Operation)) :
    let ms := Watch.State.changes r.disk happened ++ [.tick r.disk]
    let noticed := (w.watcher.noticeAll r.disk happened).2
    w.proceed env r happened =
      ({ w with watcher := w.watcher.after ms },
        (w.watcher.batches ms).foldl (w.relint env) { r with events := r.events ++ noticed }) := by
  intro ms noticed
  obtain ⟨hs, hbatch⟩ := Watch.State.flush_eq (w.watcher.noticeAll r.disk happened).1 r.disk
  have hproceed : w.proceed env r happened =
      ({ w with watcher := ((w.watcher.noticeAll r.disk happened).1.flush r.disk).1 },
        w.relint env { r with events := r.events ++ noticed }
          (((w.watcher.noticeAll r.disk happened).1.flush r.disk).2.getD [])) := rfl
  rw [hproceed, hs, hbatch, Watch.State.after_append_singleton, Watch.State.batches_append_singleton,
    Watch.State.batches_changes, Watch.State.after_changes, Watch.State.meet, Watch.State.tick_eq]
  split
  · -- nothing is linted for an empty batch
    rename_i hnil
    rw [hnil]
    rfl
  · rfl

end Command.Watching

end MoquiLint
