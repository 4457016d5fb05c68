import Mathlib.Algebra.GroupWithZero.Nat
import MoquiLint.Lint.Pool

/-!
# Tasks side by side

Whatever order the tasks of a workload take their steps in, the places of a candidate hold its own report and
digest when its task is over, and no other task has touched them. No schedule gets stuck before all tasks are
over, and none goes on for ever.
-/
namespace MoquiLint.Lint

def Judged.placed (j : Judged) : Judged := { report := j.report, hash := j.hash }

/-! ### Stages -/

def Stage.left : Stage → Nat
  | .waiting => 5
  | .started => 4
  | .judged _ => 3
  | .reported _ => 2
  | .filed => 1
  | .finished => 0

/-- Whether the task has judged its candidate. A task that was called off never does. -/
def Stage.hasJudged (w : Workload) : Stage → Bool
  | .waiting | .started => false
  | .judged _ | .reported _ | .filed => true
  | .finished => !w.canceled

/-- What the places of a candidate hold at a stage of its task. -/
def Stage.Fits (w : Workload) (failed : Bool) (c : Candidate) (report : Option FileReport)
    (hash : Option (Option String)) : Stage → Prop
  | .waiting | .started => True
  | .judged j => w.canceled = false ∧ j = w.judge c
  | .reported j => w.canceled = false ∧ j = w.judge c ∧ report = some j.report
  | .filed => w.canceled = false ∧ report = some (w.judge c).report ∧ hash = some (w.judge c).hash
  | .finished =>
    if w.canceled then failed = true
    else report = some (w.judge c).report ∧ hash = some (w.judge c).hash

theorem Stage.Fits.mono {w : Workload} {failed failed' : Bool} (hf : failed = true → failed' = true)
    {c : Candidate} {report : Option FileReport} {hash : Option (Option String)} {s : Stage}
    (h : s.Fits w failed c report hash) : s.Fits w failed' c report hash := by
  cases s with
  | finished =>
    by_cases hc : w.canceled = true
    · simp only [Fits, hc, ↓reduceIte] at h ⊢
      exact hf h
    · simp only [Fits, hc, Bool.false_eq_true, ↓reduceIte] at h ⊢
      exact h
  | waiting | started | judged | reported | filed => exact h

theorem getElem?_set_cases {α : Type} {xs : List α} {i k : Nat} {x y : α} (h : (xs.set i x)[k]? = some y) :
    (i = k ∧ x = y) ∨ (i ≠ k ∧ xs[k]? = some y) := by
  rw [List.getElem?_set] at h
  split at h
  · rename_i hik
    split at h
    · exact .inl ⟨hik, Option.some.inj h⟩
    · cases h
  · rename_i hik
    exact .inr ⟨hik, h⟩

theorem left_set_lt {stages : List Stage} {i : Nat} {s t : Stage} (hs : stages[i]? = some s)
    (h : t.left < s.left) : ((stages.set i t).map Stage.left).sum < (stages.map Stage.left).sum := by
  induction stages generalizing i with
  | nil => simp at hs
  | cons a stages ih =>
    cases i with
    | zero =>
      obtain rfl : a = s := by simpa using hs
      simpa using h
    | succ i =>
      have := ih (by simpa using hs)
      simpa using this

/-! ### What has been told -/

def told (w : Workload) : List Candidate → List Stage → List Event
  | c :: cs, s :: stages => (if s.hasJudged w then (w.judge c).events else []) ++ told w cs stages
  | _, _ => []

theorem told_set_eq {w : Workload} {cs : List Candidate} {stages : List Stage} {i : Nat} {s t : Stage}
    (hs : stages[i]? = some s) (h : t.hasJudged w = s.hasJudged w) :
    told w cs (stages.set i t) = told w cs stages := by
  induction stages generalizing cs i with
  | nil => simp at hs
  | cons a stages ih =>
    cases cs with
    | nil => simp [told]
    | cons c cs =>
      cases i with
      | zero =>
        obtain rfl : a = s := by simpa using hs
        simp [told, h]
      | succ i =>
        have hrest : told w cs (stages.set i t) = told w cs stages := ih (by simpa using hs)
        simp [told, hrest]

theorem told_set_perm {w : Workload} {cs : List Candidate} {c : Candidate} {stages : List Stage} {i : Nat}
    {s t : Stage} (hc : cs[i]? = some c) (hs : stages[i]? = some s) (hsilent : s.hasJudged w = false)
    (hnew : t.hasJudged w = true) :
    (told w cs stages ++ (w.judge c).events).Perm (told w cs (stages.set i t)) := by
  induction stages generalizing cs i with
  | nil => simp at hs
  | cons a stages ih =>
    cases cs with
    | nil => simp at hc
    | cons b cs =>
      cases i with
      | zero =>
        obtain rfl : a = s := by simpa using hs
        obtain rfl : b = c := by simpa using hc
        simpa [told, hsilent, hnew] using List.perm_append_comm
      | succ i =>
        have hc' : cs[i]? = some c := by simpa using hc
        have hrest := ih hc' (by simpa using hs)
        simpa [told, List.append_assoc] using hrest.append_left _

namespace Pool

variable {w : Workload} {p q : Pool} {m : Move}

/-! ### Steps -/

theorem step?_cases (h : p.step? w m = some q) :
    (m = .start ∧ p.next < w.candidates.length ∧
      q = { p with next := p.next + 1, stages := p.stages.set p.next .started }) ∨
    ∃ i c s, m = .advance i ∧ w.candidates[i]? = some c ∧ p.stages[i]? = some s ∧ p.goOn w i c s = some q := by
  cases m with
  | start =>
    simp only [step?] at h
    split at h
    · rename_i hn
      exact .inl ⟨rfl, hn.1, (Option.some.inj h).symm⟩
    · cases h
  | advance i =>
    simp only [step?] at h
    split at h
    · rename_i c s hc hs
      exact .inr ⟨i, c, s, rfl, hc, hs, h⟩
    · cases h

theorem goOn_cases {i : Nat} {c : Candidate} {s : Stage} (h : p.goOn w i c s = some q) :
    (s = .started ∧ (w.canceled || p.failed) = true ∧
      q = { p with stages := p.stages.set i .finished, failed := true }) ∨
    (s = .started ∧ (w.canceled || p.failed) = false ∧
      q = { p with stages := p.stages.set i (.judged (w.judge c)),
                   events := p.events ++ (w.judge c).events }) ∨
    (∃ j, s = .judged j ∧
      q = { p with stages := p.stages.set i (.reported j), reports := p.reports.set i j.report }) ∨
    (∃ j, s = .reported j ∧
      q = { p with stages := p.stages.set i .filed, hashes := p.hashes.set i j.hash }) ∨
    (s = .filed ∧ q = { p with stages := p.stages.set i .finished }) := by
  cases s with
  | waiting | finished => cases h
  | started =>
    simp only [goOn] at h
    split at h
    · rename_i hc
      exact .inl ⟨rfl, hc, (Option.some.inj h).symm⟩
    · rename_i hc
      exact .inr (.inl ⟨rfl, by simpa using hc, (Option.some.inj h).symm⟩)
  | judged j => exact .inr (.inr (.inl ⟨j, rfl, (Option.some.inj h).symm⟩))
  | reported j => exact .inr (.inr (.inr (.inl ⟨j, rfl, (Option.some.inj h).symm⟩)))
  | filed => exact .inr (.inr (.inr (.inr ⟨rfl, (Option.some.inj h).symm⟩)))

def left (p : Pool) : Nat := (p.stages.map Stage.left).sum

/-! ### The invariant -/

/-- A pool in which every place holds what the task of its candidate has put there so far. -/
structure Sound (w : Workload) (p : Pool) : Prop where
  stages_length : p.stages.length = w.candidates.length
  reports_length : p.reports.length = w.candidates.length
  hashes_length : p.hashes.length = w.candidates.length
  next_le : p.next ≤ w.candidates.length
  waiting_iff : ∀ (i : Nat) s, p.stages[i]? = some s → (s = .waiting ↔ p.next ≤ i)
  fits : ∀ (i : Nat) c (s : Stage), w.candidates[i]? = some c → p.stages[i]? = some s →
    s.Fits w p.failed c (p.reports[i]?) (p.hashes[i]?)
  canceled_of_failed : p.failed = true → w.canceled = true
  told : p.events.Perm (Lint.told w w.candidates p.stages)

theorem told_fresh (w : Workload) (cs : List Candidate) (n : Nat) :
    Lint.told w cs (.replicate n .waiting) = [] := by
  induction n generalizing cs with
  | zero => cases cs <;> rfl
  | succ n ih =>
    cases cs with
    | nil => rfl
    | cons c cs => simpa [List.replicate_succ, Lint.told, Stage.hasJudged] using ih cs

theorem sound_fresh (w : Workload) : (fresh w.candidates.length).Sound w where
  stages_length := by simp [fresh]
  reports_length := by simp [fresh]
  hashes_length := by simp [fresh]
  next_le := Nat.zero_le _
  waiting_iff := by
    intro i s hs
    obtain rfl := List.eq_of_mem_replicate (List.mem_of_getElem? hs)
    simp [fresh]
  fits := by
    intro i c s _ hs
    obtain rfl := List.eq_of_mem_replicate (List.mem_of_getElem? hs)
    trivial
  canceled_of_failed := by simp [fresh]
  told := by simp [fresh, told_fresh]

theorem Sound.lt_length (h : p.Sound w) {i : Nat} {s : Stage} (hs : p.stages[i]? = some s) :
    i < w.candidates.length := by
  obtain ⟨hi, -⟩ := List.getElem?_eq_some_iff.mp hs
  exact h.stages_length ▸ hi

theorem Sound.stage_next (h : p.Sound w) (hn : p.next < w.candidates.length) :
    p.stages[p.next]? = some .waiting := by
  have hlt : p.next < p.stages.length := h.stages_length ▸ hn
  have hs := List.getElem?_eq_getElem hlt
  rw [hs, (h.waiting_iff _ _ hs).mpr (Nat.le_refl _)]

/-- A task that goes on touches its own places only, which hold what they should at its new stage. -/
theorem Sound.update (h : p.Sound w) {i : Nat} {c : Candidate} {s t : Stage} (hc : w.candidates[i]? = some c)
    (hs : p.stages[i]? = some s) (hsw : s ≠ .waiting) (htw : t ≠ .waiting) {reports : List FileReport}
    (hr : reports.length = p.reports.length) (hr' : ∀ k, k ≠ i → reports[k]? = p.reports[k]?)
    {hashes : List (Option String)} (hh : hashes.length = p.hashes.length)
    (hh' : ∀ k, k ≠ i → hashes[k]? = p.hashes[k]?) {failed : Bool} (hf : p.failed = true → failed = true)
    (hf' : failed = true → w.canceled = true) (hfits : t.Fits w failed c (reports[i]?) (hashes[i]?))
    {events : List Event} (htold : events.Perm (Lint.told w w.candidates (p.stages.set i t))) :
    Sound w ⟨p.next, p.stages.set i t, reports, hashes, events, failed⟩ where
  stages_length := by simpa using h.stages_length
  reports_length := hr.trans h.reports_length
  hashes_length := hh.trans h.hashes_length
  next_le := h.next_le
  waiting_iff := by
    intro k u hu
    obtain ⟨rfl, rfl⟩ | ⟨-, hu⟩ := getElem?_set_cases hu
    · have hi := h.waiting_iff i s hs
      simp only [hsw, htw, false_iff] at hi ⊢
      exact hi
    · exact h.waiting_iff k u hu
  fits := by
    intro k b u hb hu
    obtain ⟨rfl, rfl⟩ | ⟨hik, hu⟩ := getElem?_set_cases hu
    · obtain rfl : c = b := Option.some.inj (hc.symm.trans hb)
      exact hfits
    · rw [hr' k (Ne.symm hik), hh' k (Ne.symm hik)]
      exact (h.fits k b u hb hu).mono hf
  canceled_of_failed := hf'
  told := htold

theorem Sound.goOn (h : p.Sound w) {i : Nat} {c : Candidate} {s : Stage} (hc : w.candidates[i]? = some c)
    (hs : p.stages[i]? = some s) (hq : p.goOn w i c s = some q) : q.Sound w := by
  have hi := h.lt_length hs
  have hfits := h.fits i c s hc hs
  have hreport : ∀ r, (p.reports.set i r)[i]? = some r := fun r =>
    List.getElem?_set_self (h.reports_length ▸ hi)
  have hhash : ∀ x, (p.hashes.set i x)[i]? = some x := fun x =>
    List.getElem?_set_self (h.hashes_length ▸ hi)
  have hother : ∀ {α : Type} (l : List α) (a : α) (k : Nat), k ≠ i → (l.set i a)[k]? = l[k]? :=
    fun l a k hk => List.getElem?_set_ne (Ne.symm hk)
  have hquiet : ∀ {t : Stage}, t.hasJudged w = s.hasJudged w →
      p.events.Perm (Lint.told w w.candidates (p.stages.set i t)) := fun ht =>
    (told_set_eq hs ht).symm ▸ h.told
  obtain ⟨rfl, hcanceled, rfl⟩ | ⟨rfl, hgo, rfl⟩ | ⟨j, rfl, rfl⟩ | ⟨j, rfl, rfl⟩ | ⟨rfl, rfl⟩ := goOn_cases hq
  · -- called off
    have hcan : w.canceled = true := by
      rcases Bool.or_eq_true_iff.mp hcanceled with hcan | hfailed
      · exact hcan
      · exact h.canceled_of_failed hfailed
    exact h.update hc hs (by simp) (by simp) rfl (fun _ _ => rfl) rfl (fun _ _ => rfl) (fun _ => rfl)
      (fun _ => hcan) (by simp [Stage.Fits, hcan]) (hquiet (by simp [Stage.hasJudged, hcan]))
  · have hcan : w.canceled = false := (Bool.or_eq_false_iff.mp hgo).1
    have htold : (p.events ++ (w.judge c).events).Perm
        (Lint.told w w.candidates (p.stages.set i (.judged (w.judge c)))) :=
      (h.told.append_right _).trans (told_set_perm hc hs rfl rfl)
    exact h.update (t := .judged _) hc hs (by simp) (by simp) rfl (fun _ _ => rfl) rfl (fun _ _ => rfl) id
      h.canceled_of_failed ⟨hcan, rfl⟩ htold
  · obtain ⟨hcan, rfl⟩ := hfits
    exact h.update (t := .reported _) hc hs (by simp) (by simp) (by simp) (hother _ _) rfl (fun _ _ => rfl)
      id h.canceled_of_failed ⟨hcan, rfl, hreport _⟩ (hquiet rfl)
  · obtain ⟨hcan, rfl, hr⟩ := hfits
    exact h.update (t := .filed) hc hs (by simp) (by simp) rfl (fun _ _ => rfl) (by simp) (hother _ _) id
      h.canceled_of_failed ⟨hcan, hr, hhash _⟩ (hquiet rfl)
  · obtain ⟨hcan, hr, hh⟩ := hfits
    exact h.update hc hs (by simp) (by simp) rfl (fun _ _ => rfl) rfl (fun _ _ => rfl) id
      h.canceled_of_failed (by simp [Stage.Fits, hcan, hr, hh]) (hquiet (by simp [Stage.hasJudged, hcan]))

theorem Sound.start (h : p.Sound w) (hn : p.next < w.candidates.length) :
    Sound w { p with next := p.next + 1, stages := p.stages.set p.next .started } where
  stages_length := by simpa using h.stages_length
  reports_length := h.reports_length
  hashes_length := h.hashes_length
  next_le := hn
  waiting_iff := by
    intro k u hu
    obtain ⟨rfl, rfl⟩ | ⟨hk, hu⟩ := getElem?_set_cases hu
    · simp
    · rw [h.waiting_iff k u hu]
      simp only
      omega
  fits := by
    intro k b u hb hu
    obtain ⟨-, rfl⟩ | ⟨-, hu⟩ := getElem?_set_cases hu
    · trivial
    · exact h.fits k b u hb hu
  canceled_of_failed := h.canceled_of_failed
  told := (told_set_eq (t := .started) (h.stage_next hn) rfl).symm ▸ h.told

/-- Every step keeps the invariant. -/
theorem Sound.step (h : p.Sound w) (hq : p.step? w m = some q) : q.Sound w := by
  obtain ⟨-, hn, rfl⟩ | ⟨i, c, s, -, hc, hs, hgo⟩ := step?_cases hq
  · exact h.start hn
  · exact h.goOn hc hs hgo

theorem Sound.follow (h : p.Sound w) {ms : List Move} (hq : p.follow w ms = some q) : q.Sound w := by
  induction ms generalizing p with
  | nil =>
    obtain rfl := Option.some.inj hq
    exact h
  | cons m ms ih =>
    obtain ⟨p', hp', hrest⟩ := Option.bind_eq_some_iff.mp hq
    exact ih (h.step hp') hrest

/-! ### Progress -/

/-- Every step brings the pool nearer to its end. -/
theorem left_step_lt (h : p.Sound w) (hq : p.step? w m = some q) : q.left < p.left := by
  obtain ⟨-, hn, rfl⟩ | ⟨i, c, s, -, hc, hs, hgo⟩ := step?_cases hq
  · exact left_set_lt (h.stage_next hn) (by simp [Stage.left])
  · obtain ⟨rfl, -, rfl⟩ | ⟨rfl, -, rfl⟩ | ⟨j, rfl, rfl⟩ | ⟨j, rfl, rfl⟩ | ⟨rfl, rfl⟩ := goOn_cases hgo
    all_goals exact left_set_lt hs (by simp [Stage.left])

theorem left_fresh (n : Nat) : (fresh n).left = 5 * n := by
  simp [left, fresh, Stage.left, Nat.mul_comm]

theorem length_add_left_le (h : p.Sound w) {ms : List Move} (hq : p.follow w ms = some q) :
    ms.length + q.left ≤ p.left := by
  induction ms generalizing p with
  | nil =>
    obtain rfl := Option.some.inj hq
    simp
  | cons m ms ih =>
    obtain ⟨p', hp', hrest⟩ := Option.bind_eq_some_iff.mp hq
    have hlt := left_step_lt h hp'
    have hle := ih (h.step hp') hrest
    simp only [List.length_cons]
    omega

theorem exists_goOn (p : Pool) (w : Workload) (i : Nat) (c : Candidate) {s : Stage}
    (ha : s.isActive = true) : ∃ q, p.goOn w i c s = some q := by
  cases s with
  | waiting | finished => cases ha
  | started =>
    simp only [goOn]
    split <;> exact ⟨_, rfl⟩
  | judged | reported | filed => exact ⟨_, rfl⟩

/-- As long as a task is left, some step can be taken. -/
theorem Sound.exists_step (h : p.Sound w) (hlimit : 0 < w.limit) (hd : p.isDone w = false) :
    ∃ m q, p.step? w m = some q := by
  by_cases ha : ∃ s ∈ p.stages, s.isActive = true
  · obtain ⟨s, hmem, hs⟩ := ha
    obtain ⟨i, hi⟩ := List.mem_iff_getElem?.mp hmem
    obtain ⟨c, hc⟩ : ∃ c, w.candidates[i]? = some c := ⟨_, List.getElem?_eq_getElem (h.lt_length hi)⟩
    obtain ⟨q, hq⟩ := exists_goOn p w i c hs
    exact ⟨.advance i, q, by simp only [step?, hc, hi, hq]⟩
  · have hidle : ∀ s ∈ p.stages, s.isActive = false := fun s hs =>
      Bool.eq_false_iff.mpr fun hn => ha ⟨s, hs, hn⟩
    have hzero : p.active = 0 := List.countP_eq_zero.mpr fun s hs => by simp [hidle s hs]
    by_cases hn : p.next < w.candidates.length
    · exact ⟨.start, _, if_pos ⟨hn, hzero ▸ hlimit⟩⟩
    · -- no task is waiting or under way
      have hnext : p.next = w.candidates.length := Nat.le_antisymm h.next_le (Nat.not_lt.mp hn)
      have hall : ∀ s ∈ p.stages, s = .finished := by
        intro s hs
        obtain ⟨i, hi⟩ := List.mem_iff_getElem?.mp hs
        have hlt := h.lt_length hi
        have hw : s ≠ .waiting := fun he => by
          have := (h.waiting_iff i s hi).mp he
          omega
        have := hidle s hs
        cases s with
        | waiting => exact absurd rfl hw
        | finished => rfl
        | started | judged | reported | filed => cases this
      have hdone : p.isDone w = true := by
        simpa [isDone, hnext] using hall
      rw [hdone] at hd
      cases hd

/-- Every schedule can be gone on with until all tasks are over. -/
theorem Sound.exists_follow (h : p.Sound w) (hlimit : 0 < w.limit) :
    ∃ ms q, p.follow w ms = some q ∧ q.isDone w = true := by
  induction hn : p.left using Nat.strongRecOn generalizing p with
  | _ n ih =>
    cases hd : p.isDone w with
    | true => exact ⟨[], p, rfl, hd⟩
    | false =>
      obtain ⟨m, q, hq⟩ := h.exists_step hlimit hd
      obtain ⟨ms, r, hr, hdone⟩ := ih q.left (hn ▸ left_step_lt h hq) (h.step hq) rfl
      exact ⟨m :: ms, r, by simp [Pool.follow, hq, hr], hdone⟩

theorem follow_append (p : Pool) (w : Workload) (ms ns : List Move) :
    p.follow w (ms ++ ns) = (p.follow w ms).bind fun q => q.follow w ns := by
  induction ms generalizing p with
  | nil => rfl
  | cons m ms ih =>
    rw [List.cons_append, follow, follow, Option.bind_assoc]
    exact Option.bind_congr fun q _ => ih q

/-! ### The end -/

theorem finished_of_isDone (hd : p.isDone w = true) : ∀ s ∈ p.stages, s = .finished := by
  have h := (Bool.and_eq_true_iff.mp hd).2
  simpa using h

/-- When all tasks are over, the places hold the reports and digests of the candidates in their order. -/
theorem Sound.judged_eq (h : p.Sound w) (hd : p.isDone w = true) (hc : w.canceled = false) :
    p.judged = (w.candidates.map w.judge).map Judged.placed := by
  apply List.ext_getElem?
  intro i
  rw [judged, List.getElem?_zipWith, List.map_map, List.getElem?_map]
  by_cases hi : i < w.candidates.length
  · have hs := List.getElem?_eq_getElem (h.stages_length ▸ hi : i < p.stages.length)
    have hfin := finished_of_isDone hd _ (List.getElem_mem (h.stages_length ▸ hi : i < p.stages.length))
    have hcand := List.getElem?_eq_getElem hi
    have hfits := h.fits i _ _ hcand hs
    rw [hfin] at hfits
    simp only [Stage.Fits, hc, Bool.false_eq_true, ↓reduceIte] at hfits
    rw [hfits.1, hfits.2, hcand]
    rfl
  · have hr : p.reports[i]? = none := List.getElem?_eq_none (by have := h.reports_length; omega)
    rw [hr, List.getElem?_eq_none (Nat.not_lt.mp hi)]
    rfl

theorem told_finished {w : Workload} (hc : w.canceled = false) {cs : List Candidate} {stages : List Stage}
    (hl : stages.length = cs.length) (hfin : ∀ s ∈ stages, s = .finished) :
    Lint.told w cs stages = cs.flatMap fun c => (w.judge c).events := by
  induction cs generalizing stages with
  | nil => cases stages <;> rfl
  | cons c cs ih =>
    cases stages with
    | nil => cases hl
    | cons s stages =>
      obtain rfl := hfin s List.mem_cons_self
      rw [Lint.told, ih (by simpa using hl) fun t ht => hfin t (List.mem_cons_of_mem _ ht)]
      simp [Stage.hasJudged, hc]

/-- What has been told then is what the candidates have to tell, in some order. -/
theorem Sound.events_perm (h : p.Sound w) (hd : p.isDone w = true) (hc : w.canceled = false) :
    p.events.Perm ((w.candidates.map w.judge).flatMap Judged.events) := by
  rw [List.flatMap_map, ← told_finished hc h.stages_length (finished_of_isDone hd)]
  exact h.told

theorem Sound.failed_iff (h : p.Sound w) (hd : p.isDone w = true) (hne : w.candidates ≠ []) :
    p.failed = true ↔ w.canceled = true := by
  refine ⟨h.canceled_of_failed, fun hc => ?_⟩
  obtain ⟨c, hc0⟩ : ∃ c, w.candidates[0]? = some c := by
    cases hcs : w.candidates with
    | nil => exact absurd hcs hne
    | cons c cs => exact ⟨c, rfl⟩
  have hlt : 0 < p.stages.length := h.stages_length ▸ List.length_pos_iff.mpr hne
  have hs := List.getElem?_eq_getElem hlt
  have hfits := h.fits 0 c _ hc0 hs
  rw [finished_of_isDone hd _ (List.getElem_mem hlt)] at hfits
  simpa [Stage.Fits, hc] using hfits

end Pool

end MoquiLint.Lint
