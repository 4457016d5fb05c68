import MoquiLint.Command.Run
import MoquiLint.Proofs.Records
import MoquiLint.Proofs.SavedFile

/-!
# The run history is a bounded log

Each run is saved behind the runs that were loaded, and the oldest ones beyond the limit go. However many runs are
saved, what is loaded in the end are the latest of all of them, and a history that cannot be read is left alone.
-/
namespace MoquiLint

namespace Json

variable {α : Type}

/-- A member whose occurrences keep a property of the record. -/
def Member.Keeps (P : α → Prop) (m : Member α) : Prop := ∀ js a b, P a → m.read js a = some b → P b

theorem keeps_foldlM {β : Type} {P : α → Prop} {step : α → β → Option α} {xs : List β}
    (h : ∀ x ∈ xs, ∀ a b, P a → step a x = some b → P b) {a b : α} (ha : P a) (hb : xs.foldlM step a = some b) :
    P b := by
  induction xs generalizing a with
  | nil =>
    cases hb
    exact ha
  | cons x xs ih =>
    rw [List.foldlM_cons] at hb
    obtain ⟨c, hc, hb⟩ := Option.bind_eq_some_iff.mp hb
    exact ih (fun y hy => h y (List.mem_cons_of_mem x hy)) (h x List.mem_cons_self a c ha hc) hb

theorem Member.keeps_one {P : α → Prop} {name : String} {read : Json → α → Option α}
    (h : ∀ j a b, P a → read j a = some b → P b) : (Member.one name read).Keeps P := fun _ _ _ ha hb =>
  keeps_foldlM (fun j _ a b => h j a b) ha hb

theorem keeps_readRecord {P : α → Prop} {fields : List (Member α)} (h : ∀ m ∈ fields, m.Keeps P)
    {js : List Json} {a b : α} (ha : P a) (hb : readRecord fields js a = some b) : P b := by
  obtain ⟨ms, -, hb⟩ := Option.bind_eq_some_iff.mp hb
  exact keeps_foldlM (fun m hm a b => h m hm _ a b) ha hb

theorem mem_of_mapM {β : Type} {f : α → Option β} {xs : List α} {ys : List β} (h : xs.mapM f = some ys) :
    ∀ y ∈ ys, ∃ x, f x = some y := by
  induction xs generalizing ys with
  | nil =>
    cases h
    simp
  | cons x xs ih =>
    rw [List.mapM_cons] at h
    obtain ⟨z, hz, h⟩ := Option.bind_eq_some_iff.mp h
    obtain ⟨zs, hzs, h⟩ := Option.bind_eq_some_iff.mp h
    cases h
    intro y hy
    rcases List.mem_cons.mp hy with rfl | hy
    · exact ⟨x, hz⟩
    · exact ih hzs y hy

/-- The items of a list that was given are read over a blank one. -/
theorem mem_readList {read : List Json → α → Option α} {blank : α} {js : List Json} (hne : js ≠ [])
    {old : Option (List α)} {xs : List α} (h : readList read blank js old = some (some xs)) :
    ∀ x ∈ xs, ∃ cs, read cs blank = some x := by
  rw [readList, if_neg (by simpa using hne)] at h
  obtain ⟨_, -, h⟩ := Option.bind_eq_some_iff.mp h
  obtain ⟨items, -, h⟩ := Option.bind_eq_some_iff.mp h
  cases hc : items.count with
  | none =>
    rw [hc] at h
    cases h
  | some n =>
    rw [hc] at h
    obtain ⟨ys, hys, h⟩ := Option.bind_eq_some_iff.mp h
    cases h
    exact mem_of_mapM hys

/-- Where no two names are the same up to case, members are found by their names. -/
theorem occurrences_of_foldKey {keys : List String}
    (h : ∀ a ∈ keys, ∀ b ∈ keys, (foldKey a == foldKey b) = (a == b)) {ms : List (String × Json)}
    (hm : ∀ m ∈ ms, m.1 ∈ keys) {name : String} (hn : name ∈ keys) :
    occurrences name ms = ms.filterMap fun m => if name == m.1 then some m.2 else none :=
  List.filterMap_congr fun m hmem => by rw [h name hn m.1 (hm m hmem)]

theorem isFaithful_int (n : Int) : (Json.int n).IsFaithful := ⟨rfl, rfl⟩

theorem isFaithful_bool (b : Bool) : (Json.bool b).IsFaithful := ⟨rfl, rfl⟩

theorem holds_of_readInt {j : Json} {old n : Int} (ho : Word.holds old = true) (h : readInt j old = some n) :
    Word.holds n = true := by
  cases j with
  | null =>
    cases h
    exact ho
  | int m =>
    rw [readInt] at h
    split at h
    · cases h
      assumption
    · cases h
  | bool | real | str | arr | obj => cases h

end Json

namespace RunEntry
open Json (Member inTurn readRecord readString readInt readBool objectMembers? occurrences memberUnless)

/-- Runs whose counts fit into a word. -/
structure Fits (e : RunEntry) : Prop where
  files : Word.holds e.files = true
  issues : Word.holds e.issues = true
  suggestions : Word.holds e.suggestions = true

theorem isFaithful_toJson (e : RunEntry) : e.toJson.IsFaithful := by
  refine Json.isFaithful_obj ?_
  simp only [List.forall_mem_append, List.forall_mem_cons]
  exact ⟨⟨⟨⟨Json.isFaithful_string _, by simp⟩, isFaithful_memberUnless (Json.isFaithful_string _)⟩,
    isFaithful_memberUnless (Json.isFaithful_string _)⟩, Json.isFaithful_int _, Json.isFaithful_int _,
    Json.isFaithful_int _, Json.isFaithful_bool _, by simp⟩

def keys : List String := fields.map Member.name

theorem foldKey_keys : ∀ a ∈ keys, ∀ b ∈ keys, (Json.foldKey a == Json.foldKey b) = (a == b) := by decide +kernel

theorem read_toJson {e : RunEntry} (h : e.Fits) : RunEntry.read [e.toJson] default = some e := by
  obtain ⟨ms, hms⟩ : ∃ ms, e.toJson = .obj ms := ⟨_, rfl⟩
  have hblank : (default : RunEntry) = {} := rfl
  obtain ⟨timestamp, commitHash, ⟨dialect⟩, files, issues, suggestions, passed⟩ := e
  obtain ⟨hf, hi, hs⟩ := h
  simp only at hf hi hs
  have hk : ∀ m ∈ ms, m.1 ∈ keys := by
    obtain rfl := Json.obj.inj hms
    unfold memberUnless
    split <;> split <;> simp [keys, RunEntry.fields, Member.one]
  have hocc : ∀ name ∈ keys, occurrences name ms = ms.filterMap fun m => if name == m.1 then some m.2 else none :=
    fun name hn => Json.occurrences_of_foldKey foldKey_keys hk hn
  simp only [keys, RunEntry.fields, Member.one, List.map_cons, List.map_nil, List.forall_mem_cons] at hocc
  obtain ⟨h₁, h₂, h₃, h₄, h₅, h₆, h₇, -⟩ := hocc
  have hj : [Json.obj ms].mapM objectMembers? = some [ms] := rfl
  simp only [hblank, read, readRecord, RunEntry.fields, Member.one, hms, hj, Option.bind_eq_bind,
    Option.bind_some, List.flatten_cons, List.flatten_nil, List.append_nil, List.foldlM_cons, List.foldlM_nil,
    h₁, h₂, h₃, h₄, h₅, h₆, h₇]
  obtain rfl := Json.obj.inj hms
  -- an empty hash or dialect is not written, and a member that is missing leaves it empty
  by_cases hc : commitHash = "" <;> by_cases hd : dialect = "" <;>
    simp [memberUnless, inTurn, readString, readInt, readBool, Json.string, Dialect.unset, hf, hi, hs, hc, hd]

theorem keeps_fields : ∀ m ∈ fields, m.Keeps Fits := by
  simp only [fields, List.forall_mem_cons]
  refine ⟨?_, ?_, ?_, ?_, ?_, ?_, ?_, by simp⟩ <;> refine Member.keeps_one fun j a b ha hb => ?_ <;>
    obtain ⟨v, hv, rfl⟩ := Option.map_eq_some_iff.mp hb
  · exact ⟨ha.files, ha.issues, ha.suggestions⟩
  · exact ⟨ha.files, ha.issues, ha.suggestions⟩
  · exact ⟨ha.files, ha.issues, ha.suggestions⟩
  · exact ⟨Json.holds_of_readInt ha.files hv, ha.issues, ha.suggestions⟩
  · exact ⟨ha.files, Json.holds_of_readInt ha.issues hv, ha.suggestions⟩
  · exact ⟨ha.files, ha.issues, Json.holds_of_readInt ha.suggestions hv⟩
  · exact ⟨ha.files, ha.issues, ha.suggestions⟩

theorem fits_of_readAll {j : Json} {es : List RunEntry} (h : readAll j = some (some es)) : ∀ e ∈ es, e.Fits := by
  intro e he
  obtain ⟨js, hjs⟩ := Json.mem_readList (by simp) h e he
  have hblank : (default : RunEntry).Fits := ⟨by decide, by decide, by decide⟩
  exact Json.keeps_readRecord keeps_fields hblank hjs

end RunEntry

namespace History

/-! ### Keeping the latest -/

/-- How many of so many runs go. -/
def excess (count : Nat) (limit : Int) : Nat := if limit ≤ 0 then 0 else count - limit.toNat

theorem keepLatest_eq (es : List RunEntry) (limit : Int) :
    keepLatest (some es) limit = some (es.drop (excess es.length limit)) := by
  simp only [keepLatest, excess]
  by_cases hl : limit ≤ 0
  · simp [hl]
  · rw [if_neg hl]
    split
    · rw [Nat.sub_eq_zero_of_le (by omega), List.drop_zero]
    · rfl

theorem excess_le (count : Nat) (limit : Int) : excess count limit ≤ count := by
  unfold excess
  split <;> omega

theorem excess_add (count more : Nat) (limit : Int) :
    excess count limit + excess (count - excess count limit + more) limit = excess (count + more) limit := by
  unfold excess
  split <;> omega

/-- What was dropped before is dropped in the end. -/
theorem drop_excess_append (xs es : List RunEntry) (limit : Int) :
    (xs.drop (excess xs.length limit) ++ es).drop
        (excess (xs.drop (excess xs.length limit) ++ es).length limit) =
      (xs ++ es).drop (excess (xs ++ es).length limit) := by
  have hle := excess_le xs.length limit
  rw [← List.drop_append_of_le_length hle, List.drop_drop, List.length_drop, List.length_append,
    Nat.sub_add_comm hle, excess_add]

/-! ### Loading what was saved -/

theorem file_eq_spell (project : String) :
    Path.join [project, file] = Path.spell (Path.isAbsolute project)
      ((Path.segments project ++ [".moqlint", "history"]) ++ ["runs.json"]) := by
  have hj : Path.join [project, file] = Path.join [project, ".moqlint", "history", "runs.json"] := by
    by_cases hp : project = ""
    · subst hp
      decide
    · have hf : ∀ ps, (project :: ps).filter (· != "") = project :: ps.filter (· != "") :=
        fun ps => List.filter_cons_of_pos (by simpa using hp)
      simp only [Path.join, hf]
      rfl
  rw [hj, Path.join_names project (by simp) (by decide), List.append_assoc]
  rfl

theorem isClean_file (project : String) :
    Path.IsClean (Path.isAbsolute project) ((Path.segments project ++ [".moqlint", "history"]) ++ ["runs.json"]) :=
  ((Path.isClean_segments project).append (by decide)).append (by decide)

theorem load_of_read? {d : Disk} {project : String} {content : Option Bytes}
    (h : d.read? (Path.join [project, file]) = .ok content) :
    load d project = match content with
      | none => .ok none
      | some bs => match (Store.decode bs).bind RunEntry.readAll with
        | some es => .ok es
        | none => .error .malformed := by
  cases content with
  | none => simp [load, Store.load, Store.onDisk, h, bind, Except.bind, pure, Except.pure]
  | some bs =>
    simp only [load, Store.load, Store.onDisk, h, bind, Except.bind]
    cases (Store.decode bs).bind RunEntry.readAll <;> rfl

theorem read?_of_load {d : Disk} {project : String} {xs : Option (List RunEntry)}
    (h : load d project = .ok xs) :
    (∃ content, d.read? (Path.join [project, file]) = .ok content) ∧ ∀ x ∈ xs.getD [], x.Fits := by
  cases hr : d.read? (Path.join [project, file]) with
  | error f => simp [load, Store.load, Store.onDisk, hr, bind, Except.bind] at h
  | ok content =>
    refine ⟨⟨content, rfl⟩, ?_⟩
    rw [load_of_read? hr] at h
    cases content with
    | none =>
      cases h
      simp
    | some bs =>
      simp only at h
      split at h
      · rename_i es hes
        cases h
        obtain ⟨j, -, hj⟩ := Option.bind_eq_some_iff.mp hes
        cases xs with
        | none => simp
        | some xs => exact RunEntry.fits_of_readAll hj
      · cases h

theorem readAll_written {es : List RunEntry} (h : ∀ e ∈ es, e.Fits) :
    (Store.decode (written (some es))).bind RunEntry.readAll = some (some es) := by
  rw [written, Json.decode_indented (Json.isFaithful_list RunEntry.isFaithful_toJson _), Option.bind_some,
    RunEntry.readAll]
  have hread : ∀ e ∈ (some es).getD [], RunEntry.read [e.toJson] default = some e :=
    fun e he => RunEntry.read_toJson (h e he)
  exact Json.readList_list_of_mem hread none

/-- A run is saved behind those that were loaded, in folders that are made for it. -/
theorem save_eq_ok {d d' : Disk} {project : String} {e : RunEntry} {limit : Int}
    (h : save d project e limit = .ok d') :
    ∃ xs d₁, load d project = .ok xs ∧ d.makeFolders (Path.parent (Path.join [project, file])) = .ok d₁ ∧
      d₁.replace (Path.join [project, file])
        (.file (written (keepLatest (some (xs.getD [] ++ [e])) limit))) = .ok d' := by
  unfold save at h
  cases hl : load d project with
  | error f => simp [hl, bind, Except.bind] at h
  | ok xs =>
    cases hm : d.makeFolders (Path.parent (Path.join [project, file])) with
    | error f => simp [hl, hm, Store.onDisk, bind, Except.bind] at h
    | ok d₁ =>
      simp only [hl, hm, Store.onDisk, bind, Except.bind] at h
      split at h
      · cases h
        exact ⟨xs, d₁, rfl, rfl, ‹_›⟩
      · cases h

theorem load_of_save {d d' : Disk} (hg : d.IsGrounded) {project : String} {xs : Option (List RunEntry)}
    (hl : load d project = .ok xs) {e : RunEntry} (he : e.Fits) {limit : Int}
    (hs : save d project e limit = .ok d') :
    load d' project = .ok (keepLatest (some (xs.getD [] ++ [e])) limit) ∧ d'.IsGrounded := by
  obtain ⟨xs', d₁, hl', hm, hp⟩ := save_eq_ok hs
  obtain rfl := Except.ok.inj (hl.symm.trans hl')
  obtain ⟨⟨old, hr⟩, hxs⟩ := read?_of_load hl
  have hfits : ∀ x ∈ (xs.getD [] ++ [e]).drop (excess (xs.getD [] ++ [e]).length limit), x.Fits := by
    intro x hx
    rcases List.mem_append.mp (List.mem_of_mem_drop hx) with hx | hx
    · exact hxs x hx
    · rw [List.mem_singleton.mp hx]
      exact he
  have hclean := isClean_file project
  rw [file_eq_spell] at hr hm hp
  rw [Path.parent_spell hclean.of_append (by decide)] at hm
  obtain ⟨hread, hg'⟩ := Disk.read?_of_replace hg hclean (by decide) hr hm hp
  rw [← file_eq_spell, keepLatest_eq] at hread
  rw [load_of_read? hread, keepLatest_eq]
  simp only [readAll_written hfits]
  exact ⟨trivial, hg'⟩

/-- However many runs are saved, the latest of all are loaded. -/
theorem load_of_saves {project : String} {limit : Int} {es : List RunEntry} (hne : es ≠ [])
    (he : ∀ e ∈ es, e.Fits) {d d' : Disk} (hg : d.IsGrounded) {xs : Option (List RunEntry)}
    (hl : load d project = .ok xs) (hs : es.foldlM (fun d e => save d project e limit) d = .ok d') :
    load d' project = .ok (some ((xs.getD [] ++ es).drop (excess (xs.getD [] ++ es).length limit))) := by
  induction es generalizing d xs with
  | nil => exact absurd rfl hne
  | cons e es ih =>
    obtain ⟨hfits, hrest⟩ := List.forall_mem_cons.mp he
    rw [List.foldlM_cons] at hs
    cases hsave : save d project e limit with
    | error f =>
      rw [hsave] at hs
      cases hs
    | ok d₁ =>
      rw [hsave] at hs
      obtain ⟨hl₁, hg₁⟩ := load_of_save hg hl hfits hsave
      rw [keepLatest_eq] at hl₁
      by_cases hes : es = []
      · subst hes
        cases hs
        exact hl₁
      · -- what was dropped now would have been dropped in the end
        have hall := ih hes hrest hg₁ hl₁ hs
        rwa [Option.getD_some, drop_excess_append, List.append_assoc] at hall

theorem length_drop_excess (es : List RunEntry) (limit : Int) :
    (es.drop (excess es.length limit)).length = if limit ≤ 0 then es.length else min limit.toNat es.length := by
  rw [List.length_drop, excess]
  split
  · rfl
  · omega

theorem runsOf_valid {dialect : Dialect} (h : dialect ∈ Dialect.valid) (es : List RunEntry) :
    (runsOf (some es) dialect).getD [] =
      es.filter fun e => e.dialect = dialect ∨ (e.dialect = .unset ∧ dialect = .auto) := by
  have hunset : dialect ≠ .unset := by
    rintro rfl
    revert h
    decide
  have hown : ∀ e : RunEntry, dialectOf e = dialect ↔
      (e.dialect = dialect ∨ (e.dialect = .unset ∧ dialect = .auto)) := by
    intro e
    unfold dialectOf
    by_cases he : e.dialect = .unset
    · rw [if_pos he, he]
      simp [hunset.symm, eq_comm]
    · simp [he]
  have hlist : (runsOf (some es) dialect).getD [] = es.filter fun e => dialectOf e = dialect := by
    simp only [runsOf, Option.getD_some]
    split
    · rename_i hnil
      rw [List.isEmpty_iff.mp hnil]
      rfl
    · rfl
  rw [hlist]
  exact List.filter_congr fun e _ => by simp only [hown]

theorem save_malformed {d : Disk} {project : String} {content : Bytes}
    (hr : d.read? (Path.join [project, file]) = .ok (some content))
    (hc : (Store.decode content).bind RunEntry.readAll = none) (e : RunEntry) (limit : Int) :
    save d project e limit = .error .malformed := by
  have hl : load d project = .error .malformed := by
    rw [load_of_read? hr]
    simp only [hc]
  simp [save, hl, bind, Except.bind]

/-- Runs that were saved one after the other are loaded in their order behind those that were there, the oldest
ones beyond the limit left out, and each counts for its dialect. A history that cannot be read takes no run and
stays as it is. -/
theorem saved_runs_latest (project : String) (d : Disk) :
    (∀ limit xs es d', d.IsGrounded → load d project = .ok xs → es ≠ [] → (∀ e ∈ es, e.Fits) →
      es.foldlM (fun d e => save d project e limit) d = .ok d' →
      ∃ kept, load d' project = .ok (some kept) ∧ kept <:+ xs.getD [] ++ es ∧
        kept.length = (if limit ≤ 0 then (xs.getD [] ++ es).length
          else min limit.toNat (xs.getD [] ++ es).length) ∧
        ∀ dialect ∈ Dialect.valid, (runsOf (some kept) dialect).getD [] =
          kept.filter fun e => e.dialect = dialect ∨ (e.dialect = .unset ∧ dialect = .auto)) ∧
    ∀ content, d.read? (Path.join [project, file]) = .ok (some content) →
      (Store.decode content).bind RunEntry.readAll = none →
      (∀ e limit, save d project e limit = .error .malformed) ∧
        ∀ clock b, (Command.record d project clock b).1 = d := by
  constructor
  · intro limit xs es d' hg hl hne he hs
    exact ⟨_, load_of_saves hne he hg hl hs, List.drop_suffix _ _, length_drop_excess _ limit,
      fun dialect hd => runsOf_valid hd _⟩
  · intro content hr hc
    have hs := save_malformed hr hc
    refine ⟨hs, fun clock b => ?_⟩
    unfold Command.record
    rw [hs]

/-- Two runs are saved behind an old one with a limit of two; next to them lies a history that cannot be read. -/
theorem saved_runs_two :
    let stored (text : String) : Entry :=
      .folder [(".moqlint", .folder [("history", .folder [("runs.json", .file (utf8 text))])])]
    let d : Disk := { root := .folder [("p", stored "[\x7b\"timestamp\":\"1\",\"files\":2\x7d]"), ("q", stored "[")] }
    let es : List RunEntry := [⟨"2", "", .entity, 1, 0, 0, false⟩, ⟨"3", "ab", .unset, 1, 0, 4, true⟩]
    (∃ d' kept, es.foldlM (fun d e => save d "/p" e 2) d = .ok d' ∧ load d' "/p" = .ok (some kept) ∧
      kept <:+ [⟨"1", "", .unset, 2, 0, 0, false⟩] ++ es ∧ kept.length = 2 ∧
      (runsOf (some kept) .entity).getD [] =
        kept.filter fun e => e.dialect = .entity ∨ (e.dialect = .unset ∧ Dialect.entity = .auto)) ∧
      (Command.record d "/q" "4" {}).1 = d := by
  intro stored d es
  have hg : d.IsGrounded := ⟨_, rfl⟩
  have hl : load d "/p" = .ok (some [⟨"1", "", .unset, 2, 0, 0, false⟩]) := by decide +kernel
  have hes : ∀ e ∈ es, e.Fits := List.forall_mem_cons.mpr
    ⟨⟨by decide, by decide, by decide⟩, List.forall_mem_singleton.mpr ⟨by decide, by decide, by decide⟩⟩
  have hok : (es.foldlM (fun d e => save d "/p" e 2) d).isOk = true := by decide +kernel
  have hsaved : ∃ d', es.foldlM (fun d e => save d "/p" e 2) d = .ok d' := by
    cases hs : es.foldlM (fun d e => save d "/p" e 2) d with
    | error f =>
      rw [hs] at hok
      cases hok
    | ok d' => exact ⟨d', rfl⟩
  obtain ⟨d', hd'⟩ := hsaved
  obtain ⟨kept, hkept, hsuffix, hlength, hruns⟩ := (saved_runs_latest "/p" d).1 2 _ es d' hg hl (by decide) hes hd'
  have hread : d.read? (Path.join ["/q", file]) = .ok (some (utf8 "[")) := by decide +kernel
  have hfault : (Store.decode (utf8 "[")).bind RunEntry.readAll = none := by decide +kernel
  exact ⟨⟨d', kept, hd', hkept, hsuffix, hlength, hruns .entity (by decide)⟩,
    ((saved_runs_latest "/q" d).2 _ hread hfault).2 "4" {}⟩

end History

end MoquiLint
