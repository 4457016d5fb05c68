import MoquiLint.Proofs.OpeningTags

/-!
# The tags a guess goes by

A guess looks at the first bytes of a document only, and where they end right behind a name, it takes the name for
complete. So it accepts a document for a tag that is there, or for a longer name whose beginning the window cuts off.
-/
namespace MoquiLint.Sniff

/-- At the position begins a longer name, which goes on behind `tag`. -/
def RunsOnAt (tag s : Bytes) (i : Nat) : Prop :=
  ∃ b rest, s.drop i = lt :: tag ++ b :: rest ∧ b ∉ utf8 " \t\r\n>/"

variable {tag s : Bytes} {n i : Nat}

/-- A tag in the first bytes is one that ends in them, or a longer name that goes on exactly where they end. -/
theorem OpensAt.of_take (h : OpensAt tag (s.take n) i) :
    i + tag.length < n ∧ (OpensAt tag s i ∨ i + tag.length + 1 = n ∧ RunsOnAt tag s i) := by
  obtain ⟨v, hv, hend⟩ := h
  have hsplit : s.drop i = lt :: tag ++ (v ++ (s.drop i).drop (n - i)) := by
    rw [← List.append_assoc, ← hv, List.drop_take, List.take_append_drop]
  have hlen := congrArg List.length hv
  simp only [List.length_drop, List.length_take, List.length_append, List.length_cons] at hlen
  refine ⟨by omega, ?_⟩
  obtain rfl | ⟨b, rest, rfl, hb⟩ := hend
  · cases hw : (s.drop i).drop (n - i) with
    | nil =>
      rw [hw] at hsplit
      exact .inl ⟨[], hsplit, .inl rfl⟩
    | cons b rest =>
      rw [hw] at hsplit
      by_cases hb : b ∈ utf8 " \t\r\n>/"
      · exact .inl ⟨b :: rest, hsplit, .inr ⟨b, rest, rfl, hb⟩⟩
      · -- something follows the first bytes, so the name ends with them
        have hmore := congrArg List.length hw
        simp only [List.length_drop, List.length_cons] at hmore
        simp only [List.length_nil] at hlen
        exact .inr ⟨by omega, b, rest, hsplit, hb⟩
  · exact .inl ⟨_, hsplit, .inr ⟨b, _, rfl, hb⟩⟩

theorem drop_take_of_drop_eq {p v : Bytes} (hv : s.drop i = p ++ v) (k : Nat) :
    (s.take (i + p.length + k)).drop i = p ++ v.take k := by
  rw [List.drop_take, hv, Nat.add_assoc, Nat.add_sub_cancel_left, List.take_length_add_append]

theorem OpensAt.take (h : OpensAt tag s i) (k : Nat) : OpensAt tag (s.take (i + (lt :: tag).length + k)) i := by
  obtain ⟨v, hv, hend⟩ := h
  refine ⟨v.take k, drop_take_of_drop_eq hv k, ?_⟩
  obtain rfl | ⟨b, rest, rfl, hb⟩ := hend
  · exact .inl List.take_nil
  · cases k with
    | zero => exact .inl rfl
    | succ k => exact .inr ⟨b, rest.take k, rfl, hb⟩

theorem RunsOnAt.take (h : RunsOnAt tag s i) : OpensAt tag (s.take (i + (lt :: tag).length)) i := by
  obtain ⟨b, rest, hv, -⟩ := h
  exact ⟨[], drop_take_of_drop_eq hv 0, .inl rfl⟩

/-- The window ends behind the name, which goes on there. -/
def IsCutOff (tag data : Bytes) : Prop := ∃ i, i + tag.length + 1 = windowSize ∧ RunsOnAt tag data i

/-- Only what goes on behind the window can be cut off by it. -/
theorem IsCutOff.lt_length {data : Bytes} (h : IsCutOff tag data) : windowSize < data.length := by
  obtain ⟨i, hfull, b, rest, hdrop, -⟩ := h
  have hlen := congrArg List.length hdrop
  simp only [List.length_drop, List.length_append, List.length_cons] at hlen
  omega

/-- A guess at the data sees the tag: it is there, beginning and ending in the window, or it is a longer name cut
off by the window. -/
def Shows (data : Bytes) (tag : String) : Prop :=
  (∃ i, i + (utf8 tag).length < windowSize ∧ OpensAt (utf8 tag) data i) ∨ IsCutOff (utf8 tag) data

theorem hasTag_window_iff {tag : String} (htag : lt ∉ utf8 tag) (data : Bytes) :
    hasTag (utf8 tag) (window (data.take windowSize)) = true ↔ Shows data tag := by
  rw [window, List.take_take, Nat.min_self, hasTag_eq_true_iff htag]
  constructor
  · rintro ⟨i, hi⟩
    obtain ⟨hin, hopen | ⟨hfull, hlonger⟩⟩ := hi.of_take
    · exact .inl ⟨i, hin, hopen⟩
    · exact .inr ⟨i, hfull, hlonger⟩
  · rintro (⟨i, hin, hopen⟩ | ⟨i, hfull, hlonger⟩)
    · obtain ⟨k, hk⟩ := Nat.exists_eq_add_of_le hin
      rw [hk]
      exact ⟨i, hopen.take k⟩
    · rw [← hfull]
      exact ⟨i, hlonger.take⟩

variable {data : Bytes} {requested d : Dialect}

theorem detect_eq_none_iff :
    detect (data.take windowSize) = none ↔ ¬Shows data "entities" ∧ ¬Shows data "services" := by
  rw [← hasTag_window_iff (by decide +kernel), ← hasTag_window_iff (by decide +kernel)]
  simp only [detect]
  cases hasTag (utf8 "entities") (window (data.take windowSize)) with
  | true => simp
  | false => cases hasTag (utf8 "services") (window (data.take windowSize)) <;> simp

theorem detect_eq_some_iff : detect (data.take windowSize) = some d ↔
    d = .entity ∧ Shows data "entities" ∨
      d = .service ∧ Shows data "services" ∧ ¬Shows data "entities" := by
  rw [← hasTag_window_iff (by decide +kernel), ← hasTag_window_iff (by decide +kernel)]
  simp only [detect]
  cases hasTag (utf8 "entities") (window (data.take windowSize)) with
  | true => simp [@eq_comm _ d]
  | false => cases hasTag (utf8 "services") (window (data.take windowSize)) <;> simp [@eq_comm _ d]

/-- A document is accepted for its root tag, or by a closed request for the tag of a definition if it has no root
tag of either dialect. -/
theorem classify_eq_some_iff {head : Bytes} : classify head requested = some d ↔
    detect head = some d ∧ (requested.isOpen = true ∨ requested = d) ∨
      detect head = none ∧ requested = d ∧ d.isOpen = false ∧ hasTag (utf8 d.childTag) (window head) = true := by
  unfold classify
  cases detect head with
  | some shown =>
    simp only [Bool.or_eq_true, beq_iff_eq, Option.ite_none_right_eq_some, Option.some_inj, reduceCtorEq,
      false_and, or_false]
    constructor
    · rintro ⟨htaken, rfl⟩
      exact ⟨rfl, htaken⟩
    · rintro ⟨rfl, htaken⟩
      exact ⟨htaken, rfl⟩
  | none =>
    cases ho : requested.isOpen with
    | true =>
      simp only [if_true, reduceCtorEq, false_and, true_and, false_or, false_iff, not_and]
      rintro rfl h
      rw [ho] at h
      cases h
    | false =>
      simp only [Bool.false_eq_true, if_false, Option.ite_none_right_eq_some, Option.some_inj, reduceCtorEq,
        false_and, true_and, false_or]
      constructor
      · rintro ⟨htag, rfl⟩
        exact ⟨rfl, ho, htag⟩
      · rintro ⟨rfl, -, htag⟩
        exact ⟨htag, rfl⟩

/-- The tags that speak for a dialect: its root tag, and for a request of the dialect that of its definitions. -/
def tagsFor (requested d : Dialect) : List String :=
  d.rootTag :: if requested = d then [d.childTag] else []

theorem isOpen_iff_of_mem_valid (hr : requested ∈ Dialect.valid) : requested.isOpen = true ↔ requested = .auto := by
  revert requested
  decide

theorem lt_notMem_childTag (hd : d ∈ Dialect.valid) : lt ∉ utf8 d.childTag := by
  revert d
  decide +kernel

/-- A document is accepted exactly for a tag that its first bytes show, entities before services. -/
theorem classify_window_iff (hr : requested ∈ Dialect.valid) : classify (data.take windowSize) requested = some d ↔
    (d = .entity ∧ Shows data "entities" ∨ d = .service ∧ Shows data "services" ∧ ¬Shows data "entities") ∧
        (requested = .auto ∨ requested = d) ∨
      (¬Shows data "entities" ∧ ¬Shows data "services") ∧ requested = d ∧ d ≠ .auto ∧ Shows data d.childTag := by
  rw [classify_eq_some_iff, detect_eq_some_iff, detect_eq_none_iff, isOpen_iff_of_mem_valid hr]
  refine or_congr_right (and_congr_right fun _ => and_congr_right ?_)
  rintro rfl
  rw [hasTag_window_iff (lt_notMem_childTag hr), ← Bool.not_eq_true, isOpen_iff_of_mem_valid hr]

theorem exists_shown_of_classify (hr : requested ∈ Dialect.valid)
    (h : classify (data.take windowSize) requested = some d) : ∃ tag ∈ tagsFor requested d, Shows data tag := by
  obtain ⟨⟨rfl, hs⟩ | ⟨rfl, hs, -⟩, -⟩ | ⟨-, rfl, -, hs⟩ := (classify_window_iff hr).mp h
  · exact ⟨"entities", List.mem_cons_self, hs⟩
  · exact ⟨"services", List.mem_cons_self, hs⟩
  · exact ⟨_, by simp [tagsFor], hs⟩

/-- A document is accepted exactly for a tag that its first bytes show. Unless the name of such a tag is cut off by
the end of these bytes, a tag is in the document under exactly this name, and begins within them. -/
theorem accepted_for_tag (data : Bytes) {requested d : Dialect} (hr : requested ∈ Dialect.valid) :
    (classify (data.take windowSize) requested = some d ↔
      (d = .entity ∧ Shows data "entities" ∨ d = .service ∧ Shows data "services" ∧ ¬Shows data "entities") ∧
          (requested = .auto ∨ requested = d) ∨
        (¬Shows data "entities" ∧ ¬Shows data "services") ∧ requested = d ∧ d ≠ .auto ∧ Shows data d.childTag) ∧
    (classify (data.take windowSize) requested = some d →
      (∀ tag ∈ tagsFor requested d, ¬IsCutOff (utf8 tag) data) →
        ∃ tag ∈ tagsFor requested d, ∃ i < windowSize, OpensAt (utf8 tag) data i) := by
  refine ⟨classify_window_iff hr, fun h hcut => ?_⟩
  obtain ⟨tag, htag, ⟨i, hin, hopen⟩ | hcutOff⟩ := exists_shown_of_classify hr h
  · exact ⟨tag, htag, i, by omega, hopen⟩
  · exact absurd hcutOff (hcut tag htag)

theorem accepted_for_tag_service :
    let data := utf8 "<!-- <services-x> --><service verb='get'/>"
    Dialect.service ∈ Dialect.valid ∧ classify (data.take windowSize) .service = some .service ∧
      ∃ tag ∈ tagsFor .service .service, ∃ i < windowSize, OpensAt (utf8 tag) data i := by
  intro data
  have hr : Dialect.service ∈ Dialect.valid := by decide
  have h : classify (data.take windowSize) .service = some .service := by decide +kernel
  have hshort : data.length ≤ windowSize := by decide +kernel
  exact ⟨hr, h, (accepted_for_tag data hr).2 h fun _ _ hcut => absurd hcut.lt_length hshort.not_gt⟩

/-- A request for entities accepts a data file, whose tag is longer than that of an entity, if the first bytes end
behind the beginning of this tag. -/
theorem accepted_for_longer_tag :
    let data := List.replicate 993 0x20 ++ utf8 "<entity-facade-xml/>"
    classify (data.take windowSize) .entity = some .entity ∧
      ¬∃ tag ∈ tagsFor .entity .entity, ∃ i, OpensAt (utf8 tag) data i := by
  intro data
  have h : classify (data.take windowSize) .entity = some .entity := by decide +kernel
  refine ⟨h, fun ⟨tag, htag, hopen⟩ => ?_⟩
  have hblank : lt ∉ List.replicate 993 0x20 := fun hlt => absurd (List.eq_of_mem_replicate hlt) (by decide)
  have hfront : ∀ i < (List.replicate 993 (0x20 : UInt8)).length, ¬OpensAt (utf8 tag) data i := by
    intro i hi hopen
    have hget := hopen.getElem?
    rw [List.getElem?_append_left hi] at hget
    exact hblank (List.mem_of_getElem? hget)
  have hnone : ∀ tag ∈ tagsFor .entity .entity,
      lt ∉ utf8 tag ∧ hasTag (utf8 tag) (utf8 "<entity-facade-xml/>") = false := by decide +kernel
  obtain ⟨hname, hfalse⟩ := hnone tag htag
  rw [exists_opensAt_append_iff hfront, ← hasTag_eq_true_iff hname, hfalse] at hopen
  cases hopen

end MoquiLint.Sniff
