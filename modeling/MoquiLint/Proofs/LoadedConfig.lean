import MoquiLint.Config.Load
import MoquiLint.Proofs.JsonText

/-!
# Configurations that were loaded

A configuration that was loaded names a dialect and known rules only, and the text its digest is taken of
tells which rules it leaves out.
-/
namespace MoquiLint.Config

def HasKnownRules (c : Config) : Prop := ∀ id ∈ c.skipRules.getD [], isRuleId id = true

theorem hasKnownRules_of_validate {c : Config} (h : c.validate = .ok ()) : c.HasKnownRules := by
  cases hf : (c.skipRules.getD []).find? fun id => !isRuleId id with
  | none =>
    intro id hid
    simpa using List.find?_eq_none.mp hf id hid
  | some id =>
    simp only [validate, bind, Except.bind, hf, throw, throwThe, MonadExceptOf.throw] at h
    split at h
    · split at h <;> cases h
    · cases h

theorem parse_of_validate {c : Config} (h : c.validate = .ok ()) (hne : c.dialect ≠ []) :
    ∃ dialect, Dialect.parse c.dialect = .ok dialect := by
  cases hp : Dialect.parse c.dialect with
  | ok dialect => exact ⟨dialect, rfl⟩
  | error e =>
    simp only [validate, bind, Except.bind, hp, hne, ne_eq, not_false_eq_true, ↓reduceIte, throw, throwThe,
      MonadExceptOf.throw] at h
    cases h

/-- A loaded configuration is a valid one, up to the dialect where none was given. -/
theorem exists_validated_of_load {d : Disk} {project : String} {c : Config} (h : load d project = .ok c) :
    ∃ c' : Config, c'.validate = .ok () ∧
      c = if c'.dialect.isEmpty then { c' with dialect := standard.dialect } else c' := by
  unfold load at h
  split at h
  · cases h
  · cases h
    exact ⟨standard, by decide, rfl⟩
  · split at h
    · rename_i hf
      cases h
      simp only [ofFile, bind, Except.bind] at hf
      split at hf
      · cases hf
      · rename_i c' _
        split at hf
        · cases hf
        · rename_i hv
          exact ⟨c', hv, (Except.ok.inj hf).symm⟩
    · cases h

theorem hasKnownRules_of_load {d : Disk} {project : String} {c : Config} (h : load d project = .ok c) :
    c.HasKnownRules := by
  obtain ⟨c', hv, rfl⟩ := exists_validated_of_load h
  have hc := hasKnownRules_of_validate hv
  split <;> exact hc

/-- The dialect of a loaded configuration is the name of one, in some spelling. -/
theorem parse_of_load {d : Disk} {project : String} {c : Config} (h : load d project = .ok c) :
    c.dialect ≠ [] ∧ ∃ dialect, Dialect.parse c.dialect = .ok dialect := by
  obtain ⟨c', hv, rfl⟩ := exists_validated_of_load h
  split
  · have hs : standard.dialect ≠ [] := by decide
    have hp : Dialect.parse standard.dialect = .ok .auto := by decide
    exact ⟨hs, .auto, hp⟩
  · rename_i hne
    have hne : c'.dialect ≠ [] := by simpa using hne
    exact ⟨hne, parse_of_validate hv hne⟩

theorem ofChars_codes_of_isRuleId {id : Text} (h : isRuleId id = true) :
    Text.ofChars (Text.codes id) = id := by
  obtain ⟨s, -, rfl⟩ : ∃ s ∈ ruleIds, Text.ofString s = id := by
    simpa [isRuleId] using h
  rw [Text.codes_ofString, Text.ofString]

theorem seen_textsJson {ts : Option (List Text)} (h : ∀ id ∈ ts.getD [], isRuleId id = true) :
    (textsJson ts).seen = textsJson ts := by
  cases ts with
  | none => rfl
  | some ts =>
    have hs : ∀ j ∈ ts.map Json.str, j.seen = j := by
      intro j hj
      obtain ⟨id, hid, rfl⟩ := List.mem_map.mp hj
      rw [Json.seen, ofChars_codes_of_isRuleId (h id hid)]
    rw [textsJson, Json.list, Json.seen, Json.seenItems_eq_map, List.map_congr_left hs, List.map_id']

theorem textsJson_injective {ts us : Option (List Text)} (h : textsJson ts = textsJson us) : ts = us := by
  cases ts with
  | none => cases us <;> first | rfl | cases h
  | some ts =>
    cases us with
    | none => cases h
    | some us =>
      have hm : ts.map Json.str = us.map Json.str := Json.arr.inj h
      rw [List.map_injective_iff.mpr (fun _ _ he => Json.str.inj he) hm]

theorem ofBytes?_encoding (dialect : Text) (skipRules : Option (List Text)) :
    Json.ofBytes? (encoding dialect skipRules) =
      some (.obj [("dialect", (Json.str dialect).seen), ("skip_rules", (textsJson skipRules).seen)]) := by
  have he : (textsJson skipRules).isExact = true := by
    cases skipRules with
    | none => rfl
    | some ts => simp [textsJson, Json.list, Json.isExact, Json.areItemsExact_eq_all]
  rw [Json.ofBytes?, encoding, Text.decode_utf8, Text.codes_ofString, Json.ofChars?_compact]
  · rfl
  · simp [Json.isExact, Json.areMembersExact, he]

/-- The digested settings of two configurations are the same only if they leave out the same rules. -/
theorem skipRules_eq_of_encoding_eq {c c' : Config} (hc : c.HasKnownRules) (hc' : c'.HasKnownRules)
    (h : encoding c.dialect c.skipRules = encoding c'.dialect c'.skipRules) :
    c.skipRules = c'.skipRules := by
  have hj := congrArg Json.ofBytes? h
  rw [ofBytes?_encoding, ofBytes?_encoding, seen_textsJson hc, seen_textsJson hc'] at hj
  simp only [Option.some.injEq, Json.obj.injEq, List.cons.injEq, Prod.mk.injEq, true_and, and_true] at hj
  exact textsJson_injective hj.2

end MoquiLint.Config
