import MoquiLint.Proofs.Capitals
import MoquiLint.Proofs.ServiceTable

/-!
# Following the advice on a noun

The advice on the noun of a service proposes its spelling with capitals. The noun is fine once this spelling is taken
just if the character it begins with has a capital: digits and signs stay in front, and are reported again.
-/
namespace MoquiLint

namespace Markup.Node

def withNoun (n : Node) (noun : String) : Node :=
  { n with attrs := n.attrs.map fun a => if a.name == "noun" then { a with value := noun } else a }

theorem value_withNoun {n : Node} (h : n.value "noun" ≠ "") (noun : String) :
    (n.withNoun noun).value "noun" = noun := by
  cases hfind : n.attrs.find? fun a => a.name == "noun" with
  | none => simp [value, attr?, hfind] at h
  | some a =>
    have hname : a.name = "noun" := by simpa using List.find?_some hfind
    have hnames : ((fun a => a.name == "noun") ∘ fun a : Attr =>
        if a.name == "noun" then { a with value := noun } else a) = fun a => a.name == "noun" := by
      funext a
      by_cases ha : a.name = "noun" <;> simp [ha]
    rw [value, attr?, withNoun, List.find?_map, hnames, hfind]
    simp [hname]

end Markup.Node

namespace Rules

open Markup (Node)
open Naming (isSeparator StartsCapital)

/-- The spelling that is proposed begins with a capital just if the first character of the noun that is no separator
has one. -/
theorem startsCapital_proposal_iff (noun : String) :
    StartsCapital (Service.proposal noun) ↔
      ∃ c, noun.toList.find? (fun c => !isSeparator c) = some c ∧ Text.isUpper (Text.toUpper c) = true := by
  have hhead : (Service.proposal noun).toList.head? =
      (noun.toList.find? fun c => !isSeparator c).map Text.toUpper := by
    rw [Service.proposal, Text.toString, String.toList_ofList, Text.codes, List.head?_map,
      Naming.head?_pascalCase (Text.isValid_ofString noun), List.head?_filter, Text.ofString, Text.ofChars,
      List.find?_map, Option.map_map, Option.map_map]
    rfl
  rw [StartsCapital, hhead]
  constructor
  · rintro ⟨d, hd, hupper⟩
    obtain ⟨c, hc, rfl⟩ := Option.map_eq_some_iff.mp hd
    exact ⟨c, hc, hupper⟩
  · rintro ⟨c, hc, hupper⟩
    exact ⟨_, Option.map_eq_some_iff.mpr ⟨c, hc, rfl⟩, hupper⟩

theorem eq_proposal_of_nounAdvice {noun p : String}
    (h : Service.nounAdvice noun = "consider PascalCase for noun ('" ++ p ++ "')") :
    p = Service.proposal noun ∧ p ≠ "" := by
  rw [Service.nounAdvice] at h
  split at h
  · rename_i hp
    obtain ⟨hne, -⟩ := Bool.and_eq_true_iff.mp hp
    have hsame : Service.proposal noun = p := by
      rw [← String.toList_inj] at h ⊢
      simpa using h
    exact ⟨hsame.symm, fun he => by simp [hsame, he] at hne⟩
  · -- the advice without a spelling is shorter
    have hl := congrArg (fun s : String => s.toList.length) h
    simp at hl

theorem check_noun {r : Rule} (hr : r ∈ Service.rules) (hid : r.id = "noun-pascal-case") (ctx : Context) :
    r.check ctx =
      if ctx.node.value "noun" ≠ "" ∧ ¬StartsCapital (ctx.node.value "noun") then
        [Service.nounAdvice (ctx.node.value "noun")]
      else [] := by
  have hcheck : r.check ctx = reportIf (ctx.node.value "noun" != "" &&
      !Naming.startsUpper (Text.ofString (ctx.node.value "noun"))) (Service.nounAdvice (ctx.node.value "noun")) := by
    simp only [Service.rules, List.mem_cons, List.not_mem_nil, or_false] at hr
    rcases hr with rfl | rfl | rfl | rfl | rfl | rfl | rfl | rfl | rfl
    case inr.inr.inr.inl => rfl
    all_goals exact absurd hid (by decide)
  have hcapital := Naming.startsUpper_iff (ctx.node.value "noun")
  rw [hcheck, reportIf]
  congr 1
  rw [eq_iff_iff, Bool.and_eq_true, bne_iff_ne, Bool.not_eq_true', ← Bool.not_eq_true, hcapital]

/-- Where the rule proposes another spelling of the noun, the same service with this spelling is not reported again
just if the first character of the noun that is no separator has a capital. -/
theorem followed_noun_silent_iff {r : Rule} (hr : r ∈ Service.rules) (hid : r.id = "noun-pascal-case") {ctx : Context}
    {p : String} (hadvice : r.check ctx = ["consider PascalCase for noun ('" ++ p ++ "')"]) :
    p = Text.toString (Naming.pascalCase (Text.ofString (ctx.node.value "noun"))) ∧
      (r.check { ctx with node := ctx.node.withNoun p } = [] ↔
        ∃ c, (ctx.node.value "noun").toList.find? (fun c => !isSeparator c) = some c ∧
          Text.isUpper (Text.toUpper c) = true) := by
  rw [check_noun hr hid] at hadvice
  split at hadvice
  · rename_i hfires
    obtain ⟨hp, hne⟩ := eq_proposal_of_nounAdvice (List.singleton_inj.mp hadvice)
    refine ⟨hp, ?_⟩
    rw [← startsCapital_proposal_iff, ← hp, check_noun hr hid, Markup.Node.value_withNoun hfires.1]
    simp [hne]
  · cases hadvice

/-- An underscore in front is no obstacle. -/
theorem followed_noun_silent_item :
    let service (noun : String) : Node := ⟨"service", [⟨"verb", "get"⟩, ⟨"noun", noun⟩], [], "", 2⟩
    let ctx (noun : String) : Context := { root := service noun, node := service noun }
    ∃ r ∈ Service.rules, r.id = "noun-pascal-case" ∧
      r.check (ctx "_order_item") = ["consider PascalCase for noun ('OrderItem')"] ∧
      r.check { ctx "_order_item" with node := (service "_order_item").withNoun "OrderItem" } = [] := by
  intro service ctx
  obtain ⟨r, hr, hid⟩ : ∃ r ∈ Service.rules, r.id = "noun-pascal-case" := by simp [Service.rules]
  have hadvice : r.check (ctx "_order_item") = ["consider PascalCase for noun ('OrderItem')"] := by
    rw [check_noun hr hid]
    decide +kernel
  have hsilent := (followed_noun_silent_iff hr hid (p := "OrderItem") hadvice).2
  exact ⟨r, hr, hid, hadvice, hsilent.mpr ⟨'o', by decide +kernel, by decide +kernel⟩⟩

/-- A digit has no capital, so the spelling that is proposed for a noun that begins with one is reported in turn. -/
theorem followed_noun_fails :
    let service (noun : String) : Node := ⟨"service", [⟨"verb", "get"⟩, ⟨"noun", noun⟩], [], "", 2⟩
    let advice (noun : String) : List String :=
      ((evaluate (some ⟨"services", [], [service noun], "", 1⟩) .service).suggestionList.filter fun f =>
        f.rule == "noun-pascal-case").map Finding.message
    advice "2order" = ["consider PascalCase for noun ('2Order')"] ∧
      advice "2Order" = ["consider PascalCase for noun"] := by
  decide +kernel

end Rules

end MoquiLint
