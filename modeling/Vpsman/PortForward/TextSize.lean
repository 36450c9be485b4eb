import Vpsman.Lib.Size
import Vpsman.PortForward.Lookup
import Vpsman.PortForward.Script

/-! # The size of the text of a table

Bounds for the parts of the text, in bytes, as long as rule indices have three digits.
-/

namespace Vpsman.PortForward

open Vpsman.Lib Vpsman.Lib.Nft

variable (transport : Transport)

theorem Transport.size_text : transport.text.utf8ByteSize = 3 := by
  cases transport <;> rfl

theorem size_familyKeyword_le (family : Family) : (familyKeyword family).utf8ByteSize ≤ 3 := by
  cases family <;> decide

theorem size_index_le (small : ruleIndex < 1000) : (toString ruleIndex).utf8ByteSize ≤ 3 :=
  size_toString_le (by decide) small

/-- The index of the rule that the map belongs to has three digits. -/
def MapName.Short (name : MapName) : Prop := ∀ ruleIndex, name.ruleIndex? = some ruleIndex → ruleIndex < 1000

variable {name : MapName}

theorem MapName.size_text_le (short : name.Short) : name.text.utf8ByteSize ≤ 20 := by
  cases name with
  | dispatch family transport => cases family <;> cases transport <;> decide
  | fixed ruleIndex =>
    have digits := size_index_le (short ruleIndex rfl)
    have fixed : "pf_".utf8ByteSize = 3 ∧ "_".utf8ByteSize = 1 ∧
        "_fixed".utf8ByteSize = 6 := by decide
    unfold text
    simp only [String.utf8ByteSize_append, Transport.size_text]
    omega
  | shifted ruleIndex =>
    have digits := size_index_le (short ruleIndex rfl)
    have fixed : "pf_".utf8ByteSize = 3 ∧ "_".utf8ByteSize = 1 ∧
        "_shift".utf8ByteSize = 6 := by decide
    unfold text
    simp only [String.utf8ByteSize_append, Transport.size_text]
    omega
  | pool ruleIndex =>
    have digits := size_index_le (short ruleIndex rfl)
    have fixed : "pf_".utf8ByteSize = 3 ∧ "_pool".utf8ByteSize = 5 := by decide
    unfold text
    simp only [String.utf8ByteSize_append]
    omega

theorem ChainName.size_rule_le (small : ruleIndex < 1000) (transport : Transport) :
    (ChainName.rule ruleIndex transport).text.utf8ByteSize ≤ 15 := by
  have digits := size_index_le small
  have fixed : "pf_rule_".utf8ByteSize = 8 ∧ "_".utf8ByteSize = 1 := by decide
  unfold text
  simp only [String.utf8ByteSize_append, Transport.size_text]
  omega

/-! ## Maps -/

theorem size_renderRange_le (positive : 0 < width)
    (start : range.start < 10 ^ width) (end_ : range.end_ < 10 ^ width) :
    (renderRange range).utf8ByteSize ≤ 2 * width + 1 := by
  have first := size_toString_le positive start
  have last := size_toString_le positive end_
  unfold renderRange
  split
  · omega
  · have fixed : "-".utf8ByteSize = 1 := by decide
    simp only [String.utf8ByteSize_append]
    omega

theorem PortRange.size_le (range : PortRange) : (renderRange range.toRange).utf8ByteSize ≤ 11 := by
  have start := range.start.toNat_lt
  have end_ := range.end_.toNat_lt
  have digits : (2 : Nat) ^ 16 < 10 ^ 5 := by decide
  exact size_renderRange_le (by decide) (Nat.lt_trans start digits) (Nat.lt_trans end_ digits)

theorem size_renderElements_le {value : α → String} {elements : List (Range × α)}
    (each : ∀ element ∈ elements,
      (renderRange element.1).utf8ByteSize + (value element.2).utf8ByteSize + 5 ≤ bound) :
    (renderElements value elements).utf8ByteSize ≤ elements.length * bound := by
  refine (size_intercalate_le _).trans ?_
  rw [List.map_map]
  refine sum_map_le_mul fun element member => ?_
  have size := each element member
  have fixed : " : ".utf8ByteSize = 3 ∧ ", ".utf8ByteSize = 2 := by decide
  simp only [Function.comp_apply, String.utf8ByteSize_append]
  omega

theorem size_elementsText : (elementsText elements).utf8ByteSize = elements.utf8ByteSize + 24 := by
  have fixed : "    elements = \x7b ".utf8ByteSize = 17 ∧
      " \x7d\n  \x7d\n".utf8ByteSize = 7 := by decide
  unfold elementsText
  simp only [String.utf8ByteSize_append]
  omega

theorem size_verdicts_le (short : name.Short) (each : ∀ element ∈ elements,
      (renderRange element.1).utf8ByteSize ≤ 11 ∧ element.2.text.utf8ByteSize ≤ 15) :
    (mapText (name, .verdicts elements)).utf8ByteSize ≤ 104 + elements.length * 36 := by
  have named := MapName.size_text_le short
  have listed : (renderElements (fun chain => "jump " ++ chain.text) elements).utf8ByteSize ≤
      elements.length * 36 := by
    refine size_renderElements_le fun element member => ?_
    obtain ⟨range, chain⟩ := each element member
    have fixed : "jump ".utf8ByteSize = 5 := by decide
    rw [String.utf8ByteSize_append]
    omega
  have fixed : "  map ".utf8ByteSize = 6 ∧ " \x7b\n".utf8ByteSize = 3 ∧
      "    type inet_service : verdict\n    flags interval\n".utf8ByteSize = 51 := by decide
  unfold mapText
  simp only [String.utf8ByteSize_append, size_elementsText]
  omega

theorem size_services_le (short : name.Short) (each : ∀ element ∈ elements,
      (renderRange element.1).utf8ByteSize + (toString element.2).utf8ByteSize + 5 ≤ bound) :
    (mapText (name, .services interval elements)).utf8ByteSize ≤ 109 + elements.length * bound := by
  have named := MapName.size_text_le short
  have listed := size_renderElements_le each
  have flags : (if interval then "    flags interval\n" else "").utf8ByteSize ≤ 19 := by
    cases interval <;> decide
  have fixed : "  map ".utf8ByteSize = 6 ∧ " \x7b\n".utf8ByteSize = 3 ∧
      "    type inet_service : inet_service\n".utf8ByteSize = 37 := by decide
  unfold mapText
  simp only [String.utf8ByteSize_append, size_elementsText]
  omega

theorem size_endpoints_le (short : name.Short) (each : ∀ element ∈ elements,
      element.1.start < 10 ^ 10 ∧ element.1.end_ < 10 ^ 10 ∧ element.2.2 < 10 ^ 5) :
    (mapText (name, .endpoints family elements)).utf8ByteSize ≤ 124 + elements.length * 76 := by
  have named := MapName.size_text_le short
  have keyword := size_familyKeyword_le family
  have listed : (renderElements (fun endpoint => IpAddr.text endpoint.1 ++ " . " ++ toString endpoint.2)
      elements).utf8ByteSize ≤ elements.length * 76 := by
    refine size_renderElements_le fun element member => ?_
    obtain ⟨start, end_, port⟩ := each element member
    have range := size_renderRange_le (by decide) start end_
    have address := element.2.1.size_text_le
    have digits := size_toString_le (by decide) port
    have fixed : " . ".utf8ByteSize = 3 := by decide
    simp only [String.utf8ByteSize_append]
    omega
  have fixed : "  map ".utf8ByteSize = 6 ∧ " \x7b\n".utf8ByteSize = 3 ∧
      "    typeof numgen inc mod 1 : ".utf8ByteSize = 30 ∧
      " daddr . tcp dport\n    flags interval\n".utf8ByteSize = 38 := by decide
  unfold mapText
  simp only [String.utf8ByteSize_append, size_elementsText]
  omega

/-! ## Statements -/

theorem size_translationText_le (target : NatTarget) :
    (translationText target).1.utf8ByteSize ≤ 56 ∧ (translationText target).2.utf8ByteSize ≤ 5 := by
  cases target with
  | here => decide
  | address targetIp =>
    have address := targetIp.size_text_le
    cases targetIp with
    | v4 =>
      have fixed : "dnat ".utf8ByteSize = 5 ∧ "ip".utf8ByteSize = 2 ∧
          " to ".utf8ByteSize = 4 := by decide
      unfold translationText renderTargetIp
      simp only [String.utf8ByteSize_append]
      refine ⟨?_, by decide⟩
      omega
    | v6 =>
      have fixed : "dnat ".utf8ByteSize = 5 ∧ "ip6".utf8ByteSize = 3 ∧
          " to ".utf8ByteSize = 4 ∧ "[".utf8ByteSize = 1 ∧
          "]".utf8ByteSize = 1 := by decide
      unfold translationText renderTargetIp
      simp only [String.utf8ByteSize_append]
      refine ⟨?_, by decide⟩
      omega

theorem size_selectorText_le (fits : total < 10 ^ 10)
    (seeded : ∀ family seed, selector = .jhash family seed → seed < 10 ^ 10) :
    (selectorText total selector).utf8ByteSize ≤ 46 := by
  have modulus := size_toString_le (by decide) fits
  cases selector with
  | numgenInc =>
    have fixed : "numgen inc mod ".utf8ByteSize = 15 := by decide
    unfold selectorText
    simp only [String.utf8ByteSize_append]
    omega
  | numgenRandom =>
    have fixed : "numgen random mod ".utf8ByteSize = 18 := by decide
    unfold selectorText
    simp only [String.utf8ByteSize_append]
    omega
  | jhash family seed =>
    have keyword := size_familyKeyword_le family
    have digits := size_toString_le (by decide) (seeded family seed rfl)
    have fixed : "jhash ".utf8ByteSize = 6 ∧ " saddr mod ".utf8ByteSize = 11 ∧
        " seed ".utf8ByteSize = 6 := by decide
    unfold selectorText
    simp only [String.utf8ByteSize_append]
    omega

theorem size_ruleComment_le (rule : PortForwardRule) : (ruleComment rule).utf8ByteSize ≤ 69 := by
  have revision := size_int64_le rule.revision
  have fixed : "vpsman-rule:".utf8ByteSize = 12 ∧ ":".utf8ByteSize = 1 := by decide
  unfold ruleComment
  simp only [String.utf8ByteSize_append, Uuid.size_hyphenated]
  omega

theorem size_counter_le (track : Bool) (short : comment.utf8ByteSize ≤ 69) :
    (statementText (.counter track comment)).utf8ByteSize ≤ 130 := by
  have tracking : (if track then " add @owned_flows \x7b ct id timeout 2m \x7d" else "").utf8ByteSize ≤ 38 := by
    cases track <;> decide
  have fixed : "    counter".utf8ByteSize = 11 ∧ " comment \"".utf8ByteSize = 10 ∧
      "\"\n".utf8ByteSize = 2 := by decide
  unfold statementText
  simp only [String.utf8ByteSize_append]
  omega

theorem size_nat_le (target : NatTarget)
    (each : ∀ range ∈ ranges, (renderRange range).utf8ByteSize ≤ 11) :
    (statementText (.nat transport ranges target)).utf8ByteSize ≤ 76 + ranges.length * 13 := by
  obtain ⟨translation, -⟩ := size_translationText_le target
  have listed : (", ".intercalate (ranges.map renderRange)).utf8ByteSize ≤ ranges.length * 13 := by
    refine (size_intercalate_le _).trans ?_
    rw [List.map_map]
    have comma : ", ".utf8ByteSize = 2 := by decide
    refine sum_map_le_mul fun range member => ?_
    have size := each range member
    rw [Function.comp_apply, comma]
    omega
  have fixed : "    ".utf8ByteSize = 4 ∧ " dport \x7b ".utf8ByteSize = 9 ∧
      " \x7d ".utf8ByteSize = 3 ∧ "\n".utf8ByteSize = 1 := by decide
  unfold statementText
  simp only [String.utf8ByteSize_append, Transport.size_text]
  omega

theorem size_natMapped_le (target : NatTarget) (short : map.Short) :
    (statementText (.natMapped transport target map)).utf8ByteSize ≤ 119 := by
  obtain ⟨translation, destination⟩ := size_translationText_le target
  have named := MapName.size_text_le short
  have fixed : "    meta l4proto ".utf8ByteSize = 17 ∧ " ".utf8ByteSize = 1 ∧
      " dport map @".utf8ByteSize = 12 ∧ "\n".utf8ByteSize = 1 := by decide
  unfold statementText
  simp only [String.utf8ByteSize_append, Transport.size_text]
  omega

theorem size_natPool_le
    (short : map.Short) (selected : (selectorText total selector).utf8ByteSize ≤ 46) :
    (statementText (.natPool transport family selector total map)).utf8ByteSize ≤ 118 := by
  have keyword := size_familyKeyword_le family
  have named := MapName.size_text_le short
  have fixed : "    meta l4proto ".utf8ByteSize = 17 ∧ " dnat ".utf8ByteSize = 6 ∧
      " addr . port to ".utf8ByteSize = 16 ∧ " map @".utf8ByteSize = 6 ∧
      "\n".utf8ByteSize = 1 := by decide
  unfold statementText
  simp only [String.utf8ByteSize_append, Transport.size_text]
  omega

/-! ## Chains -/

theorem size_chainText :
    (chainText chain).utf8ByteSize = 15 + chain.name.text.utf8ByteSize +
      ((chain.hook.map hookText).getD "").utf8ByteSize +
      (chain.statements.map fun statement => (statementText statement).utf8ByteSize).sum := by
  have fixed : "  chain ".utf8ByteSize = 8 ∧ " \x7b\n".utf8ByteSize = 3 ∧
      "  \x7d\n".utf8ByteSize = 4 := by decide
  unfold chainText
  simp only [String.utf8ByteSize_append, size_join, List.map_map, Function.comp_def]
  omega

end Vpsman.PortForward
