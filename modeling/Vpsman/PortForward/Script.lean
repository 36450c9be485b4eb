import Vpsman.Lib.Decimal
import Vpsman.PortForward.Render

/-! # The text of the NAT table

Names are different in the text whenever they are different in the table, so the text refers
to maps and chains as the table does.
-/

namespace Vpsman.PortForward

open Vpsman.Lib Vpsman.Lib.Nft

def MapName.text : MapName → String
  | .dispatch family transport => "pf_dispatch_" ++ family.text ++ "_" ++ transport.text
  | .fixed ruleIndex transport =>
    "pf_" ++ toString ruleIndex ++ "_" ++ transport.text ++ "_fixed"
  | .shifted ruleIndex transport =>
    "pf_" ++ toString ruleIndex ++ "_" ++ transport.text ++ "_shift"
  | .pool ruleIndex => "pf_" ++ toString ruleIndex ++ "_pool"

def ChainName.text : ChainName → String
  | .prerouting => "prerouting"
  | .output => "output"
  | .dispatch => "pf_dispatch"
  | .rule ruleIndex transport => "pf_rule_" ++ toString ruleIndex ++ "_" ++ transport.text
  | .postrouting => "postrouting"

/-! ## Names -/

theorem toList_toString (n : Nat) : (toString n).toList = Nat.toDigits 10 n :=
  String.toList_ofList

/-- A word ends at the underscore. -/
theorem word_inj {first second left right : String} (plain : '_' ∉ first.toList ∧ '_' ∉ second.toList) :
    first ++ "_" ++ left = second ++ "_" ++ right ↔ first = second ∧ left = right := by
  refine ⟨fun same => ?_, fun ⟨same, rest⟩ => by rw [same, rest]⟩
  have lists := congrArg String.toList same
  simp only [String.toList_append, List.append_assoc, show "_".toList = ['_'] from rfl,
    List.singleton_append] at lists
  have words : first.toList = second.toList := by
    have cut := congrArg (List.takeWhile (· ≠ '_')) lists
    have word : ∀ {text rest : Text}, '_' ∉ text → (text ++ '_' :: rest).takeWhile (· ≠ '_') = text := by
      intro text rest plain
      rw [List.takeWhile_append_of_pos, List.takeWhile_cons_of_neg (by simp), List.append_nil]
      exact fun c member => decide_eq_true fun same => plain (same ▸ member)
    rwa [word plain.1, word plain.2] at cut
  rw [words, List.append_cancel_left_eq, List.cons_inj_right] at lists
  exact ⟨String.toList_injective words, String.toList_injective lists⟩

/-- The word of a name that says which rule it belongs to. -/
def indexWord : Option Nat → String
  | none => "dispatch"
  | some ruleIndex => toString ruleIndex

theorem underscore_notMem_indexWord (index : Option Nat) : '_' ∉ (indexWord index).toList := by
  cases index with
  | none => decide
  | some =>
    rw [indexWord, toList_toString]
    exact fun member => absurd (isDigit_of_mem_digits member) (by decide)

theorem indexWord_injective : Function.Injective indexWord := by
  intro left right same
  have foreign : ∀ ruleIndex, indexWord (some ruleIndex) ≠ indexWord none := by
    intro ruleIndex same
    have member : 'd' ∈ (indexWord (some ruleIndex)).toList := by
      rw [same]
      decide
    rw [indexWord, toList_toString] at member
    exact absurd (isDigit_of_mem_digits member) (by decide)
  cases left with
  | none =>
    cases right with
    | none => rfl
    | some ruleIndex => exact absurd same.symm (foreign ruleIndex)
  | some first =>
    cases right with
    | none => exact absurd same (foreign first)
    | some second =>
      have digits := congrArg (fun word => Nat.ofDigitChars 10 word.toList 0) same
      simpa [indexWord, toList_toString, Nat.ofDigitChars_toDigits] using digits

/-- The rule index in a name, and what else is in it. -/
def MapName.parts : MapName → Option Nat × String
  | .dispatch family transport => (none, family.text ++ "_" ++ transport.text)
  | .fixed ruleIndex transport => (some ruleIndex, transport.text ++ "_fixed")
  | .shifted ruleIndex transport => (some ruleIndex, transport.text ++ "_shift")
  | .pool ruleIndex => (some ruleIndex, "pool")

theorem MapName.text_eq (name : MapName) :
    name.text = "pf_" ++ (indexWord name.parts.1 ++ "_" ++ name.parts.2) := by
  have dispatch : "pf_" ++ ("dispatch" ++ "_") = "pf_dispatch_" := rfl
  have pool : "_" ++ "pool" = "_pool" := rfl
  cases name <;> simp only [text, parts, indexWord, String.append_assoc, ← dispatch, ← pool]

theorem MapName.parts_injective : Function.Injective parts := by
  intro left right same
  rcases left with ⟨⟨⟩, ⟨⟩⟩ | ⟨i, ⟨⟩⟩ | ⟨i, ⟨⟩⟩ | i <;>
    rcases right with ⟨⟨⟩, ⟨⟩⟩ | ⟨j, ⟨⟩⟩ | ⟨j, ⟨⟩⟩ | j <;>
      simp_all [parts, Family.text, Transport.text]

theorem MapName.text_injective : Function.Injective text := by
  intro left right same
  have plain := underscore_notMem_indexWord
  rw [text_eq, text_eq, String.append_right_inj, word_inj ⟨plain _, plain _⟩] at same
  exact parts_injective (Prod.ext (indexWord_injective same.1) same.2)

theorem ChainName.text_injective : Function.Injective text := by
  intro left right same
  have rule : ∀ ruleIndex transport, (ChainName.rule ruleIndex transport).text =
      "pf_rule_" ++ (indexWord (some ruleIndex) ++ "_" ++ transport.text) := by
    simp [text, indexWord, String.append_assoc]
  have foreign : ∀ {ruleIndex transport} {other : String}, other.toList.take 4 ≠ "pf_r".toList →
      (ChainName.rule ruleIndex transport).text ≠ other := by
    rintro ruleIndex transport _ start rfl
    exact start (by simp [rule, String.toList_append])
  cases left with
  | rule _ first =>
    cases right with
    | rule _ second =>
      have plain := underscore_notMem_indexWord
      rw [rule, rule, String.append_right_inj, word_inj ⟨plain _, plain _⟩] at same
      obtain ⟨index, transport⟩ := same
      cases Option.some.inj (indexWord_injective index)
      cases first <;> cases second <;> first | rfl | exact absurd transport (by decide)
    | prerouting | output | dispatch | postrouting => exact absurd same (foreign (by decide))
  | prerouting | output | dispatch | postrouting =>
    cases right with
    | rule => exact absurd same.symm (foreign (by decide))
    | prerouting | output | dispatch | postrouting => first | rfl | exact absurd same (by decide)

/-! ## Maps, statements and chains -/

/-- The keyword of the family in address expressions. -/
def familyKeyword : Family → String
  | .ipv4 => "ip"
  | .ipv6 => "ip6"

def renderRange (range : Range) : String :=
  if range.start = range.end_ then toString range.start
  else toString range.start ++ "-" ++ toString range.end_

def renderElements {α : Type} (value : α → String) (elements : List (Range × α)) : String :=
  ", ".intercalate (elements.map fun element => renderRange element.1 ++ " : " ++ value element.2)

/-- `{ body }` around the elements of a map, with the lines that end it. -/
def elementsText (elements : String) : String :=
  "    elements = \x7b " ++ elements ++ " \x7d\n  \x7d\n"

def mapText (map : MapName × MapBody ChainName) : String :=
  "  map " ++ map.1.text ++ " \x7b\n" ++
  match map.2 with
  | .verdicts elements =>
    "    type inet_service : verdict\n    flags interval\n" ++
      elementsText (renderElements (fun chain => "jump " ++ chain.text) elements)
  | .services interval elements =>
    "    type inet_service : inet_service\n" ++ (if interval then "    flags interval\n" else "") ++
      elementsText (renderElements toString elements)
  | .endpoints family elements =>
    "    typeof numgen inc mod 1 : " ++ familyKeyword family ++
      " daddr . tcp dport\n    flags interval\n" ++
      elementsText (renderElements
        (fun endpoint => endpoint.1.text ++ " . " ++ toString endpoint.2) elements)

def renderTargetIp : IpAddr → String × String
  | .v4 address => ("ip", IpAddr.text (.v4 address))
  | .v6 address => ("ip6", "[" ++ IpAddr.text (.v6 address) ++ "]")

/-- The translation, and what joins it to a port expression. -/
def translationText : NatTarget → String × String
  | .address targetIp =>
    let (family, ip) := renderTargetIp targetIp
    ("dnat " ++ family ++ " to " ++ ip, " :")
  | .here => ("redirect", " to :")

def selectorText (total : Nat) : Selector → String
  | .numgenInc => "numgen inc mod " ++ toString total
  | .numgenRandom => "numgen random mod " ++ toString total
  | .jhash family seed =>
    "jhash " ++ familyKeyword family ++ " saddr mod " ++ toString total ++
      " seed " ++ toString seed

def statementText : NatStatement → String
  | .jumpIfLocal chain => "    fib daddr type local jump " ++ chain.text ++ "\n"
  | .dispatch family transport map =>
    "    meta nfproto " ++ family.text ++ " " ++ transport.text ++ " dport vmap @" ++ map.text ++ "\n"
  | .counter track comment =>
    "    counter" ++ (if track then " add @owned_flows \x7b ct id timeout 2m \x7d" else "") ++
      " comment \"" ++ comment ++ "\"\n"
  | .nat transport ranges target =>
    "    " ++ transport.text ++ " dport \x7b " ++ ", ".intercalate (ranges.map renderRange) ++
      " \x7d " ++ (translationText target).1 ++ "\n"
  | .natMapped transport target map =>
    let (translation, destination) := translationText target
    "    meta l4proto " ++ transport.text ++ " " ++ translation ++ destination ++ " " ++
      transport.text ++ " dport map @" ++ map.text ++ "\n"
  | .natPool transport family selector total map =>
    "    meta l4proto " ++ transport.text ++ " dnat " ++ familyKeyword family ++
      " addr . port to " ++ selectorText total selector ++ " map @" ++ map.text ++ "\n"
  | .masqueradeOwned =>
    "    ct id @owned_flows counter masquerade comment \"vpsman-owned-return\"\n"

def hookText : Hook → String
  | .prerouting => "    type nat hook prerouting priority -110; policy accept;\n"
  | .output => "    type nat hook output priority -110; policy accept;\n"
  | .postrouting => "    type nat hook postrouting priority 90; policy accept;\n"

def chainText (chain : NatChain) : String :=
  "  chain " ++ chain.name.text ++ " \x7b\n" ++ (chain.hook.map hookText).getD "" ++
    String.join (chain.statements.map statementText) ++ "  \x7d\n"

def ownershipSetText : String :=
  "  set vpsman_ownership_v1 \x7b\n    type mark\n    elements = \x7b 0x5650534d \x7d\n  \x7d\n"

def ownedFlowsSetText : String :=
  "  set owned_flows \x7b\n    typeof ct id\n    flags dynamic,timeout\n    timeout 2m\n" ++
    "    size 262144\n  \x7d\n"

def tableText (table : NatTable) : String :=
  "table inet vpsman_port_forward \x7b\n  comment \"" ++ table.comment ++ "\"\n" ++
    ownershipSetText ++ (if table.tracksFlows then ownedFlowsSetText else "") ++
    String.join (table.maps.map mapText) ++ String.join (table.chains.map chainText) ++ "\x7d\n"

inductive RenderError where
  | invalid (error : PortForwardValidationError)
  | tooLarge
  | panicked
  deriving Repr, DecidableEq

def renderApplyScript (codec : Codec) (config : AgentPortForwardingConfig) (tableExists : Bool) :
    Except RenderError String := do
  (validatePortForwardingConfig codec config).mapError .invalid
  let delete := if tableExists then "delete table inet vpsman_port_forward\n" else ""
  match renderProgram codec config with
  | none => throw .panicked
  | some none => pure delete
  | some (some table) =>
    let script := delete ++ tableText table
    if script.utf8ByteSize ≤ maxNftScriptBytes then pure script else throw .tooLarge

end Vpsman.PortForward
