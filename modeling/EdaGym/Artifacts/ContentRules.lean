import EdaGym.Lib.Lines
import EdaGym.Specs.Common

/-!
# Incremental content rules

A scanner reads chunks and remembers which rules have matched in a window that overlaps the
previous chunk. The byte patterns themselves are compiled by the regular-expression library.
-/

namespace EdaGym

/-- A bounded byte pattern. -/
structure ContentRule where
  ruleId : String
  matches' : Bytes → Bool

/-- `CONTENT_RULES` and `RESTRICTED_CONTENT_RULES`. -/
class ContentRules where
  contentRules : List ContentRule
  restrictedContentRules : List ContentRule

export ContentRules (contentRules restrictedContentRules)

def SCAN_OVERLAP : Nat := 8192

structure ContentRuleScanner where
  rules : List ContentRule
  matched : List String := []
  tail : Bytes := []

namespace ContentRuleScanner

def update (scanner : ContentRuleScanner) (chunk : Bytes) : ContentRuleScanner :=
  if chunk = [] then scanner
  else
    let window := scanner.tail ++ chunk
    { scanner with
      matched := scanner.matched ++ (scanner.rules.filter fun rule =>
        rule.ruleId ∉ scanner.matched ∧ rule.matches' window).map ContentRule.ruleId
      tail := window.drop (window.length - SCAN_OVERLAP) }

/-- `bool(scanner.matched_rule_ids)`. -/
def found (scanner : ContentRuleScanner) : Bool := scanner.matched ≠ []

end ContentRuleScanner

end EdaGym
