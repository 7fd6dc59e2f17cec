import PolicyStore.Duration
import PolicyStore.Json.Choice
import PolicyStore.Json.RecordReader
import PolicyStore.Json.Tree
import PolicyStore.PolicyError
import PolicyStore.Text.Blank
import Std.Data.ExtTreeMap

/-!
# Rate-limit strategies

A strategy names an algorithm and gives, for methods by name, how many requests an interval allows.
A method without a rule of its own falls under the rule `default`.
-/

namespace PolicyStore

/-- How requests are counted. -/
inductive Algorithm
  | fixedWindow
  | tokenBucket
  deriving DecidableEq, Repr

namespace Algorithm

/-- The name of an algorithm in payloads. -/
def name : Algorithm → String
  | .fixedWindow => "fixed_window"
  | .tokenBucket => "token_bucket"

/-- The name of an algorithm in summaries. -/
def title : Algorithm → String
  | .fixedWindow => "FixedWindow"
  | .tokenBucket => "TokenBucket"

def reader : Json.Reader Algorithm :=
  .choice [(fixedWindow.name, .fixedWindow), (tokenBucket.name, .tokenBucket)]

end Algorithm

/-- How many requests an interval allows. -/
structure Rule where
  intervalMs : UInt64
  quota : UInt32
  deriving DecidableEq, Repr

namespace Rule

def interval (rule : Rule) : Duration := .ofMillis rule.intervalMs.toNat

structure Draft where
  intervalMs : Option Nat := none
  quota : Option Nat := none

def layout : Json.Layout Draft where
  title := "struct RateLimitRule"
  fields :=
    [.of "interval_ms" true Draft.intervalMs (fun draft n => { draft with intervalMs := some n })
        (.natural (UInt64.size - 1) "u64"),
      .of "quota" true Draft.quota (fun draft n => { draft with quota := some n })
        (.natural (UInt32.size - 1) "u32")]

def reader : Json.Reader Rule :=
  (Json.Reader.record layout {}).map fun draft =>
    ⟨UInt64.ofNat (draft.intervalMs.getD 0), UInt32.ofNat (draft.quota.getD 0)⟩

def tree (rule : Rule) : Json.Tree :=
  .object [("interval_ms", .ofNat rule.intervalMs.toNat), ("quota", .ofNat rule.quota.toNat)]

end Rule

/-- Rules by method. -/
abbrev Rules := Std.ExtTreeMap String Rule

structure Strategy where
  algorithm : Algorithm
  rules : Rules

namespace Strategy

/-- The key of the rule for methods without one of their own. -/
def defaultKey : String := "default"

def empty (algorithm : Algorithm) : Strategy := ⟨algorithm, ∅⟩

/-- Adds a rule or replaces the one of the same key. -/
def withRule (strategy : Strategy) (key : String) (rule : Rule) : Strategy :=
  { strategy with rules := strategy.rules.insert key rule }

/-- The rule that a method falls under. -/
def ruleFor (strategy : Strategy) (method : String) : Option Rule :=
  strategy.rules[method]? <|> strategy.rules[defaultKey]?

def ruleViolation? (key : String) (rule : Rule) : Option Violation :=
  if Text.isBlankText key then some .blankRuleKey
  else if rule.intervalMs = 0 then some (.zeroInterval key)
  else if rule.quota = 0 then some (.zeroQuota key)
  else none

def violation? (strategy : Strategy) : Option Violation :=
  strategy.rules.toList.findSome? fun (key, rule) => ruleViolation? key rule

/-- Rules by method; of several with one key the last one counts. -/
def rulesOf (members : List (String × Rule)) : Rules :=
  members.foldl (fun rules (key, rule) => rules.insert key rule) ∅

structure Draft where
  algorithm : Option Algorithm := none
  rules : Option (List (String × Rule)) := none

def layout : Json.Layout Draft where
  title := "struct StrategyPayload"
  fields :=
    [.of "algo" false Draft.algorithm (fun draft a => { draft with algorithm := some a })
        Algorithm.reader,
      .of "rules" false Draft.rules (fun draft members => { draft with rules := some members })
        (.table Rule.reader)]

def reader : Json.Reader Strategy :=
  (Json.Reader.record layout {}).map fun draft =>
    ⟨draft.algorithm.getD .fixedWindow, rulesOf (draft.rules.getD [])⟩

def tree (strategy : Strategy) : Json.Tree :=
  .object
    [("algo", .text strategy.algorithm.name),
      ("rules", .object (strategy.rules.toList.map fun (key, rule) => (key, rule.tree)))]

def summary (strategy : Strategy) : String :=
  strategy.algorithm.title ++ " " ++ " ".intercalate (strategy.rules.toList.map fun (key, rule) =>
    key ++ "=" ++ toString rule.quota ++ "/" ++ toString rule.intervalMs ++ "ms")

end Strategy

end PolicyStore
