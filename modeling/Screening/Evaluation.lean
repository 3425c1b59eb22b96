import Screening.Audit
import Screening.Data.Short
import Screening.Expr.Failure
import Screening.Result
import Screening.Settings

/-!
# Evaluating rules

`Rule.result` checks one rule against the values of a company, and `CriteriaSet.evaluate` all rules
of a criteria set. A company passes unless a rule of severity `exclude` fails; an undecided rule fails
or passes as the policy for missing data says.

The texts of a result show integers of any length here. Which results have none that is too long to
be written is told by `isWritable`, and a screening breaks off at the first that has.
-/

namespace Screening

/-- The undesired condition being true, false or undecided. -/
def Verdict.ofAnswer : Option Bool → Verdict
  | some true => violated
  | some false => satisfied
  | none => indeterminate

def Verdict.passes (policy : MissingDataPolicy) : Verdict → Bool
  | satisfied => true
  | violated => false
  | indeterminate => policy == .failOpen

namespace Rule

def verdict (r : Rule) (values : Values) : Verdict :=
  .ofAnswer (r.expression.assess values)

def result (r : Rule) (settings : EvaluationSettings) (values : Values) : RuleResult :=
  let verdict := r.verdict values
  let passed := verdict.passes settings.policy
  { ruleId := r.id
    ruleName := r.name
    passed
    severity := r.severity
    verdict
    failureReason := if passed then none
      else some (r.expression.failure values r.failureMessage settings.defaultFailure)
    actual := r.expression.actual? values
    threshold := r.expression.threshold? }

/-- Whether the integers in the texts of the result are short enough: those of the operand, which are
shown in any case, and a value that violates the rule, unless a message is written for it. -/
def isWritable (r : Rule) (values : Values) : Bool :=
  match r.expression with
  | .comparison c => c.operand.toData.isShort &&
      (r.failureMessage.any (!·.isEmpty) || r.verdict values != .violated ||
        (lookup values c.parameter).all Data.isShort)
  | _ => true

end Rule

/-- Whether a rule result makes its company fail. -/
def RuleResult.excludes (r : RuleResult) : Bool :=
  r.severity == .exclude && !r.passed

namespace CriteriaSet

/-- The result of a company with these values. -/
def evaluate (set : CriteriaSet) (settings : EvaluationSettings) (companyId companyName : Text)
    (values : Values) : CompanyResult :=
  let rules := set.rules.map fun r => r.result settings values
  ⟨companyId, companyName, !rules.any RuleResult.excludes, rules⟩

def isWritable (set : CriteriaSet) (values : Values) : Bool :=
  set.rules.all fun r => r.isWritable values

end CriteriaSet

/-- The events about the rules that a company failed. -/
def CompanyResult.failures (r : CompanyResult) : List AuditEvent :=
  r.failedRules.map fun f =>
    .ruleFailed r.companyId f.ruleName f.severity.name (f.failureReason.getD "")

end Screening
