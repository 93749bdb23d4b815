import Testbook.Record.Markers
import Testbook.Registry.Basic

/-!
The registry that holds unless a configuration is laid over it.
-/

namespace Testbook.Registry

open Testbook.Text

/-- The fields of tests. -/
def builtinTestFields : List Text :=
  ["approvers", "assignee", "description", "duedate", "expectedresults", "id", "initialestimate",
   "parametrized", "requirement", "status", "steps", "title"]

/-- The fields of tests beyond the usual ones. -/
def builtinCustomFields : List Text :=
  ["arch", "automation_script", "caseautomation", "casecomponent", "caseimportance", "caselevel",
   "caseposneg", "setup", "subcomponent", "subtype1", "subtype2", "tags", "tcmsarguments",
   "tcmsbug", "tcmscaseid", "tcmscategory", "tcmscomponent", "tcmsnotes", "tcmsplan",
   "tcmsreference", "tcmsrequirement", "tcmsscript", "tcmstag", "teardown", "testtier", "testtype",
   "upstream", "variant"]

/-- The fields of requirements. -/
def builtinRequirementFields : List Text :=
  ["approvers", "assignee", "categories", "description", "duedate", "id", "initialestimate",
   "plannedin", "priority", "severity", "status", "title"]

/-- What is said of the fields of tests. -/
def builtinTestRules : List Declaration := [
  .default "automation_script" (.provided .automationScript),
  .default "caseautomation" (.constant "automated"),
  .default "casecomponent" (.constant "-"),
  .default "caseimportance" (.constant "medium"),
  .default "caselevel" (.constant "component"),
  .default "caseposneg" (.provided .casePosneg),
  .default "description" (.provided .description),
  .default "parametrized" (.constant "no"),
  .default "subtype1" (.constant "-"),
  .default "testtype" (.constant "functional"),
  .default "title" (.provided .name),
  .default "upstream" (.constant "no")]

/-- The fields of tests whose values are lower-case. -/
def builtinLowered : List Text :=
  ["caseautomation", "casecomponent", "caseimportance", "caselevel", "caseposneg", "parametrized",
   "subtype1", "testtype", "upstream"]

/-- What is said of the fields of requirements. -/
def builtinRequirementRules : List Declaration := [
  .requirementDefault "priority" "high",
  .requirementDefault "severity" "should_have",
  .requirementDefault "status" "approved",
  .requirementDefault "reqtype" "functional",
  .requirementTransform "priority" .lower,
  .requirementTransform "severity" .lower,
  .requirementTransform "status" .lower,
  .requirementTransform "reqtype" .lower]

/-- All that the registry says. -/
def builtinDeclarations : List Declaration := [
  .testFields builtinTestFields,
  .customFields builtinCustomFields,
  .requirementFields builtinRequirementFields,
  .requirementCustomFields ["reqtype"],
  .ignoredMarkers defaultIgnored,
  .requiredFields ["id"],
  .scriptFormat defaultScriptFormat]
  ++ builtinTestRules
  ++ builtinLowered.map (fun field => .adjustment field Transform.lower.adjustment)
  ++ builtinRequirementRules

/-- The registry that holds unless a configuration is laid over it. -/
def builtin : Registry := ofDeclarations builtinDeclarations

end Testbook.Registry
