import PipelineAudit.Finding.Basic
import PipelineAudit.Finding.Field

/-!
# Reading findings

Issues, optimizations and vulnerabilities from the fields of a JSON object.  Fields that a record
does not know are ignored.
-/

namespace PipelineAudit

/-- The fields of a record. -/
abbrev Fields : Type := List (String × Json)

/-- An issue from its fields. -/
def Issue.ofFields (fs : Fields) : Checked Issue :=
  (Field.required Field.text "title" fs).map Issue.mk
    |>.ap (Field.required Field.text "description" fs)
    |>.ap (Field.required (Field.named Severity.all Severity.name) "severity" fs)
    |>.ap (Field.required (Field.named Category.all Category.name) "category" fs)
    |>.ap (Field.nullable Field.text "rule_id" fs)
    |>.ap (Field.nullable Field.text "suggestion" fs)
    |>.ap (Field.nullable Field.text "example_code" fs)
    |>.ap (Field.nullable Field.truth "fixable" fs)
    |>.ap (Field.nullable Field.integer "line" fs)
    |>.ap (Field.nullable Field.integers "line_numbers" fs)
    |>.ap (Field.nullable Field.text "estimated_fix_time" fs)
    |>.ap (Field.nullable Field.text "impact" fs)
    |>.ap (Field.nullable Field.text "documentation_url" fs)

/-- An optimization from its fields. -/
def Optimization.ofFields (fs : Fields) : Checked Optimization :=
  (Field.required Field.text "title" fs).map Optimization.mk
    |>.ap (Field.required Field.text "description" fs)
    |>.ap (Field.required (Field.named Impact.all Impact.name) "impact" fs)
    |>.ap (Field.required (Field.named Impact.all Impact.name) "effort" fs)
    |>.ap (Field.required (Field.named Category.all Category.name) "category" fs)
    |>.ap (Field.required Field.text "suggestion" fs)
    |>.ap (Field.nullable Field.text "example_code" fs)
    |>.ap (Field.nullable Field.integers "line_numbers" fs)

/-- A vulnerability from its fields. -/
def Vulnerability.ofFields (fs : Fields) : Checked Vulnerability :=
  (Field.required Field.text "title" fs).map Vulnerability.mk
    |>.ap (Field.required Field.text "description" fs)
    |>.ap (Field.required (Field.named Threat.all Threat.name) "severity" fs)
    |>.ap (Field.required Field.text "recommendation" fs)
    |>.ap (Field.nullable Field.integer "line" fs)
    |>.ap (Field.nullable Field.text "cve" fs)
    |>.ap (Field.nullable (Field.numberWithin 0 10) "cvss_score" fs)

end PipelineAudit
