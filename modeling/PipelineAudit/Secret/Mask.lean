/-!
# Masking

A masked secret shows its first and its last four characters, and a star for each other one.  A
secret of at most eight characters shows none.
-/

namespace PipelineAudit.Secret

/-- A secret with its middle hidden. -/
def mask (secret : List Char) : List Char :=
  if secret.length ≤ 8 then List.replicate secret.length '*'
  else
    secret.take 4 ++ List.replicate (secret.length - 8) '*' ++ secret.drop (secret.length - 4)

theorem length_mask (secret : List Char) :
  (mask secret).length = secret.length
  := by
  unfold mask
  split
  · simp
  · simp
    omega

end PipelineAudit.Secret
