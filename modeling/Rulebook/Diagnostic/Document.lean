/-!
# Faults of YAML documents

What keeps a YAML text from being read at all.
-/

namespace Rulebook

/-- Why a YAML text is not a document. -/
inductive DocumentFault where
  /-- A character that no document may hold. -/
  | character
  /-- Text that forms no token, or a token in the wrong column. -/
  | token
  /-- Tokens that form no node. -/
  | shape
  /-- More than one document. -/
  | documents
  /-- A node that stands for no value. -/
  | content
  deriving DecidableEq

end Rulebook
