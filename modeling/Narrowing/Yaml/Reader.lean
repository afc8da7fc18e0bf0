import Narrowing.Value

/-!
# Readers of YAML

Configurations are written in YAML, which the program does not read itself: what
reads a text as a document is given to it, and fails in its own way.

## Main definitions

* `Yaml.Reader` — what reads the value of a document
* `Yaml.Fault` — why a text describes none
-/

namespace Narrowing.Yaml

/-- Why a text describes no document, as the reader puts it. -/
structure Fault where
  text : String
deriving DecidableEq, Repr, Inhabited

/-- What reads the value of a document. An empty document has no value. -/
abbrev Reader := String → Except Fault Value

end Narrowing.Yaml
