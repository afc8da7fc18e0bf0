import Narrowing.SourceError
import Narrowing.StructSource.PlainParser
import Narrowing.Yaml.Document

/-!
# What a run is given

The program does not read every language itself. A reader of YAML documents and a
parser of Rust files are given to it, and the words with which the compiler of
Python refuses a text.

## Main definitions

* `Tools` — what a run is given
* `Tools.plain` — readers of what is usually written
-/

namespace Narrowing

/-- The readers that a run is given, and what a compiler says of a Python text that it refuses. -/
structure Tools where
  yaml : Yaml.Reader
  rust : StructSource.Parser
  explain : String → Complaint

/-- Readers of plain YAML documents and plain Rust files, and a compiler that says no more than that
a text is refused. -/
def Tools.plain : Tools where
  yaml := Yaml.plainReader
  rust := StructSource.plainParser
  explain _ := .plain

end Narrowing
