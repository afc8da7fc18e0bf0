import Narrowing.Diagnostic
import Narrowing.Reference.Basic
import Narrowing.Schema

/-!
# Free arguments against declared parameters

A source reference fits a target when its free arguments name every declared
parameter of the target exactly once, in any order.

## Main definitions

* `ParameterFault` — the first way in which they differ
* `Reference.checkParams` — compares the free arguments with the declared parameters
-/

namespace Narrowing

/-- The first way in which the free arguments of a source differ from the declared parameters
of a target. -/
inductive ParameterFault where
  | undeclared (name : String)
  | repeated (name : String)
  | missing (names : List String)
deriving DecidableEq, Repr, Inhabited

namespace ParameterFault

/-- The kind under which the difference is reported. -/
def kind : ParameterFault → Diagnostic.Kind
  | undeclared _ => .unknownGenericParameter
  | repeated _ | missing _ => .arityMismatch

/-- The wording of a difference between a source and a target. -/
def message (fault : ParameterFault) (source : Reference) (target : Schema) : String :=
  match fault with
  | undeclared name =>
    let declared := if target.params.isEmpty then "none" else ", ".intercalate target.params
    s!"free parameter '#{name}' is not declared on {target.name} (declared: {declared})"
  | repeated name => s!"free parameter '#{name}' appears more than once in '{source.text}'"
  | missing names =>
    let listed := ", ".intercalate names
    s!"declared parameter(s) {listed} missing from '{source.text}'; "
      ++ "each must appear once as a free '#' argument"

/-- The report of a difference, placed at the target. -/
def diagnose (fault : ParameterFault) (source : Reference) (target : Schema) : Diagnostic :=
  .about { schema := target.name, location := target.location } fault.kind
    (fault.message source target) (some "from_type")

end ParameterFault

namespace Reference

/-- Compares free names with the declared ones, given the free names already seen. -/
def checkNames (declared seen : List String) : List String → Except ParameterFault Unit
  | [] =>
    let missing := declared.filter fun name => name ∉ seen
    if missing.isEmpty then .ok () else .error (.missing missing)
  | name :: rest =>
    if name ∉ declared then .error (.undeclared name)
    else if name ∈ seen then .error (.repeated name)
    else checkNames declared (name :: seen) rest

/-- Compares the free arguments of a source with the declared parameters of a target. -/
def checkParams (source : Reference) (declared : List String) : Except ParameterFault Unit :=
  checkNames declared [] source.freeParams

end Reference

end Narrowing
