import Ism.CnameChain
import Ism.CoreAnswer
import Ism.Wildcard

namespace Ism

open Lib

section Lookup

end Lookup

section Length

end Length

end Ism
