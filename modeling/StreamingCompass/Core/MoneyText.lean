import StreamingCompass.Core.Money
import StreamingCompass.Rendering.Sections

/-! # The text of a decimal

`str` writes different finite decimals differently: the digits give the coefficient, the
point and the exponent field together the exponent.
-/
namespace StreamingCompass
open Rendering

namespace Decimal

end Decimal
end StreamingCompass
