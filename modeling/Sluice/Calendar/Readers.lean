import Sluice.Calendar.Duration
import Sluice.Calendar.Literal

/-!
# The readers in use

What programs run with, and what stands for the readers where a text is fixed. They are not
found unless they are asked for with `open scoped Readers`, so that nothing is said of them by
accident.
-/

set_option autoImplicit false

namespace Sluice.Readers

scoped instance : TimeReader Float := ⟨Literal.dateTime, Duration.inSeconds⟩

scoped instance : TimeReader Rat := ⟨Literal.dateTime, Duration.inSeconds⟩

end Sluice.Readers
