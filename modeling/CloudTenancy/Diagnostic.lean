/-!
CloudTenancy.Diagnostic — what is reported to the user.

* `Diagnostic` — one report: a summary, details, and the attribute it is about.
* `Diagnostics` — the errors and warnings of a call.
* `Diagnostics.error` — one more error.
-/

namespace CloudTenancy

structure Diagnostic where
  summary : String
  detail : String := ""
  /-- The name of the attribute concerned, empty for the whole block. -/
  place : String := ""
  deriving DecidableEq, Repr

structure Diagnostics where
  errors : List Diagnostic := []
  warnings : List Diagnostic := []
  deriving DecidableEq, Repr

namespace Diagnostics

def error (diagnostics : Diagnostics) (d : Diagnostic) : Diagnostics :=
  { diagnostics with errors := diagnostics.errors ++ [d] }

@[simp] theorem errors_error (diagnostics : Diagnostics) (d : Diagnostic) :
    (diagnostics.error d).errors = diagnostics.errors ++ [d] := rfl

@[simp] theorem warnings_error (diagnostics : Diagnostics) (d : Diagnostic) :
    (diagnostics.error d).warnings = diagnostics.warnings := rfl

end Diagnostics

end CloudTenancy
