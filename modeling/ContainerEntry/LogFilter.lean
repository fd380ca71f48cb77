import ContainerEntry.Bytes

/-!
# What is logged

A filter names the least severe events that are written.  Warnings are always written, and a user
who asks for more sees every step.
-/

namespace ContainerEntry.LogFilter

/-- The filter of a program whose environment names none. -/
def standard (verbose : Bool) : Bytes := if verbose then "porthole=debug" else "porthole=warn"

end ContainerEntry.LogFilter
