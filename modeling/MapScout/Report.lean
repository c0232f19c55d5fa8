/-!
# Reports

A failure is reported by the name of its kind and by a message.
-/

namespace MapScout

/-- A type of failures that can be reported. -/
class Reported (ε : Type) where
  name : ε → String
  message : ε → String

end MapScout
