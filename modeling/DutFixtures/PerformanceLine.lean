import DutFixtures.Event

namespace DutFixtures

/-- The line that a measured value is reported on. -/
def performanceLine (item value : String) : String :=
  "[Performance][" ++ item ++ "]: " ++ value

def performanceEvent (item value : String) : Event :=
  ⟨.info, .performance, performanceLine item value⟩

end DutFixtures
