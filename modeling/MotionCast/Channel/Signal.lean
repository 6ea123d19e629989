/-! A signal that one side raises and the other takes. Raising it again before it is taken changes
nothing. -/

namespace MotionCast

/-- Whether a signal is raised. -/
structure Signal where
  raised : Bool := false
deriving DecidableEq, Repr

namespace Signal

/-- The signal raised. -/
def send (_ : Signal) : Signal := ⟨true⟩

/-- Whether the signal was raised, and the signal lowered. -/
def take (s : Signal) : Bool × Signal := (s.raised, ⟨false⟩)

/-- The signal lowered, once it is raised. Nothing while a wait for it would go on. -/
def wait? (s : Signal) : Option Signal := if s.raised then some ⟨false⟩ else none

/-- No raising waits to be taken. -/
def wasReceived (s : Signal) : Bool := !s.raised

end Signal

end MotionCast
