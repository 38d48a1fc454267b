/-!
# Spans of time

A span is kept to the nanosecond; what is written down are its whole seconds.
-/

namespace MotionTutor

/-- A span of time. -/
structure Duration where
  nanos : Nat
deriving DecidableEq, Repr

def nanosPerSecond : Nat := 1000000000

namespace Duration

def zero : Duration := ⟨0⟩

def ofSeconds (seconds : Nat) : Duration := ⟨seconds * nanosPerSecond⟩

/-- The whole seconds in it. -/
def seconds (d : Duration) : Nat := d.nanos / nanosPerSecond

/-- What is left of it beyond the whole seconds. -/
def subsecondNanos (d : Duration) : Nat := d.nanos % nanosPerSecond

instance : Add Duration := ⟨fun d e => ⟨d.nanos + e.nanos⟩⟩

instance : LT Duration := ⟨fun d e => d.nanos < e.nanos⟩

theorem lt_def {d e : Duration} : d < e ↔ d.nanos < e.nanos := Iff.rfl

@[simp] theorem nanos_add (d e : Duration) : (d + e).nanos = d.nanos + e.nanos := rfl

theorem add_assoc (d e f : Duration) : d + e + f = d + (e + f) :=
  congrArg Duration.mk (Nat.add_assoc d.nanos e.nanos f.nanos)

@[simp] theorem seconds_ofSeconds (seconds : Nat) : (ofSeconds seconds).seconds = seconds :=
  Nat.mul_div_cancel _ (by decide)

instance (d e : Duration) : Decidable (d < e) := decidable_of_iff _ lt_def.symm

/-- The shorter of two spans. -/
def shorter (d e : Duration) : Duration := if d < e then d else e

end Duration

end MotionTutor
