/-!
# Limits of whole numbers

Counters, words and whole numbers with a sign have a fixed width. The limits are written out, so
that they are plain numbers wherever they are compared.
-/

namespace MotionTutor

/-- The numbers of a byte lie below this, `2 ^ 8`. -/
def byteLimit : Nat := 256

/-- Counters lie below this, `2 ^ 32`. -/
def counterLimit : Nat := 4294967296

/-- Whole numbers of 64 bits with a sign lie below this and not below its negative, `2 ^ 63`. -/
def integerLimit : Nat := 9223372036854775808

/-- Words lie below this, `2 ^ 64`. -/
def wordLimit : Nat := 18446744073709551616

end MotionTutor
