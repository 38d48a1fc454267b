/-!
# JSON values

The documents that records, settings and corpora are kept in. A number is whole or a binary
fraction, and keeps which of the two it was written as. An object keeps its members in the order
written, repeated names included, because a record refuses a name given twice.

A literal may be well formed and still have no value here: a number out of range, or a text with
half a surrogate pair. Such a literal is harmless where nobody looks at it, so it reads as
`unreadable` rather than spoiling the document. An object with an unreadable name is unreadable as a
whole.
-/

namespace MotionTutor.Json

inductive Number
  | whole (n : Int)
  | fraction (x : Float)
deriving Repr

inductive Value
  | null
  | bool (b : Bool)
  | number (n : Number)
  | text (s : String)
  | array (items : List Value)
  | object (members : List (String × Value))
  | unreadable
deriving Repr, Inhabited

end MotionTutor.Json
