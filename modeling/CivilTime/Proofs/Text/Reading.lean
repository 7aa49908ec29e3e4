import CivilTime.Error
import CivilTime.Width

/-!
# Reading with steps that may be impossible

Some steps of a reader must never be impossible, whatever the text: a slice has to exist, and a number
has to fit where it is stored. The readers of this library have no such steps. To say that none of them
goes wrong, the same readers are written with these steps, and are left without any answer where one
is impossible.
-/

set_option autoImplicit false

namespace CivilTime

/-- What comes of a text: a value or an error, or nothing at all if a step was taken that cannot be
taken. -/
abbrev Reading (α : Type) := ExceptT Error Option α

namespace Reading

variable {α β : Type}

/-- An answer, whatever it is. -/
def answer (result : Except Error α) : Reading α := ExceptT.mk (some result)

/-- A slice, which has to exist. -/
def slice (piece : Option (List Char)) : Reading (List Char) := ExceptT.mk (piece.map .ok)

/-- What has to be found in a text; it is malformed otherwise. -/
def found (text : List Char) : Option α → Reading α
  | some a => answer (.ok a)
  | none => answer (.error (.malformed text))

/-- An answer is handed on to the next step. -/
@[simp] theorem bind_answer_ok (a : α) (f : α → Reading β) : (answer (.ok a) >>= f) = f a := rfl

/-- After an error nothing more is read. -/
@[simp] theorem bind_answer_error (e : Error) (f : α → Reading β) :
    (answer (.error e) >>= f) = answer (.error e) := rfl

/-- A slice that exists is handed on to the next step. -/
@[simp] theorem bind_slice_some (piece : List Char) (f : List Char → Reading β) :
    (slice (some piece) >>= f) = f piece := rfl

/-- What is found is answered. -/
@[simp] theorem found_some (text : List Char) (a : α) : found text (some a) = answer (.ok a) := rfl

/-- A text in which nothing is found is malformed. -/
@[simp] theorem found_none (text : List Char) :
    found text (none : Option α) = answer (.error (.malformed text)) := rfl

/-- A number of 64 bits, which has to fit. -/
def stored (x : Int) : Reading Int := ExceptT.mk (if FitsInt64 x then some (.ok x) else none)

/-- A number that fits in 64 bits is stored as it is. -/
theorem stored_of_fits {x : Int} (h : FitsInt64 x) : stored x = answer (.ok x) := by
  rw [stored, if_pos h]
  rfl

end Reading

end CivilTime
