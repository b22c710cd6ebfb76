/-!
What is left of a text while it is read: its characters together with their number, which is known without counting.
-/
namespace Distill.Text

structure Remainder where
  chars : List Char
  length : Nat
  length_eq : length = chars.length
deriving DecidableEq

namespace Remainder

/-- A whole text. -/
def ofList (cs : List Char) : Remainder := ⟨cs, cs.length, rfl⟩

/-- What is left after some characters. -/
def drop (r : Remainder) (n : Nat) : Remainder := ⟨r.chars.drop n, r.length - n, by simp [r.length_eq]⟩

@[simp] theorem chars_ofList (cs : List Char) : (ofList cs).chars = cs := rfl

@[simp] theorem chars_drop (r : Remainder) (n : Nat) : (r.drop n).chars = r.chars.drop n := rfl

end Remainder

end Distill.Text
