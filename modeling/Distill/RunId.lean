import Distill.Text.Digits

/-!
Identifiers of runs: sixteen bytes, of which the first six are the time, so that identifiers sort by their runs' times.
-/
namespace Distill.RunId

/-- The sixteen bytes of an identifier: the milliseconds since the epoch in 48 bits, then ten random bytes in which the
version (seven) and the variant have their bits set. -/
def bytes (milliseconds : Nat) (random : List Nat) : List Nat :=
  let time := [40, 32, 24, 16, 8, 0].map fun shift => milliseconds >>> shift % 256
  let byte (i : Nat) := random.getD i 0 % 256
  time ++ [0x70 + byte 0 % 16, byte 1, 0x80 + byte 2 % 64] ++ (List.range 7).map fun i => byte (3 + i)

/-- Lower-case hexadecimal digits, with dashes after four, six, eight and ten bytes. -/
def text (bs : List Nat) : String :=
  let part (skipped count : Nat) := String.join (((bs.drop skipped).take count).map (Text.hex 2))
  "-".intercalate [part 0 4, part 4 2, part 6 2, part 8 2, part 10 6]

/-- The identifier of a run that starts now. -/
def make (milliseconds : Nat) (random : List Nat) : String := text (bytes milliseconds random)

example : make 0x0123456789ab [255, 255, 255] = "01234567-89ab-7fff-bf00-000000000000" := by decide +kernel

end Distill.RunId
