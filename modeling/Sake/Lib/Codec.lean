import Mathlib.Data.List.Basic

namespace Sake.Lib

/-- A way to write values from which it can be told where each one ends. -/
structure Codec (α : Type) where
  write : α → List UInt8
  read : List UInt8 → Option (α × List UInt8)
  read_write : ∀ a rest, read (write a ++ rest) = some (a,rest)

namespace Codec
variable {α β : Type}

theorem read_write_end (c : Codec α) (a : α) : c.read (c.write a) = some (a,[]) := by simpa using c.read_write a []

/-- One value after the other. -/
def pair (c : Codec α) (d : Codec β) : Codec (α × β) where
  write x := c.write x.1 ++ d.write x.2
  read bytes := (c.read bytes).bind fun (a,rest) => (d.read rest).map fun (b,rest) => ((a,b),rest)
  read_write x rest := by simp [c.read_write,d.read_write]

end Codec

end Sake.Lib
