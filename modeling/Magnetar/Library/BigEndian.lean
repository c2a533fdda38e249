import Mathlib.Data.List.Basic
import Mathlib.Tactic.Ring

/-!
Contract: fixed-width unsigned integers in network byte order.

Owns: writing a natural number into a given number of bytes, most significant byte first,
reading it back, and the round trip below the width's range.

Does not own: any frame layout.
-/

namespace Magnetar.Library.BigEndian

/-- The `width` low-order bytes of `value`, most significant first. -/
def put : (width value : Nat) → List UInt8
  | 0, _ => []
  | width + 1, value => UInt8.ofNat (value / 256 ^ width) :: put width value

/-- The number a byte string denotes, most significant byte first. -/
def get (bytes : List UInt8) : Nat :=
  bytes.foldl (fun value byte => value * 256 + byte.toNat) 0

variable (width value : Nat)

@[simp]
theorem put_length : (put width value).length = width := by
  induction width with
  | zero => rfl
  | succ _ ih => simp [put, ih]

private theorem foldl_put (width value start : Nat) :
    (put width value).foldl (fun value byte => value * 256 + byte.toNat) start =
      start * 256 ^ width + value % 256 ^ width := by
  induction width generalizing start with
  | zero => simp [put, Nat.mod_one]
  | succ width ih =>
    have split : value % 256 ^ (width + 1) =
        value % 256 ^ width + 256 ^ width * (value / 256 ^ width % 256) := by
      rw [Nat.pow_succ, Nat.mod_mul]
    rw [put, List.foldl_cons, ih, UInt8.toNat_ofNat', split]
    ring

/-- Reading what was written gives the value back, as long as it fits the width. -/
theorem get_put (fits : value < 256 ^ width) : get (put width value) = value := by
  rw [get, foldl_put, Nat.zero_mul, Nat.zero_add, Nat.mod_eq_of_lt fits]

/-- A field at the front of a buffer is read off it. -/
theorem get_take_put_append (rest : List UInt8) (fits : value < 256 ^ width) :
    get ((put width value ++ rest).take width) = value := by
  rw [List.take_left' (put_length width value), get_put width value fits]

@[simp]
theorem drop_put_append (rest : List UInt8) : (put width value ++ rest).drop width = rest :=
  List.drop_left' (put_length width value)

end Magnetar.Library.BigEndian
