import Librorc.Lib.ByteMem
import Librorc.Sim.Protocol

/-!
# `bar_impl_hw`

The BAR of a board that is there: an array of bytes in the address space of the
process. Accesses behind its end are dropped, those of `memcopy` apart, which
has no such check.
-/

namespace Librorc

open Librorc.Lib

/-- The calls of a `bar` with one meaning for both implementations: `memcopy`
from the device is implemented by neither. `source` is what `memcopy` finds at
its argument, in words. -/
inductive BarCall
  | memcopy (target : Word64) (source : List Word32)
  | get32 (address : Word64)
  | get16 (address : Word64)
  | set32 (address : Word64) (data : Word32)
  | set16 (address : Word64) (data : Word16)
deriving DecidableEq

/-- `m_size`, and the memory at `m_bar`. -/
structure BarImplHw where
  size : Word64
  bar : ByteMem

namespace BarImplHw

variable (b : BarImplHw)

def memcopy (target : Word64) (source : List Word32) : BarImplHw :=
  { b with bar := b.bar.storeAll (target <<< 2).toNat (4 * source.length) (wordsByte source) }

def get32 (address : Word64) : Word32 :=
  if address <<< 2 < b.size then b.bar.load32 (address <<< 2).toNat else -1

def get16 (address : Word64) : Word16 :=
  if address <<< 1 < b.size then b.bar.load16 (address <<< 1).toNat else 0xffff

def set32 (address : Word64) (data : Word32) : BarImplHw :=
  if address <<< 2 < b.size then
    { b with bar := b.bar.storeAll (address <<< 2).toNat 4 (byteOf data) }
  else b

def set16 (address : Word64) (data : Word16) : BarImplHw :=
  if address <<< 1 < b.size then
    { b with bar := b.bar.storeAll (address <<< 1).toNat 2 (byteOf data) }
  else b

/-- A call, with what it returns. -/
def call : BarCall → List Word32 × BarImplHw
  | .memcopy target source => ([], b.memcopy target source)
  | .get32 address => ([b.get32 address], b)
  | .get16 address => ([(b.get16 address).setWidth 32], b)
  | .set32 address data => ([], b.set32 address data)
  | .set16 address data => ([], b.set16 address data)

/-- What each call of a sequence returns, and the BAR behind them. -/
def run : List BarCall → BarImplHw → List (List Word32) × BarImplHw
  | [], b => ([], b)
  | c :: calls, b =>
      let (later, b') := run calls (b.call c).2
      ((b.call c).1 :: later, b')

end BarImplHw

namespace BarCall

/-- The bytes a call asks for or writes are those of the BAR. -/
def Within (size : Word64) : BarCall → Prop
  | .memcopy target source => 4 * target.toNat + 4 * source.length ≤ size.toNat
  | .get32 address | .set32 address _ => 4 * address.toNat + 4 ≤ size.toNat
  | .get16 address | .set16 address _ => 2 * address.toNat + 2 ≤ size.toNat

instance (size : Word64) : DecidablePred (Within size)
  | .memcopy _ _ | .get32 _ | .get16 _ | .set32 _ _ | .set16 _ _ =>
      inferInstanceAs (Decidable (_ ≤ _))

end BarCall

end Librorc
