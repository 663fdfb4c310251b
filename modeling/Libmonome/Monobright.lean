import Libmonome.Platform

set_option autoImplicit false

namespace Libmonome

def reduceLevelToBit (level : UInt32) : UInt32 := if level > 7 then 1 else 0

def reduceLevelsToBitmask (levels : List UInt8) : UInt8 :=
  (List.range 8).foldl
    (fun byte i => byte ||| (((if levels.getD i 0 > 7 then (1 : UInt8) else 0) &&& 0x01) <<< UInt8.ofNat i)) 0

-- The loop that level_map shares between the single-brightness backends.
def reduceMap (levels : List UInt8) : List UInt8 :=
  (List.range 8).map fun i => reduceLevelsToBitmask (levels.drop (i * 8))

-- The loop of level_row and level_col: for each chunk eight levels are read at
-- data[i*8] and one entry of masks is written. What comes back is masks as far
-- as it was written.
def reduceChunks (size : Nat) (data : List UInt8) : Nat → Nat → Except Fault (List UInt8)
  | 0, _ => .ok []
  | chunks + 1, i => do
      let levels ← copyOut 8 (data.drop (i * 8))
      if i < size then
        let rest ← reduceChunks size data chunks (i + 1)
        return reduceLevelsToBitmask levels :: rest
      else
        .error .outOfBounds

-- chunks = count / 8, narrowed to uint_t.
def levelChunks (count : Nat) : Nat := (UInt32.ofNat (count / 8)).toNat

end Libmonome
