import Libmonome.Geometry

set_option autoImplicit false

namespace Libmonome

open BitMoves

def rowColSwap : UInt32 := 0x1
def rowRevbits : UInt32 := 0x2
def colRevbits : UInt32 := 0x4

def MonomeRotate.flags : MonomeRotate → UInt32
  | .rotate0 => 0
  | .rotate90 => rowColSwap ||| rowRevbits
  | .rotate180 => rowRevbits ||| colRevbits
  | .rotate270 => rowColSwap ||| colRevbits

def monomeGetRows (monome : Monome) : Int32 :=
  if monome.rotation.flags &&& rowColSwap ≠ 0 then monome.cols else monome.rows

def monomeGetCols (monome : Monome) : Int32 :=
  if monome.rotation.flags &&& rowColSwap ≠ 0 then monome.rows else monome.cols

-- ROWS(monome) and COLS(monome) meet unsigned operands in every use, so the
-- int result stands here already converted.
def rowsMax (monome : Monome) : UInt32 := (monomeGetRows monome).toUInt32 - 1
def colsMax (monome : Monome) : UInt32 := (monomeGetCols monome).toUInt32 - 1

def uintMod (a b : UInt32) : Except Fault UInt32 :=
  if b = 0 then .error .divisionByZero else .ok (a % b)

-- Coordinates go in and out by pointer in C; here the new pair is returned.
def r0OutputCb (_monome : Monome) (x y : UInt32) : UInt32 × UInt32 := (x, y)
def r0InputCb (_monome : Monome) (x y : UInt32) : Except Fault (UInt32 × UInt32) := .ok (x, y)

def r90OutputCb (monome : Monome) (x y : UInt32) : UInt32 × UInt32 := (y, colsMax monome - x)
def r90InputCb (monome : Monome) (x y : UInt32) : Except Fault (UInt32 × UInt32) := do
  let x' ← uintMod (colsMax monome - y) (colsMax monome + 1)
  return (x', x)

def r180OutputCb (monome : Monome) (x y : UInt32) : UInt32 × UInt32 := (colsMax monome - x, rowsMax monome - y)
def r180InputCb (monome : Monome) (x y : UInt32) : Except Fault (UInt32 × UInt32) := do
  let x' ← uintMod (colsMax monome - x) (colsMax monome + 1)
  let y' ← uintMod (rowsMax monome - y) (rowsMax monome + 1)
  return (x', y')

def r270OutputCb (monome : Monome) (x y : UInt32) : UInt32 × UInt32 := (rowsMax monome - y, x)
def r270InputCb (monome : Monome) (x y : UInt32) : Except Fault (UInt32 × UInt32) := do
  let y' ← uintMod (rowsMax monome - x) (rowsMax monome + 1)
  return (y, y')

-- An eight-byte picture as the cast to one uint64_t or two uint32_t reads it.
def loadWord (t : Target) (data : List UInt8) : BitVec 64 := load t.bigEndian 64 (data.take 8)
def storeWord (t : Target) (x : BitVec 64) : List UInt8 := store t.bigEndian 8 x
def loadHalf (t : Target) (data : List UInt8) (k : Nat) : BitVec 32 :=
  load t.bigEndian 32 ((data.drop (4 * k)).take 4)
def storeHalves (t : Target) (x y : BitVec 32) : List UInt8 :=
  store t.bigEndian 4 x ++ store t.bigEndian 4 y

def r0MapCb (_t : Target) (data : List UInt8) : List UInt8 := data

-- The swap chains of r90_map_cb and r270_map_cb: with the bytes loaded the
-- other way round each is the other's.
def swapsBy7 : List (Nat × BitVec 64) :=
  [(8, 0xFF00FF00FF00FF00#64), (7, 0x5500550055005500#64), (16, 0xFFFF0000FFFF0000#64),
    (14, 0x3333000033330000#64), (32, 0xFFFFFFFF00000000#64), (28, 0x0F0F0F0F00000000#64)]

def swapsBy9 : List (Nat × BitVec 64) :=
  [(8, 0xFF00FF00FF00FF00#64), (9, 0xAA00AA00AA00AA00#64), (16, 0xFFFF0000FFFF0000#64),
    (18, 0xCCCC0000CCCC0000#64), (32, 0xFFFFFFFF00000000#64), (36, 0xF0F0F0F000000000#64)]

def halfSwapsBy7 : List (Nat × BitVec 32) :=
  [(8, 0xFF00FF00#32), (7, 0x55005500#32), (16, 0xFFFF0000#32), (14, 0x33330000#32)]

def halfSwapsBy9 : List (Nat × BitVec 32) :=
  [(8, 0xFF00FF00#32), (9, 0xAA00AA00#32), (16, 0xFFFF0000#32), (18, 0xCCCC0000#32)]

def r90MapCb (t : Target) (data : List UInt8) : List UInt8 :=
  if t.lp64 then
    let x := loadWord t data
    storeWord t (swapChain (if t.bigEndian then swapsBy7 else swapsBy9) x)
  else
    let swaps := if t.bigEndian then halfSwapsBy7 else halfSwapsBy9
    let x := swapChain swaps (loadHalf t data 0)
    let y := swapChain swaps (loadHalf t data 1)
    storeHalves t ((x &&& 0xF0F0F0F0#32) >>> 4 ||| (y &&& 0xF0F0F0F0#32))
      ((x &&& 0x0F0F0F0F#32) ||| (y &&& 0x0F0F0F0F#32) <<< 4)

def reversal : List (Nat × BitVec 64 × BitVec 64) :=
  [(16, 0xFFFF0000FFFF0000#64, 0x0000FFFF0000FFFF#64), (8, 0xFF00FF00FF00FF00#64, 0x00FF00FF00FF00FF#64),
    (4, 0xF0F0F0F0F0F0F0F0#64, 0x0F0F0F0F0F0F0F0F#64), (2, 0xCCCCCCCCCCCCCCCC#64, 0x3333333333333333#64),
    (1, 0xAAAAAAAAAAAAAAAA#64, 0x5555555555555555#64)]

def halfReversal : List (Nat × BitVec 32 × BitVec 32) :=
  [(8, 0xFF00FF00#32, 0x00FF00FF#32), (4, 0xF0F0F0F0#32, 0x0F0F0F0F#32), (2, 0xCCCCCCCC#32, 0x33333333#32),
    (1, 0xAAAAAAAA#32, 0x55555555#32)]

def r180Word (x : BitVec 64) : BitVec 64 := crossChain reversal (x >>> 32 ||| x <<< 32)
def r180Half (x : BitVec 32) : BitVec 32 := crossChain halfReversal (x >>> 16 ||| x <<< 16)

def r180MapCb (t : Target) (data : List UInt8) : List UInt8 :=
  if t.lp64 then storeWord t (r180Word (loadWord t data))
  else
    let x := r180Half (loadHalf t data 0)
    let y := r180Half (loadHalf t data 1)
    storeHalves t y x

def r270MapCb (t : Target) (data : List UInt8) : List UInt8 :=
  if t.lp64 then
    let x := loadWord t data
    storeWord t (swapChain (if t.bigEndian then swapsBy9 else swapsBy7) x)
  else
    let swaps := if t.bigEndian then halfSwapsBy9 else halfSwapsBy7
    let x := swapChain swaps (loadHalf t data 0)
    let y := swapChain swaps (loadHalf t data 1)
    storeHalves t ((x &&& 0x0F0F0F0F#32) <<< 4 ||| (y &&& 0x0F0F0F0F#32))
      ((x &&& 0xF0F0F0F0#32) ||| (y &&& 0xF0F0F0F0#32) >>> 4)

-- The level callbacks' loop: for i below 64, dst[into i] = src[outOf i].
def levelLoop (into outOf : Nat → Nat) (src dst : List UInt8) : List UInt8 :=
  (List.range 64).foldl (fun dst i => dst.set (into i) (src.getD (outOf i) 0)) dst

def r0LevelMapCb (dst src : List UInt8) : List UInt8 := src.take 64 ++ dst.drop 64
def r90LevelMapCb (dst src : List UInt8) : List UInt8 :=
  levelLoop (fun i => i) (fun i => (7 - (i >>> 3)) + ((i &&& 7) <<< 3)) src dst
def r180LevelMapCb (dst src : List UInt8) : List UInt8 :=
  levelLoop (fun i => 63 - i) (fun i => i) src dst
def r270LevelMapCb (dst src : List UInt8) : List UInt8 :=
  levelLoop (fun i => i) (fun i => (i >>> 3) + ((7 - (i &&& 7)) <<< 3)) src dst

structure MonomeRotspec where
  outputCb : Monome → UInt32 → UInt32 → UInt32 × UInt32
  inputCb : Monome → UInt32 → UInt32 → Except Fault (UInt32 × UInt32)
  mapCb : Target → List UInt8 → List UInt8
  levelMapCb : List UInt8 → List UInt8 → List UInt8
  flags : UInt32

def rotspec : MonomeRotate → MonomeRotspec
  | .rotate0 => ⟨r0OutputCb, r0InputCb, r0MapCb, r0LevelMapCb, MonomeRotate.flags .rotate0⟩
  | .rotate90 => ⟨r90OutputCb, r90InputCb, r90MapCb, r90LevelMapCb, MonomeRotate.flags .rotate90⟩
  | .rotate180 => ⟨r180OutputCb, r180InputCb, r180MapCb, r180LevelMapCb, MonomeRotate.flags .rotate180⟩
  | .rotate270 => ⟨r270OutputCb, r270InputCb, r270MapCb, r270LevelMapCb, MonomeRotate.flags .rotate270⟩

def rotateCoords (monome : Monome) (x y : UInt32) : UInt32 × UInt32 := (rotspec monome.rotation).outputCb monome x y

def unrotateCoords (monome : Monome) (x y : UInt32) : Except Fault (UInt32 × UInt32) :=
  (rotspec monome.rotation).inputCb monome x y

def hasFlag (monome : Monome) (flag : UInt32) : Bool := (rotspec monome.rotation).flags &&& flag ≠ 0

-- REVERSE_BYTE, with the product wrapping at 32 bits as uint_t does.
def reverseByte (x : UInt8) : UInt8 :=
  (((((x.toUInt32 * 0x0802) &&& 0x22110) ||| ((x.toUInt32 * 0x8020) &&& 0x88440)) * 0x10101) >>> 16).toUInt8

end Libmonome
