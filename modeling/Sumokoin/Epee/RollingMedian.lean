import Mathlib

/-! `epee::misc_utils::rolling_median_t` of `rolling_median.h`: a circular buffer `data` of the last
`N` items, and one array `heap` of indexes into it, holding a max heap at the negative positions
and a min heap at the positive ones around the median at position 0; `pos` maps each index back to
its position. The two heaps are mirror images, so each pair of the source's sift functions
(`minSortUp`/`maxSortUp`, `minSortDown`/`maxSortDown`) is one function of the side here. The
malloc'd arrays are functions; the slots of `data` that have not been written hold whatever the
caller passes to `create`. -/

namespace Sumokoin.Epee

/-- The min heap (positive positions) and the max heap (negative positions). -/
inductive Side where
  | min
  | max
  deriving DecidableEq, Repr

/-- The array position of place `j` of a side. On both sides `Side.at s (j / 2)` is the source's
`i / 2` for `i = Side.at s j`: the division of `int` truncates towards zero. -/
def Side.at : Side → Nat → Int
  | .min, j => j
  | .max, j => -(j : Int)

/-- The fields of `rolling_median_t`. -/
structure RollingMedian (α : Type) where
  data : Nat → α
  pos : Nat → Int
  heap : Int → Nat
  N : Nat
  idx : Nat
  minCt : Nat
  maxCt : Nat
  sz : Nat

namespace RollingMedian

variable {α : Type} [LinearOrder α]

/-- `mmless(i, j)`: the item at position `i` is less than the one at `j`. -/
def mmless (m : RollingMedian α) (i j : Int) : Bool := m.data (m.heap i) < m.data (m.heap j)

/-- `mmexchange(i, j)`: the positions `i` and `j` exchange their indexes, and `pos` follows. -/
def mmexchange (m : RollingMedian α) (i j : Int) : RollingMedian α :=
  let t := m.heap i
  let heap := Function.update m.heap i (m.heap j)
  let heap := Function.update heap j t
  let pos := Function.update m.pos (heap i) i
  let pos := Function.update pos (heap j) j
  { m with heap := heap, pos := pos }

/-- `mmCmpExch(i, j)`: exchange when the item at `i` is less than the one at `j`. -/
def mmCmpExch (m : RollingMedian α) (i j : Int) : Bool × RollingMedian α :=
  if m.mmless i j then (true, m.mmexchange i j) else (false, m)

/-- The exchange of a child with its parent on a side: `mmCmpExch(i, i / 2)` on the min heap,
`mmCmpExch(i / 2, i)` on the max heap. -/
def cmpExch (side : Side) (m : RollingMedian α) (child parent : Nat) : Bool × RollingMedian α :=
  match side with
  | .min => m.mmCmpExch (Side.min.at child) (Side.min.at parent)
  | .max => m.mmCmpExch (Side.max.at parent) (Side.max.at child)

/-- The choice of the second child in the sift down loops: `mmless(i + 1, i)` on the min heap,
`mmless(i, i - 1)` on the max heap. -/
def pickLess (side : Side) (m : RollingMedian α) (c : Nat) : Bool :=
  match side with
  | .min => m.mmless (Side.min.at (c + 1)) (Side.min.at c)
  | .max => m.mmless (Side.max.at c) (Side.max.at (c + 1))

/-- `minSortUp` and `maxSortUp` from place `j`: exchange with the parent while the side's order
asks for it; `true` when the item reached the median. -/
def sortUp (side : Side) (m : RollingMedian α) (j : Nat) : Bool × RollingMedian α :=
  if h : 0 < j then
    let r := cmpExch side m j (j / 2)
    if r.1 then sortUp side r.2 (j / 2) else (false, r.2)
  else (true, m)
termination_by j
decreasing_by omega

/-- The loop of `minSortDown` and `maxSortDown` at the place `c`, twice the start, with `cnt` the
side's count. The source's loop does not end when started at the median; the model stops there. -/
def sortDownFrom (side : Side) (cnt : Nat) (m : RollingMedian α) (c : Nat) : RollingMedian α :=
  if h : 0 < c ∧ c ≤ cnt then
    let c' := if c < cnt ∧ pickLess side m c then c + 1 else c
    let r := cmpExch side m c' (c' / 2)
    if r.1 then sortDownFrom side cnt r.2 (2 * c') else r.2
  else m
termination_by cnt + 1 - c
decreasing_by split <;> omega

/-- `minSortDown(i)`. -/
def minSortDown (m : RollingMedian α) (i : Int) : RollingMedian α :=
  sortDownFrom .min m.minCt m (2 * i.toNat)

/-- `maxSortDown(i)`, for `i ≤ 0`. -/
def maxSortDown (m : RollingMedian α) (i : Int) : RollingMedian α :=
  sortDownFrom .max m.maxCt m (2 * (-i).toNat)

/-- `minSortUp(i)`. -/
def minSortUp (m : RollingMedian α) (i : Int) : Bool × RollingMedian α := sortUp .min m i.toNat

/-- `maxSortUp(i)`, for `i ≤ 0`. -/
def maxSortUp (m : RollingMedian α) (i : Int) : Bool × RollingMedian α := sortUp .max m (-i).toNat

/-- The fill pattern of `clear`, `((k + 1) / 2) * ((k & 1) ? -1 : 1)`: median, max, min, max, ... -/
def fillPos (k : Nat) : Int := (((k + 1) / 2 : Nat) : Int) * (if k % 2 = 1 then -1 else 1)

/-- The loop `while (nItems--)` of `clear`: `pos[nItems]` and `heap[pos[nItems]]` set to the fill
pattern, from the last index down to `0`. -/
def clearLoop : Nat → RollingMedian α → RollingMedian α
  | 0, m => m
  | n + 1, m =>
    clearLoop n { m with
      pos := Function.update m.pos n (fillPos n)
      heap := Function.update m.heap (fillPos n) n }

/-- `clear()`. The items in `data` stay. -/
def clear (m : RollingMedian α) : RollingMedian α :=
  clearLoop m.N { m with idx := 0, minCt := 0, maxCt := 0, sz := 0 }

/-- The constructor `rolling_median_t(N)`: fresh arrays with whatever `data` holds, then
`clear()`. -/
def create (N : Nat) (data : Nat → α) : RollingMedian α :=
  clear ⟨data, fun _ => 0, fun _ => 0, N, 0, 0, 0, 0⟩

/-- `size()`. -/
def size (m : RollingMedian α) : Nat := m.sz

/-- The first lines of `insert(v)`: `data[idx] = v; idx = (idx + 1) % N; sz = min(sz + 1, N)`. -/
def store (m : RollingMedian α) (v : α) : RollingMedian α :=
  { m with
    data := Function.update m.data m.idx v
    idx := (m.idx + 1) % m.N
    sz := min (m.sz + 1) m.N }

/-- The end of `insert` for an item at `p > 0` that may move up:
`if (minSortUp(p) && mmCmpExch(0, -1)) maxSortDown(-1);` -/
def minInsertUp (m : RollingMedian α) (p : Int) : RollingMedian α :=
  let r := m.minSortUp p
  if r.1 then
    let r := r.2.mmCmpExch 0 (-1)
    if r.1 then r.2.maxSortDown (-1) else r.2
  else r.2

/-- The end of `insert` for an item at `p < 0` that may move up; unlike the min side it tests that
the other heap is not empty: `if (maxSortUp(p) && minCt && mmCmpExch(1, 0)) minSortDown(1);` -/
def maxInsertUp (m : RollingMedian α) (p : Int) : RollingMedian α :=
  let r := m.maxSortUp p
  if r.1 ∧ r.2.minCt ≠ 0 then
    let r := r.2.mmCmpExch 1 0
    if r.1 then r.2.minSortDown 1 else r.2
  else r.2

/-- The end of `insert` for an item at the median:
`if (maxCt && maxSortUp(-1)) maxSortDown(-1); if (minCt && minSortUp(1)) minSortDown(1);` -/
def medianInsert (m : RollingMedian α) : RollingMedian α :=
  let m := if m.maxCt ≠ 0 then
      let r := m.maxSortUp (-1)
      if r.1 then r.2.maxSortDown (-1) else r.2
    else m
  if m.minCt ≠ 0 then
    let r := m.minSortUp 1
    if r.1 then r.2.minSortDown 1 else r.2
  else m

/-- `insert(v)`: the oldest item is overwritten and moved to its place by the sifts of its heap;
while the heaps are not full, the new item takes the next place of the fill pattern. -/
def insert (m : RollingMedian α) (v : α) : RollingMedian α :=
  let p := m.pos m.idx
  let old := m.data m.idx
  let m := m.store v
  if p > 0 then
    if m.minCt < (m.N - 1) / 2 then { m with minCt := m.minCt + 1 }.minInsertUp p
    else if v > old then m.minSortDown p
    else m.minInsertUp p
  else if p < 0 then
    if m.maxCt < m.N / 2 then { m with maxCt := m.maxCt + 1 }.maxInsertUp p
    else if v < old then m.maxSortDown p
    else m.maxInsertUp p
  else m.medianInsert

/-- `median()`: the item at the median, averaged with the top of the max heap when the max heap
holds one item more than the min heap. -/
def median [Add α] [Div α] [OfNat α 2] (m : RollingMedian α) : α :=
  let v := m.data (m.heap 0)
  if m.minCt < m.maxCt then (v + m.data (m.heap (-1))) / 2 else v

end RollingMedian

end Sumokoin.Epee
