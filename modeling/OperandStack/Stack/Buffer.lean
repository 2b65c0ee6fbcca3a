/-!
# Buffers

A buffer is an array of cells of which an initial part is in use. Shortening it only moves the end
of that part: the cells behind it keep what they held, and a later append writes over them. Only
the part in use can be read, so the lemmas state each operation through the view `contents`.
-/

set_option autoImplicit false

namespace OperandStack

/-- Cells of which the first `used` are in use. -/
structure Buffer (Cell : Type) where
  cells : Array Cell
  used : Nat
  used_le_size : used ≤ cells.size

namespace Buffer

variable {Cell : Type}

def withRoom (room : Nat) (filler : Cell) : Buffer Cell :=
  ⟨Array.replicate room filler, 0, Nat.zero_le _⟩

def contents (buffer : Buffer Cell) : List Cell :=
  buffer.cells.toList.take buffer.used

def get? (buffer : Buffer Cell) (position : Nat) : Option Cell :=
  if position < buffer.used then buffer.cells[position]? else none

/-- The cells below a position, read one by one from that position down. -/
def downFrom (buffer : Buffer Cell) : Nat → List Cell
  | 0 => []
  | position + 1 => (buffer.get? position).toList ++ buffer.downFrom position

/-- Adds a cell at the end of the part in use. Where there is room the cell behind it is
overwritten; only a buffer with every cell in use grows. -/
def append (buffer : Buffer Cell) (cell : Cell) : Buffer Cell :=
  if room : buffer.used < buffer.cells.size then
    { cells := buffer.cells.set buffer.used cell room
      used := buffer.used + 1
      used_le_size := by simp only [Array.size_set]; omega }
  else
    { cells := buffer.cells.push cell
      used := buffer.used + 1
      used_le_size := by
        have bound := buffer.used_le_size
        simpa using bound }

def dropLast (buffer : Buffer Cell) : Buffer Cell where
  cells := buffer.cells
  used := buffer.used - 1
  used_le_size := Nat.le_trans (Nat.sub_le _ _) buffer.used_le_size

def clear (buffer : Buffer Cell) : Buffer Cell where
  cells := buffer.cells
  used := 0
  used_le_size := Nat.zero_le _

/-- Exchanges two cells of the part in use; any other positions change nothing. -/
def exchange (buffer : Buffer Cell) (left right : Nat) : Buffer Cell where
  cells := if left < buffer.used ∧ right < buffer.used then
    buffer.cells.swapIfInBounds left right else buffer.cells
  used := buffer.used
  used_le_size := by
    have bound := buffer.used_le_size
    split <;> simpa using bound

/-! ## Lemmas on the part in use -/

@[simp]
theorem length_contents (buffer : Buffer Cell) : buffer.contents.length = buffer.used := by
  simp [contents, Nat.min_eq_left buffer.used_le_size]

@[simp]
theorem contents_withRoom (room : Nat) (filler : Cell) :
    (withRoom room filler).contents = [] := rfl

@[simp]
theorem contents_clear (buffer : Buffer Cell) : buffer.clear.contents = [] := rfl

/-- Reading a position is reading the view: cells that went out of use are not visible. -/
theorem get?_eq_getElem? (buffer : Buffer Cell) (position : Nat) :
    buffer.get? position = buffer.contents[position]? := by
  unfold get? contents
  split
  · next inUse => simp [List.getElem?_take_of_lt inUse]
  · next outOfUse => rw [List.getElem?_take_eq_none (by omega)]

theorem downFrom_eq_reverse_take (buffer : Buffer Cell) (position : Nat) :
    buffer.downFrom position = (buffer.contents.take position).reverse := by
  induction position with
  | zero => rfl
  | succ position ih =>
      rw [downFrom, ih, get?_eq_getElem?, List.take_add_one, List.reverse_append]
      cases buffer.contents[position]? <;> rfl

/-- Appending adds exactly the new cell to the view, whatever the cell behind the end held. -/
@[simp]
theorem contents_append (buffer : Buffer Cell) (cell : Cell) :
    (buffer.append cell).contents = buffer.contents ++ [cell] := by
  unfold append
  split
  · next room =>
      simp only [contents, Array.toList_set]
      rw [List.take_add_one, List.take_set_of_le (Nat.le_refl _)]
      simp [room]
  · next full =>
      have all : buffer.used = buffer.cells.toList.length := by
        have bound := buffer.used_le_size
        simp only [Array.length_toList]
        omega
      simp only [contents, Array.toList_push]
      rw [all, List.take_length, List.take_of_length_le (by simp)]

@[simp]
theorem contents_dropLast (buffer : Buffer Cell) :
    buffer.dropLast.contents = buffer.contents.dropLast := by
  have bound := buffer.used_le_size
  simp only [contents, dropLast, List.dropLast_eq_take, List.take_take, List.length_take,
    Array.length_toList]
  congr 1
  omega

theorem getElem?_contents_exchange (buffer : Buffer Cell) {left right : Nat}
    (leftInUse : left < buffer.used) (rightInUse : right < buffer.used) (position : Nat) :
    (buffer.exchange left right).contents[position]? =
      if position = left then buffer.contents[right]?
      else if position = right then buffer.contents[left]?
      else buffer.contents[position]? := by
  have bound := buffer.used_le_size
  have leftInside : left < buffer.cells.size := by omega
  have rightInside : right < buffer.cells.size := by omega
  simp only [contents, exchange, leftInUse, rightInUse, and_self, ↓reduceIte,
    List.getElem?_take, Array.getElem?_toList, Array.swapIfInBounds, leftInside,
    rightInside, ↓reduceDIte, Array.getElem?_swap]
  by_cases atLeft : position = left
  · subst position
    by_cases same : right = left
    · subst right
      simp [leftInUse, leftInside]
    · simp [leftInUse, rightInside, same]
  · by_cases atRight : position = right
    · subst position
      simp [rightInUse, atLeft]
    · have notLeft : ¬left = position := fun same => atLeft same.symm
      have notRight : ¬right = position := fun same => atRight same.symm
      simp [atLeft, atRight, notLeft, notRight]

theorem exchange_exchange (buffer : Buffer Cell) (left right : Nat) :
    (buffer.exchange left right).exchange left right = buffer := by
  unfold exchange
  by_cases inUse : left < buffer.used ∧ right < buffer.used
  · have bound := buffer.used_le_size
    have leftInside : left < buffer.cells.size := by omega
    have rightInside : right < buffer.cells.size := by omega
    simp [inUse, Array.swapIfInBounds, leftInside, rightInside]
  · simp only [inUse, ↓reduceIte]

theorem size_cells_append_of_lt (buffer : Buffer Cell) (cell : Cell)
    (room : buffer.used < buffer.cells.size) :
    (buffer.append cell).cells.size = buffer.cells.size := by
  simp [append, room]

end Buffer

end OperandStack
