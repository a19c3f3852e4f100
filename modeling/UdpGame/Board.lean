import UdpGame.Common
import UdpGame.Lib.Grid

/-!
# The board

`Game::Params` and the cells `Game::Game` allocates and fills.  `GetPosition`
uses the height as the length of a row, so cells have slots of their own exactly
on boards that are square or one row high (`board_indexing_iff`).
-/

namespace UdpGame

/-- `std::chrono::milliseconds`. -/
abbrev Milliseconds : Type := Int

/-- `Game::Params`. -/
structure Params where
  height : UInt32 := 64
  width : UInt32 := 64
  maxPlayers : UInt32 := 8
  playerTimeout : Milliseconds := 2000
  deriving DecidableEq, Repr

structure Position where
  x : UInt32 := UInt32.ofNat (2 ^ 32 - 1)
  y : UInt32 := UInt32.ofNat (2 ^ 32 - 1)
  deriving DecidableEq, Repr

/-- The array behind `Game::mState`: the `pos` of each `PositionState`. -/
structure Board where
  mParams : Params
  mState : List Position
  deriving DecidableEq, Repr

namespace Board

def IsValidPosition (params : Params) (x y : UInt32) : Prop :=
  x < params.width ∧ y < params.height

instance (params : Params) (x y : UInt32) : Decidable (IsValidPosition params x y) :=
  inferInstanceAs (Decidable (_ ∧ _))

/-- The index in `&mState[y * mParams.height + x]`, in 32-bit arithmetic. -/
def slot (params : Params) (x y : UInt32) : UInt32 := y * params.height + x

/-- `GetPosition`: the index of the element pointed to. -/
def getPosition (board : Board) (x y : UInt32) : Checked Nat := do
  Checked.assert (IsValidPosition board.mParams x y)
  return (slot board.mParams x y).toNat

/-- `GetPosition(x, y)->pos`. -/
def positionAt (board : Board) (x y : UInt32) : Checked Position := do
  let index ← board.getPosition x y
  match board.mState[index]? with
  | some pos => return pos
  | none => .error .outOfBounds

/-- The body of the constructor's loops for row `i` and column `j`. -/
def place (board : Board) (i j : UInt32) : Checked Board := do
  let index ← board.getPosition j i
  if index < board.mState.length then
    return { board with mState := board.mState.set index ⟨j, i⟩ }
  else
    .error .outOfBounds

/-- The constructor of `Game`. -/
def make (params : Params) : Checked Board :=
  let board : Board := ⟨params, List.replicate (params.height * params.width).toNat {}⟩
  (List.range params.height.toNat).foldlM (fun board i =>
    (List.range params.width.toNat).foldlM (fun board j =>
      board.place (UInt32.ofNat i) (UInt32.ofNat j)) board) board

/-! ## Slots -/

/-- What the rest of the program takes for granted about `GetPosition`: valid
cells have slots of their own in the array, and the constructor stores each
cell's coordinates in its slot. -/
structure Indexes (params : Params) : Prop where
  bounded : ∀ x y, IsValidPosition params x y →
    (slot params x y).toNat < params.height.toNat * params.width.toNat
  injective : ∀ x y x' y', IsValidPosition params x y → IsValidPosition params x' y' →
    slot params x y = slot params x' y' → x = x' ∧ y = y'
  placed : ∃ board, make params = .ok board ∧
    ∀ x y, IsValidPosition params x y → board.positionAt x y = .ok ⟨x, y⟩

section Slots

variable {params : Params}

theorem isValidPosition_iff {x y : UInt32} :
    IsValidPosition params x y ↔
      x.toNat < params.width.toNat ∧ y.toNat < params.height.toNat := by
  simp only [IsValidPosition, UInt32.lt_iff_toNat_lt]

/-- As long as the index fits 32 bits it is the row-major one, with the height
as stride. -/
theorem toNat_slot {x y : UInt32}
    (fits : Grid.index params.height.toNat x.toNat y.toNat < 2 ^ 32) :
    (slot params x y).toNat = Grid.index params.height.toNat x.toNat y.toNat := by
  simp only [slot, UInt32.toNat_add, UInt32.toNat_mul, Nat.mod_add_mod]
  exact Nat.mod_eq_of_lt fits

variable (area : params.height.toNat * params.width.toNat < 2 ^ 32)

/-- On a square board and on a single row the height does as a stride. -/
theorem index_of_shape (shape : params.height = 1 ∨ params.height = params.width) :
    (∀ {x y : UInt32}, IsValidPosition params x y →
      Grid.index params.height.toNat x.toNat y.toNat <
        params.height.toNat * params.width.toNat) ∧
    (∀ {x y x' y' : UInt32}, IsValidPosition params x y → IsValidPosition params x' y' →
      Grid.index params.height.toNat x.toNat y.toNat =
        Grid.index params.height.toNat x'.toNat y'.toNat → x = x' ∧ y = y') := by
  simp only [isValidPosition_iff]
  rcases shape with row | square
  · have one : params.height.toNat = 1 := by rw [row]; rfl
    simp only [one, Grid.index, Nat.mul_one, Nat.one_mul]
    constructor
    · omega
    · intro x y x' y' valid valid' same
      exact ⟨UInt32.toNat_inj.mp (by omega), UInt32.toNat_inj.mp (by omega)⟩
  · rw [square]
    constructor
    · intro x y valid
      exact Grid.index_lt valid.1 valid.2
    · intro x y x' y' valid valid' same
      rcases Grid.index_inj valid.1 valid'.1 same with ⟨column, row⟩
      exact ⟨UInt32.toNat_inj.mp column, UInt32.toNat_inj.mp row⟩

/-! ## The constructor's loops -/

/-- The cells in the order of the loops: rows outside, columns inside. -/
def cells (params : Params) : List (UInt32 × UInt32) :=
  (List.range params.height.toNat).flatMap fun i =>
    (List.range params.width.toNat).map fun j => (UInt32.ofNat j, UInt32.ofNat i)

theorem mem_cells {x y : UInt32} : (x, y) ∈ cells params ↔ IsValidPosition params x y := by
  simp only [cells, List.mem_flatMap, List.mem_range, List.mem_map, Prod.mk.injEq,
    isValidPosition_iff]
  constructor
  · intro listed
    rcases listed with ⟨i, row, j, column, rfl, rfl⟩
    exact ⟨Nat.lt_of_le_of_lt (Nat.mod_le ..) column, Nat.lt_of_le_of_lt (Nat.mod_le ..) row⟩
  · intro inside
    rcases inside with ⟨column, row⟩
    exact ⟨y.toNat, row, x.toNat, column, UInt32.ofNat_toNat, UInt32.ofNat_toNat⟩

theorem make_eq_foldlM (params : Params) :
    make params = (cells params).foldlM (fun (board : Board) cell => board.place cell.2 cell.1)
      ⟨params, List.replicate (params.height * params.width).toNat {}⟩ := by
  simp only [make, cells, Grid.foldlM_flatMap, List.foldlM_map]

/-- While every slot is inside the array the loops store one cell after
another. -/
theorem foldlM_place {items : List (UInt32 × UInt32)} {l : List Position}
    (inside : ∀ cell ∈ items, IsValidPosition params cell.1 cell.2 ∧
      (slot params cell.1 cell.2).toNat < l.length) :
    items.foldlM (fun (board : Board) cell => board.place cell.2 cell.1) ⟨params, l⟩ =
      .ok ⟨params, Grid.scatter (fun cell => (slot params cell.1 cell.2).toNat)
        (fun cell => ⟨cell.1, cell.2⟩) items l⟩ := by
  induction items generalizing l with
  | nil => rfl
  | cons cell items ih =>
      rcases inside cell List.mem_cons_self with ⟨valid, fits⟩
      have placed : place ⟨params, l⟩ cell.2 cell.1 =
          .ok ⟨params, l.set (slot params cell.1 cell.2).toNat ⟨cell.1, cell.2⟩⟩ := by
        simp only [place, getPosition, Checked.assert_of valid, Checked.ok_bind,
          Checked.pure_eq_ok, if_pos fits]
      rw [List.foldlM_cons, placed, Checked.ok_bind, ih]
      · rfl
      · intro other member
        rw [List.length_set]
        exact inside other (List.mem_cons_of_mem _ member)

/-! ## The shapes on which indexing works -/

include area

theorem indexes_of_shape (shape : params.height = 1 ∨ params.height = params.width) :
    Indexes params := by
  rcases index_of_shape shape with ⟨bounded, injective⟩
  have small : ∀ {x y : UInt32}, IsValidPosition params x y →
      (slot params x y).toNat = Grid.index params.height.toNat x.toNat y.toNat := fun valid =>
    toNat_slot (Nat.lt_trans (bounded valid) area)
  have apart : ∀ {x y x' y' : UInt32}, IsValidPosition params x y →
      IsValidPosition params x' y' → (slot params x y).toNat = (slot params x' y').toNat →
      x = x' ∧ y = y' := fun valid valid' same =>
    injective valid valid' (by rw [← small valid, ← small valid', same])
  have allocated : (List.replicate (params.height * params.width).toNat ({} : Position)).length =
      params.height.toNat * params.width.toNat := by
    rw [List.length_replicate, UInt32.toNat_mul, Nat.mod_eq_of_lt area]
  have inside : ∀ cell ∈ cells params, IsValidPosition params cell.1 cell.2 ∧
      (slot params cell.1 cell.2).toNat <
        (List.replicate (params.height * params.width).toNat ({} : Position)).length := by
    intro point member
    obtain ⟨x, y⟩ := point
    have valid := mem_cells.mp member
    exact ⟨valid, by rw [allocated, small valid]; exact bounded valid⟩
  refine ⟨fun x y valid => small valid ▸ bounded valid,
    fun x y x' y' valid valid' same => apart valid valid' (congrArg UInt32.toNat same), ?_⟩
  refine ⟨_, (make_eq_foldlM params).trans (foldlM_place inside), fun x y valid => ?_⟩
  have stored := Grid.getElem?_scatter (fun cell => (⟨cell.1, cell.2⟩ : Position))
    (fun cell member => (inside cell member).2)
    (fun a here b there same => by
      rcases apart (mem_cells.mp here) (mem_cells.mp there) same with ⟨column, row⟩
      rw [column, row])
    (x, y) (mem_cells.mpr valid)
  simp only [positionAt, getPosition, Checked.assert_of valid, Checked.ok_bind,
    Checked.pure_eq_ok, stored]

/-- On a wider board cell `(height, 0)` shares a slot with `(0, 1)`; on a higher
one the slot of `(0, width)` is the first behind the array. -/
theorem shape_of_indexes (rows : 0 < params.height) (columns : 0 < params.width)
    (indexes : Indexes params) : params.height = 1 ∨ params.height = params.width := by
  have hpos : 0 < params.height.toNat := UInt32.lt_iff_toNat_lt.mp rows
  have wpos : 0 < params.width.toNat := UInt32.lt_iff_toNat_lt.mp columns
  by_contra other
  rw [not_or] at other
  have tall : params.height.toNat ≠ 1 := fun one => other.1 (UInt32.toNat_inj.mp one)
  have unequal : params.height.toNat ≠ params.width.toNat := fun same =>
    other.2 (UInt32.toNat_inj.mp same)
  rcases Nat.lt_or_gt_of_ne unequal with wide | high
  · have left : IsValidPosition params params.height 0 := ⟨UInt32.lt_iff_toNat_lt.mpr wide, rows⟩
    have right : IsValidPosition params 0 1 :=
      ⟨columns, UInt32.lt_iff_toNat_lt.mpr (by simp only [UInt32.toNat_one]; omega)⟩
    have same : slot params params.height 0 = slot params 0 1 := by simp [slot]
    have rows := (indexes.injective _ _ _ _ left right same).2
    exact absurd rows (by decide)
  · have valid : IsValidPosition params 0 params.width :=
      ⟨columns, UInt32.lt_iff_toNat_lt.mpr high⟩
    have bound := indexes.bounded 0 params.width valid
    have exact : (slot params 0 params.width).toNat =
        params.height.toNat * params.width.toNat := by
      rw [toNat_slot (by simp only [Grid.index, UInt32.toNat_zero]; rw [Nat.mul_comm]; omega)]
      simp only [Grid.index, UInt32.toNat_zero, Nat.add_zero, Nat.mul_comm]
    omega

end Slots

/-- For boards whose area fits 32 bits. -/
theorem board_indexing_iff {params : Params} (rows : 0 < params.height)
    (columns : 0 < params.width)
    (area : params.height.toNat * params.width.toNat < 2 ^ 32) :
    Indexes params ↔ params.height = 1 ∨ params.height = params.width :=
  ⟨shape_of_indexes area rows columns, indexes_of_shape area⟩

theorem board_indexing_iff_default :
    Indexes {} ↔ ({} : Params).height = 1 ∨ ({} : Params).height = ({} : Params).width :=
  board_indexing_iff (by decide) (by decide) (by decide)

/-- On two rows of three, `(2, 0)` and `(0, 1)` are one cell. -/
theorem not_indexes_two_by_three :
    ¬ Indexes { height := 2, width := 3 } ∧
      slot { height := 2, width := 3 } 2 0 = slot { height := 2, width := 3 } 0 1 := by
  refine ⟨fun indexes => ?_, by decide⟩
  have rows := (indexes.injective 2 0 0 1 (by decide) (by decide) (by decide)).2
  exact absurd rows (by decide)

/-! ## 32-bit arithmetic -/

/-- The two products of the board come out as in the integers, so that the
constructor allocates a cell for each one its loops visit. -/
structure Exact (params : Params) : Prop where
  area : (params.height * params.width).toNat = params.height.toNat * params.width.toNat
  slot : ∀ x y, IsValidPosition params x y →
    (slot params x y).toNat = Grid.index params.height.toNat x.toNat y.toNat
  allocated : (params.height * params.width).toNat = (cells params).length

theorem length_cells (params : Params) :
    (cells params).length = params.height.toNat * params.width.toNat := by
  simp only [cells, List.length_flatMap, List.length_map, List.length_range, List.map_const',
    List.sum_replicate_nat]

/-- The area fits, and so does the index of the last cell. -/
structure Small (params : Params) : Prop where
  area : params.height.toNat * params.width.toNat < 2 ^ 32
  last : 0 < params.height.toNat → 0 < params.width.toNat →
    Grid.index params.height.toNat (params.width.toNat - 1) (params.height.toNat - 1) < 2 ^ 32

theorem Small.exact {params : Params} (small : Small params) : Exact params := by
  have area : (params.height * params.width).toNat =
      params.height.toNat * params.width.toNat := by
    rw [UInt32.toNat_mul, Nat.mod_eq_of_lt small.area]
  refine ⟨area, ?_, area.trans (length_cells params).symm⟩
  intro x y valid
  rw [isValidPosition_iff] at valid
  apply toNat_slot
  -- the last cell has the largest index
  have below : Grid.index params.height.toNat x.toNat y.toNat ≤
      Grid.index params.height.toNat (params.width.toNat - 1) (params.height.toNat - 1) :=
    Grid.index_mono (by omega) (by omega)
  exact Nat.lt_of_le_of_lt below (small.last (by omega) (by omega))

theorem Exact.small {params : Params} (exact : Exact params) : Small params := by
  refine ⟨exact.area ▸ (params.height * params.width).toNat_lt, ?_⟩
  intro rows columns
  have height : (params.height - 1).toNat = params.height.toNat - 1 :=
    UInt32.toNat_sub_of_le _ _ (UInt32.le_iff_toNat_le.mpr rows)
  have width : (params.width - 1).toNat = params.width.toNat - 1 :=
    UInt32.toNat_sub_of_le _ _ (UInt32.le_iff_toNat_le.mpr columns)
  have valid : IsValidPosition params (params.width - 1) (params.height - 1) := by
    rw [isValidPosition_iff]
    omega
  rw [← width, ← height, ← exact.slot _ _ valid]
  exact (Board.slot params _ _).toNat_lt

/-- The board's arithmetic is that of the integers on small boards only. -/
theorem exact_iff (params : Params) : Exact params ↔ Small params :=
  ⟨Exact.small, Small.exact⟩

/-- On a board of `2 ^ 32` cells no cell is allocated. -/
theorem not_exact_of_large_board :
    ¬ Exact { height := 65536, width := 65536 } ∧
      ((65536 : UInt32) * 65536).toNat = 0 := by
  refine ⟨fun exact => ?_, by decide⟩
  exact absurd exact.area (by decide)

end Board

end UdpGame
