import ByteMachine.Fault

/-! The machine's memory: 256 bytes. A byte as an address is always inside; an address of any
size is checked. -/

namespace ByteMachine

structure Memory where
  cells : Vector Byte 256
  deriving DecidableEq

namespace Memory

abbrev size : Nat := 256

def zero : Memory := ⟨Vector.replicate 256 0⟩

def load (m : Memory) (a : Byte) : Byte := m.cells[a.toNat]

def store (m : Memory) (a v : Byte) : Memory := ⟨m.cells.set a.toNat v a.isLt⟩

/-- The byte at an address of any size, if it is inside. -/
def get? (m : Memory) (addr : Nat) : Option Byte :=
  if addr < size then some (m.load (BitVec.ofNat 8 addr)) else none

def read (m : Memory) (addr : Nat) : Except Fault Byte :=
  if addr < size then .ok (m.load (BitVec.ofNat 8 addr)) else .error (.outOfBounds addr)

def write (m : Memory) (addr : Nat) (v : Byte) : Except Fault Memory :=
  if addr < size then .ok (m.store (BitVec.ofNat 8 addr) v) else .error (.outOfBounds addr)

/-- Writes the bytes from `addr` upwards. Those before the first address outside memory are
kept. -/
def writeBlock (m : Memory) (addr : Nat) : List Byte → Memory × Option Fault
  | [] => (m, none)
  | v :: vs =>
    match m.write addr v with
    | .ok m => m.writeBlock (addr + 1) vs
    | .error fault => (m, some fault)

@[simp] theorem load_zero (a : Byte) : zero.load a = 0 := by
  simp [load, zero]

@[simp] theorem load_store_self (m : Memory) (a v : Byte) : (m.store a v).load a = v := by
  simp [load, store]

theorem load_store_of_ne (m : Memory) {a b : Byte} (v : Byte) (h : b ≠ a) :
    (m.store a v).load b = m.load b := by
  have : a.toNat ≠ b.toNat := fun e => h (BitVec.eq_of_toNat_eq e.symm)
  simp [load, store, this]

theorem load_store (m : Memory) (a b v : Byte) :
    (m.store a v).load b = if b = a then v else m.load b := by
  split
  · next h => rw [h, load_store_self]
  · next h => exact load_store_of_ne m v h

theorem ext_load {m n : Memory} (h : ∀ a, m.load a = n.load a) : m = n := by
  obtain ⟨m⟩ := m
  obtain ⟨n⟩ := n
  congr
  apply Vector.ext
  intro i hi
  have := h (BitVec.ofNat 8 i)
  simpa [load, Nat.mod_eq_of_lt hi] using this

theorem read_of_lt (m : Memory) {addr : Nat} (h : addr < size) :
    m.read addr = .ok (m.load (BitVec.ofNat 8 addr)) := by
  simp [read, h]

theorem read_of_le (m : Memory) {addr : Nat} (h : size ≤ addr) :
    m.read addr = .error (.outOfBounds addr) := by
  simp [read, h]

theorem get?_eq_none_iff (m : Memory) (addr : Nat) : m.get? addr = none ↔ size ≤ addr := by
  simp [get?]

end Memory

end ByteMachine
