import ByteMachine.Memory

/-! Blocks of bytes written to memory. A block is stored as far as memory reaches. The write stops
at the first address outside, so that it never makes one that is too large for a word. -/

namespace ByteMachine

namespace Memory

theorem get?_of_lt (m : Memory) {addr : Nat} (h : addr < size) :
    m.get? addr = some (m.load (BitVec.ofNat 8 addr)) :=
  if_pos h

theorem get?_store (m : Memory) {addr : Nat} (h : addr < size) (v : Byte) (j : Nat) :
    (m.store (BitVec.ofNat 8 addr) v).get? j = if j = addr then some v else m.get? j := by
  rcases Nat.lt_or_ge j size with hj | hj
  · have hsame : BitVec.ofNat 8 j = BitVec.ofNat 8 addr ↔ j = addr := by
      rw [BitVec.toNat_eq, BitVec.toNat_ofNat, BitVec.toNat_ofNat, Nat.mod_eq_of_lt hj,
        Nat.mod_eq_of_lt h]
    rw [get?_of_lt _ hj, get?_of_lt _ hj, load_store]
    simp only [hsame]
    split <;> rfl
  · rw [if_neg (by omega), (get?_eq_none_iff _ j).2 hj, (get?_eq_none_iff _ j).2 hj]

/-- Only a block with bytes beyond the end of memory meets a fault, at the first address there. -/
theorem fault_writeBlock (m : Memory) (addr : Nat) (vs : List Byte) :
    (m.writeBlock addr vs).2 =
      if vs = [] ∨ addr + vs.length ≤ size then none else some (.outOfBounds (max addr size)) := by
  induction vs generalizing m addr with
  | nil => simp [writeBlock]
  | cons v vs ih =>
    rw [writeBlock, write]
    by_cases h : addr < size
    · simp only [h, if_true, ih, List.length_cons, reduceCtorEq, false_or]
      -- The rest may be empty at the very end of memory.
      have hfits : (vs = [] ∨ addr + 1 + vs.length ≤ size) ↔ addr + (vs.length + 1) ≤ size := by
        constructor
        · rintro (rfl | hle)
          · exact h
          · omega
        · intro hle
          exact .inr (by omega)
      have hmax : max (addr + 1) size = max addr size := by omega
      simp only [hfits, hmax]
    · have hover : ¬addr + (vs.length + 1) ≤ size := by omega
      have hmax : max addr size = addr := by omega
      simp [h, hover, hmax]

/-- A block is stored at the addresses from `addr` on, as far as they are inside. -/
theorem get?_writeBlock (m : Memory) (addr : Nat) (vs : List Byte) (j : Nat) :
    (m.writeBlock addr vs).1.get? j =
      if addr ≤ j ∧ j < min (addr + vs.length) size then vs[j - addr]? else m.get? j := by
  induction vs generalizing m addr with
  | nil =>
    rw [if_neg (by rw [List.length_nil]; omega)]
    rfl
  | cons v vs ih =>
    rw [writeBlock, write, List.length_cons]
    by_cases h : addr < size
    · simp only [h, if_true, ih, get?_store m h]
      rcases Nat.lt_trichotomy addr j with hlt | rfl | hgt
      · have hplace : j - addr = j - (addr + 1) + 1 := by omega
        have hlength : addr + 1 + vs.length = addr + (vs.length + 1) := by omega
        have hfrom : addr + 1 ≤ j ↔ addr ≤ j := by omega
        have hother : ¬j = addr := by omega
        rw [hplace, List.getElem?_cons_succ, hlength, if_neg hother]
        simp only [hfrom]
      · rw [if_neg (by omega), if_pos rfl, if_pos (by omega), Nat.sub_self, List.getElem?_cons_zero]
      · rw [if_neg (by omega), if_neg (by omega), if_neg (by omega)]
    · simp only [h, if_false]
      rw [if_neg (by omega)]

/-- A block written with each address made as a sum of words of 64 bits, the start of the block and
the number `i` of the byte. There is no result if one of the sums is no word. -/
def writeBySums (m : Memory) (start i : Nat) : List Byte → Option (Memory × Option Fault)
  | [] => some (m, none)
  | v :: vs =>
    if start + i < UInt64.size then
      match m.write (start + i) v with
      | .ok m => m.writeBySums start (i + 1) vs
      | .error fault => some (m, some fault)
    else none

theorem writeBySums_eq (m : Memory) {start i : Nat} (h : start + i < UInt64.size)
    (vs : List Byte) : m.writeBySums start i vs = some (m.writeBlock (start + i) vs) := by
  induction vs generalizing m i with
  | nil => rfl
  | cons v vs ih =>
    rw [writeBySums, if_pos h, writeBlock, write]
    by_cases hin : start + i < size
    · -- The next sum is made only behind an address inside memory.
      have hnext : start + (i + 1) < UInt64.size := Nat.lt_of_le_of_lt hin (by decide)
      simp only [hin, if_true]
      exact ih _ hnext
    · simp only [hin, if_false]

/-- A block is written without a fault exactly if it is empty or ends inside memory. Whether or not
there is a fault, its bytes are at their places as far as these are inside, and all other bytes are
kept. The fault names the first address outside, and from a start that is a word all addresses up to
that one are words. -/
theorem stores_up_to_end (m : Memory) (addr : Nat) (vs : List Byte) :
    ((m.writeBlock addr vs).2 = none ↔ vs = [] ∨ addr + vs.length ≤ 256) ∧
    (∀ j, (m.writeBlock addr vs).1.get? j =
      if addr ≤ j ∧ j < min (addr + vs.length) 256 then vs[j - addr]? else m.get? j) ∧
    (∀ f, (m.writeBlock addr vs).2 = some f → f = .outOfBounds (max addr 256)) ∧
    (addr < UInt64.size → m.writeBySums addr 0 vs = some (m.writeBlock addr vs)) := by
  refine ⟨?_, m.get?_writeBlock addr vs, ?_, fun h => m.writeBySums_eq h vs⟩
  · rw [fault_writeBlock]
    split
    · next h => exact ⟨fun _ => h, fun _ => rfl⟩
    · next h => exact ⟨nofun, fun h' => absurd h' h⟩
  · intro f hf
    rw [fault_writeBlock] at hf
    split at hf
    · cases hf
    · exact (Option.some.inj hf).symm

/-- Three bytes for the last two addresses, and two from the largest word on. -/
theorem stores_up_to_end_topmost :
    let m := zero.store 253 7
    let top := UInt64.size - 1
    (∃ f, (m.writeBlock 254 [1, 2, 3]).2 = some f ∧ f = .outOfBounds 256) ∧
    (m.writeBlock 254 [1, 2, 3]).1.get? 253 = some 7 ∧
    (m.writeBlock 254 [1, 2, 3]).1.get? 255 = some 2 ∧
    m.writeBySums top 0 [1, 2] = some (m, some (.outOfBounds top)) := by
  intro m top
  obtain ⟨-, hstored, hfault, -⟩ := stores_up_to_end m 254 [1, 2, 3]
  obtain ⟨-, -, -, hsums⟩ := stores_up_to_end m top [1, 2]
  have hf : (m.writeBlock 254 [1, 2, 3]).2 = some (.outOfBounds 256) := by decide +kernel
  have htop : m.writeBlock top [1, 2] = (m, some (.outOfBounds top)) := rfl
  refine ⟨⟨_, hf, hfault _ hf⟩, ?_, ?_, (hsums (by decide)).trans (congrArg some htop)⟩
  · exact (hstored 253).trans (by decide +kernel)
  · exact (hstored 255).trans (by decide +kernel)

end Memory

end ByteMachine
