import ByteMachine.Machine.Interrupt

/-! Several bytes pushed or popped in a row, or as many of them as the stack lets through. What was
pushed lies on the stack last byte first, and popping fills the slots with the bytes from the stack
pointer upwards. -/

namespace ByteMachine

namespace Memory

/-- The `n` bytes from address `a` upwards. -/
def block (m : Memory) (a : Byte) : Nat → List Byte
  | 0 => []
  | n + 1 => m.load a :: m.block (a + 1) n

@[simp] theorem length_block (m : Memory) (a : Byte) (n : Nat) : (m.block a n).length = n := by
  induction n generalizing a with
  | zero => rfl
  | succ n ih => rw [block, List.length_cons, ih]

theorem add_one_add (a : Byte) (n : Nat) :
    a + 1 + BitVec.ofNat 8 n = a + BitVec.ofNat 8 (n + 1) := by
  rw [BitVec.add_assoc, BitVec.add_comm 1, BitVec.ofNat_add]
  rfl

theorem block_succ (m : Memory) (a : Byte) (n : Nat) :
    m.block a (n + 1) = m.block a n ++ [m.load (a + BitVec.ofNat 8 n)] := by
  induction n generalizing a with
  | zero => simp [block]
  | succ n ih =>
    rw [block, ih, add_one_add]
    rfl

theorem getElem?_block (m : Memory) (a : Byte) {n i : Nat} (h : i < n) :
    (m.block a n)[i]? = some (m.load (a + BitVec.ofNat 8 i)) := by
  induction n generalizing a i with
  | zero => exact absurd h (Nat.not_lt_zero i)
  | succ n ih =>
    cases i with
    | zero => simp [block]
    | succ i => rw [block, List.getElem?_cons_succ, ih _ (Nat.lt_of_succ_lt_succ h), add_one_add]

/-- A block that stays below the end of memory depends on its own bytes only. -/
theorem block_congr {m m' : Memory} {a : Byte} {n : Nat} (hn : a.toNat + n ≤ size)
    (h : ∀ b : Byte, a ≤ b → b.toNat < a.toNat + n → m'.load b = m.load b) :
    m'.block a n = m.block a n := by
  induction n generalizing a with
  | zero => rfl
  | succ n ih =>
    have hhead : m'.load a = m.load a := h a (BitVec.le_refl a) (by omega)
    rw [block, block, hhead]
    congr 1
    rcases Nat.eq_zero_or_pos n with rfl | hpos
    · rfl
    · have ha : (a + 1).toNat = a.toNat + 1 := by
        rw [BitVec.toNat_add, Nat.mod_eq_of_lt]
        · rfl
        · exact Nat.lt_of_lt_of_le (Nat.add_lt_add_left (by simpa using hpos) _) hn
      apply ih (by omega)
      intro b hab hb
      apply h b _ (by omega)
      rw [BitVec.le_def] at hab ⊢
      omega

end Memory

namespace Slot

@[simp] theorem get_set_self (regs : Registers) (v : Byte) (s : Slot) :
    s.get (s.set regs v) = v := by
  cases s <;> simp [get, set]

theorem get_set_of_ne (regs : Registers) (v : Byte) {s t : Slot} (h : s ≠ t) :
    s.get (t.set regs v) = s.get regs := by
  cases s <;> cases t
  case reg.reg r q => exact Registers.get_set_of_ne regs v fun e => h (congrArg Slot.reg e)
  all_goals first | rfl | exact absurd rfl h

theorem pc_set_of_ne (regs : Registers) (v : Byte) {t : Slot} (h : t ≠ .pc) :
    (t.set regs v).pc = regs.pc := by
  cases t with
  | pc => exact absurd rfl h
  | flags => rfl
  | reg r => rfl

end Slot

namespace Machine

/-- The bytes `vs`, one after another, were pushed on `m`, which left `m'`. -/
structure Pushed (m : Machine) (vs : List Byte) (m' : Machine) : Prop where
  sp : (m'.reg Reg.sp).toNat + vs.length = (m.reg Reg.sp).toNat
  reg : ∀ r, r ≠ Reg.sp → m'.reg r = m.reg r
  pc : m'.pc = m.pc
  flags : m'.regs.flags = m.regs.flags
  savedMask : m'.savedMask = m.savedMask
  sink : m'.sink = m.sink
  block : m'.memory.block (m'.reg Reg.sp) vs.length = vs.reverse
  outside : ∀ a : Byte, a < m'.reg Reg.sp ∨ m.reg Reg.sp ≤ a → m'.memory.load a = m.memory.load a

theorem Pushed.nil (m : Machine) : Pushed m [] m where
  sp := rfl
  reg _ _ := rfl
  pc := rfl
  flags := rfl
  savedMask := rfl
  sink := rfl
  block := rfl
  outside _ _ := rfl

theorem toNat_sub_one {a : Byte} (h : a ≠ 0) : (a - 1).toNat + 1 = a.toNat := by
  bv_omega

theorem Pushed.cons {m m' : Machine} {v : Byte} {vs : List Byte} (hsp : m.reg Reg.sp ≠ 0)
    (h : Pushed ((m.setReg Reg.sp (m.reg Reg.sp - 1)).store (m.reg Reg.sp - 1) v) vs m') :
    Pushed m (v :: vs) m' := by
  have htop : (m.reg Reg.sp - 1).toNat + 1 = (m.reg Reg.sp).toNat := toNat_sub_one hsp
  have hlow : (m'.reg Reg.sp).toNat + vs.length = (m.reg Reg.sp - 1).toNat := by
    simpa using h.sp
  refine ⟨?_, ?_, h.pc, h.flags, h.savedMask, h.sink, ?_, ?_⟩
  · rw [List.length_cons]
    omega
  · intro r hr
    rw [h.reg r hr, reg_store, reg_setReg, if_neg hr]
  · have hlast : m'.reg Reg.sp + BitVec.ofNat 8 vs.length = m.reg Reg.sp - 1 := by
      bv_omega
    -- The later pushes lie below the byte that the first one stored.
    have hkept : m'.memory.load (m.reg Reg.sp - 1) = v := by
      rw [h.outside _ (.inr (by simp))]
      simp
    rw [List.length_cons, Memory.block_succ, h.block, hlast, hkept, List.reverse_cons]
  · intro a ha
    rw [h.outside a (by simp; bv_omega)]
    exact Memory.load_store_of_ne _ _ (by bv_omega)

/-- The bytes pushed lie from the old stack pointer downwards, the first one on top. -/
theorem Pushed.getElem? {m m' : Machine} {vs : List Byte} (h : Pushed m vs m') {i : Nat}
    (hi : i < vs.length) :
    vs[i]? = some (m'.memory.load (m.reg Reg.sp - 1 - BitVec.ofNat 8 i)) := by
  have hlow := h.sp
  have haddr : m'.reg Reg.sp + BitVec.ofNat 8 (vs.length - 1 - i) =
      m.reg Reg.sp - 1 - BitVec.ofNat 8 i := by
    bv_omega
  have hblock := m'.memory.getElem?_block (m'.reg Reg.sp) (Nat.sub_one_sub_lt hi)
  rw [h.block, haddr] at hblock
  rw [← hblock, List.getElem?_reverse (Nat.sub_one_sub_lt hi)]
  congr 1
  omega

/-- As many bytes are pushed as the stack pointer counts. -/
theorem pushed_pushAll (m : Machine) (vs : List Byte) :
    Pushed m (vs.take (m.reg Reg.sp).toNat) (m.pushAll vs).1 := by
  induction vs generalizing m with
  | nil =>
    rw [List.take_nil]
    exact .nil m
  | cons v vs ih =>
    by_cases hsp : m.reg Reg.sp = 0
    · simpa [pushAll, push, hsp] using Pushed.nil m
    · have hrest := ih ((m.setReg Reg.sp (m.reg Reg.sp - 1)).store (m.reg Reg.sp - 1) v)
      rw [reg_store, reg_setReg_self] at hrest
      rw [pushAll, push_of_ne_zero v hsp, ← toNat_sub_one hsp, List.take_succ_cons]
      exact .cons hsp hrest

/-- Pushes overflow exactly when there are more bytes than the stack pointer counts. -/
theorem fault_pushAll (m : Machine) (vs : List Byte) :
    (m.pushAll vs).2 =
      if (m.reg Reg.sp).toNat < vs.length then some .stackOverflow else none := by
  induction vs generalizing m with
  | nil => rfl
  | cons v vs ih =>
    rw [List.length_cons]
    by_cases hsp : m.reg Reg.sp = 0
    · simp [pushAll, push, hsp]
    · have htop := toNat_sub_one hsp
      have hroom : (m.reg Reg.sp - 1).toNat < vs.length ↔
          (m.reg Reg.sp).toNat < vs.length + 1 := by omega
      rw [pushAll, push_of_ne_zero v hsp, ih, reg_store, reg_setReg_self]
      simp only [hroom]

theorem pushed_of_pushAll {m m' : Machine} {vs : List Byte} (h : m.pushAll vs = (m', none)) :
    Pushed m vs m' := by
  have hpushed := m.pushed_pushAll vs
  have hfault := m.fault_pushAll vs
  rw [h] at hpushed hfault
  have hroom : vs.length ≤ (m.reg Reg.sp).toNat := by simpa using hfault
  rwa [List.take_of_length_le hroom] at hpushed

theorem pushAll_of_le {m : Machine} {vs : List Byte} (h : vs.length ≤ (m.reg Reg.sp).toNat) :
    ∃ m', m.pushAll vs = (m', none) := by
  have hfault := m.fault_pushAll vs
  rw [if_neg (Nat.not_lt.2 h)] at hfault
  exact ⟨(m.pushAll vs).1, Prod.ext rfl hfault⟩

theorem pushAll_kept (m : Machine) (vs : List Byte) :
    (m.pushAll vs).1.pc = m.pc ∧ (m.pushAll vs).1.savedMask = m.savedMask :=
  ⟨(m.pushed_pushAll vs).pc, (m.pushed_pushAll vs).savedMask⟩

/-- The slots, one after another, were popped on `m`, which left `m'`. -/
structure Popped (m : Machine) (slots : List Slot) (m' : Machine) : Prop where
  sp : (m'.reg Reg.sp).toNat = (m.reg Reg.sp).toNat + slots.length
  values : slots.map (Slot.get m'.regs) = m.memory.block (m.reg Reg.sp) slots.length
  other : ∀ s, s ∉ slots → s ≠ .reg Reg.sp → s.get m'.regs = s.get m.regs
  pc : .pc ∉ slots → m'.pc = m.pc
  pc_lt : .pc ∈ slots → m'.pc < Memory.size
  memory : m'.memory = m.memory
  savedMask : m'.savedMask = m.savedMask
  sink : m'.sink = m.sink

theorem Popped.nil (m : Machine) : Popped m [] m where
  sp := rfl
  values := rfl
  other _ _ _ := rfl
  pc _ := rfl
  pc_lt h := by simp at h
  memory := rfl
  savedMask := rfl
  sink := rfl

def popInto (m : Machine) (slot : Slot) : Machine :=
  let m₁ := m.setReg Reg.sp (m.reg Reg.sp + 1)
  { m₁ with regs := slot.set m₁.regs (m.memory.load (m.reg Reg.sp)) }

theorem reg_sp_popInto (m : Machine) {slot : Slot} (h : slot ≠ .reg Reg.sp) :
    (m.popInto slot).reg Reg.sp = m.reg Reg.sp + 1 := by
  have hget := Slot.get_set_of_ne (m.setReg Reg.sp (m.reg Reg.sp + 1)).regs
    (m.memory.load (m.reg Reg.sp)) h.symm
  exact hget.trans (reg_setReg_self m Reg.sp _)

theorem get_popInto_of_ne (m : Machine) {slot s : Slot} (h : s ≠ slot) (hsp : s ≠ .reg Reg.sp) :
    s.get (m.popInto slot).regs = s.get m.regs :=
  (Slot.get_set_of_ne _ _ h).trans (Slot.get_set_of_ne (t := .reg Reg.sp) m.regs _ hsp)

theorem toNat_add_one {a : Byte} (h : a ≠ 255) : (a + 1).toNat = a.toNat + 1 := by
  bv_omega

theorem Popped.cons {m m' : Machine} {slot : Slot} {slots : List Slot} (hsp : m.reg Reg.sp ≠ 255)
    (hslot : slot ≠ .reg Reg.sp) (hnew : slot ∉ slots) (h : Popped (m.popInto slot) slots m') :
    Popped m (slot :: slots) m' := by
  have hnext := reg_sp_popInto m hslot
  have htop := toNat_add_one hsp
  refine ⟨?_, ?_, ?_, ?_, ?_, h.memory, h.savedMask, h.sink⟩
  · rw [h.sp, hnext, htop, List.length_cons]
    omega
  · -- The slots popped later do not touch the first one.
    have hfirst : slot.get m'.regs = m.memory.load (m.reg Reg.sp) := by
      rw [h.other slot hnew hslot]
      exact Slot.get_set_self _ _ _
    rw [List.map_cons, hfirst, h.values, hnext]
    rfl
  · intro s hs hne
    rw [List.mem_cons, not_or] at hs
    rw [h.other s hs.2 hne, get_popInto_of_ne m hs.1 hne]
  · intro hpc
    rw [List.mem_cons, not_or] at hpc
    rw [h.pc hpc.2]
    exact Slot.pc_set_of_ne _ _ (Ne.symm hpc.1)
  · intro hpc
    by_cases hlater : Slot.pc ∈ slots
    · exact h.pc_lt hlater
    · obtain rfl : Slot.pc = slot := (List.mem_cons.1 hpc).resolve_right hlater
      rw [h.pc hlater]
      exact BitVec.isLt _

theorem Popped.get_of_getElem? {m m' : Machine} {slots : List Slot} (h : Popped m slots m')
    {i : Nat} {slot : Slot} (hi : slots[i]? = some slot) :
    slot.get m'.regs = m.memory.load (m.reg Reg.sp + BitVec.ofNat 8 i) := by
  obtain ⟨hlt, -⟩ := List.getElem?_eq_some_iff.1 hi
  have hblock := m.memory.getElem?_block (m.reg Reg.sp) hlt
  rw [← h.values, List.getElem?_map, hi] at hblock
  exact Option.some.inj hblock

theorem Popped.pc_of_getElem? {m m' : Machine} {slots : List Slot} (h : Popped m slots m') {i : Nat}
    (hi : slots[i]? = some .pc) :
    m'.pc = (m.memory.load (m.reg Reg.sp + BitVec.ofNat 8 i)).toNat := by
  have hbyte : BitVec.ofNat 8 m'.pc = _ := h.get_of_getElem? hi
  rw [← hbyte, BitVec.toNat_ofNat, Nat.mod_eq_of_lt (h.pc_lt (List.mem_of_getElem? hi))]

theorem popAll_cons (m : Machine) {slot : Slot} {slots : List Slot} (hsp : m.reg Reg.sp ≠ 255) :
    m.popAll (slot :: slots) = (m.popInto slot).popAll slots := by
  rw [popAll, pop_of_ne_last hsp]
  rfl

theorem popAll_cons_of_last (m : Machine) {slot : Slot} {slots : List Slot}
    (hsp : m.reg Reg.sp = 255) : m.popAll (slot :: slots) = (m, some .stackUnderflow) := by
  simp [popAll, pop, hsp]

/-- As many slots are popped as there are bytes from the stack pointer up to 254. -/
theorem popped_popAll (m : Machine) {slots : List Slot} (hnodup : slots.Nodup)
    (hsp : .reg Reg.sp ∉ slots) :
    Popped m (slots.take (255 - (m.reg Reg.sp).toNat)) (m.popAll slots).1 := by
  induction slots generalizing m with
  | nil =>
    rw [List.take_nil]
    exact .nil m
  | cons slot slots ih =>
    rw [List.nodup_cons] at hnodup
    rw [List.mem_cons, not_or] at hsp
    by_cases hlast : m.reg Reg.sp = 255
    · rw [popAll_cons_of_last m hlast, hlast]
      exact .nil m
    · have hrest := ih (m.popInto slot) hnodup.2 hsp.2
      have hleft : 255 - (m.reg Reg.sp).toNat = 255 - (m.reg Reg.sp + 1).toNat + 1 := by
        bv_omega
      rw [reg_sp_popInto m (Ne.symm hsp.1)] at hrest
      rw [popAll_cons m hlast, hleft, List.take_succ_cons]
      exact .cons hlast (Ne.symm hsp.1) (fun h => hnodup.1 (List.mem_of_mem_take h)) hrest

/-- Pops underflow exactly when the last of them would be at 255. -/
theorem fault_popAll (m : Machine) {slots : List Slot} (hsp : .reg Reg.sp ∉ slots) :
    (m.popAll slots).2 =
      if 255 < (m.reg Reg.sp).toNat + slots.length then some .stackUnderflow else none := by
  induction slots generalizing m with
  | nil =>
    have hlt := (m.reg Reg.sp).isLt
    rw [List.length_nil, if_neg (by omega)]
    rfl
  | cons slot slots ih =>
    rw [List.mem_cons, not_or] at hsp
    rw [List.length_cons]
    by_cases hlast : m.reg Reg.sp = 255
    · simp [popAll_cons_of_last m hlast, hlast]
    · have htop := toNat_add_one hlast
      have hleft : 255 < (m.reg Reg.sp + 1).toNat + slots.length ↔
          255 < (m.reg Reg.sp).toNat + (slots.length + 1) := by omega
      rw [popAll_cons m hlast, ih _ hsp.2, reg_sp_popInto m (Ne.symm hsp.1)]
      simp only [hleft]

theorem popped_of_popAll {m m' : Machine} {slots : List Slot}
    (h : m.popAll slots = (m', none)) (hnodup : slots.Nodup) (hsp : .reg Reg.sp ∉ slots) :
    Popped m slots m' := by
  have hpopped := m.popped_popAll hnodup hsp
  have hfault := m.fault_popAll hsp
  rw [h] at hpopped hfault
  have hroom : slots.length ≤ 255 - (m.reg Reg.sp).toNat := by
    have hle : (m.reg Reg.sp).toNat + slots.length ≤ 255 := by simpa using hfault
    omega
  rwa [List.take_of_length_le hroom] at hpopped

theorem savedMask_popAll (m : Machine) (slots : List Slot) :
    (m.popAll slots).1.savedMask = m.savedMask := by
  induction slots generalizing m with
  | nil => rfl
  | cons slot slots ih =>
    by_cases hlast : m.reg Reg.sp = 255
    · rw [popAll_cons_of_last m hlast]
    · rw [popAll_cons m hlast, ih]
      rfl

/-- The counter is the last to be popped: it is as before unless all pops go through. -/
theorem pc_popAll_of_fault {m m' : Machine} {slots : List Slot} {f : Fault}
    (h : m.popAll slots = (m', some f)) (hpc : .pc ∉ slots.dropLast) : m'.pc = m.pc := by
  induction slots generalizing m with
  | nil => cases h
  | cons slot slots ih =>
    by_cases hlast : m.reg Reg.sp = 255
    · rw [popAll_cons_of_last m hlast] at h
      cases h
      rfl
    · rw [popAll_cons m hlast] at h
      cases slots with
      | nil => cases h
      | cons next rest =>
        rw [List.dropLast_cons_cons, List.mem_cons, not_or] at hpc
        rw [ih h hpc.2]
        exact Slot.pc_set_of_ne _ _ (Ne.symm hpc.1)

end Machine

end ByteMachine
