import ByteMachine.Proofs.FirstFault
import ByteMachine.Proofs.Messages
import ByteMachine.Proofs.Priority
import ByteMachine.Proofs.Running
import ByteMachine.System

/-! All that the dispatch of an interrupt does, down to the byte, whether or not its frame fits on
the stack. Near the end of memory the frame lies over the vectors, and the handler's address is
then a byte of the frame itself. -/

namespace ByteMachine

namespace Machine

/-- The frame for interrupt `n` from the first byte pushed to the last: the program counter, the
flags, R0 to R4, the mask, which is zero by then, and the status without the request. -/
def frameBytes (n : Fin 8) (m : Machine) : List Byte :=
  BitVec.ofNat 8 m.pc :: m.regs.flags ::
    (Reg.general.map m.reg ++ [0, m.reg Reg.is &&& ~~~Byte.bit n])

theorem map_get_acknowledge (m : Machine) (n : Fin 8) :
    Slot.frame.map (Slot.get (m.acknowledge n).regs) = m.frameBytes n := by
  have hreg (r : Reg) : (m.acknowledge n).regs.get r = _ := reg_acknowledge m n r
  simp only [Slot.frame, Reg.belowStack, List.map_cons, List.map_nil, Slot.get, hreg]
  rfl

/-- The mask of `m` was put aside and the request for interrupt `n` taken back, the first `k` bytes
of the frame lie from the stack pointer downwards, and `m'` is else as `m`. The program counter is
left open. -/
structure Interrupted (n : Fin 8) (k : Nat) (m m' : Machine) : Prop where
  savedMask : m'.savedMask = some (m.reg Reg.im)
  im : m'.reg Reg.im = 0
  is : m'.reg Reg.is = m.reg Reg.is &&& ~~~Byte.bit n
  reg : ∀ r, r ≠ Reg.im → r ≠ Reg.is → r ≠ Reg.sp → m'.reg r = m.reg r
  flags : m'.regs.flags = m.regs.flags
  sink : m'.sink = m.sink
  sp : (m'.reg Reg.sp).toNat + k = (m.reg Reg.sp).toNat
  stored : ∀ i < k,
    (m.frameBytes n)[i]? = some (m'.memory.load (m.reg Reg.sp - 1 - BitVec.ofNat 8 i))
  outside : ∀ a : Byte, a < m'.reg Reg.sp ∨ m.reg Reg.sp ≤ a → m'.memory.load a = m.memory.load a

theorem Interrupted.goto {m m' : Machine} {n : Fin 8} {k : Nat} (h : Interrupted n k m m')
    (pc : Nat) : Interrupted n k m (m'.goto pc) :=
  ⟨h.savedMask, h.im, h.is, h.reg, h.flags, h.sink, h.sp, h.stored, h.outside⟩

theorem Interrupted.halt {m m' : Machine} {n : Fin 8} {k : Nat} (h : Interrupted n k m m') :
    Interrupted n k m m'.halt :=
  ⟨h.savedMask, h.im, h.is, h.reg, h.flags, h.sink, h.sp, h.stored, h.outside⟩

/-- Any beginning of the frame on the stack of the machine that acknowledged the interrupt. -/
theorem Pushed.interrupted {m m' : Machine} {n : Fin 8} {k : Nat}
    (h : Pushed (m.acknowledge n) ((m.frameBytes n).take k) m') :
    Interrupted n (min k 9) m m' := by
  have hack := reg_acknowledge m n
  have hsp : (m.acknowledge n).reg Reg.sp = m.reg Reg.sp := hack Reg.sp
  have hlength : ((m.frameBytes n).take k).length = min k 9 := List.length_take
  refine ⟨h.savedMask, ?_, ?_, ?_, h.flags, h.sink, ?_, ?_, ?_⟩
  · exact (h.reg Reg.im (by decide)).trans (hack Reg.im)
  · exact (h.reg Reg.is (by decide)).trans (hack Reg.is)
  · intro r him his hne
    rw [h.reg r hne, hack, if_neg his, if_neg him]
  · rw [← hlength, h.sp, hsp]
  · intro i hi
    have hstored := h.getElem? (hlength ▸ hi)
    rwa [List.getElem?_take_of_lt (Nat.lt_of_lt_of_le hi (Nat.min_le_left k 9)), hsp] at hstored
  · intro a ha
    exact h.outside a (by rwa [hsp])

/-- As much of the frame is stored as the stack has room for, and nothing if the program counter is
outside memory. -/
theorem interrupted_dispatch (m : Machine) (n : Fin 8) :
    Interrupted n (if m.pc < 256 then min (m.reg Reg.sp).toNat 9 else 0) m
      (m.dispatch n).machine := by
  have hsp : (m.acknowledge n).reg Reg.sp = m.reg Reg.sp := reg_acknowledge m n Reg.sp
  have hpc : (m.acknowledge n).pc = m.pc := rfl
  simp only [dispatch, Outcome.after, hpc, map_get_acknowledge]
  by_cases hlt : m.pc < 256
  · have hpushed := ((m.acknowledge n).pushed_pushAll (m.frameBytes n)).interrupted
    rw [hsp] at hpushed
    rw [if_pos hlt, if_pos hlt]
    split
    · next m₁ h =>
      rw [h] at hpushed
      exact hpushed.goto _
    · next m₁ f h => rwa [h] at hpushed
  · rw [if_neg hlt, if_neg hlt]
    exact (Pushed.nil (m.acknowledge n)).interrupted (k := 0)

/-- The handler's address for interrupt `n` as it is read once the frame is stored: the byte at the
vector or, where the frame lies over the vector, the byte of the frame that is there. -/
def handlerByte (n : Fin 8) (m : Machine) : Byte :=
  let vector := 0xF8 + n.val
  if (m.reg Reg.sp).toNat ≤ vector then m.memory.load (BitVec.ofNat 8 vector)
  else (m.frameBytes n).getD ((m.reg Reg.sp).toNat - 1 - vector) 0

theorem Interrupted.load_vector {m m' : Machine} {n : Fin 8} (h : Interrupted n 9 m m') :
    m'.memory.load (vectorTable + BitVec.ofNat 8 n) = m.handlerByte n := by
  have hn := n.isLt
  have htop := (m.reg Reg.sp).isLt
  have hvector : vectorTable + BitVec.ofNat 8 n = BitVec.ofNat 8 (0xF8 + n) := by
    rw [BitVec.ofNat_add]
    rfl
  rw [handlerByte, hvector]
  by_cases hle : (m.reg Reg.sp).toNat ≤ 0xF8 + n
  · rw [if_pos hle]
    exact h.outside _ (.inr (by bv_omega))
  · have hi : (m.reg Reg.sp).toNat - 1 - (0xF8 + n) < 9 := by omega
    have haddr : m.reg Reg.sp - 1 - BitVec.ofNat 8 ((m.reg Reg.sp).toNat - 1 - (0xF8 + n)) =
        BitVec.ofNat 8 (0xF8 + n) := by
      bv_omega
    rw [if_neg hle, List.getD_eq_getElem?_getD, h.stored _ hi, haddr]
    rfl

theorem fault_dispatch_eq (m : Machine) (n : Fin 8) :
    (m.dispatch n).fault =
      if 256 ≤ m.pc then some (.outOfBounds m.pc)
      else if (m.reg Reg.sp).toNat < 9 then some .stackOverflow
      else none := by
  simp [fault_dispatch, dispatchChecks, Check.first?_cons, pcCheck]

/-- How a cycle ends that starts to dispatch interrupt `n` on `m`: with the fault `f`, if there is
one, and the machine `m'`. -/
structure Accepts (n : Fin 8) (m : Machine) (f : Option Fault) (m' : Machine) : Prop where
  astray : 256 ≤ m.pc → f = some (.outOfBounds m.pc) ∧ Interrupted n 0 m m'
  cramped : m.pc < 256 → (m.reg Reg.sp).toNat < 9 →
    f = some .stackOverflow ∧ Interrupted n (m.reg Reg.sp).toNat m m'
  roomy : m.pc < 256 → 9 ≤ (m.reg Reg.sp).toNat → f = none ∧ Interrupted n 9 m m'
  pc : m'.pc = if f = none then (m.handlerByte n).toNat else m.pc
  running : m'.running = (m.running && f.isNone)

end Machine

namespace Attempt

variable {a : Attempt} {n : Fin 8}

/-- A step that starts to dispatch an interrupt is the dispatch, and stops the machine if that meets
a fault. -/
theorem Dispatches.step (h : a.Dispatches n) :
    a.fault = (a.before.dispatch n).fault ∧
      a.after = if a.fault = none then (a.before.dispatch n).machine
        else (a.before.dispatch n).machine.halt := by
  have hpending : a.before.pending? = some n := h
  unfold fault after Machine.step
  rw [Machine.cycle, hpending]
  cases hf : (a.before.dispatch n).fault <;> simp [hf]

theorem Dispatches.interrupted (h : a.Dispatches n) :
    Machine.Interrupted n (if a.before.pc < 256 then min (a.before.reg Reg.sp).toNat 9 else 0)
      a.before a.after := by
  have hleft := a.before.interrupted_dispatch n
  by_cases hf : a.fault = none
  · rwa [h.step.2, if_pos hf]
  · rw [h.step.2, if_neg hf]
    exact hleft.halt

theorem Dispatches.accepts (h : a.Dispatches n) : a.before.Accepts n a.fault a.after := by
  have hfault := h.step.1.trans (a.before.fault_dispatch_eq n)
  have hleft := h.interrupted
  constructor
  · intro hpc
    rw [if_neg (Nat.not_lt.2 hpc)] at hleft
    rw [if_pos hpc] at hfault
    exact ⟨hfault, hleft⟩
  · intro hpc hsp
    rw [if_pos hpc, Nat.min_eq_left (Nat.le_of_lt hsp)] at hleft
    rw [if_neg (Nat.not_le.2 hpc), if_pos hsp] at hfault
    exact ⟨hfault, hleft⟩
  · intro hpc hsp
    rw [if_pos hpc, Nat.min_eq_right hsp] at hleft
    rw [if_neg (Nat.not_le.2 hpc), if_neg (Nat.not_lt.2 hsp)] at hfault
    exact ⟨hfault, hleft⟩
  · cases hf : a.fault with
    | none =>
      have hd := h.dispatched hf
      have hsp : 9 ≤ (a.before.reg Reg.sp).toNat := Nat.le.intro ((Nat.add_comm _ _).trans hd.sp)
      rw [if_pos hd.pc_lt, Nat.min_eq_right hsp] at hleft
      rw [hd.pc, hleft.load_vector, if_pos rfl]
    | some f => rw [(h.kept hf).1, if_neg (Option.some_ne_none f)]
  · cases hf : a.fault with
    | none => simp [h.step.2, hf, Machine.running_dispatch]
    | some f => simp [running_of_fault hf]

end Attempt

theorem System.step_of_pending {s : System} {n : Fin 8} (h : s.machine.pending? = some n)
    (now : Nat) : s.step now = (s.absorb (s.machine.step false), (s.machine.step false).fault) := by
  simp only [step, tick, h]

/-- A cycle that finds a requested interrupt let through, and no mask put aside, asks no timer and
shows no instruction. It dispatches the lowest such interrupt: all of that is done, or as much as
comes before the fault. -/
theorem System.step_of_requests {s : System} (hs : s.machine.savedMask = none)
    (hr : s.machine.requests ≠ 0) :
    ∃ n : Fin 8,
      (s.machine.requests.getLsbD n = true ∧
        ∀ k : Fin 8, k < n → s.machine.requests.getLsbD k = false) ∧
      ∀ now, (s.step now).1.timer = s.timer ∧
        (s.step now).1.log =
          s.log.push (.interrupt n (s.machine.reg Reg.im) (s.machine.reg Reg.is)) ∧
        s.machine.Accepts n (s.step now).2 (s.step now).1.machine := by
  have hpending : s.machine.pending? ≠ none := fun h =>
    hr (Machine.requests_of_pending?_none h hs)
  obtain ⟨n, hn⟩ := Option.ne_none_iff_exists'.1 hpending
  refine ⟨n, Byte.lowest?_eq_some (Machine.lowest?_requests_of_pending? hn), ?_⟩
  intro now
  have hevents := Attempt.events_of_dispatches (a := ⟨s.machine, false⟩) hn
  rw [step_of_pending hn]
  refine ⟨rfl, ?_, Attempt.Dispatches.accepts (a := ⟨s.machine, false⟩) hn⟩
  show s.log ++ (s.machine.step false).events = _
  rw [show (s.machine.step false).events = [_] from hevents]
  rfl

/-- Interrupts 1 and 2 are requested and let through, the timer would tick at any time, and the
frame will lie over the vectors 0 to 2. -/
def overlaid : System where
  machine :=
    (((((Machine.fresh .unbounded).setReg Reg.im 6).setReg Reg.is 7).setReg Reg.sp 0xFB).setFlags
      0x55).goto 7
  timer := ⟨0, 5⟩
  log := #[]

theorem step_of_requests_overlaid :
    overlaid.machine.savedMask = none ∧ overlaid.machine.requests ≠ 0 ∧
      (overlaid.step 9).2 = none ∧ (overlaid.step 9).1.timer = ⟨0, 5⟩ ∧
      Machine.Interrupted 1 9 overlaid.machine (overlaid.step 9).1.machine ∧
      (overlaid.step 9).1.machine.pc = 0x55 := by
  have hs : overlaid.machine.savedMask = none := by decide +kernel
  have hr : overlaid.machine.requests ≠ 0 := by decide +kernel
  have hlowest : ∀ n : Fin 8, overlaid.machine.requests.getLsbD n = true →
      (∀ k : Fin 8, k < n → overlaid.machine.requests.getLsbD k = false) → n = 1 := by
    decide +kernel
  obtain ⟨n, ⟨hn, hbelow⟩, hstep⟩ := System.step_of_requests hs hr
  obtain rfl := hlowest n hn hbelow
  obtain ⟨htimer, -, haccepts⟩ := hstep 9
  obtain ⟨hf, hleft⟩ := haccepts.roomy (by decide +kernel) (by decide +kernel)
  refine ⟨hs, hr, hf, htimer, hleft, ?_⟩
  rw [haccepts.pc, if_pos hf]
  decide +kernel

end ByteMachine
