import ByteMachine.CommandLine.Session
import ByteMachine.Proofs.Block
import ByteMachine.Proofs.Fetch
import ByteMachine.Proofs.Grammar
import ByteMachine.Proofs.Spelling

/-! Programs brought to memory. What fits of a program is stored, and what `parse` accepts always
fits, so that a session never fails to copy its program. -/

namespace ByteMachine

namespace Machine

/-- `m'` is `m` with the program at the addresses from 0 on. -/
structure Loaded (m : Machine) (program : List Byte) (m' : Machine) : Prop where
  code : ∀ (i : Nat) (h : i < program.length), m'.memory.get? i = some program[i]
  rest : ∀ i, program.length ≤ i → m'.memory.get? i = m.memory.get? i
  regs : m'.regs = m.regs
  savedMask : m'.savedMask = m.savedMask
  running : m'.running = m.running
  sink : m'.sink = m.sink

theorem fault_load (m : Machine) (program : List Byte) :
    (m.load program).fault =
      if program.length ≤ Memory.size then none else some (.outOfBounds Memory.size) := by
  have hfault : (m.load program).fault = (m.memory.writeBlock 0 program).2 := rfl
  have hfits : (program = [] ∨ 0 + program.length ≤ Memory.size) ↔
      program.length ≤ Memory.size := by
    rw [Nat.zero_add, or_iff_right_iff_imp]
    rintro rfl
    exact Nat.zero_le _
  rw [hfault, Memory.fault_writeBlock]
  simp only [hfits, Nat.zero_max]

theorem fault_load_eq_some_iff {m : Machine} {program : List Byte} {f : Fault} :
    (m.load program).fault = some f ↔
      Memory.size < program.length ∧ f = .outOfBounds Memory.size := by
  rw [fault_load]
  split
  · next h => simp [Nat.not_lt.2 h]
  · next h => simp [Nat.lt_of_not_le h, eq_comm]

theorem fault_load_ne_none_iff {m : Machine} {program : List Byte} :
    (m.load program).fault ≠ none ↔ Memory.size < program.length := by
  simp [Option.ne_none_iff_exists', fault_load_eq_some_iff]

theorem memory_load (m : Machine) (program : List Byte) (i : Nat) :
    (m.load program).machine.memory.get? i =
      if i < (program.take Memory.size).length then program[i]? else m.memory.get? i := by
  have hmemory : (m.load program).machine.memory = (m.memory.writeBlock 0 program).1 := rfl
  rw [hmemory, Memory.get?_writeBlock, List.length_take, Nat.min_comm]
  simp only [Nat.zero_le, true_and, Nat.zero_add, Nat.sub_zero]

/-- Whether or not the program fits, what fits of it is loaded. -/
theorem loaded_take (m : Machine) (program : List Byte) :
    m.Loaded (program.take Memory.size) (m.load program).machine where
  code i h := by
    rw [memory_load, if_pos h, List.getElem_take]
    exact List.getElem?_eq_getElem _
  rest i h := by rw [memory_load, if_neg (Nat.not_lt.2 h)]
  regs := rfl
  savedMask := rfl
  running := rfl
  sink := rfl

end Machine

namespace Program

theorem length_le_of_parse {source : String} {p : List Byte} (h : parse source = .ok p) :
    p.length ≤ Memory.size := by
  obtain ⟨code, hreads⟩ := exists_reads source
  obtain ⟨-, hlength, hbytes⟩ := hreads.parse_eq_ok_iff.1 h
  have hsame := congrArg List.length hbytes
  rw [List.length_map, List.length_map] at hsame
  rwa [hsame]

theorem fault_load_of_parse {source : String} {p : List Byte} (h : parse source = .ok p)
    (m : Machine) : (m.load p).fault = none := by
  rw [Machine.fault_load, if_pos (length_le_of_parse h)]

/-- Where every line of code is a byte, the text is too large exactly if its bytes do not fit. -/
theorem Reads.tooLarge_iff {source : String} {code : List CodeLine} (h : Reads source code)
    (hbytes : ∀ line ∈ code, IsByte line.text) :
    (∃ n, parse source = .error (.tooLarge n)) ↔ Memory.size < (bytes code).length := by
  rw [length_bytes]
  constructor
  · rintro ⟨n, hn⟩
    rcases h.parse_eq_error_iff.1 hn with ⟨line, -, herror⟩ | ⟨-, hlt, -⟩
    · cases herror
    · exact hlt
  · intro hlt
    exact ⟨code.length, h.parse_eq_error_iff.2 (.inr ⟨hbytes, hlt, rfl⟩)⟩

theorem exists_parse_of_ofFile {content : Except ReadError ByteArray} {p : List Byte}
    (h : ofFile content = .ok p) : ∃ source, parse source = .ok p := by
  cases content with
  | error cause => cases h
  | ok file =>
    rw [ofFile] at h
    cases hsource : String.fromUTF8? file with
    | none =>
      rw [hsource] at h
      cases h
    | some source =>
      rw [hsource] at h
      exact ⟨source, h⟩

/-- A file that holds a text is read as that text. -/
theorem ofFile_toUTF8 (source : String) : ofFile (.ok source.toUTF8) = parse source := by
  rw [ofFile, Text.fromUTF8?_toUTF8]

end Program

theorem mapError_eq_ok {ε ε' α : Type} {x : Except ε α} {f : ε → ε'} {a : α} :
    x.mapError f = .ok a ↔ x = .ok a := by
  cases x <;> simp [Except.mapError]

namespace CommandLine

/-- A job comes from a timer period, a limit and a program that could be read. -/
theorem Job.prepare_eq_ok_iff {args : Arguments} {content : Except ReadError ByteArray}
    {job : Job} :
    Job.prepare args content = .ok job ↔
      Text.readWord args.timerMillis.toList = .ok job.timerMillis ∧
        Job.readLimit args.maxSteps = .ok job.limit ∧
        Program.ofFile content = .ok job.program := by
  simp only [prepare, bind_eq_ok, mapError_eq_ok]
  constructor
  · rintro ⟨millis, hmillis, limit, hlimit, program, hprogram, hjob⟩
    cases hjob
    exact ⟨hmillis, hlimit, hprogram⟩
  · rintro ⟨hmillis, hlimit, hprogram⟩
    exact ⟨_, hmillis, _, hlimit, _, hprogram, rfl⟩

end CommandLine

/-- Whatever `parse` accepts is loaded as it is, and a program is refused by the memory exactly if
it is longer than that, after the part that fits has been stored. So both agree on which programs
are too large, and the machine of a session always gets its program. -/
theorem Program.loads_exactly :
    (∀ source p, parse source = .ok p → ∀ m : Machine,
      (m.load p).fault = none ∧ m.Loaded p (m.load p).machine) ∧
    (∀ (m : Machine) (p : List Byte),
      (∀ f, (m.load p).fault = some f ↔ 256 < p.length ∧ f = .outOfBounds 256) ∧
        m.Loaded (p.take 256) (m.load p).machine) ∧
    (∀ source code, Reads source code → (∀ line ∈ code, IsByte line.text) → ∀ m : Machine,
      (∃ n, parse source = .error (.tooLarge n)) ↔ ((m.load (bytes code)).fault ≠ none)) ∧
    ∀ args content job now, CommandLine.Job.prepare args content = .ok job →
      (job.boot now).2 = none := by
  refine ⟨?_, ?_, ?_, ?_⟩
  · intro source p h m
    have hloaded := m.loaded_take p
    rw [List.take_of_length_le (length_le_of_parse h)] at hloaded
    exact ⟨fault_load_of_parse h m, hloaded⟩
  · intro m p
    exact ⟨fun f => Machine.fault_load_eq_some_iff, m.loaded_take p⟩
  · intro source code h hbytes m
    rw [h.tooLarge_iff hbytes, Machine.fault_load_ne_none_iff]
  · intro args content job now h
    obtain ⟨-, -, hprogram⟩ := CommandLine.Job.prepare_eq_ok_iff.1 h
    obtain ⟨source, hsource⟩ := exists_parse_of_ofFile hprogram
    exact fault_load_of_parse hsource _

namespace Program

/-- A source of `n` bytes, all of them 1. -/
def ones (n : Nat) : String := String.ofList (List.replicate n ['1', '\n']).flatten

theorem lines_ones (n : Nat) :
    Text.lines (List.replicate n ['1', '\n']).flatten = List.replicate n ['1'] := by
  induction n with
  | zero => rfl
  | succ n ih => simp [List.replicate_succ, Text.lines, ih]

theorem ofLines_ones (k n : Nat) :
    ofLines k (List.replicate n ['1']) = .ok (List.replicate n 1) := by
  induction n generalizing k with
  | zero => rfl
  | succ n ih =>
    have hcode : isCode ['1'] = true := rfl
    have hbyte : readByte? (codeText ['1']) = some 1 := by decide +kernel
    rw [List.replicate_succ, ofLines, if_pos hcode, hbyte, ih]
    rfl

theorem parse_ones (n : Nat) :
    parse (ones n) =
      if Memory.size < n then .error (.tooLarge n) else .ok (List.replicate n 1) := by
  rw [parse, ones, String.toList_ofList, lines_ones, ofLines_ones]
  show (if Memory.size < (List.replicate n 1).length then _ else _) = _
  rw [List.length_replicate]

/-- The largest program that memory holds, and one byte more. -/
theorem loads_exactly_ones :
    let m := (Machine.fresh .unbounded).store 0 9
    let args : CommandLine.Arguments := ⟨"ones", false, "0", none⟩
    (∃ p, parse (ones 256) = .ok p ∧ p = List.replicate 256 1 ∧ (m.load p).fault = none ∧
      m.Loaded p (m.load p).machine) ∧
    (∃ code, Reads (ones 257) code ∧ parse (ones 257) = .error (.tooLarge 257) ∧
      (m.load (bytes code)).fault ≠ none) ∧
    (∃ p, p = List.replicate 257 1 ∧ (m.load p).fault = some (.outOfBounds 256) ∧
      m.Loaded (p.take 256) (m.load p).machine) ∧
    ∃ job, CommandLine.Job.prepare args (.ok (ones 256).toUTF8) = .ok job ∧
      (job.boot 5).2 = none := by
  intro m args
  have hfits : parse (ones 256) = .ok (List.replicate 256 1) := parse_ones 256
  have hlarge : parse (ones 257) = .error (.tooLarge 257) := parse_ones 257
  obtain ⟨hparsed, hany, hagree, hboot⟩ := loads_exactly
  refine ⟨?_, ?_, ?_, ?_⟩
  · obtain ⟨hnone, hloaded⟩ := hparsed _ _ hfits m
    exact ⟨_, hfits, rfl, hnone, hloaded⟩
  · obtain ⟨code, hreads⟩ := exists_reads (ones 257)
    rcases hreads.parse_eq_error_iff.1 hlarge with ⟨line, -, herror⟩ | ⟨hbytes, -⟩
    · cases herror
    · exact ⟨code, hreads, hlarge, (hagree _ code hreads hbytes m).1 ⟨257, hlarge⟩⟩
  · obtain ⟨hfault, hloaded⟩ := hany m (List.replicate 257 1)
    have hlong : 256 < (List.replicate 257 (1 : Byte)).length := by
      rw [List.length_replicate]
      decide
    exact ⟨_, rfl, (hfault _).2 ⟨hlong, rfl⟩, hloaded⟩
  · have hprogram : ofFile (.ok (ones 256).toUTF8) = .ok (List.replicate 256 1) :=
      (ofFile_toUTF8 _).trans hfits
    have hmillis : Text.readWord args.timerMillis.toList = .ok 0 := by decide +kernel
    have hprepare : CommandLine.Job.prepare args (.ok (ones 256).toUTF8) =
        .ok ⟨0, none, List.replicate 256 1⟩ :=
      CommandLine.Job.prepare_eq_ok_iff.2 ⟨hmillis, rfl, hprogram⟩
    exact ⟨_, hprepare, hboot _ _ _ 5 hprepare⟩

end Program

end ByteMachine
