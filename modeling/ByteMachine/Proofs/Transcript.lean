import ByteMachine.Proofs.Ending
import ByteMachine.Proofs.Layout
import ByteMachine.Proofs.Printing
import ByteMachine.Proofs.Spelling

/-! What a machine prints, one piece for each printing instruction that it executes. An endless sink
gets the pieces in the order of execution, and they can be read back from the text that it holds. -/

namespace ByteMachine

/-- What one printing instruction puts out. -/
inductive Print where
  | number (v : Byte)
  | character (v : Byte)
  deriving DecidableEq

namespace Print

def isCharacter : Print → Bool
  | .number _ => false
  | .character _ => true

/-- The numeral of a number on a line of its own, or the code point of a character in UTF-8. -/
def bytes : Print → List Byte
  | .number v => Text.numeral v.toNat ++ [0x0A]
  | .character v => if v < 128 then [v] else [0xC0 ||| v >>> 6, 0x80 ||| v &&& 0x3F]

def text : Print → List Char
  | .number v => Machine.numberText v
  | .character v => Machine.characterText v

theorem utf8_characterText (v : Byte) :
    Text.utf8 (Machine.characterText v) = (character v).bytes := by
  -- The encoder works on code points, of which a byte gives only these few.
  revert v
  decide +kernel

theorem utf8_text (p : Print) : Text.utf8 p.text = p.bytes := by
  cases p with
  | number v =>
    rw [text, Machine.numberText, Text.utf8_append, Text.utf8_decimal]
    rfl
  | character v => exact utf8_characterText v

theorem utf8_flatMap_text (prints : List Print) :
    Text.utf8 (prints.flatMap text) = prints.flatMap bytes := by
  rw [Text.utf8_flatMap]
  simp only [utf8_text]

theorem toNat_le_of_mem_text {p : Print} {c : Char} (h : c ∈ p.text) : c.toNat ≤ 0xFF := by
  cases p with
  | number v =>
    rcases List.mem_append.1 h with hdigit | hnew
    · have hle : c.toNat ≤ '9'.toNat := (Radix.between_of_mem_decimal hdigit).2
      exact Nat.le_trans hle (by decide)
    · rw [List.mem_singleton.1 hnew]
      decide
  | character v =>
    have hv := v.isLt
    rw [List.mem_singleton.1 h, Text.toNat_ofNat_byte]
    omega

theorem toNat_flatMap_character (vs : List Byte) :
    ((vs.map character).flatMap text).map Char.toNat = vs.map BitVec.toNat := by
  induction vs with
  | nil => rfl
  | cons v vs ih =>
    rw [List.map_cons, List.flatMap_cons, List.map_append, ih]
    exact congrArg (· :: _) (Text.toNat_ofNat_byte v)

/-- Numbers stand on a line each. -/
theorem lines_flatMap_number (vs : List Byte) :
    Text.lines ((vs.map number).flatMap text) =
      vs.map fun v => (Radix.decimal v.toNat).toList := by
  induction vs with
  | nil => rfl
  | cons v vs ih =>
    have hdigits {c : Char} (hc : c ∈ (Radix.decimal v.toNat).toList) : '0' ≤ c :=
      (Radix.between_of_mem_decimal hc).1
    have hnew : '\n' ∉ (Radix.decimal v.toNat).toList := fun h => absurd (hdigits h) (by decide)
    have hreturn : (Radix.decimal v.toNat).toList.getLast? ≠ some '\r' := fun h =>
      absurd (hdigits (List.mem_of_getLast? h)) (by decide)
    rw [List.map_cons, List.flatMap_cons, text, Machine.numberText, List.append_assoc,
      List.singleton_append, Text.lines_append_newline _ hnew hreturn, ih, List.map_cons]

theorem readWord_number (v : Byte) :
    Text.readWord (Radix.decimal v.toNat).toList = .ok v.toNat := by
  have hv := v.isLt
  have hrange : Text.wordRange = 18446744073709551616 := rfl
  exact Text.readWord_decimal (by omega)

end Print

/-- The prints can be read from a text. The values of characters are its code points, and those of
numbers are the numbers on its lines. -/
structure Tells (text : String) (prints : List Print) : Prop where
  codePoints : ∀ c ∈ text.toList, c.toNat ≤ 0xFF
  characters : ∀ vs : List Byte, prints = vs.map .character →
    text.toList.map Char.toNat = vs.map BitVec.toNat
  numbers : ∀ vs : List Byte, prints = vs.map .number →
    (Text.lines text.toList).map Text.readWord = vs.map fun v => .ok v.toNat

theorem tells_text (prints : List Print) :
    Tells (String.ofList (prints.flatMap Print.text)) prints where
  codePoints := by
    intro c hc
    rw [String.toList_ofList, List.mem_flatMap] at hc
    obtain ⟨p, -, hp⟩ := hc
    exact Print.toNat_le_of_mem_text hp
  characters := by
    rintro vs rfl
    rw [String.toList_ofList, Print.toNat_flatMap_character]
  numbers := by
    rintro vs rfl
    rw [String.toList_ofList, Print.lines_flatMap_number, List.map_map]
    exact List.map_congr_left fun v _ => Print.readWord_number v

/-- The sink took these prints, flushed for each character, and nothing else, so that it holds a text
that tells them. -/
structure Sink.Transcribes (s : Sink) (prints : List Print) : Prop where
  written : s.written.toList = prints.flatMap Print.bytes
  flushes : s.flushes = prints.countP Print.isCharacter
  readable : ∃ text, String.fromUTF8? (Text.byteArray s.written.toList) = some text ∧
    Tells text prints

namespace Sink

@[simp] theorem accept_nil (s : Sink) : s.accept [] 0 = s := by simp [accept, extend]

theorem accept_accept (s : Sink) (bs bs' : List Byte) (n n' : Nat) :
    (s.accept bs n).accept bs' n' = s.accept (bs ++ bs') (n + n') := by
  have hbytes : s.written ++ bs ++ bs' = s.written ++ (bs ++ bs') := Array.ext' (by simp)
  simp only [accept, extend, hbytes, Nat.add_assoc]

/-- The sink after these prints. -/
def take (s : Sink) (prints : List Print) : Sink :=
  s.accept (prints.flatMap Print.bytes) (prints.countP Print.isCharacter)

theorem take_append (s : Sink) (prints prints' : List Print) :
    s.take (prints ++ prints') = (s.take prints).take prints' := by
  rw [take, take, take, accept_accept, List.flatMap_append, List.countP_append]

theorem transcribes_take (prints : List Print) : (unbounded.take prints).Transcribes prints := by
  have hwritten : (unbounded.take prints).written.toList = prints.flatMap Print.bytes := by
    simp [take, accept, extend, unbounded]
  refine ⟨hwritten, ?_, _, ?_, tells_text prints⟩
  · exact Nat.zero_add _
  · rw [hwritten, ← Print.utf8_flatMap_text, Text.fromUTF8?_utf8]

end Sink

namespace Machine

/-- What the instruction prints, if it is a printing one. -/
def print? (m : Machine) : Instruction → Option Print
  | .prn a => some (.number (m.reg a))
  | .pra a => some (.character (m.reg a))
  | _ => none

theorem output_eq (m : Machine) (i : Instruction) :
    m.output i = (m.print? i).toList.flatMap Print.bytes := by
  cases i with
  | prn a | pra a =>
    rw [print?, Option.toList_some, List.flatMap_singleton, ← Print.utf8_text]
    rfl
  | _ => rfl

theorem flushes_eq (m : Machine) (i : Instruction) :
    i.flushes = (m.print? i).toList.countP Print.isCharacter := by
  cases i <;> rfl

end Machine

namespace Attempt

/-- What the step prints, if it executes a printing instruction. -/
def print? (a : Attempt) : Option Print := a.instruction?.bind a.polled.print?

/-- What the steps print, in the order of execution. -/
def transcript (steps : List Attempt) : List Print := steps.filterMap print?

theorem transcript_cons (a : Attempt) (steps : List Attempt) :
    transcript (a :: steps) = a.print?.toList ++ transcript steps := by
  rw [transcript, List.filterMap_cons]
  cases a.print? <;> rfl

/-- With an endless sink a step puts out its print, if it has one. -/
theorem sink_after_eq_take {a : Attempt} (h : a.before.sink.Endless) :
    a.after.sink = a.before.sink.take a.print?.toList := by
  rw [sink_after h, Sink.take, printed, flushed, print?]
  cases a.instruction? with
  | none => rfl
  | some i =>
    show a.before.sink.accept (a.polled.output i) i.flushes = _
    rw [a.polled.output_eq, a.polled.flushes_eq]
    rfl

end Attempt

namespace Machine

/-- Steps in a row put out their prints in a row. -/
theorem sink_stepAll {m : Machine} (h : m.sink.Endless) (ticks : List Bool) :
    (m.stepAll ticks).sink = m.sink.take (Attempt.transcript (m.attempts ticks)) := by
  induction ticks generalizing m with
  | nil => exact m.sink.accept_nil.symm
  | cons tick ticks ih =>
    have hnext := Attempt.endless_after (a := ⟨m, tick⟩) h
    have hstep := Attempt.sink_after_eq_take (a := ⟨m, tick⟩) h
    rw [attempts, Attempt.transcript_cons, Sink.take_append, ← hstep]
    exact ih hnext

end Machine

namespace System

/-- What the first `k` steps print. -/
def transcript (s : System) (clock : Nat → Nat) (k : Nat) : List Print :=
  Attempt.transcript ((List.range k).map (s.attempt clock))

theorem sink_after {s : System} (h : s.machine.sink.Endless) (clock : Nat → Nat) (k : Nat) :
    (s.after clock k).machine.sink = s.machine.sink.take (s.transcript clock k) := by
  have hsteps := s.attempts_range' clock 0 k
  have hlast := s.stepAll_range' clock 0 k
  rw [Nat.zero_add] at hlast
  rw [transcript, List.range_eq_range', ← hsteps, ← hlast]
  exact Machine.sink_stepAll h _

end System

theorem Sink.endless_unbounded : unbounded.Endless := ⟨rfl, rfl⟩

/-- What a sink holds that is empty at first and takes everything is what was printed, in order, and
can be read back. This holds after any steps in a row, and of a run also if a fault ends it. -/
theorem output_transcribes :
    (∀ (m : Machine) (ticks : List Bool), m.sink = .unbounded →
      (m.stepAll ticks).sink.Transcribes (Attempt.transcript (m.attempts ticks))) ∧
    ∀ (s : System) (clock : Nat → Nat), s.machine.sink = .unbounded →
      (∀ k, (s.after clock k).machine.sink.Transcribes (s.transcript clock k)) ∧
      ∀ limit done, s.run limit clock = some done →
        ∃ k, (s.started (clock 0)).Took clock done k ∧
          done.system.machine.sink.Transcribes ((s.started (clock 0)).transcript clock k) := by
  have hafter {s : System} (hs : s.machine.sink = .unbounded) (clock : Nat → Nat) (k : Nat) :
      (s.after clock k).machine.sink.Transcribes (s.transcript clock k) := by
    rw [System.sink_after (hs ▸ Sink.endless_unbounded), hs]
    exact Sink.transcribes_take _
  refine ⟨?_, ?_⟩
  · intro m ticks hm
    rw [Machine.sink_stepAll (hm ▸ Sink.endless_unbounded), hm]
    exact Sink.transcribes_take _
  · intro s clock hs
    refine ⟨hafter hs clock, ?_⟩
    intro limit done hdone
    obtain ⟨k, htook⟩ := System.exists_took_of_run hdone
    refine ⟨k, htook, ?_⟩
    rw [htook.machine, Machine.sink_halt]
    exact hafter (s := s.started (clock 0)) hs clock k

/-- Prints 200 as a number and as a character, and comes to a byte that is no opcode. -/
def derailing : System where
  machine := (Machine.fresh .unbounded).patch
    [(0, 0x82), (2, 200), (3, 0x47), (5, 0x48), (7, 0xFF)]
  timer := ⟨0, 0⟩
  log := #[]

theorem output_transcribes_derailing :
    derailing.machine.sink = .unbounded ∧
      (derailing.machine.stepAll [true, false]).sink.Transcribes [.number 200] ∧
      (derailing.after id 3).machine.sink.Transcribes [.number 200, .character 200] ∧
      ∃ done, derailing.run (some 9) id = some done ∧
        done.result = .error (.unsupportedOperation 0xFF) ∧
        done.system.machine.sink.Transcribes [.number 200, .character 200] := by
  have hopen : derailing.machine.sink = .unbounded := rfl
  have hresult : (derailing.run (some 9) id).map Finished.result =
      some (.error (.unsupportedOperation 0xFF)) := by decide +kernel
  have hgood : ∀ i < 3, ((derailing.started 0).attempt id i).fault = none := by decide +kernel
  have hbad : ((derailing.started 0).attempt id 3).fault ≠ none := by decide +kernel
  have hone : Attempt.transcript (derailing.machine.attempts [true, false]) = [.number 200] := by
    decide +kernel
  have htwo : derailing.transcript id 3 = [.number 200, .character 200] := by decide +kernel
  have hall : (derailing.started 0).transcript id 4 = [.number 200, .character 200] := by
    decide +kernel
  obtain ⟨done, hdone, hfault⟩ := Option.map_eq_some_iff.1 hresult
  obtain ⟨hsteps, hsystem⟩ := output_transcribes
  obtain ⟨hafter, hruns⟩ := hsystem derailing id hopen
  obtain ⟨k, htook, hsink⟩ := hruns _ _ hdone
  -- The steps before the last one go on, and the last one meets the fault.
  obtain ⟨i, rfl, hi⟩ := htook.error _ hfault
  have hlast : i = 3 := by
    refine Nat.le_antisymm (Nat.le_of_not_lt fun hlt => hbad (htook.goesOn 3 hlt).1)
      (Nat.le_of_not_lt fun hlt => ?_)
    cases (hgood i hlt).symm.trans hi
  subst hlast
  exact ⟨hopen, hone ▸ hsteps _ _ hopen, htwo ▸ hafter 3, done, hdone, hfault, hall ▸ hsink⟩

end ByteMachine
