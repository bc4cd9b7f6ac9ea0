/-
# The lines of a trace

The trace is one text with a line for every entry: no entry holds a line feed, so cutting the text
at its line feeds gives the entries back.
-/

import Chip8.Emulator.Basic
import Chip8.Proofs.Instruction.Spelling
import Chip8.Proofs.Text.Inline

namespace Chip8

open Text

theorem Registers.isInline_text (r : Registers) : IsInline r.text := by
  have hblank : IsInline [' '] := by decide
  unfold text textWaiting
  cases r.keyWait with
  | none => simp [isInline_join_map hblank, registerText]
  | some x => simp [isInline_join_map hblank, registerText]

theorem Fault.isInline_message (fault : Fault) : IsInline fault.message.toList := by
  unfold message
  cases fault with
  | undrawn reason =>
    unfold DrawError.message
    cases reason <;> simp [toString]
  | stackOverflow limit address | stackUnderflow address => simp [toString]

/-- Every entry of the trace is one line. -/
theorem TraceEntry.isInline_text (entry : TraceEntry) : IsInline entry.text := by
  unfold text
  cases entry with
  | attempt word registers =>
    have hinstruction := isInline_padRight (decode word).isStatement_text.isInline instructionColumn
    simp [hinstruction, registers.isInline_text]
  | failure fault => simp [fault.isInline_message]

/-- The lines of the trace are its entries. -/
theorem Emulator.cut_traceText {ρ : Type} (e : Emulator ρ) (hne : e.trace ≠ #[]) :
    cut (· == '\n') e.traceText = e.trace.toList.map TraceEntry.text := by
  have hentries : e.trace.toList.map TraceEntry.text ≠ [] := by simpa using hne
  refine cut_join_lineFeed hentries fun line hmem => ?_
  obtain ⟨entry, -, rfl⟩ := List.mem_map.1 hmem
  exact entry.isInline_text

end Chip8
