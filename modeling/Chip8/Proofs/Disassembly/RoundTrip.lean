/-
# From bytes to text and back

A disassembly walks through the words of the bytes. Its text is a source of plain statements, so
assembling it gives the encodings of the disassembled instructions. A word comes back as the
encoding of what it decodes to: words that no instruction has are lost, and after one round trip
there are none left.
-/

import Chip8.Disassembly
import Chip8.Proofs.Instruction.Words
import Chip8.Proofs.Program.Joining

namespace Chip8

theorem bytesOfWord_wordOfBytes (high low : UInt8) :
    bytesOfWord (wordOfBytes high low) = [high, low] := by
  have hhigh : (high.toNat * 256 + low.toNat) / 256 = high.toNat := by
    have hlow := low.toNat_lt
    omega
  have hlow : UInt8.ofNat (high.toNat * 256 + low.toNat) = low := by
    rw [← UInt8.toNat_inj, UInt8.toNat_ofNat']
    have hbound := low.toNat_lt
    omega
  rw [bytesOfWord, wordOfBytes_eq_add, hhigh, hlow, UInt8.ofNat_toNat]

namespace Disassembly

/-- The words in a row of bytes. -/
def wordsOf : List UInt8 → List Nat
  | high :: low :: rest => wordOfBytes high low :: wordsOf rest
  | _ => []

/-- Fewer than two bytes hold no word. -/
theorem wordsOf_of_short {bytes : List UInt8}
    (hshort : ∀ high low rest, bytes = high :: low :: rest → False) : wordsOf bytes = [] := by
  unfold wordsOf
  split
  · exact absurd rfl (hshort _ _ _)
  · rfl

/-- The words whose instructions are shown. -/
def shownWords (bytes : List UInt8) (stopAtNop : Bool) : List Nat :=
  if stopAtNop then (wordsOf bytes).takeWhile fun word => decode word != .nop else wordsOf bytes

/-- A disassembly decodes the words that it shows. -/
theorem disassemble_eq (bytes : List UInt8) (stopAtNop : Bool) :
    disassemble bytes stopAtNop = (shownWords bytes stopAtNop).map decode := by
  fun_induction disassemble bytes stopAtNop with
  | case1 high low rest stopAtNop i hstop =>
    obtain ⟨rfl, hnop⟩ := Bool.and_eq_true_iff.1 hstop
    rw [shownWords, if_pos rfl, wordsOf, List.takeWhile_cons_of_neg (by simpa using hnop)]
    rfl
  | case2 high low rest stopAtNop i hgoes ih =>
    rw [ih]
    cases stopAtNop with
    | false => rfl
    | true =>
      have hshown : (decode (wordOfBytes high low) != .nop) = true := by simpa using hgoes
      rw [shownWords, shownWords, if_pos rfl, if_pos rfl, wordsOf, List.takeWhile_cons,
        if_pos hshown]
      rfl
  | case3 bytes stopAtNop hshort =>
    cases stopAtNop <;> simp [shownWords, wordsOf_of_short hshort]

/-- A disassembly that does not stop decodes all words. -/
theorem disassemble_false (bytes : List UInt8) :
    disassemble bytes false = (wordsOf bytes).map decode := disassemble_eq bytes false

/-- A disassembly that stops shows what lies in front of the first `NOP`. -/
theorem disassemble_true (bytes : List UInt8) :
    disassemble bytes true = (disassemble bytes false).takeWhile (· != .nop) := by
  rw [disassemble_eq, disassemble_false, List.takeWhile_map, shownWords, if_pos rfl]
  rfl

theorem length_flatMap_bytesOfWord (words : List Nat) :
    (words.flatMap bytesOfWord).length = 2 * words.length := by
  induction words with
  | nil => rfl
  | cons word rest ih =>
    rw [List.flatMap_cons, List.length_append, ih, List.length_cons]
    simp only [bytesOfWord, List.length_cons, List.length_nil]
    omega

theorem length_wordsOf : ∀ bytes : List UInt8, (wordsOf bytes).length = bytes.length / 2
  | [] => rfl
  | [_] => by simp [wordsOf]
  | high :: low :: rest => by
    have hrest := length_wordsOf rest
    simp only [wordsOf, List.length_cons, hrest]
    omega

theorem wordsOf_flatMap_bytesOfWord {words : List Nat} (hwords : ∀ w ∈ words, w < 65536) :
    wordsOf (words.flatMap bytesOfWord) = words := by
  induction words with
  | nil => rfl
  | cons word rest ih =>
    have hrest := ih fun w hw => hwords w (List.mem_cons_of_mem word hw)
    rw [List.flatMap_cons, bytesOfWord]
    simp only [List.cons_append, List.nil_append, wordsOf, hrest]
    rw [wordOfBytes_ofNat (hwords word List.mem_cons_self)]

/-- The bytes of the words are all bytes, or all but the last one. -/
theorem flatMap_bytesOfWord_wordsOf :
    ∀ bytes : List UInt8,
      (wordsOf bytes).flatMap bytesOfWord = bytes.take (2 * (bytes.length / 2))
  | [] => rfl
  | [_] => by simp [wordsOf]
  | high :: low :: rest => by
    have hlength : 2 * ((high :: low :: rest).length / 2) = 2 * (rest.length / 2) + 1 + 1 := by
      simp only [List.length_cons]
      omega
    rw [wordsOf, List.flatMap_cons, bytesOfWord_wordOfBytes, flatMap_bytesOfWord_wordsOf rest,
      hlength, List.take_succ_cons, List.take_succ_cons]
    rfl

theorem flatMap_bytes_eq (is : List Instruction) :
    is.flatMap Instruction.bytes = (is.map Instruction.encode).flatMap bytesOfWord := by
  rw [List.flatMap_map]
  rfl

/-- The bytes of instructions are disassembled to the instructions. -/
theorem disassemble_false_flatMap_bytes (is : List Instruction) :
    disassemble (is.flatMap Instruction.bytes) false = is := by
  have hwords : ∀ w ∈ is.map Instruction.encode, w < 65536 := by
    intro w hw
    obtain ⟨i, -, rfl⟩ := List.mem_map.1 hw
    exact i.encode_lt
  rw [disassemble_false, flatMap_bytes_eq, wordsOf_flatMap_bytesOfWord hwords, List.map_map]
  exact (List.map_congr_left fun i _ => i.decode_encode).trans (List.map_id is)

/-- The statements of the text of instructions are the texts of the instructions. -/
theorem map_text_statements_text (is : List Instruction) :
    (Source.statements (text is)).map Statement.text = is.map Instruction.text := by
  have hseparates : Source.Separates [';', '\n'] := ⟨by simp, by simp⟩
  refine Source.map_text_statements_of_joined (fun t ht => ?_)
    (Source.joined_join hseparates _)
  obtain ⟨i, -, rfl⟩ := List.mem_map.1 ht
  exact i.isStatement_text

end Disassembly

namespace Assembler

/-- The text of instructions is assembled to their bytes, by every assembler. -/
theorem assemble_text (a : Assembler) (is : List Instruction) :
    (a.assemble (Disassembly.text is)).1 = .ok (is.flatMap Instruction.bytes) := by
  have hwritten : List.Forall₂ Line.WrittenAs (is.map Line.instruction)
      ((Source.statements (Disassembly.text is)).map Statement.text) := by
    rw [Disassembly.map_text_statements_text, List.forall₂_map_left_iff,
      List.forall₂_map_right_iff, List.forall₂_same]
    intro i _
    exact Line.writtenAs_text i
  obtain ⟨p, hassemble, hlines, -⟩ := Program.assemble_of_writtenAs a.base hwritten
  simp only [assemble, hassemble, Program.bytes, hlines, List.flatMap_map]
  rfl

end Assembler

namespace Disassembly

/-- The word that one round trip makes of a word. -/
def canonical (word : Nat) : Nat := (decode word).encode

/-- The bytes that one round trip gives. -/
def roundTrip (a : Assembler) (stopAtNop : Bool) (bytes : List UInt8) :
    Except AssemblyError (List UInt8) :=
  (a.assemble (text (disassemble bytes stopAtNop))).1

/-- A round trip succeeds, and gives for every shown word the bytes of its canonical word. -/
theorem roundTrip_eq (a : Assembler) (stopAtNop : Bool) (bytes : List UInt8) :
    roundTrip a stopAtNop bytes =
      .ok ((shownWords bytes stopAtNop).flatMap fun word => bytesOfWord (canonical word)) := by
  rw [roundTrip, a.assemble_text, disassemble_eq, List.flatMap_map]
  rfl

/-- All words are shown exactly if the disassembly does not stop at any of them. -/
theorem shownWords_eq_iff (bytes : List UInt8) (stopAtNop : Bool) :
    shownWords bytes stopAtNop = wordsOf bytes ↔
      (stopAtNop = true → ∀ word ∈ wordsOf bytes, decode word ≠ .nop) := by
  cases stopAtNop with
  | false => simp [shownWords]
  | true => simp [shownWords, List.takeWhile_eq_self_iff]

theorem shownWords_prefix_wordsOf (bytes : List UInt8) (stopAtNop : Bool) :
    shownWords bytes stopAtNop <+: wordsOf bytes := by
  cases stopAtNop with
  | false => exact List.prefix_rfl
  | true => exact List.takeWhile_prefix _

/-- The bytes come back unchanged exactly if they are all shown: an even number of them, no stop in
between, and every word canonical. -/
theorem roundTrip_eq_self_iff (a : Assembler) (stopAtNop : Bool) (bytes : List UInt8) :
    roundTrip a stopAtNop bytes = .ok bytes ↔
      bytes.length % 2 = 0 ∧ (∀ word ∈ wordsOf bytes, canonical word = word) ∧
        (stopAtNop = true → ∀ word ∈ wordsOf bytes, decode word ≠ .nop) := by
  have hcanonical : ∀ words : List Nat, (words.flatMap fun word => bytesOfWord (canonical word)) =
      (words.map canonical).flatMap bytesOfWord := fun words => by rw [List.flatMap_map]
  have hbound : ∀ words : List Nat, ∀ word ∈ words.map canonical, word < 65536 := by
    intro words word hword
    obtain ⟨w, -, rfl⟩ := List.mem_map.1 hword
    exact (decode w).encode_lt
  rw [roundTrip_eq, Except.ok.injEq, hcanonical, ← shownWords_eq_iff]
  constructor
  · intro hbytes
    -- A word gives two bytes back, so by length no byte and no word was left out.
    have hlength := congrArg List.length hbytes
    rw [length_flatMap_bytesOfWord, List.length_map] at hlength
    have heven : bytes.length % 2 = 0 := by omega
    have hshown : shownWords bytes stopAtNop = wordsOf bytes := by
      refine (shownWords_prefix_wordsOf bytes stopAtNop).eq_of_length ?_
      rw [length_wordsOf]
      omega
    refine ⟨heven, ?_, hshown⟩
    have hwords := congrArg wordsOf hbytes
    rw [wordsOf_flatMap_bytesOfWord (hbound _), hshown] at hwords
    exact List.map_inj_left.1 (hwords.trans (List.map_id _).symm)
  · rintro ⟨heven, hfixed, hshown⟩
    rw [hshown, (List.map_congr_left hfixed).trans (List.map_id' _), flatMap_bytesOfWord_wordsOf,
      List.take_of_length_le (by omega)]

/-- Round trips of bytes through text: what the first one gives, when it changes nothing, and that
a second one never does. -/
structure RoundTrips (bytes : List UInt8) : Prop where
  /-- every complete word comes back as the encoding of the instruction that it decodes to -/
  whole : ∀ a : Assembler, roundTrip a false bytes =
    .ok ((wordsOf bytes).flatMap fun word => bytesOfWord (decode word).encode)
  /-- a disassembly that stops gives the same up to the first word that decodes to `NOP` -/
  stopped : ∀ a : Assembler, roundTrip a true bytes =
    .ok (((wordsOf bytes).takeWhile fun word => decode word != .nop).flatMap
      fun word => bytesOfWord (decode word).encode)
  /-- the bytes come back unchanged only if they are complete words of instructions -/
  exact : ∀ a : Assembler, roundTrip a false bytes = .ok bytes ↔
    bytes.length % 2 = 0 ∧ ∀ word ∈ wordsOf bytes, (decode word).encode = word
  /-- bytes that have made a round trip come back unchanged from another -/
  stable : ∀ (a b : Assembler) (stopAtNop again : Bool), (again = true → stopAtNop = true) →
    (roundTrip a stopAtNop bytes).bind (roundTrip b again) = roundTrip a stopAtNop bytes

theorem ne_nop_of_mem_disassemble {bytes : List UInt8} {i : Instruction}
    (hmem : i ∈ disassemble bytes true) : i ≠ .nop := by
  rw [disassemble_true] at hmem
  simpa using List.mem_takeWhile_imp hmem

/-- What a disassembly shows is what its encoding is disassembled to, unless that stops and the
disassembly did not. -/
theorem disassemble_flatMap_bytes (bytes : List UInt8) {stopAtNop again : Bool}
    (hagain : again = true → stopAtNop = true) :
    disassemble ((disassemble bytes stopAtNop).flatMap Instruction.bytes) again =
      disassemble bytes stopAtNop := by
  cases again with
  | false => exact disassemble_false_flatMap_bytes _
  | true =>
    obtain rfl := hagain rfl
    rw [disassemble_true, disassemble_false_flatMap_bytes, List.takeWhile_eq_self_iff]
    intro i hi
    exact bne_iff_ne.2 (ne_nop_of_mem_disassemble hi)

/-- All bytes make round trips through text, whatever they are. -/
theorem roundTrips (bytes : List UInt8) : RoundTrips bytes where
  whole := fun a => roundTrip_eq a false bytes
  stopped := fun a => roundTrip_eq a true bytes
  exact := by
    intro a
    rw [roundTrip_eq_self_iff]
    simp [canonical]
  stable := by
    intro a b stopAtNop again hagain
    have hfirst : roundTrip a stopAtNop bytes =
        .ok ((disassemble bytes stopAtNop).flatMap Instruction.bytes) := a.assemble_text _
    rw [hfirst]
    change roundTrip b again _ = _
    rw [roundTrip, b.assemble_text, disassemble_flatMap_bytes bytes hagain]

end Disassembly

end Chip8
