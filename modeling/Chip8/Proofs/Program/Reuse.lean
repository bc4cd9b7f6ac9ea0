/-
# Assembling one source after another

An assembler that is used again carries nothing over: whatever it has assembled or refused before,
a call gives the result and leaves the outcome that a new assembler with the same base would. What a
refused source leaves are the faults of its error and nothing of a program, also where resolving
has already replaced some of the references.
-/

import Chip8.Proofs.Program.Resolving

namespace Chip8

namespace AssemblyError

/-- The error reports a source that is wrong, and these are its faults. -/
inductive Reports : AssemblyError → List LineFault → Prop
  | faulty {faults : List LineFault} (nonempty : faults ≠ []) : Reports (.faulty faults) faults
  | undefinedLabel {label : Label} {line : Int} :
    Reports (.unresolved (.undefinedLabel label line)) [⟨line, label, .undefined⟩]
  | addressTooLarge {label : Label} {address line : Int} (large : maxAddress < address) :
    Reports (.unresolved (.addressTooLarge label address line)) [⟨line, label, .outOfRange⟩]

/-- The error comes from somewhere else: a numeral is too long to be read or to be shown, or a
negative address is put into an instruction. -/
inductive IsForeign : AssemblyError → Prop
  | limit {bound : DigitLimit} : IsForeign (.limit bound)
  | negative {op : Opcode} {address : Int} (negative : address < 0) :
    IsForeign (.unresolved (.operand (.outOfRange op .nnn address)))

theorem IsForeign.faults_eq {e : AssemblyError} (h : e.IsForeign) : e.faults = [] := by
  cases h <;> rfl

end AssemblyError

namespace Line

/-- A jump or call takes an address unless it does not fit twelve bits. -/
theorem withAddress_cases {l : Line}
    (hkind : ∃ old, l = .instruction (.jp old) ∨ l = .instruction (.call old))
    (address : Int) (index : Nat) :
    (∃ taken, l.withAddress address index = .ok taken) ∨
      ∃ op, (address < 0 ∨ maxAddress < address) ∧
        l.withAddress address index = .error (.operand (.outOfRange op .nnn address)) := by
  obtain ⟨i, rfl, hop⟩ : ∃ i, l = .instruction i ∧ (i.opcode = .jp ∨ i.opcode = .call) := by
    obtain ⟨old, rfl | rfl⟩ := hkind
    · exact ⟨_, rfl, .inl rfl⟩
    · exact ⟨_, rfl, .inr rfl⟩
  have hfields : i.opcode.format.fields = [.nnn] := by
    rcases hop with hop | hop <;> rw [hop] <;> rfl
  simp only [withAddress, hop, if_true, Instruction.withAddress, hfields, List.mem_singleton,
    Instruction.ofOperands_address hfields]
  by_cases hrange : address < 0 ∨ 4096 ≤ address
  · refine .inr ⟨i.opcode, ?_, by rw [if_pos hrange]⟩
    unfold maxAddress
    omega
  · exact .inl ⟨_, by rw [if_neg hrange]⟩

end Line

namespace Program

variable {p : Program} {e : Entry} {entries : List Entry}

theorem reports_of_addressOfLabel {label : Label} {line : Int} {error : ResolutionError}
    (herror : p.addressOfLabel label line = .error error) :
    AssemblyError.Reports (.unresolved error) error.faults := by
  unfold addressOfLabel at herror
  split at herror
  · obtain rfl := Except.error.inj herror
    exact .undefinedLabel
  · dsimp only at herror
    split at herror
    · rename_i hlarge
      obtain rfl := Except.error.inj herror
      exact .addressTooLarge hlarge
    · cases herror

/-- What can go wrong at an entry that takes an address: its reference is to no label, to one too
far behind, or to one in front of the address space. -/
theorem reports_of_resolveEntry (htakes : e.TakesAddress) {index : Nat} {error : ResolutionError}
    (herror : p.resolveEntry index e = .error error) :
    AssemblyError.Reports (.unresolved error) error.faults ∨
      AssemblyError.IsForeign (.unresolved error) := by
  unfold resolveEntry at herror
  split at herror
  · cases herror
  · rename_i label hreference
    unfold resolveReference at herror
    cases haddress : p.addressOfLabel label e.sourceLine with
    | error cause =>
      rw [haddress] at herror
      obtain rfl := Except.error.inj herror
      exact .inl (reports_of_addressOfLabel haddress)
    | ok address =>
      have hsmall := (symbol_of_addressOfLabel haddress).2
      rw [haddress] at herror
      rcases Line.withAddress_cases (htakes label hreference) address index with
        ⟨taken, htaken⟩ | ⟨op, hbounds, hrefused⟩
      · simp only [bind, Except.bind, htaken] at herror
        cases herror
      · simp only [bind, Except.bind, hrefused, Except.map] at herror
        obtain rfl := Except.error.inj herror
        exact .inr (.negative (hbounds.resolve_right (Int.not_lt.2 hsmall)))

theorem reports_of_resolveFrom (htakes : ∀ e ∈ entries, e.TakesAddress) {index : Nat}
    {error : ResolutionError} (herror : (p.resolveFrom index entries).2.2 = some error) :
    AssemblyError.Reports (.unresolved error) error.faults ∨
      AssemblyError.IsForeign (.unresolved error) := by
  induction entries generalizing index with
  | nil => cases herror
  | cons e rest ih =>
    cases hentry : p.resolveEntry index e with
    | error first =>
      simp only [resolveFrom, hentry, Option.some.injEq] at herror
      subst herror
      exact reports_of_resolveEntry (htakes e List.mem_cons_self) hentry
    | ok settled =>
      simp only [resolveFrom, hentry] at herror
      exact ih (fun f hf => htakes f (List.mem_cons_of_mem e hf)) herror

/-- A source is refused with faults of its own, or for a reason that is no fault of a line. -/
theorem reports_of_assemble {base : Int} {source : Text} {error : AssemblyError}
    (herror : assemble base source = .error error) :
    error.Reports error.faults ∨ error.IsForeign := by
  cases hsource : ofSource base source with
  | error cause =>
    simp only [assemble, hsource, bind, Except.bind, Except.error.injEq] at herror
    subst herror
    unfold ofSource at hsource
    split at hsource
    · cases hsource
      exact .inr .limit
    · rename_i draft _
      split at hsource
      · cases hsource
      · rename_i hfaults
        cases hsource
        exact .inl (.faulty (by simpa using hfaults))
  | ok p =>
    simp only [assemble, hsource, bind, Except.bind] at herror
    cases hresolve : p.resolve.error with
    | none => rw [hresolve] at herror; cases herror
    | some cause =>
      rw [hresolve] at herror
      cases herror
      rw [resolve_eq] at hresolve
      exact reports_of_resolveFrom (fun e he label hreference =>
        ⟨_, placeholder_of_ofSource hsource he hreference⟩) hresolve

end Program

namespace Assembler

/-- What an assembler gives for each of the sources that it assembles in turn, and what it keeps
after that call. -/
def history (a : Assembler) : List Text → List (Except AssemblyError (List UInt8) × Assembler)
  | [] => []
  | source :: rest => a.assemble source :: (a.assemble source).2.history rest

/-- The assembler has nothing to show. -/
structure IsBlank (a : Assembler) : Prop where
  program : a.program = none
  binary : a.binary = []
  symbols : a.symbols = []
  listing : a.listing = []

/-- The base is all that a call keeps of the assembler. -/
@[simp] theorem base_assemble (a : Assembler) (source : Text) :
    (a.assemble source).2.base = a.base := by
  unfold assemble
  split <;> rfl

/-- The base is all that a call depends on. -/
theorem assemble_congr {a b : Assembler} (hbase : a.base = b.base) (source : Text) :
    a.assemble source = b.assemble source := by
  unfold assemble
  rw [hbase]

/-- Every call in a row of calls is like the first one of an assembler with the same base. -/
theorem history_eq_map (a : Assembler) (sources : List Text) :
    a.history sources = sources.map ({ base := a.base } : Assembler).assemble := by
  induction sources generalizing a with
  | nil => rfl
  | cons source rest ih =>
    rw [history, ih, base_assemble, List.map_cons]
    exact congrArg (· :: _) (assemble_congr rfl source)

theorem assemble_of_error {a : Assembler} {source : Text} {error : AssemblyError}
    (herror : (a.assemble source).1 = .error error) :
    (a.assemble source).2.IsBlank ∧ (a.assemble source).2.faults = error.faults ∧
      (error.Reports error.faults ∨ error.IsForeign) := by
  unfold assemble at herror ⊢
  cases hprogram : Program.assemble a.base source with
  | ok p => rw [hprogram] at herror; cases herror
  | error cause =>
    rw [hprogram] at herror
    obtain rfl := Except.error.inj herror
    exact ⟨⟨rfl, rfl, rfl, rfl⟩, rfl, Program.reports_of_assemble hprogram⟩

theorem assemble_of_ok {a : Assembler} {source : Text} {rom : List UInt8}
    (hrom : (a.assemble source).1 = .ok rom) :
    (a.assemble source).2.binary = rom ∧ (a.assemble source).2.faults = [] := by
  unfold assemble at hrom ⊢
  cases hprogram : Program.assemble a.base source with
  | error cause => rw [hprogram] at hrom; cases hrom
  | ok p =>
    rw [hprogram] at hrom
    exact ⟨Except.ok.inj hrom, rfl⟩

theorem exists_of_mem_history {a : Assembler} {sources : List Text}
    {result : Except AssemblyError (List UInt8)} {after : Assembler}
    (hmem : (result, after) ∈ a.history sources) :
    ∃ source ∈ sources, (a.assemble source).1 = result ∧ (a.assemble source).2 = after := by
  rw [history_eq_map] at hmem
  obtain ⟨source, hsource, hcall⟩ := List.mem_map.1 hmem
  have hfresh : ({ base := a.base } : Assembler).assemble source = a.assemble source :=
    assemble_congr rfl source
  rw [hfresh] at hcall
  exact ⟨source, hsource, congrArg Prod.fst hcall, congrArg Prod.snd hcall⟩

/-- What one call after another comes to. -/
structure ForgetsCalls (a : Assembler) (sources : List Text) : Prop where
  /-- every call gives and leaves what it would for a new assembler -/
  fresh : a.history sources = sources.map ({ base := a.base } : Assembler).assemble
  /-- a refused source leaves nothing but the faults of its error, and an error from somewhere else
  has none -/
  refused : ∀ error after, (.error error, after) ∈ a.history sources →
    after.IsBlank ∧ (error.Reports after.faults ∨ error.IsForeign ∧ after.faults = [])
  /-- an accepted source leaves its program and no faults -/
  accepted : ∀ rom after, (.ok rom, after) ∈ a.history sources →
    after.binary = rom ∧ after.faults = []

/-- An assembler forgets every call at the next one, whatever it has assembled or refused, and also
whatever it kept of the time before. -/
theorem forgets_calls (a : Assembler) (sources : List Text) : a.ForgetsCalls sources where
  fresh := history_eq_map a sources
  refused error after hmem := by
    obtain ⟨source, -, herror, rfl⟩ := exists_of_mem_history hmem
    obtain ⟨hblank, hfaults, hcause⟩ := assemble_of_error herror
    refine ⟨hblank, ?_⟩
    rcases hcause with hreports | hforeign
    · exact .inl (hfaults ▸ hreports)
    · exact .inr ⟨hforeign, hfaults.trans hforeign.faults_eq⟩
  accepted rom after hmem := by
    obtain ⟨source, -, hrom, rfl⟩ := exists_of_mem_history hmem
    exact assemble_of_ok hrom

example : (history { base := -0x200 }
      ["a: cls; jp a".toList, "cls; jp a".toList, "a: cls".toList, "bytes 100".toList]).map
        (fun (result, after) => (result.toOption, after.faults)) =
    [(none, []), (none, [⟨1, "a".toList, .undefined⟩]), (some [0x00, 0xE0], []),
      (none, [⟨1, "bytes 100".toList, .rejected (.notByte "100".toList)⟩])] := by
  decide +kernel

end Assembler

end Chip8
