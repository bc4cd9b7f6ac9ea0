/-
# References and their addresses

A jump or call to a label is read as a placeholder, and resolving puts the address of the label in
its place. This module says which statements are references, what a resolved entry is made of, and
that resolving keeps the size of every line. So every reference can be resolved by the addresses of
the program before, although each is resolved in the program that those in front of it have left.
-/

import Mathlib.Data.List.Forall2
import Chip8.Program.Resolution

namespace Chip8

namespace Line

/-- The statement is a mnemonic with the name of a label as its only operand. Case does not count,
and the names of registers are no labels. -/
structure Refers (text mnemonic : Text) (label : Label) : Prop where
  words : Text.words (Text.lower text) = [mnemonic, label]
  isName : isLabelName label = true
  notRegister : Operand.isRegister label = false

/-- The mnemonic of a jump, in lower case. -/
def jumpMnemonic : Text := ['j', 'p']

/-- The mnemonic of a call, in lower case. -/
def callMnemonic : Text := ['c', 'a', 'l', 'l']

/-- The words of a reference are read as its placeholder and its label. -/
theorem readReference?_eq_some {words : List Text} {line : Line} {label : Label}
    (hread : readReference? words = some (line, label)) :
    ∃ mnemonic, words = [mnemonic, label] ∧ isLabelName label = true ∧
      Operand.isRegister label = false ∧ placeholder? mnemonic = some line := by
  unfold readReference? at hread
  split at hread
  · rename_i mnemonic operand
    split at hread
    · rename_i hshape
      obtain ⟨found, hfound, hpair⟩ := Option.map_eq_some_iff.1 hread
      obtain ⟨rfl, rfl⟩ := Prod.mk.inj hpair
      simp only [Bool.and_eq_true, Bool.not_eq_true'] at hshape
      exact ⟨mnemonic, rfl, hshape.1, hshape.2, hfound⟩
    · cases hread
  · cases hread

/-- A statement that is read with a reference is a jump or a call to that label. -/
theorem refers_of_read {text : Text} {line : Line} {label : Label}
    (hread : read text = .ok (line, some label)) :
    (Refers text jumpMnemonic label ∧ line = .instruction (.jp placeholderAddress)) ∨
      (Refers text callMnemonic label ∧ line = .instruction (.call placeholderAddress)) := by
  unfold read at hread
  simp only at hread
  split at hread
  · split at hread <;> cases hread
  · split at hread
    · rename_i found name hfound
      obtain ⟨rfl, rfl⟩ : found = line ∧ name = label := by simpa using hread
      obtain ⟨mnemonic, hwords, hname, hregister, hplace⟩ := readReference?_eq_some hfound
      unfold placeholder? at hplace
      split at hplace
      · rename_i hjump
        rw [beq_iff_eq] at hjump
        rw [hjump] at hwords
        exact .inl ⟨⟨hwords, hname, hregister⟩, (Option.some.inj hplace).symm⟩
      · split at hplace
        · rename_i hcall
          rw [beq_iff_eq] at hcall
          rw [hcall] at hwords
          exact .inr ⟨⟨hwords, hname, hregister⟩, (Option.some.inj hplace).symm⟩
        · cases hplace
    · cases hinstruction : Instruction.read text <;> rw [hinstruction] at hread <;> cases hread

/-- A statement that is read without a reference names no label. -/
theorem not_refers_of_read {text : Text} {line : Line} (hread : read text = .ok (line, none))
    {mnemonic : Text} (hmnemonic : mnemonic = jumpMnemonic ∨ mnemonic = callMnemonic)
    (label : Label) : ¬ Refers text mnemonic label := by
  rintro ⟨hwords, hname, hregister⟩
  unfold read at hread
  rcases hmnemonic with rfl | rfl
  · simp [hwords, readReference?, hname, hregister, placeholder?, jumpMnemonic] at hread
  · simp [hwords, readReference?, hname, hregister, placeholder?, callMnemonic] at hread

end Line

namespace Instruction

/-- An instruction whose only operand is an address takes every address of twelve bits. -/
theorem ofOperands_address {op : Opcode} (hfields : op.format.fields = [.nnn]) (address : Int) :
    ofOperands op [address] =
      if address < 0 ∨ 4096 ≤ address then .error (.outOfRange op .nnn address)
      else .ok (op.build fun field => if field = .nnn then address.toNat else 0) := by
  have hlimit : (Field.nnn.limit : Int) = 4096 := rfl
  by_cases hrange : address < 0 ∨ 4096 ≤ address
  · simp [ofOperands, hfields, hlimit, hrange]
  · have hfits : (decide (address < 0) || decide (4096 ≤ address)) = false := by simpa using hrange
    have hvalues : (fun field => (([(Field.nnn, address)].lookup field).getD 0).toNat) =
        fun field => if field = .nnn then address.toNat else 0 := by
      funext field
      cases field <;> rfl
    simp only [ofOperands, hfields, hlimit, List.zip_cons_cons, List.zip_nil_right, List.find?_cons,
      hfits, List.find?_nil, hvalues, if_neg hrange]

/-- The word of a jump or a call is its address under the pattern of its class. -/
theorem encode_build_address {op : Opcode} (hop : op = .jp ∨ op = .call) {address : Nat}
    (haddress : address < 4096) :
    (op.build fun field => if field = .nnn then address else 0).encode =
      op.format.pattern ||| address := by
  have hvalue : (twelveBits address).val = address := Nat.mod_eq_of_lt haddress
  rcases hop with rfl | rfl <;>
    simp [Opcode.build, encode, operands, opcode, Opcode.format, Field.shift, hvalue]

end Instruction

namespace Line

/-- Only addresses of twelve bits replace a placeholder, and then the line is the word of its class
with that address. -/
theorem bytes_of_withAddress (op : Opcode) (hop : op = .jp ∨ op = .call) {address : Int}
    {index : Nat} {line : Line}
    (hline : withAddress (.instruction (op.build fun _ => 0)) address index = .ok line) :
    0 ≤ address ∧ address ≤ maxAddress ∧
      line.bytes = bytesOfWord (op.format.pattern ||| address.toNat) := by
  have hfields : op.format.fields = [.nnn] := by rcases hop with rfl | rfl <;> rfl
  simp only [withAddress, Opcode.opcode_build, hop, if_true, Instruction.withAddress, hfields,
    List.mem_singleton, Instruction.ofOperands_address hfields] at hline
  by_cases hrange : address < 0 ∨ 4096 ≤ address
  · rw [if_pos hrange] at hline
    cases hline
  · rw [if_neg hrange] at hline
    obtain rfl := Except.ok.inj hline
    have hword := @Instruction.encode_build_address op hop address.toNat (by omega)
    refine ⟨by omega, by unfold maxAddress; omega, ?_⟩
    simp only [bytes, Instruction.bytes, hword]

/-- Only jumps and calls take an address, so the line keeps its size. -/
theorem size_withAddress {l line : Line} {address : Int} {index : Nat}
    (hline : l.withAddress address index = .ok line) : line.size = l.size := by
  cases l with
  | data bytes => cases hline
  | instruction i =>
    simp only [Line.withAddress] at hline
    split at hline
    · cases hreplaced : i.withAddress address with
      | error cause => rw [hreplaced] at hline; cases hline
      | ok replaced =>
        rw [hreplaced] at hline
        obtain rfl := Except.ok.inj hline
        rfl
    · cases hline

/-- Lines of the same sizes take the same room. -/
theorem totalSize_congr {ls others : List Line} (hsizes : ls.map size = others.map size) :
    totalSize ls = totalSize others := by
  induction ls generalizing others with
  | nil => rw [List.map_eq_nil_iff.1 hsizes.symm]
  | cons l rest ih =>
    obtain ⟨other, behind, rfl, hsize, hrest⟩ := List.map_eq_cons_iff.1 hsizes.symm
    rw [totalSize, totalSize, hsize, ih hrest.symm]

end Line

namespace Program

/-- The entry with its reference resolved, and the use of a label that is reported. -/
def resolveEntry (p : Program) (index : Nat) (e : Entry) :
    Except ResolutionError (Entry × Option (Label × Int × Nat)) :=
  match e.reference with
  | none => .ok (e, none)
  | some label => (p.resolveReference index e label).map fun (entry, address) =>
    (entry, some (label, address, index))

/-- Resolves the entries from an index on by the addresses of the program as it is, up to the first
that cannot be resolved. -/
def resolveFrom (p : Program) (index : Nat) :
    List Entry → List Entry × List (Label × Int × Nat) × Option ResolutionError
  | [] => ([], [], none)
  | e :: rest =>
    match p.resolveEntry index e with
    | .error error => (e :: rest, [], some error)
    | .ok (entry, address?) =>
      let (entries, addresses, error) := p.resolveFrom (index + 1) rest
      (entry :: entries, address?.toList ++ addresses, error)

/-- An entry and what resolving makes of it: a reference gets the address of its label, any other
entry stays as it is. -/
def Resolves (p : Program) (e resolved : Entry) : Prop :=
  match e.reference with
  | none => resolved = e
  | some label => ∃ address index line, p.addressOfLabel label e.sourceLine = .ok address ∧
      e.line.withAddress address index = .ok line ∧ resolved = { e with line }

/-- A reference is resolved if its label has an address and the line takes it. -/
theorem resolveReference_eq_ok {p : Program} {index : Nat} {e entry : Entry} {label : Label}
    {address : Int} : p.resolveReference index e label = .ok (entry, address) ↔
      p.addressOfLabel label e.sourceLine = .ok address ∧
        ∃ line, e.line.withAddress address index = .ok line ∧ entry = { e with line } := by
  unfold resolveReference
  cases p.addressOfLabel label e.sourceLine with
  | error cause => simp [bind, Except.bind]
  | ok found =>
    cases hline : e.line.withAddress found index with
    | error cause =>
      simp only [bind, Except.bind, hline, reduceCtorEq, false_iff]
      rintro ⟨haddress, line, htaken, -⟩
      obtain rfl := Except.ok.inj haddress
      cases hline.symm.trans htaken
    | ok line =>
      simp only [bind, Except.bind, hline, pure, Except.pure, Except.ok.injEq, Prod.mk.injEq]
      constructor
      · rintro ⟨rfl, rfl⟩
        exact ⟨rfl, line, hline, rfl⟩
      · rintro ⟨rfl, taken, htaken, rfl⟩
        obtain rfl := Except.ok.inj (hline.symm.trans htaken)
        exact ⟨rfl, rfl⟩

theorem resolves_of_resolveEntry {p : Program} {index : Nat} {e resolved : Entry}
    {used : Option (Label × Int × Nat)} (hentry : p.resolveEntry index e = .ok (resolved, used)) :
    p.Resolves e resolved := by
  unfold Resolves
  unfold resolveEntry at hentry
  cases hreference : e.reference with
  | none =>
    rw [hreference] at hentry
    exact (Prod.mk.inj (Except.ok.inj hentry)).1.symm
  | some label =>
    rw [hreference] at hentry
    cases hresolve : p.resolveReference index e label with
    | error cause => simp [hresolve, Except.map] at hentry
    | ok found =>
      obtain ⟨entry, address⟩ := found
      simp only [hresolve, Except.map, Except.ok.injEq, Prod.mk.injEq] at hentry
      obtain ⟨haddress, line, hline, rfl⟩ := resolveReference_eq_ok.1 hresolve
      exact ⟨address, index, line, haddress, hline, hreference ▸ hentry.1.symm⟩

/-- Resolving without an error resolves every entry. -/
theorem forall₂_resolves {p : Program} {index : Nat} {es resolved : List Entry}
    {used : List (Label × Int × Nat)} (hresolve : p.resolveFrom index es = (resolved, used, none)) :
    List.Forall₂ p.Resolves es resolved := by
  induction es generalizing index resolved used with
  | nil =>
    obtain rfl := (Prod.mk.inj hresolve).1
    exact .nil
  | cons e rest ih =>
    unfold resolveFrom at hresolve
    cases hentry : p.resolveEntry index e with
    | error cause => simp [hentry] at hresolve
    | ok found =>
      obtain ⟨entry, address?⟩ := found
      rw [hentry] at hresolve
      simp only [Prod.mk.injEq] at hresolve
      obtain ⟨rfl, -, herror⟩ := hresolve
      exact .cons (resolves_of_resolveEntry hentry) (ih (Prod.ext rfl (Prod.ext rfl herror)))

theorem size_of_resolves {p : Program} {e resolved : Entry} (hresolves : p.Resolves e resolved) :
    resolved.line.size = e.line.size := by
  unfold Resolves at hresolves
  split at hresolves
  · rw [hresolves]
  · obtain ⟨address, index, line, -, hline, rfl⟩ := hresolves
    exact Line.size_withAddress hline

theorem map_size_of_resolves {p : Program} {es resolved : List Entry}
    (hresolves : List.Forall₂ p.Resolves es resolved) :
    resolved.map (Line.size ∘ Entry.line) = es.map (Line.size ∘ Entry.line) := by
  induction hresolves with
  | nil => rfl
  | cons hentry _ ih =>
    simp only [List.map_cons, Function.comp_apply, size_of_resolves hentry, ih]

/-- Addresses depend on the base and the sizes of the lines alone. -/
theorem addressOf_congr {p q : Program} (hsizes : p.lines.map Line.size = q.lines.map Line.size)
    (hbase : p.base = q.base) (index : Int) : p.addressOf index = q.addressOf index := by
  have hlength : p.lines.length = q.lines.length := by simpa using congrArg List.length hsizes
  have hbefore : ∀ count, Line.totalSize (p.lines.take count) =
      Line.totalSize (q.lines.take count) := fun count =>
    Line.totalSize_congr (by rw [List.map_take, List.map_take, hsizes])
  rw [addressOf, addressOf, offsetOf, offsetOf, hbefore, hlength, hbase]

/-- Resolving moves no line and no label. -/
theorem addressOf_of_resolves {p : Program} {resolved : List Entry}
    (hresolves : List.Forall₂ p.Resolves p.entries resolved) (index : Int) :
    { p with entries := resolved }.addressOf index = p.addressOf index := by
  have hsizes : ({ p with entries := resolved } : Program).lines.map Line.size =
      p.lines.map Line.size := by
    simp only [lines, List.map_map]
    exact map_size_of_resolves hresolves
  exact addressOf_congr hsizes rfl index

/-- The labels and their addresses are all that resolving a reference takes from the program. -/
theorem resolveReference_congr {p q : Program} (hlabels : p.labels = q.labels)
    (haddress : ∀ mark, p.addressOf mark = q.addressOf mark) (index : Nat) (e : Entry)
    (label : Label) : p.resolveReference index e label = q.resolveReference index e label := by
  simp only [resolveReference, addressOfLabel, hlabels, haddress]

/-- What is left to resolve is resolved by the addresses of any program that has those of the
program as it stands. -/
theorem resolveBehind_eq {p q : Program} (hlabels : p.labels = q.labels) {done rest : List Entry}
    (haddress : ∀ mark,
      { p with entries := done.reverse ++ rest }.addressOf mark = q.addressOf mark) :
    p.resolveBehind done rest =
      let (entries, resolved, error) := q.resolveFrom done.length rest
      { program := { p with entries := done.reverse ++ entries }, resolved, error } := by
  induction rest generalizing done with
  | nil => simp [resolveBehind, resolveFrom]
  | cons e rest ih =>
    cases hreference : e.reference with
    | none =>
      have hrest := @ih (e :: done) (by simpa using haddress)
      simp only [resolveBehind, resolveFrom, resolveEntry, hreference, hrest, List.length_cons]
      simp
    | some label =>
      have hresolve := resolveReference_congr
        (p := { p with entries := done.reverse ++ e :: rest }) hlabels haddress done.length e label
      simp only [resolveBehind, resolveFrom, resolveEntry, hreference, hresolve]
      cases hentry : q.resolveReference done.length e label with
      | error cause => rfl
      | ok found =>
        obtain ⟨entry, address⟩ := found
        -- The entry has kept its size, so the next references find all addresses as they were.
        have hsizes :
            ({ p with entries := (entry :: done).reverse ++ rest } : Program).lines.map Line.size =
              ({ p with entries := done.reverse ++ e :: rest } : Program).lines.map Line.size := by
          obtain ⟨-, line, hline, rfl⟩ := resolveReference_eq_ok.1 hentry
          simp [lines, Line.size_withAddress hline]
        have hnext : ∀ mark, { p with entries := (entry :: done).reverse ++ rest }.addressOf mark =
            q.addressOf mark := fun mark => (addressOf_congr hsizes rfl mark).trans (haddress mark)
        simp [Except.map, ih hnext]

/-- Resolving takes all addresses from the program as it was. -/
theorem resolve_eq (p : Program) :
    p.resolve =
      let (entries, resolved, error) := p.resolveFrom 0 p.entries
      { program := { p with entries }, resolved, error } :=
  resolveBehind_eq rfl fun _ => rfl

/-- Entries are all that resolving changes in a program. -/
theorem program_resolve (p : Program) :
    p.resolve.program = { p with entries := p.resolve.program.entries } := by
  rw [resolve_eq]

theorem forall₂_resolves_resolve {p : Program} (hsuccess : p.resolve.error = none) :
    List.Forall₂ p.Resolves p.entries p.resolve.program.entries := by
  rw [resolve_eq] at hsuccess ⊢
  exact forall₂_resolves (Prod.ext rfl (Prod.ext rfl hsuccess))

theorem symbols_of_resolves {p : Program} {resolved : List Entry}
    (hresolves : List.Forall₂ p.Resolves p.entries resolved) :
    { p with entries := resolved }.symbols = p.symbols := by
  simp only [symbols, addressOf_of_resolves hresolves]

/-- The symbols are named as the labels. -/
theorem map_fst_symbols (p : Program) : p.symbols.map Prod.fst = p.labels.map Prod.fst := by
  rw [symbols, List.map_map]
  rfl

/-- The address of a label in the table of symbols is that of the line which it marks. -/
theorem lookup_symbols (p : Program) (label : Label) :
    p.symbols.lookup label = (p.labels.lookup label).map p.addressOf := by
  unfold symbols
  induction p.labels with
  | nil => rfl
  | cons mark rest ih =>
    obtain ⟨name, index⟩ := mark
    rw [List.map_cons, List.lookup_cons, List.lookup_cons, ih]
    cases label == name <;> rfl

/-- A label that a reference can use has a symbol within the range of addresses. -/
theorem symbol_of_addressOfLabel {p : Program} {label : Label} {sourceLine address : Int}
    (haddress : p.addressOfLabel label sourceLine = .ok address) :
    p.symbols.lookup label = some address ∧ address ≤ maxAddress := by
  unfold addressOfLabel at haddress
  rw [lookup_symbols]
  cases hlabel : p.labels.lookup label with
  | none => rw [hlabel] at haddress; cases haddress
  | some index =>
    rw [hlabel] at haddress
    simp only at haddress
    split at haddress
    · cases haddress
    · rename_i hrange
      obtain rfl := Except.ok.inj haddress
      exact ⟨rfl, Int.not_lt.1 hrange⟩

end Program

end Chip8
