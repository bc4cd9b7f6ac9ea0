/-
# The outcome of resolving

A program that is read from a source has references only at jumps and calls, which take every
address up to `$FFF`, and marks only places of its own. Resolving it can therefore fail in two ways
alone: a label is not defined, or it lies too far behind. The first reference of which that is true
decides. Without one, every reference gets the address of its label and nothing else changes, so
resolving once more finds everything as it is.
-/

import Chip8.Proofs.Program.Layout

namespace Chip8

namespace Entry

/-- The entry can take an address if it has a reference: it is a jump or a call. -/
def TakesAddress (e : Entry) : Prop :=
  ∀ label, e.reference = some label →
    ∃ address, e.line = .instruction (.jp address) ∨ e.line = .instruction (.call address)

end Entry

namespace Program

variable {p : Program} {e resolved : Entry} {entries : List Entry} {index : Nat}

/-- What keeps a reference from being resolved: its label is not defined, or lies beyond the range
of addresses. -/
def failure? (p : Program) (e : Entry) : Option ResolutionError :=
  match e.reference with
  | none => none
  | some label =>
    match p.labels.lookup label with
    | none => some (.undefinedLabel label e.sourceLine)
    | some mark =>
      if maxAddress < p.addressOf mark then
        some (.addressTooLarge label (p.addressOf mark) e.sourceLine)
      else none

/-- An entry and the same entry with its reference resolved: the kind of the instruction stays, and
its address is that of the label. -/
inductive Settles (p : Program) : Entry → Entry → Prop
  | plain {line : Line} {sourceLine : Int} :
    Settles p ⟨line, none, sourceLine⟩ ⟨line, none, sourceLine⟩
  | jump {old address : Address} {label : Label} {mark sourceLine : Int}
      (defined : p.labels.lookup label = some mark) (value : address.val = p.addressOf mark) :
    Settles p ⟨.instruction (.jp old), some label, sourceLine⟩
      ⟨.instruction (.jp address), some label, sourceLine⟩
  | call {old address : Address} {label : Label} {mark sourceLine : Int}
      (defined : p.labels.lookup label = some mark) (value : address.val = p.addressOf mark) :
    Settles p ⟨.instruction (.call old), some label, sourceLine⟩
      ⟨.instruction (.call address), some label, sourceLine⟩

/-- What is settled stays as it is. -/
theorem Settles.again (hsettles : p.Settles e resolved) : p.Settles resolved resolved := by
  cases hsettles with
  | plain => exact .plain
  | jump hdefined hvalue => exact .jump hdefined hvalue
  | call hdefined hvalue => exact .call hdefined hvalue

/-- The use of a label that is reported when an entry is resolved. -/
def use? (p : Program) (index : Nat) (e : Entry) : Option (Label × Int × Nat) :=
  e.reference.bind fun label =>
    (p.labels.lookup label).map fun mark => (label, p.addressOf mark, index)

theorem addressOf_nonneg (hbase : 0 ≤ p.base) (mark : Int) : 0 ≤ p.addressOf mark := by
  unfold addressOf
  omega

end Program

namespace Line

/-- A jump or call takes every address of twelve bits, and keeps its kind. -/
theorem withAddress_eq_ok {i : Instruction} (hkind : i.opcode = .jp ∨ i.opcode = .call)
    (address : Address) (index : Nat) : withAddress (.instruction i) address.val index =
      .ok (.instruction (i.opcode.build fun _ => address.val)) := by
  have hfields : i.opcode.format.fields = [.nnn] := by
    rcases hkind with hop | hop <;> rw [hop] <;> rfl
  have hrange : ¬ ((address.val : Int) < 0 ∨ 4096 ≤ (address.val : Int)) := by omega
  simp only [withAddress, hkind, if_true, Instruction.withAddress, hfields, List.mem_singleton,
    Instruction.ofOperands_address hfields, if_neg hrange]
  rcases hkind with hop | hop <;> rw [hop] <;> rfl

end Line

namespace Program

variable {p : Program} {e resolved : Entry} {entries : List Entry} {index : Nat}

theorem resolveEntry_reference {i : Instruction} (hkind : i.opcode = .jp ∨ i.opcode = .call)
    {label : Label} {mark sourceLine : Int} {address : Address}
    (hdefined : p.labels.lookup label = some mark) (hvalue : address.val = p.addressOf mark) :
    p.resolveEntry index ⟨.instruction i, some label, sourceLine⟩ =
      .ok (⟨.instruction (i.opcode.build fun _ => address.val), some label, sourceLine⟩,
        p.use? index ⟨.instruction i, some label, sourceLine⟩) := by
  have hrange : ¬ maxAddress < p.addressOf mark := by
    unfold maxAddress
    omega
  have haddress : p.addressOfLabel label sourceLine = .ok address.val := by
    rw [addressOfLabel, hdefined]
    simp only [if_neg hrange, hvalue]
  have huse : p.use? index ⟨.instruction i, some label, sourceLine⟩ =
      some (label, (address.val : Int), index) := by
    simp [use?, hdefined, hvalue]
  have hresolve : p.resolveReference index ⟨.instruction i, some label, sourceLine⟩ label =
      .ok (⟨.instruction (i.opcode.build fun _ => address.val), some label, sourceLine⟩,
        address.val) :=
    resolveReference_eq_ok.2 ⟨haddress, _, Line.withAddress_eq_ok hkind address index, rfl⟩
  simp only [resolveEntry, hresolve, Except.map, huse]

theorem resolveEntry_of_settles (hsettles : p.Settles e resolved) :
    p.resolveEntry index e = .ok (resolved, p.use? index e) := by
  have hwhole : ∀ address : Address, twelveBits address.val = address := Fin.ofNat_val_eq_self
  cases hsettles with
  | plain => rfl
  | jump hdefined hvalue =>
    rw [resolveEntry_reference (.inl rfl) hdefined hvalue, Instruction.opcode, Opcode.build, hwhole]
  | call hdefined hvalue =>
    rw [resolveEntry_reference (.inr rfl) hdefined hvalue, Instruction.opcode, Opcode.build, hwhole]

/-- An entry that can take an address is resolved, or fails as its label says. -/
theorem resolveEntry_cases (hbase : 0 ≤ p.base) (htakes : e.TakesAddress) (index : Nat) :
    (∃ error, p.failure? e = some error ∧ p.resolveEntry index e = .error error) ∨
      p.failure? e = none ∧ ∃ resolved, p.Settles e resolved := by
  obtain ⟨line, reference, sourceLine⟩ := e
  cases reference with
  | none => exact .inr ⟨rfl, _, .plain⟩
  | some label =>
    cases hdefined : p.labels.lookup label with
    | none =>
      refine .inl ⟨.undefinedLabel label sourceLine, by simp [failure?, hdefined], ?_⟩
      simp [resolveEntry, resolveReference, addressOfLabel, hdefined, bind, Except.bind, Except.map]
    | some mark =>
      by_cases hrange : maxAddress < p.addressOf mark
      · refine .inl ⟨.addressTooLarge label (p.addressOf mark) sourceLine,
          by simp [failure?, hdefined, hrange], ?_⟩
        simp [resolveEntry, resolveReference, addressOfLabel, hdefined, hrange, bind, Except.bind,
          Except.map]
      · refine .inr ⟨by simp [failure?, hdefined, hrange], ?_⟩
        have hlower := addressOf_nonneg hbase mark
        unfold maxAddress at hrange
        -- The address fits twelve bits, so it is an operand.
        let address : Address := ⟨(p.addressOf mark).toNat, by omega⟩
        have hvalue : (address.val : Int) = p.addressOf mark := Int.toNat_of_nonneg hlower
        obtain ⟨old, rfl | rfl⟩ := htakes label rfl
        · exact ⟨_, .jump hdefined hvalue⟩
        · exact ⟨_, .call hdefined hvalue⟩

/-- The uses of labels that entries from an index on report. -/
def usesFrom (p : Program) (index : Nat) : List Entry → List (Label × Int × Nat)
  | [] => []
  | e :: rest => (p.use? index e).toList ++ p.usesFrom (index + 1) rest

theorem resolveFrom_of_settles {settled : List Entry}
    (hsettles : List.Forall₂ p.Settles entries settled) (index : Nat) :
    p.resolveFrom index entries = (settled, p.usesFrom index entries, none) := by
  induction hsettles generalizing index with
  | nil => rfl
  | cons hentry _ ih => rw [resolveFrom, resolveEntry_of_settles hentry, ih]; rfl

/-- The first entry that fails ends the resolution; if there is none, all entries settle. -/
theorem resolveFrom_cases (hbase : 0 ≤ p.base) (htakes : ∀ e ∈ entries, e.TakesAddress)
    (index : Nat) :
    (∃ error, entries.findSome? p.failure? = some error ∧
      (p.resolveFrom index entries).2.2 = some error) ∨
    entries.findSome? p.failure? = none ∧ ∃ settled, List.Forall₂ p.Settles entries settled := by
  induction entries generalizing index with
  | nil => exact .inr ⟨rfl, [], .nil⟩
  | cons e rest ih =>
    have hrest := ih (fun f hf => htakes f (List.mem_cons_of_mem e hf)) (index + 1)
    rcases resolveEntry_cases hbase (htakes e List.mem_cons_self) index with
      ⟨error, hfailure, hentry⟩ | ⟨hfailure, resolved, hsettles⟩
    · exact .inl ⟨error, by simp [hfailure], by rw [resolveFrom, hentry]⟩
    · rcases hrest with ⟨error, hfirst, herror⟩ | ⟨hnone, settled, hall⟩
      · refine .inl ⟨error, by simp [hfailure, hfirst], ?_⟩
        rw [resolveFrom, resolveEntry_of_settles hsettles]
        exact herror
      · exact .inr ⟨by simp [hfailure, hnone], _, .cons hsettles hall⟩

/-! ## Programs of sources -/

theorem bounds_of_mem_marksFrom {count : Nat} {ss : List Statement} {label : Label} {mark : Int}
    (hmem : (label, mark) ∈ Statement.marksFrom count ss) :
    count ≤ mark ∧ mark ≤ count + (ss.filterMap Statement.added?).length := by
  induction ss generalizing count with
  | nil => cases hmem
  | cons s rest ih =>
    have hcount : (s :: rest).filterMap Statement.added? =
        s.added?.toList ++ rest.filterMap Statement.added? := by
      cases hadded : s.added? <;> simp [hadded]
    rw [hcount, List.length_append]
    rcases List.mem_append.1 hmem with hfirst | hrest
    · obtain ⟨name, -, hmark⟩ := List.mem_map.1 hfirst
      obtain rfl := (Prod.mk.inj hmark).2
      omega
    · have hbounds := ih hrest
      omega

theorem bounds_of_mem_labels {d : Draft} {ss : List Statement} (hholds : d.Holds ss) {label : Label}
    {mark : Int} (hmem : (label, mark) ∈ d.labels.toList) :
    0 ≤ mark ∧ mark ≤ d.entries.toList.length := by
  rw [hholds.labels] at hmem
  simpa [hholds.entries] using bounds_of_mem_marksFrom hmem

/-- The reference of the entry, if it has one, can be resolved. -/
def Reaches (p : Program) (e : Entry) : Prop :=
  ∀ label, e.reference = some label →
    ∃ mark, p.labels.lookup label = some mark ∧ p.addressOf mark ≤ maxAddress

theorem failure?_eq_none_iff : p.failure? e = none ↔ p.Reaches e := by
  unfold failure? Reaches
  cases e.reference with
  | none => simp
  | some label => cases hdefined : p.labels.lookup label <;> simp [hdefined]

/-- What resolving a program comes to. -/
structure ResolvesInOrder (p : Program) : Prop where
  /-- every line has its place for a reference, and its source line -/
  lengths : (p.entries.map Entry.reference).length = p.lines.length ∧
    (p.entries.map Entry.sourceLine).length = p.lines.length
  /-- labels mark places of the program -/
  marks : ∀ label mark, (label, mark) ∈ p.labels → 0 ≤ mark ∧ mark ≤ p.lines.length
  /-- references stand at jumps and calls that have no address yet -/
  placeholders : ∀ e ∈ p.entries, ∀ label, e.reference = some label →
    e.line = .instruction (.jp Line.placeholderAddress) ∨
      e.line = .instruction (.call Line.placeholderAddress)
  /-- resolving succeeds if every reference can be resolved -/
  succeeds_iff : p.resolve.error = none ↔ ∀ e ∈ p.entries, p.Reaches e
  /-- and otherwise fails for the first that cannot -/
  fails : ∀ error, p.resolve.error = some error →
    ∃ before e after label, p.entries = before ++ e :: after ∧ (∀ f ∈ before, p.Reaches f) ∧
      e.reference = some label ∧
      (p.labels.lookup label = none ∧ error = .undefinedLabel label e.sourceLine ∨
        ∃ mark, p.labels.lookup label = some mark ∧ maxAddress < p.addressOf mark ∧
          error = .addressTooLarge label (p.addressOf mark) e.sourceLine)
  /-- a success settles every entry -/
  settles : p.resolve.error = none → List.Forall₂ p.Settles p.entries p.resolve.program.entries
  /-- labels stay where they are -/
  keeps : p.resolve.program.labels = p.labels ∧ p.resolve.program.base = p.base
  /-- lines keep their sizes -/
  sizes : p.resolve.error = none →
    p.resolve.program.lines.map Line.size = p.lines.map Line.size
  /-- resolving once more changes nothing -/
  again : p.resolve.error = none → p.resolve.program.resolve = p.resolve

theorem error_of_failure {error : ResolutionError} (hfailure : p.failure? e = some error) :
    ∃ label, e.reference = some label ∧
      (p.labels.lookup label = none ∧ error = .undefinedLabel label e.sourceLine ∨
        ∃ mark, p.labels.lookup label = some mark ∧ maxAddress < p.addressOf mark ∧
          error = .addressTooLarge label (p.addressOf mark) e.sourceLine) := by
  unfold failure? at hfailure
  split at hfailure
  · cases hfailure
  · rename_i label hreference
    refine ⟨label, hreference, ?_⟩
    split at hfailure
    · rename_i hundefined
      exact .inl ⟨hundefined, (Option.some.inj hfailure).symm⟩
    · rename_i mark hdefined
      split at hfailure
      · rename_i hrange
        exact .inr ⟨mark, hdefined, hrange, (Option.some.inj hfailure).symm⟩
      · cases hfailure

/-! ## Resolving twice -/

theorem Settles.resolves (hsettles : p.Settles e resolved) : p.Resolves e resolved :=
  @resolves_of_resolveEntry p 0 _ _ _ (resolveEntry_of_settles hsettles)

theorem map_size_of_settles {settled : List Entry}
    (hsettles : List.Forall₂ p.Settles entries settled) :
    settled.map (Line.size ∘ Entry.line) = entries.map (Line.size ∘ Entry.line) :=
  map_size_of_resolves (hsettles.imp fun _ _ hentry => hentry.resolves)

section Again

variable {q : Program} (hlabels : q.labels = p.labels)
  (haddress : ∀ mark, q.addressOf mark = p.addressOf mark)
include hlabels haddress

/-- Entries settle the same way in a program with the same labels at the same addresses. -/
theorem Settles.congr (hsettles : p.Settles e resolved) : q.Settles e resolved := by
  cases hsettles with
  | plain => exact .plain
  | jump hdefined hvalue => exact .jump (hlabels ▸ hdefined) (haddress _ ▸ hvalue)
  | call hdefined hvalue => exact .call (hlabels ▸ hdefined) (haddress _ ▸ hvalue)

/-- What has settled settles once more. -/
theorem forall₂_settles_again {settled : List Entry}
    (hsettles : List.Forall₂ p.Settles entries settled) :
    List.Forall₂ q.Settles settled settled := by
  induction hsettles with
  | nil => exact .nil
  | cons hentry _ ih => exact .cons (hentry.again.congr hlabels haddress) ih

/-- The same uses of labels are reported for it. -/
theorem usesFrom_of_settles {settled : List Entry}
    (hsettles : List.Forall₂ p.Settles entries settled) (index : Nat) :
    q.usesFrom index settled = p.usesFrom index entries := by
  have huse : ∀ index e resolved, p.Settles e resolved →
      q.use? index resolved = p.use? index e := by
    intro index e resolved hentry
    cases hentry <;> simp only [use?, hlabels, haddress]
  induction hsettles generalizing index with
  | nil => rfl
  | cons hentry _ ih => rw [usesFrom, usesFrom, huse index _ _ hentry, ih]

end Again

theorem resolve_of_settles {settled : List Entry}
    (hsettles : List.Forall₂ p.Settles p.entries settled) :
    p.resolve = ⟨{ p with entries := settled }, p.usesFrom 0 p.entries, none⟩ := by
  rw [resolve_eq, resolveFrom_of_settles hsettles]

/-- A settled program resolves to itself. -/
theorem resolve_settled {q : Program} (hsettles : List.Forall₂ p.Settles p.entries q.entries)
    (hq : q = { p with entries := q.entries }) : q.resolve = p.resolve := by
  have hlabels : q.labels = p.labels := by rw [hq]
  have haddress : ∀ mark, q.addressOf mark = p.addressOf mark := by
    rw [hq]
    exact addressOf_of_resolves (hsettles.imp fun _ _ hentry => hentry.resolves)
  rw [resolve_of_settles (forall₂_settles_again hlabels haddress hsettles),
    resolve_of_settles hsettles, usesFrom_of_settles hlabels haddress hsettles, ← hq]

/-- A program whose references stand at jumps and calls either settles, or ends at the first
reference that cannot be resolved. -/
theorem resolve_cases (hbase : 0 ≤ p.base) (htakes : ∀ e ∈ p.entries, e.TakesAddress) :
    (∃ error, p.entries.findSome? p.failure? = some error ∧ p.resolve.error = some error) ∨
      p.entries.findSome? p.failure? = none ∧
        List.Forall₂ p.Settles p.entries p.resolve.program.entries ∧ p.resolve.error = none := by
  rcases resolveFrom_cases hbase htakes 0 with ⟨error, hfirst, herror⟩ | ⟨hnone, settled, hsettles⟩
  · exact .inl ⟨error, hfirst, by rw [resolve_eq]; exact herror⟩
  · refine .inr ⟨hnone, ?_, ?_⟩ <;> rw [resolve_of_settles hsettles]
    exact hsettles

section Source

variable {base : Int} {source : Text} (hsource : ofSource base source = .ok p)
include hsource

theorem marks_of_ofSource {label : Label} {mark : Int} (hmem : (label, mark) ∈ p.labels) :
    0 ≤ mark ∧ mark ≤ p.lines.length := by
  obtain ⟨d, hholds, rfl⟩ := exists_draft_of_ofSource hsource
  simpa [lines, Draft.program] using bounds_of_mem_labels hholds hmem

theorem placeholder_of_ofSource (he : e ∈ p.entries) {label : Label}
    (hreference : e.reference = some label) :
    e.line = .instruction (.jp Line.placeholderAddress) ∨
      e.line = .instruction (.call Line.placeholderAddress) := by
  obtain ⟨d, hholds, rfl⟩ := exists_draft_of_ofSource hsource
  have hentries : (d.program base).entries =
      (Source.statements source).filterMap Statement.added? := hholds.entries
  obtain ⟨s, -, hadded⟩ := List.mem_filterMap.1 (hentries ▸ he)
  obtain ⟨text, -, hread⟩ := Statement.exists_read_of_added? hadded
  rw [hreference] at hread
  rcases Line.refers_of_read hread with ⟨-, hline⟩ | ⟨-, hline⟩
  · exact .inl hline
  · exact .inr hline

end Source

/-- Resolving the program of a source fails for the first reference whose label is not defined or
lies too far behind; without one it gives every jump and call to a label its address, and does
nothing else. -/
theorem resolve_ofSource {base : Int} {source : Text} {p : Program}
    (hsource : ofSource base source = .ok p) (hbase : 0 ≤ base) : ResolvesInOrder p := by
  have hnonneg : 0 ≤ p.base := by
    obtain ⟨d, -, rfl⟩ := exists_draft_of_ofSource hsource
    exact hbase
  have hplaceholder : ∀ e ∈ p.entries, ∀ label, e.reference = some label →
      e.line = .instruction (.jp Line.placeholderAddress) ∨
        e.line = .instruction (.call Line.placeholderAddress) :=
    fun _ he _ hreference => placeholder_of_ofSource hsource he hreference
  have htakes : ∀ e ∈ p.entries, e.TakesAddress := fun e he label hreference =>
    ⟨_, hplaceholder e he label hreference⟩
  have hcases := resolve_cases hnonneg htakes
  have hsettles : p.resolve.error = none →
      List.Forall₂ p.Settles p.entries p.resolve.program.entries := by
    intro hsuccess
    rcases hcases with ⟨error, -, herror⟩ | ⟨-, hsettles, -⟩
    · rw [hsuccess] at herror
      cases herror
    · exact hsettles
  refine
    { lengths := by simp [lines]
      marks := fun _ _ hmem => marks_of_ofSource hsource hmem
      placeholders := hplaceholder
      succeeds_iff := ?_
      fails := ?_
      settles := hsettles
      keeps := by rw [program_resolve]; exact ⟨rfl, rfl⟩
      sizes := ?_
      again := fun hsuccess => resolve_settled (hsettles hsuccess) (program_resolve p) }
  · simp only [← failure?_eq_none_iff, ← List.findSome?_eq_none_iff]
    rcases hcases with ⟨error, hfirst, herror⟩ | ⟨hnone, -, hsuccess⟩
    · simp [hfirst, herror]
    · simp [hnone, hsuccess]
  · intro error herror
    rcases hcases with ⟨first, hfirst, hfails⟩ | ⟨-, -, hsuccess⟩
    · obtain rfl := Option.some.inj (hfails.symm.trans herror)
      obtain ⟨before, e, after, hsplit, hfailure, hbefore⟩ := List.findSome?_eq_some_iff.1 hfirst
      obtain ⟨label, hreference, hcause⟩ := error_of_failure hfailure
      exact ⟨before, e, after, label, hsplit,
        fun f hf => failure?_eq_none_iff.1 (hbefore f hf), hreference, hcause⟩
    · rw [hsuccess] at herror
      cases herror
  · intro hsuccess
    rw [lines, lines, List.map_map, List.map_map]
    exact map_size_of_settles (hsettles hsuccess)

/-- The program of the mixed source: its jump goes forward, its call goes back. -/
def mixedProgram : Program where
  entries :=
    [⟨.instruction (.jp Line.placeholderAddress), some "end".toList, 1⟩,
      ⟨.data [1, 2, 3], none, 2⟩,
      ⟨.instruction (.call Line.placeholderAddress), some "start".toList, 2⟩]
  labels := [("start".toList, 0), ("end".toList, 3)]
  base := 0x200

theorem resolve_ofSource_mixed : ofSource 0x200 Assembler.mixedSource = .ok mixedProgram ∧
    (0 : Int) ≤ 0x200 ∧ ResolvesInOrder mixedProgram := by
  have hsource : ofSource 0x200 Assembler.mixedSource = .ok mixedProgram := by decide +kernel
  exact ⟨hsource, by decide, resolve_ofSource hsource (by decide)⟩

end Program

end Chip8
