/-
# Sessions that assemble

A session that assembles a source ends in one of two ways as long as no file operation fails: it
saves exactly the bytes of the source and ends with status zero, or it complains, ends with status
one and leaves every file but the log as it was. There is one exception. A numeral beyond the bound
on decimal digits is no fault that is collected, and the session breaks off without a status. Even
then nothing has been saved, since a file is written only when all the bytes are known.
-/

import Chip8.Command.Session
import Chip8.Proofs.Command.Disk
import Chip8.Proofs.Program.Faults
import Chip8.Proofs.Program.Joining

namespace Chip8.Command

/-! ## Text files -/

theorem toList_loop (bytes : ByteArray) (index : Nat) (front : List UInt8) :
    ByteArray.toList.loop bytes index front = front.reverse ++ bytes.data.toList.drop index := by
  fun_induction ByteArray.toList.loop bytes index front with
  | case1 index front hlt ih =>
    have hindex : index < bytes.data.toList.length := by simpa using hlt
    have hget : bytes.get! index = bytes.data.toList[index] := by
      cases bytes
      exact getElem!_pos _ index hlt
    rw [ih, List.drop_eq_getElem_cons hindex, hget, List.reverse_cons, List.append_assoc,
      List.singleton_append]
  | case2 index front hlt =>
    rw [List.drop_eq_nil_of_le (by simpa using Nat.le_of_not_lt hlt), List.append_nil]

/-- A text that is saved in UTF-8 is read back. -/
theorem decodeText?_encodeText (t : Text) : decodeText? (encodeText t) = some t := by
  have hbytes : ∀ bytes : ByteArray, (⟨bytes.toList.toArray⟩ : ByteArray) = bytes := by
    intro bytes
    rw [ByteArray.toList, toList_loop]
    simp
  rw [decodeText?, encodeText, hbytes, String.toUTF8_eq_toByteArray, String.fromUTF8?,
    dif_pos (String.ofList t).isValidUTF8]
  show some (String.ofList t).toList = some t
  rw [String.toList_ofList]

/-! ## One session -/

/-- The disk with the events logged, if there is a log file. -/
def Globals.logged (g : Globals) (events : List Event) (d : Disk) : Disk :=
  match g.logPath with
  | some path => d.log path events
  | none => d

variable {i : Invocation} {s : AssembleSettings} {d started after : Disk} {content : List UInt8}

theorem isSome_file?_of_startLog {g : Globals} {path : Text}
    (hlog : g.startLog Disk.operations d = (.ok (), started)) (hpath : g.logPath = some path) :
    (started.file? (Disk.logPlace path)).isSome = true := by
  unfold Globals.startLog at hlog
  rw [hpath] at hlog
  simp only [bind, StateT.bind] at hlog
  generalize onNameable (Files.makeFolders Disk.operations) (Path.folder path) d = made at hlog
  obtain ⟨outcome, middle⟩ := made
  cases outcome with
  | error cause => cases hlog
  | ok _ =>
    simp only [onNameable, bind, pure] at hlog
    split at hlog
    · change (((middle.startLog path).1.mapError Breakdown.noLog, (middle.startLog path).2) :
        Except Breakdown Unit × Disk) = (.ok (), started) at hlog
      obtain ⟨houtcome, rfl⟩ := Prod.mk.inj hlog
      refine Disk.isSome_file?_startLog ?_
      cases hstart : (middle.startLog path).1 with
      | ok _ => rfl
      | error error => rw [hstart] at houtcome; cases houtcome
    · cases hlog

/-- Logging to a log file that has been started moves nothing. -/
theorem sameShape_logged {g : Globals} (hlog : g.startLog Disk.operations d = (.ok (), started))
    (events : List Event) : started.SameShape (g.logged events started) := by
  unfold Globals.logged
  cases hpath : g.logPath with
  | none => exact ⟨rfl, rfl, fun _ => rfl⟩
  | some path => exact Disk.sameShape_log (isSome_file?_of_startLog hlog hpath) events

theorem perform_assemble (htask : i.task = .assemble s) (hinput : Path.isNameable i.input = true)
    (hread : started.read i.input = .ok content) (console : Console) (entropy : Int) :
    i.perform Disk.operations console entropy started =
      (s.reply i.input content).finish Disk.operations
        (i.globals.logged (s.reply i.input content).events started) := by
  unfold Invocation.perform Globals.logged
  simp only [htask, Task.startingSeed, Task.path, hinput, if_true, bind, StateT.bind,
    Disk.operations_read, hread, Task.reply, Except.mapError]
  cases i.globals.logPath <;> rfl

theorem finish_of_save_eq_none {r : Reply} (hsave : r.save = none) (d : Disk) :
    r.finish Disk.operations d = (r, d) := by
  unfold Reply.finish
  rw [hsave]
  rfl

theorem finish_of_write {r : Reply} {save : Save} (hsave : r.save = some save)
    (hname : Path.isNameable save.path = true)
    (hwrite : d.write save.path save.content = .ok after) :
    r.finish Disk.operations d = ({ r with output := r.output ++ save.notice }, after) := by
  unfold Reply.finish
  simp only [hsave, hname, if_true, bind, StateT.bind, Disk.operations_write hwrite]
  rfl

theorem session_eq {arguments : List Text} {entropy : Int} {console : Console} {r : Reply}
    (harguments : Invocation.ofArguments arguments = .ok i)
    (hlog : i.globals.startLog Disk.operations d = (.ok (), started))
    (hperform : i.perform Disk.operations console entropy started = (r, after)) :
    session Disk.operations entropy arguments console d = (i.globals.transcript r, after) := by
  unfold session
  simp only [harguments, bind, StateT.bind, hlog, hperform]
  rfl

/-! ## What a source comes to -/

/-- The bytes of a source, as an assembler for the usual address gives them. -/
def romOf (source : Text) : Except AssemblyError (List UInt8) :=
  (({ base := programStart } : Assembler).assemble source).1

theorem romOf_eq (source : Text) :
    romOf source = (Program.assemble programStart source).map Program.bytes := by
  unfold romOf Assembler.assemble
  cases Program.assemble programStart source <;> rfl

theorem romOf_eq_limit {source : Text} {bound : DigitLimit} :
    romOf source = .error (.limit bound) ↔ Draft.ofSource source = .error bound := by
  rw [romOf_eq, Program.assemble, Program.ofSource]
  cases Draft.ofSource source with
  | error other => simp [bind, Except.bind, Except.map]
  | ok draft =>
    by_cases hclean : draft.faults.isEmpty = true
    · simp only [hclean, if_true, bind, Except.bind]
      cases (draft.program programStart).resolve.error <;>
        simp [pure, Except.pure, throw, throwThe, MonadExceptOf.throw, Except.map]
    · simp [hclean, bind, Except.bind, Except.map]

/-- Assembling breaks off exactly if a statement meets the bound on decimal digits. -/
theorem exists_romOf_eq_limit_iff {source : Text} :
    (∃ bound, romOf source = .error (.limit bound)) ↔
      ∃ t ∈ Source.statements source, t.MeetsLimit := by
  simp only [romOf_eq_limit, Draft.exists_ofSource_eq_error_iff]

/-- The reply to a source with bytes saves them. -/
theorem reply_of_rom {source : Text} {rom : List UInt8} (htext : decodeText? content = some source)
    (hrom : romOf source = .ok rom) (input : Text) : ∃ output notice events,
      s.reply input content =
        { output, save := some { path := s.target input, content := rom, notice }, events } := by
  rw [romOf_eq] at hrom
  cases hprogram : Program.assemble programStart source with
  | error cause => rw [hprogram] at hrom; cases hrom
  | ok program =>
    rw [hprogram] at hrom
    obtain rfl := Except.ok.inj hrom
    simp only [AssembleSettings.reply, htext, AssembleSettings.replyToSource, hprogram]
    exact ⟨_, _, _, rfl⟩

theorem refusal_of_not_limit {cause : AssemblyError} (hcause : ∀ bound, cause ≠ .limit bound) :
    ∃ lines, lines ≠ [] ∧ refusal cause = complain lines := by
  unfold refusal
  cases cause with
  | limit bound => exact absurd rfl (hcause bound)
  | faulty faults =>
    dsimp only
    split
    · exact ⟨_, List.cons_ne_nil _ _, rfl⟩
    · rename_i hsome
      refine ⟨_, ?_, rfl⟩
      simpa using hsome
  | unresolved error =>
    dsimp only
    split
    · exact ⟨_, List.cons_ne_nil _ _, rfl⟩
    · rename_i hsome
      refine ⟨_, ?_, rfl⟩
      simpa using hsome

/-- The reply to a source without bytes saves nothing: it complains, or breaks off at the bound on
decimal digits. -/
theorem reply_of_error {source : Text} {cause : AssemblyError}
    (htext : decodeText? content = some source) (hrom : romOf source = .error cause)
    (input : Text) :
    ∃ events, s.reply input content = { refusal cause with events } := by
  rw [romOf_eq] at hrom
  cases hprogram : Program.assemble programStart source with
  | ok program => rw [hprogram] at hrom; cases hrom
  | error other =>
    rw [hprogram] at hrom
    obtain rfl := Except.error.inj hrom
    simp only [AssembleSettings.reply, htext, AssembleSettings.replyToSource, hprogram]
    exact ⟨_, rfl⟩

/-! ## How a session ends -/

/-- The operations on files that a session needs do not fail: the log file is started, the input is
read, and the file for the bytes can be written and keeps what is written to it. -/
structure Serves (d : Disk) (i : Invocation) (s : AssembleSettings) (content : List UInt8)
    (started : Disk) : Prop where
  log : i.globals.startLog Disk.operations d = (.ok (), started)
  input : Path.isNameable i.input = true
  reads : started.read i.input = .ok content
  target : Path.isNameable (s.target i.input) = true
  writes : ∃ written, started.write (s.target i.input) [] = .ok written
  keeps : ∀ place, started.locate (s.target i.input) = .ok place → place ∉ started.sinks

/-- Nothing has changed but the log file, if there is one. -/
structure OnlyLogged (g : Globals) (d after : Disk) : Prop where
  folders : after.folders = d.folders
  files : ∀ place, (∀ path, g.logPath = some path → place ≠ Disk.logPlace path) →
    after.file? place = d.file? place

/-- A session that assembles succeeds whole or fails clean. -/
inductive EndsClean (i : Invocation) (s : AssembleSettings) (content : List UInt8)
    (started : Disk) (t : Transcript) (after : Disk) : Prop
  | assembled {source : Text} {rom : List UInt8} (status : t.outcome = .status 0)
      (text : decodeText? content = some source) (bytes : romOf source = .ok rom)
      (saved : after.read (s.target i.input) = .ok rom)
  | failed {lines : List Text} (status : t.outcome = .status 1)
      (noBytes : ∀ source rom, decodeText? content = some source → romOf source ≠ .ok rom)
      (complains : lines ≠ []) (shown : t.errors = asLines lines)
      (unsaved : OnlyLogged i.globals started after)

theorem onlyLogged_logged (g : Globals) (events : List Event) (d : Disk) :
    OnlyLogged g d (g.logged events d) := by
  unfold Globals.logged
  cases hpath : g.logPath with
  | none => exact ⟨rfl, fun _ _ => rfl⟩
  | some path =>
    refine ⟨Disk.folders_put d _ _, fun place hplace => ?_⟩
    exact Disk.file?_log_of_ne events (hplace path hpath)

section Session

variable {arguments : List Text} (entropy : Int) (console : Console)
  (harguments : Invocation.ofArguments arguments = .ok i) (htask : i.task = .assemble s)
  (hserves : Serves d i s content started)
include harguments htask hserves

/-- A session whose reply saves nothing shows the reply and logs its events. -/
theorem session_of_unsaved (hsave : (s.reply i.input content).save = none) :
    session Disk.operations entropy arguments console d =
      (i.globals.transcript (s.reply i.input content),
        i.globals.logged (s.reply i.input content).events started) :=
  session_eq harguments hserves.log
    ((perform_assemble htask hserves.input hserves.reads console entropy).trans
      (finish_of_save_eq_none hsave _))

theorem endsClean_of_rom {source : Text} {rom : List UInt8}
    (htext : decodeText? content = some source) (hrom : romOf source = .ok rom) :
    EndsClean i s content started (session Disk.operations entropy arguments console d).1
      (session Disk.operations entropy arguments console d).2 := by
  obtain ⟨output, notice, events, hreply⟩ := reply_of_rom (s := s) htext hrom i.input
  -- The events are logged before the bytes are saved, which does not keep them from being saved.
  have hshape := sameShape_logged hserves.log events
  obtain ⟨written, hwritten⟩ := hserves.writes
  obtain ⟨after, hwrite⟩ := hshape.exists_write hwritten rom
  have hperform := perform_assemble htask hserves.input hserves.reads console entropy
  rw [hreply, finish_of_write rfl hserves.target hwrite] at hperform
  rw [session_eq harguments hserves.log hperform]
  refine .assembled rfl htext hrom (Disk.read_write hwrite fun place hlocate => ?_)
  rw [hshape.locate] at hlocate
  rw [hshape.sinks]
  exact hserves.keeps place hlocate

theorem endsClean_of_undecoded (htext : decodeText? content = none) :
    EndsClean i s content started (session Disk.operations entropy arguments console d).1
      (session Disk.operations entropy arguments console d).2 := by
  have hreply : s.reply i.input content =
      complain [errorLine (i.input ++ ": not valid UTF-8".toList)] := by
    rw [AssembleSettings.reply, htext]
  rw [session_of_unsaved entropy console harguments htask hserves (by rw [hreply]; rfl), hreply]
  have hnone : ∀ source rom, decodeText? content = some source → romOf source ≠ .ok rom := by
    intro source rom hsource
    cases htext.symm.trans hsource
  exact .failed rfl hnone (List.cons_ne_nil _ _) rfl (onlyLogged_logged i.globals _ started)

theorem endsClean_of_error {source : Text} {cause : AssemblyError}
    (htext : decodeText? content = some source) (hrom : romOf source = .error cause)
    (hcause : ∀ bound, cause ≠ .limit bound) :
    EndsClean i s content started (session Disk.operations entropy arguments console d).1
      (session Disk.operations entropy arguments console d).2 := by
  obtain ⟨events, hreply⟩ := reply_of_error (s := s) htext hrom i.input
  obtain ⟨lines, hlines, hrefusal⟩ := refusal_of_not_limit hcause
  rw [hrefusal] at hreply
  rw [session_of_unsaved entropy console harguments htask hserves (by rw [hreply]; rfl), hreply]
  have hnone : ∀ source rom, decodeText? content = some source → romOf source ≠ .ok rom := by
    intro source rom hsource hok
    obtain rfl := Option.some.inj (htext.symm.trans hsource)
    cases hrom.symm.trans hok
  exact .failed rfl hnone hlines rfl (onlyLogged_logged i.globals _ started)

/-- At the bound on decimal digits the session breaks off, and has saved nothing. -/
theorem session_of_limit {source : Text} {bound : DigitLimit}
    (htext : decodeText? content = some source) (hrom : romOf source = .error (.limit bound)) :
    (session Disk.operations entropy arguments console d).1.outcome = .broken (.limit bound) ∧
      OnlyLogged i.globals started (session Disk.operations entropy arguments console d).2 := by
  obtain ⟨events, hreply⟩ := reply_of_error (s := s) htext hrom i.input
  rw [session_of_unsaved entropy console harguments htask hserves (by rw [hreply]; rfl), hreply]
  exact ⟨rfl, onlyLogged_logged i.globals _ started⟩

end Session

theorem EndsClean.not_broken {t : Transcript} (hends : EndsClean i s content started t after)
    (cause : Breakdown) : t.outcome ≠ .broken cause := by
  intro hbroken
  cases hends with
  | assembled hstatus => cases hstatus.symm.trans hbroken
  | failed hstatus => cases hstatus.symm.trans hbroken

/-- What a session that assembles comes to. -/
structure AssemblesUnlessLimited (i : Invocation) (s : AssembleSettings) (content : List UInt8)
    (started : Disk) (t : Transcript) (after : Disk) : Prop where
  /-- it ends clean, or it breaks off at the bound on decimal digits and has saved nothing -/
  ends : EndsClean i s content started t after ∨
    (∃ bound, t.outcome = .broken (.limit bound)) ∧ OnlyLogged i.globals started after
  /-- it breaks off exactly if a statement of the source meets that bound -/
  broken_iff : (∃ cause, t.outcome = .broken cause) ↔
    ∃ source, decodeText? content = some source ∧
      ∃ statement ∈ Source.statements source, statement.MeetsLimit

/-- A session that assembles, with files that do not fail, saves the bytes of its source or
complains and saves nothing, whatever the console. Only a numeral beyond the bound on decimal digits
leaves it without a status. -/
theorem session_assembles {arguments : List Text} {t : Transcript} (entropy : Int)
    (console : Console) (harguments : Invocation.ofArguments arguments = .ok i)
    (htask : i.task = .assemble s) (hserves : Serves d i s content started)
    (hsession : session Disk.operations entropy arguments console d = (t, after)) :
    AssemblesUnlessLimited i s content started t after := by
  obtain ⟨rfl, rfl⟩ : (session Disk.operations entropy arguments console d).1 = t ∧
      (session Disk.operations entropy arguments console d).2 = after := by
    rw [hsession]
    exact ⟨rfl, rfl⟩
  cases htext : decodeText? content with
  | none =>
    have hends := endsClean_of_undecoded entropy console harguments htask hserves htext
    refine ⟨.inl hends, ⟨fun ⟨cause, hbroken⟩ => absurd hbroken (hends.not_broken cause), ?_⟩⟩
    rintro ⟨source, hsource, -⟩
    cases htext.symm.trans hsource
  | some source =>
    have hlimit : (∃ bound, romOf source = .error (.limit bound)) ↔
        ∃ text, decodeText? content = some text ∧
          ∃ statement ∈ Source.statements text, statement.MeetsLimit := by
      simp only [exists_romOf_eq_limit_iff, htext, Option.some.injEq, exists_eq_left']
    cases hrom : romOf source with
    | ok rom =>
      have hends := endsClean_of_rom entropy console harguments htask hserves htext hrom
      refine ⟨.inl hends, ⟨fun ⟨cause, hbroken⟩ => absurd hbroken (hends.not_broken cause), ?_⟩⟩
      intro hmeets
      obtain ⟨bound, hbound⟩ := hlimit.2 (htext ▸ hmeets)
      cases hrom.symm.trans hbound
    | error cause =>
      by_cases hcause : ∃ bound, cause = .limit bound
      · obtain ⟨bound, rfl⟩ := hcause
        obtain ⟨hbroken, hunsaved⟩ :=
          session_of_limit entropy console harguments htask hserves htext hrom
        exact ⟨.inr ⟨⟨bound, hbroken⟩, hunsaved⟩,
          ⟨fun _ => htext ▸ hlimit.1 ⟨bound, hrom⟩, fun _ => ⟨_, hbroken⟩⟩⟩
      · have hends := endsClean_of_error entropy console harguments htask hserves htext hrom
          fun bound hbound => hcause ⟨bound, hbound⟩
        refine ⟨.inl hends, ⟨fun ⟨cause, hbroken⟩ => absurd hbroken (hends.not_broken cause), ?_⟩⟩
        intro hmeets
        obtain ⟨bound, hbound⟩ := hlimit.2 (htext ▸ hmeets)
        exact absurd ⟨bound, Except.error.inj (hrom.symm.trans hbound)⟩ hcause

/-! ## A single file -/

/-- The arguments that ask for the file `a.asm` to be assembled. -/
def plainArguments : List Text := ["asm".toList, "a.asm".toList]

/-- What they ask for. -/
def plainInvocation : Invocation :=
  { globals := {}, task := .assemble {}, input := "a.asm".toList }

/-- A disk with a source in this file and nothing else. -/
def sourceDisk (source : Text) : Disk :=
  Disk.ofFiles [(["a.asm".toList], { bytes := encodeText source })]

theorem ofArguments_plain : Invocation.ofArguments plainArguments = .ok plainInvocation := rfl

/-- The disk serves the session, whatever the source is. -/
theorem serves_sourceDisk (source : Text) : Serves (sourceDisk source) plainInvocation {}
    (encodeText source) (sourceDisk source) where
  log := rfl
  input := by decide
  reads := rfl
  target := by decide
  writes := ⟨_, rfl⟩
  keeps _ _ := List.not_mem_nil

theorem session_assembles_plain :
    Invocation.ofArguments plainArguments = .ok plainInvocation ∧
      plainInvocation.task = .assemble {} ∧
      Serves (sourceDisk "ld v0 1".toList) plainInvocation {} (encodeText "ld v0 1".toList)
        (sourceDisk "ld v0 1".toList) ∧
      AssemblesUnlessLimited plainInvocation {} (encodeText "ld v0 1".toList)
        (sourceDisk "ld v0 1".toList)
        (session Disk.operations 0 plainArguments .framed (sourceDisk "ld v0 1".toList)).1
        (session Disk.operations 0 plainArguments .framed (sourceDisk "ld v0 1".toList)).2 :=
  ⟨ofArguments_plain, rfl, serves_sourceDisk _,
    session_assembles 0 .framed ofArguments_plain rfl (serves_sourceDisk _) rfl⟩

/-! ## A numeral beyond the bound -/

section Long

/-- So many ones in a row. -/
def ones (count : Nat) : Text := List.replicate count '1'

/-- The words of a statement that loads this number into a register. -/
def loadWords (count : Nat) : List Text := [['l', 'd'], ['v', '0'], ones count]

/-- The source that consists of this statement. -/
def loadSource (count : Nat) : Text := Text.join [' '] (loadWords count)

variable {count : Nat} (hcount : Text.maxDecimalDigits < count)
include hcount

theorem spells_ones : ∃ value, (ones count).Spells 10 value := by
  refine ⟨_, List.replicate count 1, ?_, ?_, ?_, rfl⟩
  · rw [Ne, List.replicate_eq_nil_iff]
    omega
  · intro digit hdigit
    rw [List.eq_of_mem_replicate hdigit]
    decide
  · rw [List.map_replicate]
    rfl

theorem isWord_of_mem_loadWords : ∀ w ∈ loadWords count, Text.IsWord w := by
  obtain ⟨value, hspells⟩ := spells_ones hcount
  have hne : ones count ≠ [] := by
    rw [ones, Ne, List.replicate_eq_nil_iff]
    omega
  have hones : (ones count).IsWord := ⟨hne, fun c hc => (hspells.isFolded (by decide) c hc).1⟩
  intro w hw
  simp only [loadWords, List.mem_cons, List.not_mem_nil, or_false] at hw
  rcases hw with rfl | rfl | rfl
  · decide
  · decide
  · exact hones

theorem isStatement_loadSource : (loadSource count).IsStatement :=
  Text.isStatement_join (List.cons_ne_nil _ _) (isWord_of_mem_loadWords hcount)

theorem words_loadSource : Text.words (Text.lower (loadSource count)) = loadWords count := by
  have hones : (ones count).map Char.toLower = ones count := by
    rw [ones, List.map_replicate]
    rfl
  have hne : loadWords count ≠ [] := List.cons_ne_nil _ _
  rw [loadSource, Text.words_lower_join hne (isWord_of_mem_loadWords hcount)]
  simp only [loadWords, List.map_cons, hones]
  rfl

theorem readNumber_ones (width : Nat) :
    Operand.readNumber (ones count) width = .error (.limit (.reading count)) := by
  obtain ⟨value, hspells⟩ := spells_ones hcount
  have hlength : (ones count).length = count := List.length_replicate
  rw [Operand.readNumber, Operand.numeral?_of_spells_ten hspells, hlength, if_pos hcount]

/-- The numeral has the shape of a number, so it is read as one, and meets the bound. -/
theorem read_loadSource : Line.read (loadSource count) = .error (.limit (.reading count)) := by
  obtain ⟨value, hspells⟩ := spells_ones hcount
  have hnumeral := Operand.Denotes.isNumeral (.inl hspells)
  have hregister : (Slot.field .x).accepts ['v', '0'] = true := by decide
  have hnumber : (Slot.field .nn).accepts (ones count) = true := by
    simp [Slot.accepts, Field.isRegister, Operand.isRegister_of_isNumeral hnumeral,
      Operand.isKeyword_of_isNumeral hnumeral]
  have haccepts : Opcode.ldByte.format.accepts [['v', '0'], ones count] = true := by
    simp [Format.accepts, Opcode.format, hregister, hnumber]
  have hwords : Instruction.foldedWords (loadSource count) =
      Opcode.ldByte.format.mnemonic.map Char.toLower :: [['v', '0'], ones count] :=
    (Instruction.foldedWords_eq (isStatement_loadSource hcount)).trans (words_loadSource hcount)
  have hslots : Instruction.readSlots Opcode.ldByte.format.slots [['v', '0'], ones count] =
      .error (.limit (.reading count)) := by
    have hfirst : (Slot.field .x).read ['v', '0'] = .ok (some (.x, 0)) := rfl
    have hsecond : (Slot.field .nn).read (ones count) = .error (.limit (.reading count)) := by
      simp [Slot.read, Field.isRegister, readNumber_ones hcount, Except.map]
    simp [Opcode.format, Instruction.readSlots, hfirst, hsecond, bind, Except.bind]
  have hread := Instruction.read_of_accepts hwords haccepts
  rw [hslots] at hread
  unfold Line.read
  rw [words_loadSource hcount]
  simp [loadWords, Line.readReference?, hread, Except.map]

theorem exists_meetsLimit_loadSource :
    ∃ t ∈ Source.statements (loadSource count), t.MeetsLimit := by
  have hstatement := isStatement_loadSource hcount
  have htexts : (Source.statements (loadSource count)).map Statement.text = [loadSource count] :=
    Source.map_text_statements_of_joined (by simpa using hstatement) (.single _)
  obtain ⟨t, ht, htext⟩ := List.mem_map.1 (htexts ▸ List.mem_singleton_self (loadSource count))
  have hcontent : t.content? = some (loadSource count) := by
    rw [Statement.content?, htext, Line.splitLabel?_eq_none hstatement]
  exact ⟨t, ht, loadSource count, _, hcontent, read_loadSource hcount⟩

/-- The session on such a source breaks off. -/
theorem outcome_loadSource (entropy : Int) (console : Console) : ∃ bound,
    (session Disk.operations entropy plainArguments console
      (sourceDisk (loadSource count))).1.outcome = .broken (.limit bound) := by
  obtain ⟨bound, hrom⟩ := exists_romOf_eq_limit_iff.2 (exists_meetsLimit_loadSource hcount)
  have hends := session_of_limit entropy console ofArguments_plain rfl
    (serves_sourceDisk (loadSource count)) (decodeText?_encodeText (loadSource count)) hrom
  exact ⟨bound, hends.1⟩

end Long

/-- A numeral of 4301 digits is too much for a session that assembles: it neither succeeds nor fails
clean. -/
theorem not_endsClean_loadSource :
    Invocation.ofArguments plainArguments = .ok plainInvocation ∧
      plainInvocation.task = .assemble {} ∧
      Serves (sourceDisk (loadSource 4301)) plainInvocation {} (encodeText (loadSource 4301))
        (sourceDisk (loadSource 4301)) ∧
      ¬ EndsClean plainInvocation {} (encodeText (loadSource 4301)) (sourceDisk (loadSource 4301))
        (session Disk.operations 0 plainArguments .framed (sourceDisk (loadSource 4301))).1
        (session Disk.operations 0 plainArguments .framed (sourceDisk (loadSource 4301))).2 := by
  refine ⟨ofArguments_plain, rfl, serves_sourceDisk _, fun hends => ?_⟩
  have hcount : Text.maxDecimalDigits < 4301 := by decide
  obtain ⟨bound, hbroken⟩ := outcome_loadSource hcount 0 .framed
  exact hends.not_broken _ hbroken

end Chip8.Command
