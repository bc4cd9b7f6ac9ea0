/-
# Sources with the same surface

What is read in an ASCII statement depends on its words in lower case only: the label that it
defines, what it carries behind the label, and what that is read as or that it is not read. Two
sources with the same surface therefore lead to drafts, statement by statement, that differ in
the places and the wording of their faults and in the source lines of their entries alone. None of
that matters to how references are resolved.
-/

import Chip8.Proofs.Program.Faults
import Chip8.Proofs.Program.Surface

namespace Chip8

/-! ## Reading statements -/

section Labels

theorem isBlank_of_mem_isLabelName {name : Text} (hascii : name.IsAscii)
    (hname : isLabelName name = true) : ∀ c ∈ name, Text.isBlank c = false := fun c hc =>
  Text.forall_ascii (P := fun c => isLabelChar c = true → Text.isBlank c = false) (by decide)
    (hascii c hc) (Statement.isLabelChar_of_mem hname hc)

theorem eq_colon_of_toLower {c : Char} (hascii : c.toNat < 0x80) (hc : c.toLower = ':') : c = ':' :=
  Text.forall_ascii (P := fun c => c.toLower = ':' → c = ':') (by decide) hascii hc

variable {t u : Text} {label : Label} {rest : Text}

/-- A bare text whose first word has a colon in it falls into what stands in front of the colon,
what is glued to it, and the other words. -/
theorem exists_append_colon_of_words (hu : u.IsBare) {name glued : Text} {ws : List Text}
    (hwords : (Text.words u).map (List.map Char.toLower) = (name ++ ':' :: glued) :: ws) :
    ∃ name' glued' behind, u = name' ++ ':' :: (glued' ++ behind) ∧
      name'.map Char.toLower = name ∧ glued'.map Char.toLower = glued ∧
      (∀ c ∈ glued', Text.isBlank c = false) ∧
      (∀ c, behind.head? = some c → Text.isBlank c = true) ∧
      (Text.words behind).map (List.map Char.toLower) = ws := by
  obtain ⟨word, words, hfirst, hword, hrest⟩ := List.map_eq_cons_iff.1 hwords
  obtain ⟨behind, rfl, hunbroken, hbehind, rfl⟩ :=
    Text.exists_append_of_words_eq_cons hu.first hfirst
  obtain ⟨name', marked, rfl, hname, hmarked⟩ := List.map_eq_append_iff.1 hword
  obtain ⟨mark, glued', rfl, hmark, hglued⟩ := List.map_eq_cons_iff.1 hmarked
  obtain rfl := eq_colon_of_toLower (hu.ascii mark (by simp)) hmark
  exact ⟨name', glued', behind, by simp, hname, hglued, fun c hc => hunbroken c (by simp [hc]),
    hbehind, hrest⟩

/-- Of two statements with the same words, if one defines a label, the other one defines it as well,
and the same words stand behind it. -/
theorem exists_splitLabel?_of_sameWords (ht : t.IsBare) (hu : u.IsBare) (hsame : t.SameWords u)
    (hsplit : splitLabel? t = some (label, rest)) :
    ∃ other, splitLabel? u = some (label, other) ∧ rest.IsBare ∧ other.IsBare ∧
      rest.SameWords other := by
  obtain ⟨name, tail, rfl, hname, rfl, rfl⟩ := Statement.splitLabel?_eq_some_iff.1 hsplit
  obtain ⟨glued, behind, rfl, hglued, hbehind⟩ := Text.exists_unbroken_append tail
  -- The name, the colon and what is glued to it are the first word.
  have hunbroken : ∀ c ∈ name ++ ':' :: glued, Text.isBlank c = false := by
    intro c hc
    rcases List.mem_append.1 hc with hin | hin
    · exact isBlank_of_mem_isLabelName (fun d hd => ht.ascii d (List.mem_append_left _ hd)) hname
        c hin
    · rcases List.mem_cons.1 hin with rfl | hin
      · decide
      · exact hglued c hin
  have hwords : Text.words (name ++ ':' :: (glued ++ behind)) =
      (name ++ ':' :: glued) :: Text.words behind := by
    rw [← List.cons_append, ← List.append_assoc, Text.words_append hunbroken hbehind,
      List.filter_cons_of_pos (by simp)]
    rfl
  rw [Text.SameWords, Text.words_lower ht.ascii, Text.words_lower hu.ascii, hwords, List.map_cons,
    List.map_append, List.map_cons] at hsame
  obtain ⟨name', glued', behind', rfl, hname', hglued', hunbroken', hbehind', hrest⟩ :=
    exists_append_colon_of_words hu hsame.symm
  have hlabel : isLabelName name' = true := by
    rw [← isLabelName_map_toLower, hname', isLabelName_map_toLower, hname]
  have hbare : (Text.trim (glued ++ behind)).IsBare := ht.trim_behind
  have hbare' : (Text.trim (glued' ++ behind')).IsBare := hu.trim_behind
  have hfold : ∀ w : Text, ([w].filter (!·.isEmpty)).map (List.map Char.toLower) =
      [w.map Char.toLower].filter (!·.isEmpty) := by
    intro w
    cases w <;> rfl
  refine ⟨_, Statement.splitLabel?_eq_some_iff.2 ⟨name', _, rfl, hlabel, hname'.symm, rfl⟩, hbare,
    hbare', ?_⟩
  rw [Text.SameWords, Text.words_lower hbare.ascii, Text.words_lower hbare'.ascii, Text.words_trim,
    Text.words_trim, Text.words_append hglued hbehind, Text.words_append hunbroken' hbehind',
    List.map_append, List.map_append, hfold, hfold, hglued', hrest]

end Labels

/-- The bound that ended the reading, if one did. -/
def ReadError.limit? : ReadError → Option DigitLimit
  | .rejected _ => none
  | .limit bound => some bound

namespace Line

/-- Case makes no difference to the byte that a token stands for, if it stands for one. -/
theorem toOption_readByte {token : Text} (hascii : token.IsAscii) :
    (readByte (token.map Char.toLower)).toOption = (readByte token).toOption := by
  unfold readByte
  rw [Text.lower_map_toLower hascii]
  dsimp only
  generalize Text.readDigits? 16 Text.hexValue? _ = value
  cases value with
  | none => rfl
  | some value =>
    dsimp only
    split <;> rfl

theorem toOption_mapM_readByte {tokens : List Text} (hascii : ∀ w ∈ tokens, w.IsAscii) :
    ((tokens.map (List.map Char.toLower)).mapM readByte).toOption =
      (tokens.mapM readByte).toOption := by
  have hbind : ∀ (first : Except Rejection UInt8) (others : Except Rejection (List UInt8)),
      (do let byte ← first; let bytes ← others; pure (byte :: bytes)).toOption =
        first.toOption.bind fun byte => others.toOption.map (byte :: ·) := by
    intro first others
    cases first <;> cases others <;> rfl
  induction tokens with
  | nil => rfl
  | cons token rest ih =>
    obtain ⟨htoken, hrest⟩ := List.forall_mem_cons.1 hascii
    rw [List.map_cons, List.mapM_cons, List.mapM_cons, hbind, hbind, toOption_readByte htoken,
      ih hrest]

/-- The block of data that a statement holds depends on its words in lower case. -/
theorem toOption_readData {t : Text} (hascii : t.IsAscii) :
    (readData ((Text.words (Text.lower t)).drop 1)).toOption =
      (readData ((Text.words t).drop 1)).toOption := by
  have htokens : ∀ w ∈ (Text.words t).drop 1, w.IsAscii := fun w hw c hc =>
    hascii c ((Text.mem_words (List.mem_of_mem_drop hw)).2 c hc).1
  have hbytes := toOption_mapM_readByte htokens
  rw [Text.words_lower hascii, ← List.map_drop]
  generalize (Text.words t).drop 1 = tokens at hbytes ⊢
  unfold readData
  rw [List.isEmpty_map]
  split
  · rfl
  · generalize (tokens.map (List.map Char.toLower)).mapM readByte = folded at hbytes ⊢
    generalize tokens.mapM readByte = bytes at hbytes ⊢
    cases folded <;> cases bytes <;> simp_all [Except.map, Except.toOption]

variable {t u : Text}

/-- Statements with the same words are read as the same line, or both are rejected, or both meet the
same bound on digits. -/
theorem read_of_sameWords (ht : t.IsBare) (hu : u.IsBare) (hsame : t.SameWords u) :
    (read t).mapError ReadError.limit? = (read u).mapError ReadError.limit? := by
  have hdata : (readData ((Text.words t).drop 1)).toOption =
      (readData ((Text.words u).drop 1)).toOption := by
    rw [← toOption_readData ht.ascii, ← toOption_readData hu.ascii, hsame]
  have hinstruction : Instruction.read t = Instruction.read u := by
    rw [Instruction.read, Instruction.read, Instruction.readBy, Instruction.readBy,
      Instruction.foldedWords_of_isBare ht, Instruction.foldedWords_of_isBare hu, hsame]
  unfold read
  rw [hsame, hinstruction]
  dsimp only
  split
  · generalize readData ((Text.words t).drop 1) = data at hdata ⊢
    generalize readData ((Text.words u).drop 1) = other at hdata ⊢
    cases data <;> cases other <;> simp_all [Except.mapError, Except.toOption, ReadError.limit?]
  · rfl

end Line

/-! ## Drafts -/

/-- The statements are ASCII, and their words are the same but for case. -/
structure Statement.Respells (s t : Statement) : Prop where
  bare : s.text.IsBare
  bare' : t.text.IsBare
  same : s.text.SameWords t.text

/-- Sources with the same surface consist of the same statements, each spelled in its own way. -/
theorem Source.forall₂_respells {source other : Text} (hascii : source.IsAscii)
    (hother : other.IsAscii) (hsurface : surface source = surface other) :
    List.Forall₂ Statement.Respells (statements source) (statements other) := by
  have hbare : ∀ {source : Text}, source.IsAscii →
      ∀ s ∈ statements source, s.text.IsBare := by
    intro source hascii s hs
    refine isBare_of_mem_written hascii ?_
    rw [written_eq]
    exact List.mem_map_of_mem hs
  have hcollapse : List.Forall₂ (fun s t => s.text.collapse = t.text.collapse)
      (statements source) (statements other) := by
    rw [surface, surface, written_eq, written_eq, List.map_map, List.map_map,
      ← List.forall₂_eq_eq_eq, List.forall₂_map_left_iff, List.forall₂_map_right_iff] at hsurface
    exact hsurface
  have hleft := (List.forall₂_and_left _ _).2 ⟨hbare hascii, hcollapse⟩
  have hboth := (List.forall₂_and_left _ _).2 ⟨hbare hother, hleft.flip⟩
  exact hboth.flip.imp fun s t h =>
    { bare := h.2.1
      bare' := h.1
      same := Text.sameWords_of_collapse_eq h.2.1.ascii h.1.ascii h.2.2 }

/-- What an entry is without its source line. -/
def Entry.content (e : Entry) : Line × Option Label := (e.line, e.reference)

/-- What a draft shows when source lines and the wording of faults do not count. -/
structure Outline where
  contents : List (Line × Option Label)
  labels : List (Label × Int)
  faults : Nat

namespace Draft

/-- The outline of a draft. -/
def outline (d : Draft) : Outline where
  contents := d.entries.toList.map Entry.content
  labels := d.labels.toList
  faults := d.faults.size

variable {d e : Draft} {s t : Statement}

theorem outline_defineLabel (hsame : d.outline = e.outline) (label : Label) :
    (d.defineLabel s label).outline = (e.defineLabel t label).outline := by
  obtain ⟨hcontents, hlabels, hfaults⟩ := Outline.mk.inj hsame
  have hsize : d.entries.size = e.entries.size := by
    simpa using congrArg List.length hcontents
  have hknown : d.labels = e.labels := Array.toList_inj.1 hlabels
  unfold defineLabel
  rw [hknown, hsize]
  split <;> simp [outline, hcontents, hfaults]

theorem outline_addLine (hsame : d.outline = e.outline) {text text' : Text} (hbare : text.IsBare)
    (hbare' : text'.IsBare) (hwords : text.SameWords text') (line line' : Nat) :
    (d.addLine line text).map outline = (e.addLine line' text').map outline := by
  obtain ⟨hcontents, hlabels, hfaults⟩ := Outline.mk.inj hsame
  have hread := Line.read_of_sameWords hbare hbare' hwords
  unfold addLine
  generalize Line.read text = found at hread ⊢
  generalize Line.read text' = found' at hread ⊢
  cases found with
  | ok content =>
    cases found' with
    | error cause => cases hread
    | ok content' =>
      obtain rfl := Except.ok.inj hread
      simp [Except.map, outline, hcontents, hlabels, hfaults, Entry.content]
  | error cause =>
    cases found' with
    | ok content' => cases hread
    | error cause' =>
      have hlimit := Except.error.inj hread
      cases cause <;> cases cause' <;>
        simp_all [ReadError.limit?, Except.map, outline]

/-- Statements that respell each other add the same to drafts with the same outline, or both end the
collection at the same bound. -/
theorem outline_addStatement (hrespells : s.Respells t) (hsame : d.outline = e.outline) :
    (d.addStatement s).map outline = (e.addStatement t).map outline := by
  unfold addStatement
  cases hsplit : splitLabel? s.text with
  | none =>
    have hsplit' : splitLabel? t.text = none := by
      cases hother : splitLabel? t.text with
      | none => rfl
      | some found =>
        obtain ⟨rest, hfound, -⟩ := exists_splitLabel?_of_sameWords hrespells.bare' hrespells.bare
          hrespells.same.symm hother
        rw [hsplit] at hfound
        cases hfound
    rw [hsplit']
    exact outline_addLine hsame hrespells.bare hrespells.bare' hrespells.same _ _
  | some found =>
    obtain ⟨label, rest⟩ := found
    obtain ⟨other, hsplit', hrest, hother, hwords⟩ :=
      exists_splitLabel?_of_sameWords hrespells.bare hrespells.bare' hrespells.same hsplit
    have hdefined := outline_defineLabel (s := s) (t := t) hsame label
    have hempty : rest.isEmpty = other.isEmpty := by
      rw [Bool.eq_iff_iff, List.isEmpty_iff, List.isEmpty_iff, hrest.eq_nil_iff, hother.eq_nil_iff,
        hwords]
    rw [hsplit']
    dsimp only
    rw [hempty]
    split
    · exact congrArg Except.ok hdefined
    · exact outline_addLine hdefined hrest hother hwords _ _

/-- Statement by statement, sources that respell each other lead to drafts with the same outline, or
end at the same bound. -/
theorem outline_foldlM {ss ts : List Statement} (hrespell : List.Forall₂ Statement.Respells ss ts)
    (hsame : d.outline = e.outline) :
    (ss.foldlM addStatement d).map outline = (ts.foldlM addStatement e).map outline := by
  induction hrespell generalizing d e with
  | nil => exact congrArg Except.ok hsame
  | cons hfirst _ ih =>
    have hstep := outline_addStatement hfirst hsame
    rw [List.foldlM_cons, List.foldlM_cons]
    generalize d.addStatement _ = after at hstep ⊢
    generalize e.addStatement _ = after' at hstep ⊢
    cases after with
    | error bound =>
      cases after' with
      | ok middle' => cases hstep
      | error bound' =>
        obtain rfl := Except.error.inj hstep
        rfl
    | ok middle =>
      cases after' with
      | error bound' => cases hstep
      | ok middle' => exact ih (Except.ok.inj hstep)

end Draft

/-! ## Programs -/

/-- The error without the source line that it names. -/
def ResolutionError.unplaced : ResolutionError → ResolutionError
  | .undefinedLabel label _ => .undefinedLabel label 0
  | .addressTooLarge label address _ => .addressTooLarge label address 0
  | .notJump line index => .notJump line index
  | .operand error => .operand error

namespace Program

/-- The programs differ in the source lines of their entries at most. -/
structure SameContents (p q : Program) : Prop where
  contents : p.entries.map Entry.content = q.entries.map Entry.content
  labels : p.labels = q.labels
  base : p.base = q.base

variable {p q : Program}

theorem SameContents.lines (hsame : p.SameContents q) : p.lines = q.lines := by
  have hfirst := congrArg (List.map Prod.fst) hsame.contents
  rw [List.map_map, List.map_map] at hfirst
  exact hfirst

theorem SameContents.addressOf (hsame : p.SameContents q) (index : Int) :
    p.addressOf index = q.addressOf index := by
  rw [Program.addressOf, Program.addressOf, offsetOf, offsetOf, hsame.lines, hsame.base]

theorem SameContents.bytes (hsame : p.SameContents q) : p.bytes = q.bytes := by
  rw [Program.bytes, Program.bytes, hsame.lines]

theorem SameContents.symbols (hsame : p.SameContents q) : p.symbols = q.symbols := by
  rw [Program.symbols, Program.symbols, hsame.labels]
  exact List.map_congr_left fun entry _ => congrArg (Prod.mk entry.1) (hsame.addressOf entry.2)

/-- Where an entry stands in its source makes no difference to how it is resolved. -/
theorem content_resolveEntry (hsame : p.SameContents q) {e f : Entry}
    (hentry : e.content = f.content) (index : Nat) :
    ((p.resolveEntry index e).map fun resolved => resolved.1.content).mapError
        ResolutionError.unplaced =
      ((q.resolveEntry index f).map fun resolved => resolved.1.content).mapError
        ResolutionError.unplaced := by
  obtain ⟨line, reference, sourceLine⟩ := e
  obtain ⟨line', reference', sourceLine'⟩ := f
  obtain ⟨rfl, rfl⟩ := Prod.mk.inj hentry
  cases reference with
  | none => rfl
  | some label =>
    simp only [resolveEntry, resolveReference, addressOfLabel, hsame.labels, hsame.addressOf]
    cases q.labels.lookup label with
    | none => rfl
    | some mark =>
      dsimp only
      split
      · rfl
      · cases hline : line.withAddress (q.addressOf mark) index <;>
          simp [hline, bind, Except.bind, pure, Except.pure, Except.map, Except.mapError,
            Entry.content]

theorem content_resolveFrom (hsame : p.SameContents q) {es fs : List Entry}
    (hentries : es.map Entry.content = fs.map Entry.content) (index : Nat) :
    (p.resolveFrom index es).1.map Entry.content = (q.resolveFrom index fs).1.map Entry.content ∧
      (p.resolveFrom index es).2.2.map ResolutionError.unplaced =
        (q.resolveFrom index fs).2.2.map ResolutionError.unplaced := by
  induction es generalizing fs index with
  | nil =>
    obtain rfl := List.map_eq_nil_iff.1 hentries.symm
    exact ⟨rfl, rfl⟩
  | cons e rest ih =>
    obtain ⟨f, others, rfl, hfirst, hrest⟩ := List.map_eq_cons_iff.1 hentries.symm
    have hentry := content_resolveEntry hsame hfirst.symm index
    obtain ⟨hcontents, herror⟩ := ih hrest.symm (index + 1)
    rw [resolveFrom, resolveFrom]
    generalize p.resolveEntry index e = found at hentry ⊢
    generalize q.resolveEntry index f = found' at hentry ⊢
    cases found with
    | error cause =>
      cases found' with
      | ok resolved' => cases hentry
      | error cause' => exact ⟨hentries, congrArg some (Except.error.inj hentry)⟩
    | ok resolved =>
      cases found' with
      | error cause' => cases hentry
      | ok resolved' =>
        have hcontent : resolved.1.content = resolved'.1.content := Except.ok.inj hentry
        exact ⟨by simp [hcontent, hcontents], herror⟩

theorem SameContents.resolve (hsame : p.SameContents q) :
    p.resolve.program.SameContents q.resolve.program ∧
      p.resolve.error.map ResolutionError.unplaced =
        q.resolve.error.map ResolutionError.unplaced := by
  obtain ⟨hresolved, herror⟩ := content_resolveFrom hsame hsame.contents 0
  rw [resolve_eq, resolve_eq]
  exact ⟨⟨hresolved, hsame.labels, hsame.base⟩, herror⟩

/-- Two outcomes of assembling that are the same but for where faults stand in their sources and how
they are worded. -/
inductive SameOutcome : Except AssemblyError Program → Except AssemblyError Program → Prop
  | assembled {p q : Program} (bytes : p.bytes = q.bytes) (symbols : p.symbols = q.symbols) :
    SameOutcome (.ok p) (.ok q)
  | faulty {faults faults' : List LineFault} (count : faults.length = faults'.length) :
    SameOutcome (.error (.faulty faults)) (.error (.faulty faults'))
  | undefinedLabel (label : Label) (line line' : Int) :
    SameOutcome (.error (.unresolved (.undefinedLabel label line)))
      (.error (.unresolved (.undefinedLabel label line')))
  | addressTooLarge (label : Label) (address line line' : Int) :
    SameOutcome (.error (.unresolved (.addressTooLarge label address line)))
      (.error (.unresolved (.addressTooLarge label address line')))
  | notJump (line : Line) (index : Nat) :
    SameOutcome (.error (.unresolved (.notJump line index)))
      (.error (.unresolved (.notJump line index)))
  | operand (error : OperandError) :
    SameOutcome (.error (.unresolved (.operand error))) (.error (.unresolved (.operand error)))
  | limit (bound : DigitLimit) :
    SameOutcome (.error (.limit bound)) (.error (.limit bound))

theorem sameOutcome_of_unplaced {cause cause' : ResolutionError}
    (hsame : cause.unplaced = cause'.unplaced) :
    SameOutcome (.error (.unresolved cause)) (.error (.unresolved cause')) := by
  cases cause with
  | undefinedLabel label line =>
    cases cause' with
    | undefinedLabel label' line' =>
      obtain ⟨rfl, -⟩ := ResolutionError.undefinedLabel.inj hsame
      exact .undefinedLabel label line line'
    | addressTooLarge _ _ _ | notJump _ _ | operand _ => cases hsame
  | addressTooLarge label address line =>
    cases cause' with
    | addressTooLarge label' address' line' =>
      obtain ⟨rfl, rfl, -⟩ := ResolutionError.addressTooLarge.inj hsame
      exact .addressTooLarge label address line line'
    | undefinedLabel _ _ | notJump _ _ | operand _ => cases hsame
  | notJump line index =>
    cases cause' with
    | notJump line' index' =>
      obtain ⟨rfl, rfl⟩ := ResolutionError.notJump.inj hsame
      exact .notJump line index
    | undefinedLabel _ _ | addressTooLarge _ _ _ | operand _ => cases hsame
  | operand error =>
    cases cause' with
    | operand error' =>
      obtain rfl := ResolutionError.operand.inj hsame
      exact .operand error
    | undefinedLabel _ _ | addressTooLarge _ _ _ | notJump _ _ => cases hsame

/-- Drafts with the same outline come to the same. -/
theorem sameOutcome_of_outline {source other : Text}
    (hsame : (Draft.ofSource source).map Draft.outline = (Draft.ofSource other).map Draft.outline)
    (base : Int) : SameOutcome (assemble base source) (assemble base other) := by
  unfold assemble ofSource
  generalize Draft.ofSource source = found at hsame ⊢
  generalize Draft.ofSource other = found' at hsame ⊢
  cases found with
  | error bound =>
    cases found' with
    | ok e => cases hsame
    | error bound' =>
      obtain rfl := Except.error.inj hsame
      exact .limit bound
  | ok d =>
    cases found' with
    | error bound' => cases hsame
    | ok e =>
      obtain ⟨hcontents, hlabels, hfaults⟩ := Outline.mk.inj (Except.ok.inj hsame)
      have hprograms : (d.program base).SameContents (e.program base) := ⟨hcontents, hlabels, rfl⟩
      have hempty : d.faults.isEmpty = e.faults.isEmpty := by
        rw [Array.isEmpty, Array.isEmpty, hfaults]
      obtain ⟨hfinal, herror⟩ := hprograms.resolve
      dsimp only
      rw [hempty]
      split
      · simp only [bind, Except.bind]
        generalize (d.program base).resolve = settled at hfinal herror ⊢
        generalize (e.program base).resolve = settled' at hfinal herror ⊢
        obtain ⟨program, uses, error⟩ := settled
        obtain ⟨program', uses', error'⟩ := settled'
        cases error with
        | none =>
          cases error' with
          | some cause' => cases herror
          | none => exact .assembled hfinal.bytes hfinal.symbols
        | some cause =>
          cases error' with
          | none => cases herror
          | some cause' => exact sameOutcome_of_unplaced (Option.some.inj herror)
      · exact .faulty (by simpa using hfaults)

/-- How a source is spelled makes no difference to what it is assembled to: comments, line ends and
semicolons, blanks and case do not count. -/
theorem sameOutcome_of_surface {source other : Text} (hascii : source.IsAscii)
    (hother : other.IsAscii) (hsurface : Source.surface source = Source.surface other)
    (base : Int) : SameOutcome (assemble base source) (assemble base other) :=
  sameOutcome_of_outline
    (Draft.outline_foldlM (Source.forall₂_respells hascii hother hsurface) rfl) base

/-- A jump back to a label, written without anything that does not count. -/
def plainLoop : Text := "loop: add v1 0x0a\njp loop".toList

/-- The same jump, with comments, semicolons, other line ends and blanks, and in upper case. -/
def looseLoop : Text := "# Counts; for ever\r\n\n Loop:\tADD  V1 0x0A;;jp LOOP ; #".toList

theorem sameOutcome_of_surface_loop :
    (plainLoop.IsAscii ∧ looseLoop.IsAscii ∧
        Source.surface plainLoop = Source.surface looseLoop) ∧
      SameOutcome (assemble 0x200 plainLoop) (assemble 0x200 looseLoop) ∧
      (assemble 0x200 looseLoop).toOption.map bytes = some [0x71, 0x0A, 0x12, 0x00] := by
  have hplain : plainLoop.IsAscii := by decide +kernel
  have hloose : looseLoop.IsAscii := by decide +kernel
  have hsurface : Source.surface plainLoop = Source.surface looseLoop := by decide +kernel
  exact ⟨⟨hplain, hloose, hsurface⟩, sameOutcome_of_surface hplain hloose hsurface 0x200,
    by decide +kernel⟩

end Program

end Chip8
