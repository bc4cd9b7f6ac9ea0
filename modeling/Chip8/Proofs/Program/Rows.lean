/-
# The rows of a listing

The listing of an assembled source has a row for every line of the program and a row for every
label. A line is shown at the address that its bytes are loaded at, next to these bytes. A label
stands in front of the line that it marks, behind all lines before that one, so the address of the
label is the one that the next line shows, or the end of the program.

Labels are put into groups by what they mark, and every line takes the group of its own index. That
no label is passed over and none comes out of place is due to the order of the table: labels are
defined one after another, so their marks do not decrease.
-/

import Chip8.Proofs.Instruction.Spelling
import Chip8.Proofs.Program.Faults
import Chip8.Proofs.Program.Resolving
import Chip8.Proofs.Text.Inline

namespace Chip8

/-- What a row of a listing is about: a label, or the line with an index. -/
inductive Row where
  | label (name : Label)
  | line (index : Nat)
  deriving DecidableEq, Repr

namespace Row

/-- The label, in the row of a label. -/
def label? : Row → Option Label
  | .label name => some name
  | .line _ => none

/-- The index of the line, in the row of a line. -/
def line? : Row → Option Nat
  | .label _ => none
  | .line index => some index

@[simp] theorem line?_line (index : Nat) : (Row.line index).line? = some index := rfl

@[simp] theorem line?_label (name : Label) : (Row.label name).line? = none := rfl

@[simp] theorem label?_line (index : Nat) : (Row.line index).label? = none := rfl

@[simp] theorem label?_label (name : Label) : (Row.label name).label? = some name := rfl

end Row

/-- A column of twelve characters with bytes in hexadecimal: all of them if they fit, and else as
much as leaves room for dots. -/
inductive ShowsBytes (bytes : List UInt8) : Text → Prop
  | whole (fits : (Text.hexBytes bytes).length ≤ 12) : ShowsBytes bytes (Text.hexBytes bytes)
  | cut (long : 12 < (Text.hexBytes bytes).length) :
    ShowsBytes bytes ((Text.hexBytes bytes).take 9 ++ ['.', '.', '.'])

namespace Program

variable {p : Program}

/-- The bytes in front of the line with this index. -/
def bytesBefore (p : Program) (index : Nat) : List UInt8 := (p.lines.take index).flatMap Line.bytes

/-- The text of a row. A label stands behind the columns. A line shows its address, which is that of
the base and the bytes in front of it, the bytes of the ROM at this place, and its text. -/
inductive Shows (p : Program) (rom : List UInt8) : Row → Text → Prop
  | label (name : Label) :
    p.Shows rom (.label name) (List.replicate 22 ' ' ++ name ++ [':'])
  | line {index : Nat} {l : Line} {column : Text} (hline : p.lines[index]? = some l)
      (shows : ShowsBytes ((rom.drop (p.bytesBefore index).length).take l.size) column) :
    p.Shows rom (.line index)
      (['0', 'x'] ++ Text.hexSigned 3 (p.base + (p.bytesBefore index).length) ++ [' ', ' ', ' '] ++
        Text.padRight 12 column ++ [' ', ' '] ++ l.text)

/-- The rows behind a label that marks a line: labels of the same line at most, and then the line
itself, or nothing if the end is marked. -/
inductive LeadsTo (p : Program) (mark : Nat) : List Row → Prop
  | line {rest : List Row} : p.LeadsTo mark (.line mark :: rest)
  | ending (atEnd : mark = p.lines.length) : p.LeadsTo mark []
  | label {name : Label} {rest : List Row} (same : p.labels.lookup name = some (mark : Int))
      (leads : p.LeadsTo mark rest) : p.LeadsTo mark (.label name :: rest)

/-- What a listing shows of a program with its bytes and symbols. -/
structure IsListed (p : Program) (rom : List UInt8) (symbols : List (Label × Int)) (listing : Text)
    (rows : List Row) : Prop where
  /-- the listing is its head and the texts of the rows, each on a line of its own -/
  shows : ∃ texts, Text.cut (· == '\n') listing = listingHead ++ texts ∧
    List.Forall₂ (p.Shows rom) rows texts
  /-- the bytes are those of the lines, so those in front of the end are all of them -/
  bytes : p.bytesBefore p.lines.length = rom
  /-- one row for each line, in order -/
  lines : rows.filterMap Row.line? = List.range p.lines.length
  /-- one row for each symbol, in order -/
  labels : rows.filterMap Row.label? = symbols.map Prod.fst
  /-- no symbol occurs twice -/
  nodup : (symbols.map Prod.fst).Nodup
  /-- a label stands between the lines in front of the place that it marks and that place, the
  address of which is its symbol -/
  places : ∀ front name back, rows = front ++ .label name :: back →
    ∃ mark : Nat, p.labels.lookup name = some (mark : Int) ∧
      front.filterMap Row.line? = List.range mark ∧ p.LeadsTo mark back ∧
      symbols.lookup name = some (p.base + (p.bytesBefore mark).length)

/-! ## The order of the rows -/

/-- The rows of the labels that mark the line with this index. -/
def markRows (p : Program) (index : Nat) : List Row :=
  (p.labels.filter fun (_, marked) => marked == index).map fun (name, _) => .label name

/-- The rows from the line with this index on, when so many lines are left. -/
def rows (p : Program) (index : Nat) : Nat → List Row
  | 0 => p.markRows index
  | count + 1 => p.markRows index ++ .line index :: p.rows (index + 1) count

/-- The labels of a program as its source defines them, one after another and none twice. -/
structure IsOrderly (p : Program) : Prop where
  sorted : p.labels.Pairwise fun first second => first.2 ≤ second.2
  bounds : ∀ name mark, (name, mark) ∈ p.labels → 0 ≤ mark ∧ mark ≤ p.lines.length
  nodup : (p.labels.map Prod.fst).Nodup
  names : ∀ name mark, (name, mark) ∈ p.labels → isLabelName name = true

theorem filterMap_line?_markRows (index : Nat) :
    (p.markRows index).filterMap Row.line? = [] := by
  simp [markRows]

theorem filterMap_label?_markRows (index : Nat) :
    (p.markRows index).filterMap Row.label? =
      (p.labels.filter fun (_, marked) => marked == index).map Prod.fst := by
  rw [markRows, List.filterMap_map]
  exact congrFun List.filterMap_eq_map' _

/-- Lines are listed one after another. -/
theorem filterMap_line?_rows (index count : Nat) :
    (p.rows index count).filterMap Row.line? = List.range' index count := by
  induction count generalizing index with
  | zero => exact filterMap_line?_markRows index
  | succ count ih =>
    rw [rows, List.filterMap_append, filterMap_line?_markRows, List.nil_append,
      List.filterMap_cons_some (Row.line?_line index), ih, List.range'_succ]

/-- In a table by increasing marks, labels with a mark come in front of those with a greater one. -/
theorem filter_append_filter_of_sorted {table : List (Label × Int)}
    (hsorted : table.Pairwise fun first second => first.2 ≤ second.2) (mark : Int) :
    table.filter (·.2 == mark) ++ table.filter (mark + 1 ≤ ·.2) = table.filter (mark ≤ ·.2) := by
  induction table with
  | nil => rfl
  | cons entry rest ih =>
    obtain ⟨hfirst, hrest⟩ := List.pairwise_cons.1 hsorted
    have hih := ih hrest
    rcases Int.lt_trichotomy entry.2 mark with hbelow | hequal | habove
    · rw [List.filter_cons_of_neg (by simp; omega), List.filter_cons_of_neg (by simp; omega),
        List.filter_cons_of_neg (by simp; omega), hih]
    · rw [List.filter_cons_of_pos (by simp; omega), List.filter_cons_of_neg (by simp; omega),
        List.filter_cons_of_pos (by simp; omega), List.cons_append, hih]
    · have hnone : rest.filter (·.2 == mark) = [] := by
        refine List.filter_eq_nil_iff.2 fun other hother => ?_
        have hle := hfirst other hother
        simp
        omega
      rw [hnone, List.nil_append] at hih
      rw [List.filter_cons_of_neg (by simp; omega), hnone, List.nil_append,
        List.filter_cons_of_pos (by simp; omega), List.filter_cons_of_pos (by simp; omega), hih]

/-- Labels are listed in the order of the table, as long as they mark none of the lines in front and
no place behind the last line. -/
theorem filterMap_label?_rows
    (hsorted : p.labels.Pairwise fun first second => first.2 ≤ second.2) {index count : Nat}
    (hbound : ∀ entry ∈ p.labels, entry.2 ≤ index + count) :
    (p.rows index count).filterMap Row.label? =
      (p.labels.filter ((index : Int) ≤ ·.2)).map Prod.fst := by
  induction count generalizing index with
  | zero =>
    rw [rows, filterMap_label?_markRows]
    refine congrArg (List.map Prod.fst) (List.filter_congr fun entry hentry => ?_)
    have hle := hbound entry hentry
    rw [Bool.eq_iff_iff, beq_iff_eq, decide_eq_true_iff]
    omega
  | succ count ih =>
    have hrest : ∀ entry ∈ p.labels, entry.2 ≤ ((index + 1 : Nat) : Int) + count := by
      intro entry hentry
      have hle := hbound entry hentry
      omega
    rw [rows, List.filterMap_append, filterMap_label?_markRows,
      List.filterMap_cons_none (Row.label?_line index), ih hrest, ← List.map_append,
      ← filter_append_filter_of_sorted hsorted index]
    rfl

/-- Labels in front of others that mark the same line lead to it with them. -/
theorem leadsTo_append {mark : Nat} {marks rest : List Row}
    (hmarks : ∀ row ∈ marks, ∃ name, row = .label name ∧ p.labels.lookup name = some (mark : Int))
    (hrest : p.LeadsTo mark rest) : p.LeadsTo mark (marks ++ rest) := by
  induction marks with
  | nil => exact hrest
  | cons row others ih =>
    obtain ⟨name, rfl, hname⟩ := hmarks row List.mem_cons_self
    exact .label hname (ih fun other hother => hmarks other (List.mem_cons_of_mem _ hother))

theorem exists_label_of_mem_markRows (hnodup : (p.labels.map Prod.fst).Nodup) {index : Nat}
    {row : Row} (hrow : row ∈ p.markRows index) :
    ∃ name, row = .label name ∧ p.labels.lookup name = some (index : Int) := by
  obtain ⟨⟨name, mark⟩, hmem, rfl⟩ := List.mem_map.1 hrow
  obtain ⟨hmem, hmark⟩ := List.mem_filter.1 hmem
  obtain rfl := beq_iff_eq.1 hmark
  exact ⟨name, rfl, lookup_of_mem hnodup hmem⟩

/-- Of the labels of a line and rows behind them, the first of which is no label, a label is either
one of those of the line or in one of the rows behind. -/
theorem markRows_append_cases {index : Nat} {tail front back : List Row} {name : Label}
    (htail : ∀ row ∈ tail.head?, row.label? = none)
    (hrows : p.markRows index ++ tail = front ++ .label name :: back) :
    (∃ others, p.markRows index = front ++ .label name :: others ∧ back = others ++ tail) ∨
      ∃ between, front = p.markRows index ++ between ∧ tail = between ++ .label name :: back := by
  rcases List.append_eq_append_iff.1 hrows with ⟨between, hfront, hbehind⟩ | ⟨rest, hmarks, hback⟩
  · exact .inr ⟨between, hfront, hbehind⟩
  · cases rest with
    | nil =>
      have hnone := htail (.label name) (by rw [← List.nil_append tail, ← hback]; rfl)
      cases hnone
    | cons row others =>
      obtain ⟨rfl, rfl⟩ := List.cons.inj hback
      exact .inl ⟨others, hmarks, rfl⟩

/-- Among rows from a line on, the row of a label stands behind so many lines, which are those in
front of the one that it marks, and leads to that one. -/
def IsPlaced (p : Program) (index : Nat) (front : List Row) (name : Label) (back : List Row) :
    Prop :=
  ∃ count, index + count ≤ p.lines.length ∧ front.filterMap Row.line? = List.range' index count ∧
    p.labels.lookup name = some ((index + count : Nat) : Int) ∧ p.LeadsTo (index + count) back

/-- In front of a label among those of a line there is no other line, and all of them lead to it. -/
theorem isPlaced_of_markRows (hnodup : (p.labels.map Prod.fst).Nodup) {index : Nat}
    (hindex : index ≤ p.lines.length) {front others tail : List Row} {name : Label}
    (hmarks : p.markRows index = front ++ .label name :: others) (htail : p.LeadsTo index tail) :
    p.IsPlaced index front name (others ++ tail) := by
  have hlines : (front ++ Row.label name :: others).filterMap Row.line? = [] := by
    rw [← hmarks, filterMap_line?_markRows]
  have hall : ∀ row ∈ front ++ Row.label name :: others,
      ∃ other, row = .label other ∧ p.labels.lookup other = some (index : Int) :=
    fun row hrow => exists_label_of_mem_markRows hnodup (hmarks ▸ hrow)
  obtain ⟨same, hsame, hmark⟩ := hall (.label name) (by simp)
  obtain rfl := Row.label.inj hsame
  rw [List.filterMap_append] at hlines
  exact ⟨0, hindex, (List.append_eq_nil_iff.1 hlines).1, hmark,
    leadsTo_append (fun row hrow => hall row (by simp [hrow])) htail⟩

/-- Every label is placed: the lines in front of it are those that the induction has passed. -/
theorem isPlaced_of_rows (hnodup : (p.labels.map Prod.fst).Nodup) {index count : Nat}
    (hcount : index + count = p.lines.length) {front back : List Row} {name : Label}
    (hrows : p.rows index count = front ++ .label name :: back) :
    p.IsPlaced index front name back := by
  induction count generalizing index front with
  | zero =>
    have hmarks : p.markRows index ++ [] = front ++ .label name :: back := by
      rw [List.append_nil]
      exact hrows
    rcases markRows_append_cases (by simp) hmarks with ⟨others, hfirst, rfl⟩ | ⟨between, -, hnil⟩
    · exact isPlaced_of_markRows hnodup (by omega) hfirst (.ending hcount)
    · simp at hnil
  | succ count ih =>
    rcases markRows_append_cases (by simp) hrows with
      ⟨others, hfirst, rfl⟩ | ⟨between, rfl, hbehind⟩
    · exact isPlaced_of_markRows hnodup (by omega) hfirst .line
    · -- The label comes later, so the row of this line stands in front of it.
      cases between with
      | nil => cases hbehind
      | cons row between =>
        obtain ⟨rfl, hrest⟩ := List.cons.inj hbehind
        obtain ⟨later, hbound, hlines, hmark, hleads⟩ := ih (by omega) hrest
        rw [Nat.add_right_comm, Nat.add_assoc] at hbound hmark hleads
        refine ⟨later + 1, hbound, ?_, hmark, hleads⟩
        rw [List.filterMap_append, filterMap_line?_markRows, List.nil_append,
          List.filterMap_cons_some (Row.line?_line index), hlines, List.range'_succ]

/-! ## Groups of labels -/

theorem LabelGroups.lookup_add (groups : LabelGroups) (index : Int) (label : Label) (other : Int) :
    (groups.add index label).lookup other =
      if other == index then some ((groups.lookup index).getD [] ++ [label])
      else groups.lookup other := by
  induction groups with
  | nil =>
    rw [add, List.lookup_cons]
    cases other == index <;> rfl
  | cons group rest ih =>
    obtain ⟨mark, names⟩ := group
    by_cases hmark : mark = index
    · subst hmark
      simp only [add, beq_self_eq_true, if_true, List.lookup_cons, Option.getD_some]
      cases other == mark <;> rfl
    · have hskip : (index == mark) = false := beq_false_of_ne (Ne.symm hmark)
      simp only [add, beq_iff_eq, if_neg hmark, List.lookup_cons, ih, hskip]
      cases hother : other == mark with
      | false => rfl
      | true =>
        obtain rfl := beq_iff_eq.1 hother
        exact (if_neg hmark).symm

/-- The group of an index holds the labels of the table that mark it, in the order of the table. -/
theorem LabelGroups.at_ofTable (table : List (Label × Int)) (index : Nat) :
    (LabelGroups.ofTable table).at index =
      (table.filter fun (_, marked) => marked == (index : Int)).map Prod.fst := by
  suffices hbehind : ∀ groups : LabelGroups,
      LabelGroups.at
          (table.foldl (fun groups (label, mark) => groups.add mark label) groups) index =
        groups.at index ++
          (table.filter fun (_, marked) => marked == (index : Int)).map Prod.fst from
    hbehind []
  induction table with
  | nil => exact fun groups => (List.append_nil _).symm
  | cons entry rest ih =>
    obtain ⟨label, mark⟩ := entry
    intro groups
    have hadd : (groups.add mark label).at index =
        if mark == (index : Int) then groups.at index ++ [label] else groups.at index := by
      unfold LabelGroups.at
      rw [lookup_add, Bool.beq_comm]
      split
      · rename_i hmark
        rw [beq_iff_eq.1 hmark, Option.getD_some]
      · rfl
    rw [List.foldl_cons, ih, hadd, List.filter_cons]
    dsimp only
    split
    · rw [List.map_cons, List.append_assoc, List.singleton_append]
    · rfl

/-! ## The texts of the rows -/

theorem showsBytes_bytesText (bytes : List UInt8) : ShowsBytes bytes (bytesText bytes) := by
  unfold bytesText
  by_cases hlong : (Text.hexBytes bytes).length > byteColumn
  · rw [if_pos hlong]
    exact .cut hlong
  · rw [if_neg hlong]
    exact .whole (Nat.not_lt.1 hlong)

theorem shows_markRows (rom : List UInt8) (index : Nat) :
    List.Forall₂ (p.Shows rom) (p.markRows index)
      (((LabelGroups.ofTable p.labels).at index).map labelRow) := by
  rw [markRows, LabelGroups.at_ofTable, List.map_map, List.forall₂_map_left_iff,
    List.forall₂_map_right_iff]
  exact List.forall₂_same.2 fun entry _ => .label entry.1

/-- The address of a line is that of the base and the bytes in front of it. -/
theorem addressOf_eq {index : Nat} (hindex : index ≤ p.lines.length) :
    p.addressOf index = p.base + (p.bytesBefore index).length := by
  rw [addressOf, offsetOf, elementsBefore, if_pos (Int.natCast_nonneg index), Int.toNat_natCast,
    Nat.min_eq_right hindex, bytesBefore, Line.length_flatMap_bytes]

/-- A line of the program is shown with its bytes, which are found in the ROM behind those of the
lines in front of it. -/
theorem shows_lineRow {front back : List Line} {l : Line} (hlines : p.lines = front ++ l :: back) :
    p.Shows p.bytes (.line front.length) (lineRow (p.addressOf front.length) l) := by
  have hbefore : p.bytesBefore front.length = front.flatMap Line.bytes := by
    simp [bytesBefore, hlines]
  have hchunk : (p.bytes.drop (p.bytesBefore front.length).length).take l.size = l.bytes := by
    rw [bytes, hbefore, hlines, List.flatMap_append, List.drop_left, List.flatMap_cons,
      ← Line.length_bytes, List.take_left]
  have hcolumn := showsBytes_bytesText l.bytes
  rw [← hchunk] at hcolumn
  have hshows := Shows.line (by simp [hlines]) hcolumn
  rwa [hchunk, ← addressOf_eq (by simp [hlines])] at hshows

/-- The rows of the lines behind some show these lines. -/
theorem shows_rowsOf {front back : List Line} (hlines : p.lines = front ++ back) :
    List.Forall₂ (p.Shows p.bytes) (p.rows front.length back.length)
      (((back.zipIdx front.length).flatMap fun (l, index) =>
          p.rowsOf (LabelGroups.ofTable p.labels) index l) ++
        ((LabelGroups.ofTable p.labels).at p.lines.length).map labelRow) := by
  induction back generalizing front with
  | nil =>
    have hend : p.lines.length = front.length := by simp [hlines]
    rw [hend]
    exact shows_markRows _ _
  | cons l rest ih =>
    have hrest := @ih (front ++ [l]) (by simp [hlines])
    rw [List.length_append, List.length_singleton] at hrest
    simp only [List.zipIdx_cons, List.flatMap_cons, rowsOf, List.append_assoc]
    exact List.rel_append (shows_markRows _ _) (.cons (shows_lineRow hlines) hrest)

/-! ## The listing of a program -/

theorem isInline_of_isLabelName {name : Text} (hname : isLabelName name = true) :
    Text.IsInline name :=
  fun hmem => absurd (Statement.isLabelChar_of_mem hname hmem) (by decide)

theorem isInline_text (l : Line) : Text.IsInline l.text := by
  cases l with
  | instruction i => exact i.isStatement_text.isInline
  | data bytes =>
    have hbytes : Text.IsInline (Text.join [' '] (bytes.map Line.dataByteText)) :=
      Text.isInline_join_map (by decide) bytes fun b => by simp [Line.dataByteText, Text.hexByte]
    exact Text.isInline_append.2 ⟨by decide, hbytes⟩

theorem isInline_bytesText (bytes : List UInt8) : Text.IsInline (bytesText bytes) := by
  have hwhole : Text.IsInline (Text.hexBytes bytes) :=
    Text.isInline_join_map (by decide) bytes fun b => Text.isInline_hexPadded 2 b.toNat
  unfold bytesText
  dsimp only
  split
  · have htake : Text.IsInline ((Text.hexBytes bytes).take (byteColumn - 3)) :=
      fun hmem => hwhole (List.mem_of_mem_take hmem)
    exact Text.isInline_append.2 ⟨htake, by decide⟩
  · exact hwhole

theorem isInline_lineRow (address : Int) (l : Line) : Text.IsInline (lineRow address l) := by
  have hcolumn := Text.isInline_padRight (isInline_bytesText l.bytes) byteColumn
  simp [lineRow, hcolumn, isInline_text l]

/-- Every row is within one line, since names of labels and statements are. -/
theorem isInline_of_mem_listingRows
    (hnames : ∀ name mark, (name, mark) ∈ p.labels → isLabelName name = true) :
    ∀ row ∈ p.listingRows, Text.IsInline row := by
  have hlabels : ∀ index, ∀ row ∈ ((LabelGroups.ofTable p.labels).at index).map labelRow,
      Text.IsInline row := by
    intro index row hrow
    obtain ⟨name, hname, rfl⟩ := List.mem_map.1 hrow
    rw [LabelGroups.at_ofTable] at hname
    obtain ⟨⟨_, mark⟩, hmem, rfl⟩ := List.mem_map.1 hname
    have hblank : Text.IsInline (List.replicate (6 + 2 + byteColumn + 2) ' ') := by decide
    simp [labelRow, hblank,
      isInline_of_isLabelName (hnames _ mark (List.mem_of_mem_filter hmem))]
  intro row hrow
  rcases List.mem_append.1 hrow with hline | hend
  · obtain ⟨⟨l, index⟩, -, hline⟩ := List.mem_flatMap.1 hline
    rcases List.mem_append.1 hline with hlabel | hitself
    · exact hlabels index row hlabel
    · obtain rfl := List.mem_singleton.1 hitself
      exact isInline_lineRow _ l
  · exact hlabels _ row hend

/-- The address of a label is that of the base and the bytes in front of the line that it marks. -/
theorem lookup_symbols_of_mark {name : Label} {mark : Nat}
    (hmark : p.labels.lookup name = some (mark : Int)) (hbound : mark ≤ p.lines.length) :
    p.symbols.lookup name = some (p.base + (p.bytesBefore mark).length) := by
  rw [lookup_symbols, hmark, Option.map_some, addressOf_eq hbound]

/-- The listing of a program with a table of labels in order. -/
theorem isListed_of_isOrderly (horderly : p.IsOrderly) :
    p.IsListed p.bytes p.symbols p.listing (p.rows 0 p.lines.length) := by
  have hlabels : (p.rows 0 p.lines.length).filterMap Row.label? = p.labels.map Prod.fst := by
    rw [filterMap_label?_rows horderly.sorted]
    · rw [List.filter_eq_self.2]
      intro entry hentry
      simpa using (horderly.bounds entry.1 entry.2 hentry).1
    · intro entry hentry
      simpa using (horderly.bounds entry.1 entry.2 hentry).2
  have hshows : List.Forall₂ (p.Shows p.bytes) (p.rows 0 p.lines.length) p.listingRows :=
    shows_rowsOf (List.nil_append p.lines).symm
  have hinline : ∀ text ∈ listingHead ++ p.listingRows, Text.IsInline text := by
    intro text htext
    rcases List.mem_append.1 htext with hhead | hrow
    · have hall : ∀ text ∈ listingHead, Text.IsInline text := by decide
      exact hall text hhead
    · exact isInline_of_mem_listingRows horderly.names text hrow
  exact
    { shows := ⟨_, Text.cut_join_lineFeed (by simp [listingHead]) hinline, hshows⟩
      bytes := by simp [bytesBefore, bytes]
      lines := (filterMap_line?_rows 0 _).trans (List.range_eq_range').symm
      labels := hlabels.trans p.map_fst_symbols.symm
      nodup := p.map_fst_symbols ▸ horderly.nodup
      places := by
        intro front name back hrows
        obtain ⟨mark, hbound, hlines, hmark, hleads⟩ :=
          isPlaced_of_rows horderly.nodup (Nat.zero_add _) hrows
        rw [Nat.zero_add] at hbound hmark hleads
        exact ⟨mark, hmark, hlines.trans (List.range_eq_range').symm, hleads,
          lookup_symbols_of_mark hmark hbound⟩ }

/-! ## The listing of a source -/

/-- Later definitions mark later lines, or the same. -/
theorem pairwise_marksFrom (count : Nat) (ss : List Statement) :
    (Statement.marksFrom count ss).Pairwise fun first second => first.2 ≤ second.2 := by
  induction ss generalizing count with
  | nil => exact .nil
  | cons s rest ih =>
    refine List.pairwise_append.2 ⟨?_, ih _, ?_⟩
    · cases s.label? <;> simp
    · intro entry hentry later hlater
      obtain ⟨label, -, rfl⟩ := List.mem_map.1 hentry
      have hbounds := bounds_of_mem_marksFrom hlater
      show (count : Int) ≤ later.2
      omega

theorem isOrderly_of_holds {d : Draft} {ss : List Statement} (hholds : d.Holds ss)
    (hlabels : p.labels = d.labels.toList) (hlines : p.lines.length = d.entries.toList.length) :
    p.IsOrderly := by
  refine ⟨?_, ?_, ?_, ?_⟩
  · rw [hlabels, hholds.labels]
    exact pairwise_marksFrom 0 ss
  · intro name mark hmem
    rw [hlines]
    exact bounds_of_mem_labels hholds (hlabels ▸ hmem)
  · rw [hlabels, hholds.labels, Statement.map_fst_marksFrom]
    exact hholds.nodup
  · intro name mark hmem
    have hname : name ∈ ss.filterMap Statement.label? := by
      rw [← Statement.map_fst_marksFrom 0 ss, ← hholds.labels, ← hlabels]
      exact List.mem_map_of_mem hmem
    obtain ⟨s, -, hlabel⟩ := List.mem_filterMap.1 hname
    obtain ⟨spelled, rest, -, hspelled, rfl⟩ := Statement.label?_eq_some_iff.1 hlabel
    rw [isLabelName_map_toLower, hspelled]

end Program

namespace Assembler

/-- The listing of an assembled source shows every line of its program where the bytes of that line
are loaded, and every label in front of the place that it names. -/
theorem isListed_of_assemble (a : Assembler) (source : Text) (rom : List UInt8)
    (hassemble : (a.assemble source).1 = .ok rom) :
    ∃ p rows, Program.assemble a.base source = .ok p ∧ p.base = a.base ∧
      p.IsListed rom (a.assemble source).2.symbols (a.assemble source).2.listing rows := by
  obtain ⟨p, hprogram, hkept, rfl⟩ := exists_program_of_assemble hassemble
  obtain ⟨d, hholds, hresolves, hp⟩ := Program.exists_draft_of_assemble hprogram
  have hlines : p.lines.length = d.entries.toList.length := by
    rw [Program.lines, List.length_map]
    exact hresolves.length_eq.symm
  have horderly : p.IsOrderly := Program.isOrderly_of_holds hholds (by rw [hp]; rfl) hlines
  refine ⟨p, p.rows 0 p.lines.length, hprogram, by rw [hp]; rfl, ?_⟩
  rw [symbols, listing, hkept]
  exact Program.isListed_of_isOrderly horderly

/-- A source with two labels at one line, two at its end, and more data than the column of bytes has
room for. -/
def labelledSource : Text :=
  "start: jp data; also:\ndata: bytes 1 2 3 4 5 # five\nend:\nLAST:".toList

/-- The rows of its listing: labels in front of the line that they mark, or at the end. -/
def labelledRows : List Text :=
  ["                      start:", "0x200   12 02         JP 0x202",
    "                      also:", "                      data:",
    "0x202   01 02 03 ...  BYTES 0x01 0x02 0x03 0x04 0x05",
    "                      end:", "                      last:"].map String.toList

theorem isListed_of_assemble_labelled :
    (({ base := 0x200 } : Assembler).assemble labelledSource).1 =
        .ok [0x12, 0x02, 1, 2, 3, 4, 5] ∧
      Text.cut (· == '\n') (({ base := 0x200 } : Assembler).assemble labelledSource).2.listing =
        Program.listingHead ++ labelledRows ∧
      ∃ p rows, Program.assemble 0x200 labelledSource = .ok p ∧ p.base = 0x200 ∧
        p.IsListed [0x12, 0x02, 1, 2, 3, 4, 5]
          (({ base := 0x200 } : Assembler).assemble labelledSource).2.symbols
          (({ base := 0x200 } : Assembler).assemble labelledSource).2.listing rows := by
  have hassemble : (({ base := 0x200 } : Assembler).assemble labelledSource).1 =
      .ok [0x12, 0x02, 1, 2, 3, 4, 5] := by decide +kernel
  exact ⟨hassemble, by decide +kernel,
    isListed_of_assemble { base := 0x200 } labelledSource _ hassemble⟩

end Assembler

end Chip8
