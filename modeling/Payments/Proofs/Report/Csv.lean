import Payments.Report

/-!
# Payments.Proofs.Report.Csv -- reading comma-separated values

`Csv.read` reads a text as rows of fields, as RFC 4180 has it: fields stand between commas and rows
between ends of lines, of which the last may be missing; a field in quotes may hold anything, with
its quotes doubled, and a field without quotes may hold neither a quote nor a comma nor the end of a
line. A line feed ends a row with or without a carriage return before it. What does not follow these
rules is not read at all.

Whatever fields are written as rows of a report are read as these rows (`Csv.read_rowChars`), since
a field is quoted where a comma, a quote or the end of a line would be taken for something else.
-/

namespace Payments.Csv

/-! ## The reader -/

/-- Where the reader stands. -/
inductive Place where
  /-- Before a field. -/
  | start
  /-- In a field without quotes. -/
  | plain
  /-- Between the quotes of a field. -/
  | quoted
  /-- Behind a quote inside quotes: the field has ended, or the quote is one of two. -/
  | closed
  /-- Behind a carriage return at the end of a row. -/
  | returned
deriving DecidableEq, Repr

/-- Whether a field without quotes ends at the character. -/
def separates (c : Char) : Bool :=
  c = ',' || c = '\n' || c = '\r'

/-- What has been read: whole rows, whole fields of the row after them, and the characters of the
field after those. -/
structure State where
  rows : List (List String)
  row : List String
  field : List Char
  place : Place
deriving DecidableEq, Repr

namespace State

/-- Nothing has been read. -/
def empty : State :=
  ⟨[], [], [], .start⟩

/-- The field goes on with a character. -/
def push (s : State) (c : Char) (place : Place) : State :=
  { s with field := s.field ++ [c], place }

/-- The field ends, and another begins. -/
def endField (s : State) : State :=
  ⟨s.rows, s.row ++ [String.ofList s.field], [], .start⟩

/-- The field ends, and with it the row. -/
def endRow (s : State) : State :=
  ⟨s.rows ++ [s.row ++ [String.ofList s.field]], [], [], .start⟩

/-- The field ends at a character that separates it from what follows. -/
def separate (s : State) (c : Char) : State :=
  if c = ',' then s.endField
  else if c = '\n' then s.endRow
  else { s with place := .returned }

/-- One character. -/
def step (s : State) (c : Char) : Option State :=
  match s.place with
  | .start =>
    if c = '"' then some { s with place := .quoted }
    else if separates c then some (s.separate c)
    else some (s.push c .plain)
  | .plain =>
    if c = '"' then none
    else if separates c then some (s.separate c)
    else some (s.push c .plain)
  | .quoted => if c = '"' then some { s with place := .closed } else some (s.push c .quoted)
  | .closed =>
    if c = '"' then some (s.push c .quoted)
    else if separates c then some (s.separate c)
    else none
  | .returned => if c = '\n' then some s.endRow else none

/-- Characters one after another. -/
def run (s : State) (cs : List Char) : Option State :=
  cs.foldlM step s

/-- The rows, if the text may end here. -/
def finish (s : State) : Option (List (List String)) :=
  match s.place with
  | .start => some (if s.row.isEmpty then s.rows else s.endRow.rows)
  | .plain | .closed => some s.endRow.rows
  | .quoted | .returned => none

end State

/-- The rows of a text. -/
def read (text : String) : Option (List (List String)) :=
  (State.empty.run text.toList).bind State.finish

/-! ## Reading what was written -/

theorem isPlain_iff {c : Char} : Report.isPlain c = true ↔ c ≠ '"' ∧ separates c = false := by
  simp [Report.isPlain, separates, and_assoc, and_left_comm]

namespace State

variable {s t : State} {rows : List (List String)} {row : List String} {field : String}

theorem run_append (s : State) (cs ds : List Char) :
    s.run (cs ++ ds) = (s.run cs).bind fun t => t.run ds :=
  List.foldlM_append ..

theorem run_cons {c : Char} (h : s.step c = some t) (cs : List Char) :
    s.run (c :: cs) = t.run cs := by
  show (s.step c).bind (fun t => t.run cs) = _
  rw [h]
  rfl

/-! ### Fields -/

theorem run_plain {cs : List Char} (hcs : cs.all Report.isPlain = true) (begun : List Char) :
    run ⟨rows, row, begun, .plain⟩ cs = some ⟨rows, row, begun ++ cs, .plain⟩ := by
  induction cs generalizing begun with
  | nil => simp [run]
  | cons c cs ih =>
    rw [List.all_cons, Bool.and_eq_true, isPlain_iff] at hcs
    obtain ⟨⟨hquote, hseparates⟩, hrest⟩ := hcs
    have hstep : step ⟨rows, row, begun, .plain⟩ c = some ⟨rows, row, begun ++ [c], .plain⟩ := by
      simp [step, hquote, hseparates, push]
    rw [run_cons hstep, ih hrest, List.append_assoc]
    rfl

theorem run_doubleQuotes (begun cs : List Char) :
    run ⟨rows, row, begun, .quoted⟩ (Report.doubleQuotes cs) =
      some ⟨rows, row, begun ++ cs, .quoted⟩ := by
  induction cs generalizing begun with
  | nil => simp [run, Report.doubleQuotes]
  | cons c cs ih =>
    have hrest : run ⟨rows, row, begun ++ [c], .quoted⟩ (Report.doubleQuotes cs) =
        some ⟨rows, row, begun ++ c :: cs, .quoted⟩ := by
      rw [ih, List.append_assoc]
      rfl
    unfold Report.doubleQuotes
    split
    · next hquote =>
      subst hquote
      rw [run_cons (t := ⟨rows, row, begun, .closed⟩) rfl,
        run_cons (t := ⟨rows, row, begun ++ ['"'], .quoted⟩) rfl]
      exact hrest
    · next hquote =>
      have hstep :
          step ⟨rows, row, begun, .quoted⟩ c = some ⟨rows, row, begun ++ [c], .quoted⟩ := by
        simp [step, hquote, push]
      rw [run_cons hstep]
      exact hrest

/-- A field has been read, and may end here. -/
structure Holds (s : State) (rows : List (List String)) (row : List String) (field : String) :
    Prop where
  rows : s.rows = rows
  row : s.row = row
  field : String.ofList s.field = field
  place : s.place = .start ∨ s.place = .plain ∨ s.place = .closed

/-- A field is read as it was before it was written. -/
theorem run_fieldChars (rows : List (List String)) (row : List String) (field : String) :
    ∃ s, run ⟨rows, row, [], .start⟩ (Report.fieldChars field) = some s ∧
      s.Holds rows row field := by
  unfold Report.fieldChars
  split
  · next hplain =>
    generalize hcs : field.toList = cs at hplain
    have hfield : String.ofList cs = field := by rw [← hcs, String.ofList_toList]
    cases cs with
    | nil => exact ⟨_, rfl, rfl, rfl, hfield, .inl rfl⟩
    | cons c cs =>
      -- a plain field starts with no quote, so the reader takes it for a field without quotes
      rw [List.all_cons, Bool.and_eq_true, isPlain_iff] at hplain
      obtain ⟨⟨hquote, hseparates⟩, hrest⟩ := hplain
      have hstep : step ⟨rows, row, [], .start⟩ c = some ⟨rows, row, [c], .plain⟩ := by
        simp [step, hquote, hseparates, push]
      refine ⟨⟨rows, row, c :: cs, .plain⟩, ?_, rfl, rfl, hfield, .inr (.inl rfl)⟩
      rw [run_cons hstep, run_plain hrest]
      rfl
  · refine ⟨⟨rows, row, field.toList, .closed⟩, ?_, rfl, rfl, String.ofList_toList, .inr (.inr rfl)⟩
    show run ⟨rows, row, [], .start⟩ ('"' :: (Report.doubleQuotes field.toList ++ ['"'])) = _
    rw [run_cons (t := ⟨rows, row, [], .quoted⟩) rfl, run_append, run_doubleQuotes]
    rfl

/-! ### Rows -/

theorem Holds.step (h : s.Holds rows row field) {c : Char} (hc : separates c = true) :
    s.step c = some (s.separate c) := by
  have hquote : c ≠ '"' := by
    rintro rfl
    cases hc
  unfold State.step
  rcases h.place with hplace | hplace | hplace <;> rw [hplace] <;> simp [hquote, hc]

theorem Holds.comma (h : s.Holds rows row field) (cs : List Char) :
    s.run (',' :: cs) = run ⟨rows, row ++ [field], [], .start⟩ cs := by
  rw [run_cons (h.step rfl), ← h.rows, ← h.row, ← h.field]
  rfl

theorem Holds.feed (h : s.Holds rows row field) :
    s.run ['\n'] = some ⟨rows ++ [row ++ [field]], [], [], .start⟩ := by
  rw [run_cons (h.step rfl), ← h.rows, ← h.row, ← h.field]
  rfl

/-- The fields of a row are added to those before them, and the row ends. -/
theorem run_joinFields (rows : List (List String)) (row : List String) {fields : List String}
    (hne : fields ≠ []) :
    run ⟨rows, row, [], .start⟩ (Report.joinFields fields ++ ['\n']) =
      some ⟨rows ++ [row ++ fields], [], [], .start⟩ := by
  induction fields generalizing row with
  | nil => exact absurd rfl hne
  | cons field rest ih =>
    obtain ⟨s, hs, hholds⟩ := run_fieldChars rows row field
    cases rest with
    | nil =>
      rw [Report.joinFields, run_append, hs]
      exact hholds.feed
    | cons next rest =>
      rw [Report.joinFields, List.append_assoc, run_append, hs, Option.bind_some, List.cons_append,
        hholds.comma, ih _ (List.cons_ne_nil _ _), List.append_assoc]
      · rfl
      · nofun

theorem run_rowChars (before rows : List (List String)) (hne : ∀ row ∈ rows, row ≠ []) :
    run ⟨before, [], [], .start⟩ (rows.flatMap Report.rowChars) =
      some ⟨before ++ rows, [], [], .start⟩ := by
  induction rows generalizing before with
  | nil => simp [run]
  | cons row rows ih =>
    have hrow : run ⟨before, [], [], .start⟩ (Report.rowChars row) =
        some ⟨before ++ [row], [], [], .start⟩ := run_joinFields before [] (hne row (by simp))
    rw [List.flatMap_cons, run_append, hrow, Option.bind_some,
      ih _ fun other hother => hne other (List.mem_cons_of_mem _ hother), List.append_assoc]
    rfl

end State

/-- Rows of fields are read as they were before they were written. -/
theorem read_rowChars {rows : List (List String)} (hne : ∀ row ∈ rows, row ≠ []) :
    read (String.ofList (rows.flatMap Report.rowChars)) = some rows := by
  rw [read, String.toList_ofList, State.empty, State.run_rowChars [] rows hne]
  rfl

end Payments.Csv
