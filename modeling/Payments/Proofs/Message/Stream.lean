import Payments.CommandStream
import Payments.Proofs.Json.Spelling
import Payments.Proofs.Text.Lines

/-!
# Payments.Proofs.Message.Stream -- commands are read line by line

What stands on a line is decided by the bytes of that line. A carriage return before the line feed
may be counted among them or not: it is a blank, for the test whether the line is blank as well as
for the reader of JSON, and blanks behind a value make no difference
(`Json.Codec.parse_push_space`). So a stream is read line by line, each line as if it stood alone,
and only the numbers of the lines depend on what stands before them
(`CommandStream.lines_are_independent`).
-/

namespace Payments

/-! ## One line -/

namespace CommandStream

/-- A carriage return at the end of a line makes no difference to what stands on it. -/
theorem ofLine_return (line : List UInt8) : ofLine (line ++ [13]) = ofLine line := by
  have hread := Text.ofUtf8?_append_ascii (c := '\r') (by decide) line
  replace hread : Text.ofUtf8? (line ++ [13]) = _ := hread
  unfold ofLine
  rw [hread]
  cases Text.ofUtf8? line with
  | none => rfl
  | some text =>
    have hblank : Text.isBlankText (text.push '\r') = Text.isBlankText text := by
      simp [Text.isBlankText, Text.isBlank]
    simp only [Option.map_some, hblank, Command.codec.parse_push_space (c := '\r') rfl text]

/-- What stands on a line does not depend on how the line ends. -/
theorem ofLine_dropReturn (line : List UInt8) :
    ofLine (Text.dropReturn line.reverse).reverse = ofLine line := by
  generalize hback : line.reverse = back
  have hline : line = back.reverse := by rw [← hback, List.reverse_reverse]
  rw [hline]
  unfold Text.dropReturn
  split
  · rw [List.reverse_cons, ofLine_return]
  · rfl

/-- A line is passed over just if it is a text of blanks only. -/
theorem ofLine_eq_none {line : List UInt8} :
    ofLine line = none ↔ ∃ text, Text.utf8 text = line ∧ Text.isBlankText text = true := by
  unfold ofLine
  constructor
  · intro h
    split at h
    · cases h
    · next text htext =>
      split at h
      · next hblank => exact ⟨text, Text.utf8_of_ofUtf8? htext, hblank⟩
      · cases h
  · rintro ⟨text, rfl, hblank⟩
    rw [Text.ofUtf8?_utf8]
    exact if_pos hblank

/-! ## Streams -/

/-- The items of a line, as the line with a number. -/
def itemsOf (n : Nat) (line : List UInt8) : List StreamItem :=
  ((ofLine line).map (StreamItem.mk n)).toList

/-- The item with so many more lines before it. -/
def later (n : Nat) (x : StreamItem) : StreamItem :=
  { x with line := x.line + n }

theorem map_later_map_later (m n : Nat) (xs : List StreamItem) :
    (xs.map (later m)).map (later n) = xs.map (later (m + n)) := by
  rw [List.map_map]
  refine List.map_congr_left fun x _ => ?_
  show StreamItem.mk (x.line + m + n) x.command = StreamItem.mk (x.line + (m + n)) x.command
  rw [Nat.add_assoc]

theorem map_later_itemsOf (m n : Nat) (line : List UInt8) :
    (itemsOf m line).map (later n) = itemsOf (m + n) line := by
  unfold itemsOf
  cases ofLine line <;> rfl

theorem ofLines_cons (n : Nat) (line : List UInt8) (lines : List (List UInt8)) :
    ofLines n (line :: lines) = itemsOf n line ++ ofLines (n + 1) lines := by
  rw [ofLines, itemsOf]
  cases ofLine line <;> rfl

theorem ofLines_add (m n : Nat) (lines : List (List UInt8)) :
    ofLines (m + n) lines = (ofLines m lines).map (later n) := by
  induction lines generalizing m with
  | nil => rfl
  | cons line lines ih =>
    rw [ofLines_cons, ofLines_cons, List.map_append, map_later_itemsOf, ← ih,
      Nat.add_right_comm]

theorem ofBytes_line {line : List UInt8} (hline : 10 ∉ line) (rest : List UInt8) :
    ofBytes (line ++ 10 :: rest) = itemsOf 1 line ++ (ofBytes rest).map (later 1) := by
  have hsame : itemsOf 1 (Text.dropReturn line.reverse).reverse = itemsOf 1 line := by
    rw [itemsOf, itemsOf, ofLine_dropReturn]
  rw [ofBytes, Text.lines_line hline, ofLines_cons, hsame, ofLines_add]
  rfl

theorem ofBytes_unended {line : List UInt8} (hline : 10 ∉ line) :
    ofBytes line = itemsOf 1 line := by
  rw [ofBytes, Text.lines_unended hline]
  cases line with
  | nil => rfl
  | cons b line =>
    show ofLines 1 [b :: line] = _
    rw [ofLines_cons]
    exact List.append_nil _

/-- Ended lines, and whatever stands behind them, are read apart from each other. -/
theorem ofBytes_append {a : List UInt8} (ha : Text.Ended a) (b : List UInt8) :
    ofBytes (a ++ b) = ofBytes a ++ (ofBytes b).map (later (a.count 10)) := by
  induction a using Text.lines_induction with
  | unended line hline =>
    obtain rfl := Text.eq_nil_of_ended hline ha
    exact (List.map_id (ofBytes b)).symm
  | ended line rest hline ih =>
    rw [List.append_assoc, List.cons_append, ofBytes_line hline, ofBytes_line hline,
      Text.count_line hline, ih (Text.ended_line.1 ha), List.map_append, map_later_map_later,
      List.append_assoc]

/-- A line feed at the end makes no difference. -/
theorem ofBytes_feed (bytes : List UInt8) : ofBytes (bytes ++ [10]) = ofBytes bytes := by
  induction bytes using Text.lines_induction with
  | unended line hline =>
    rw [ofBytes_line hline, ofBytes_unended hline]
    exact List.append_nil _
  | ended line rest hline ih =>
    rw [List.append_assoc, List.cons_append, ofBytes_line hline, ofBytes_line hline, ih]

theorem mem_itemsOf {n : Nat} {line : List UInt8} {x : StreamItem} :
    x ∈ itemsOf n line ↔ x.line = n ∧ ofLine line = some x.command := by
  unfold itemsOf
  rw [Option.mem_toList, Option.map_eq_some_iff]
  constructor
  · rintro ⟨command, h, rfl⟩
    exact ⟨rfl, h⟩
  · rintro ⟨rfl, h⟩
    exact ⟨x.command, h, rfl⟩

/-- An item is what stands on the line with its number. -/
theorem mem_ofBytes {bytes : List UInt8} {x : StreamItem} :
    x ∈ ofBytes bytes ↔
      ∃ line, Text.LineAt bytes x.line line ∧ ofLine line = some x.command := by
  constructor
  · intro hx
    induction bytes using Text.lines_induction generalizing x with
    | unended line hline =>
      rw [ofBytes_unended hline, mem_itemsOf] at hx
      obtain ⟨hn, hcommand⟩ := hx
      have hne : line ≠ [] := by
        rintro rfl
        cases hcommand
      exact ⟨line, .last [] rfl nofun hline hn hne, hcommand⟩
    | ended first rest hfirst ih =>
      rw [ofBytes_line hfirst, List.mem_append, mem_itemsOf, List.mem_map] at hx
      rcases hx with ⟨hn, hcommand⟩ | ⟨y, hy, rfl⟩
      · exact ⟨first, .ended [] rest rfl nofun hfirst hn, hcommand⟩
      · obtain ⟨line, hat, hcommand⟩ := ih hy
        exact ⟨line, hat.behind hfirst, hcommand⟩
  · rintro ⟨line, hat, hcommand⟩
    -- the item is the first one of the line and what stands behind it
    have hfirst {behind : List UInt8} {before : List UInt8} (hbefore : Text.Ended before)
        (hn : x.line = before.count 10 + 1) (hmem : ⟨1, x.command⟩ ∈ ofBytes behind) :
        x ∈ ofBytes (before ++ behind) := by
      rw [ofBytes_append hbefore]
      refine List.mem_append_right _ (List.mem_map.2 ⟨_, hmem, ?_⟩)
      show StreamItem.mk (1 + before.count 10) x.command = x
      rw [Nat.add_comm, ← hn]
    have hitem : ⟨1, x.command⟩ ∈ itemsOf 1 line := mem_itemsOf.2 ⟨rfl, hcommand⟩
    cases hat with
    | ended before behind hbytes hbefore hline hn =>
      rw [hbytes, List.append_assoc]
      refine hfirst hbefore hn ?_
      rw [ofBytes_line hline]
      exact List.mem_append_left _ hitem
    | last before hbytes hbefore hline hn hne =>
      rw [hbytes]
      refine hfirst hbefore hn ?_
      rw [ofBytes_unended hline]
      exact hitem

theorem le_line_of_mem_ofLines {n : Nat} {lines : List (List UInt8)} {x : StreamItem}
    (hx : x ∈ ofLines n lines) : n ≤ x.line := by
  induction lines generalizing n with
  | nil => cases hx
  | cons line lines ih =>
    rw [ofLines_cons, List.mem_append, mem_itemsOf] at hx
    rcases hx with ⟨hn, -⟩ | hx
    · exact Nat.le_of_eq hn.symm
    · exact Nat.le_of_succ_le (ih hx)

/-- The numbers grow from item to item. -/
theorem pairwise_ofLines (n : Nat) (lines : List (List UInt8)) :
    (ofLines n lines).Pairwise fun x y => x.line < y.line := by
  induction lines generalizing n with
  | nil => exact .nil
  | cons line lines ih =>
    rw [ofLines_cons, List.pairwise_append]
    refine ⟨?_, ih (n + 1), ?_⟩
    · unfold itemsOf
      cases ofLine line with
      | none => exact .nil
      | some command => exact List.pairwise_singleton _ _
    · intro x hx y hy
      rw [(mem_itemsOf.1 hx).1]
      exact le_line_of_mem_ofLines hy

/-- The commands that can be read, in order. -/
def commands (bytes : List UInt8) : List Command :=
  (ofBytes bytes).filterMap fun x => x.command.toOption

theorem filterMap_map_later (n : Nat) (xs : List StreamItem) :
    (xs.map (later n)).filterMap (fun x => x.command.toOption) =
      xs.filterMap fun x => x.command.toOption :=
  List.filterMap_map ..

theorem commands_append {a : List UInt8} (ha : Text.Ended a) (b : List UInt8) :
    commands (a ++ b) = commands a ++ commands b := by
  rw [commands, ofBytes_append ha, List.filterMap_append, filterMap_map_later]
  rfl

/-- Lines put between others change the numbers of those behind them, and nothing else. -/
theorem ofBytes_insert {a inserted b : List UInt8} (ha : Text.Ended a)
    (hinserted : Text.Ended inserted ∨ b = []) :
    ofBytes (a ++ inserted ++ b) =
      ofBytes a ++ (ofBytes inserted).map (later (a.count 10)) ++
        (ofBytes b).map (later ((a ++ inserted).count 10)) := by
  rcases hinserted with hinserted | rfl
  · rw [ofBytes_append (ha.append hinserted), ofBytes_append ha]
  · rw [List.append_nil, ofBytes_append ha]
    exact (List.append_nil _).symm

theorem commands_insert {a inserted b : List UInt8} (ha : Text.Ended a)
    (hinserted : Text.Ended inserted ∨ b = []) :
    commands (a ++ inserted ++ b) = commands a ++ commands inserted ++ commands b := by
  simp only [commands, ofBytes_insert ha hinserted, List.filterMap_append, filterMap_map_later]

/-- Lines are read independently of each other, whatever bytes they are made of. What stands behind
ended lines is read as it would be alone, and counted on. An item is what stands on the line with
its number, so it depends on the bytes of that line only; there is one for each line that is not a
text of blanks, and the numbers grow. Whether the last line is ended makes no difference. Lines put
between others, at the beginning or at the end leave the items before them as they were, and those
behind them but for their numbers; if there is no command among them, because they are blank, are no
text or hold something else, the commands stay the same. -/
theorem lines_are_independent :
    (∀ a b, Text.Ended a →
      ofBytes (a ++ b) = ofBytes a ++ (ofBytes b).map (later (a.count 10))) ∧
    (∀ bytes,
      (∀ x, x ∈ ofBytes bytes ↔
        ∃ line, Text.LineAt bytes x.line line ∧ ofLine line = some x.command) ∧
      ((ofBytes bytes).Pairwise fun x y => x.line < y.line) ∧
      ofBytes (bytes ++ [10]) = ofBytes bytes) ∧
    (∀ line, ofLine line = none ↔
      ∃ text, Text.utf8 text = line ∧ Text.isBlankText text = true) ∧
    ∀ a inserted b, Text.Ended a → Text.Ended inserted ∨ b = [] →
      ofBytes (a ++ inserted ++ b) =
        ofBytes a ++ (ofBytes inserted).map (later (a.count 10)) ++
          (ofBytes b).map (later ((a ++ inserted).count 10)) ∧
      (commands inserted = [] → commands (a ++ inserted ++ b) = commands (a ++ b)) := by
  refine ⟨fun a b ha => ofBytes_append ha b, ?_, fun line => ofLine_eq_none, ?_⟩
  · intro bytes
    exact ⟨fun x => mem_ofBytes, pairwise_ofLines 1 _, ofBytes_feed bytes⟩
  · intro a inserted b ha hinserted
    refine ⟨ofBytes_insert ha hinserted, fun hnone => ?_⟩
    rw [commands_insert ha hinserted, hnone, List.append_nil, commands_append ha]

/-- Between two commands, of which the first has a carriage return and the second no line feed,
there are bytes that are no text, a word and a blank line. The commands are read all the same, the
second one as that of the fifth line. -/
theorem lines_are_independent_of_sample :
    let refund (id : String) :=
      "\x7b\"type\":\"refund_requested\",\"paymentId\":\"" ++ id ++
        "\",\"orderId\":\"o\",\"refundReason\":\"r\"\x7d"
    let a := Text.utf8 (refund "p" ++ "\r\n")
    let inserted := [0xff, 10] ++ Text.utf8 "nonsense\n\u00a0\n"
    let b := Text.utf8 (refund "q")
    Text.Ended a ∧ Text.Ended inserted ∧ commands inserted = [] ∧
      commands (a ++ inserted ++ b) =
        [.refund ⟨"p", "o", "r", none⟩, .refund ⟨"q", "o", "r", none⟩] ∧
      (ofBytes (a ++ inserted ++ b)).map StreamItem.line = [1, 2, 3, 5] := by
  intro refund a inserted b
  have ha : Text.Ended a := by decide +kernel
  have hinserted : Text.Ended inserted := by decide +kernel
  have hnone : commands inserted = [] := by decide +kernel
  obtain ⟨-, -, -, hinsert⟩ := lines_are_independent
  obtain ⟨hitems, hcommands⟩ := hinsert a inserted b ha (.inl hinserted)
  refine ⟨ha, hinserted, hnone, ?_, ?_⟩
  · rw [hcommands hnone]
    decide +kernel
  · rw [hitems]
    decide +kernel

end CommandStream

end Payments
