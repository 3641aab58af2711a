import Payments.Text.Lines

/-!
# Payments.Proofs.Text.Lines -- byte strings taken line by line

A byte string is a line without an end, or a line with its line feed and the byte string behind it.
Whatever holds of these two holds of all byte strings (`lines_induction`), and `lines` follows the
same two cases.

A byte of the ASCII range at the end of a byte string is a character of its own, whatever stands
before it, because a longer character ends with a byte above that range (`ofUtf8?_append_ascii`). So
neither a line feed nor a carriage return is ever a part of the text before it.
-/

namespace Payments.Text

/-! ## Bytes of the ASCII range -/

theorem utf8_push (s : String) (c : Char) :
    utf8 (s.push c) = utf8 s ++ String.utf8EncodeChar c := by
  simp [utf8, List.utf8Encode]

theorem utf8EncodeChar_of_ascii {c : Char} (h : c.toNat < 128) :
    String.utf8EncodeChar c = [UInt8.ofNat c.toNat] :=
  if_pos (Nat.le_of_lt_succ h)

/-- Only a character of the ASCII range ends with a byte of that range. -/
theorem utf8EncodeChar_eq_concat (c : Char) :
    ∃ front last, String.utf8EncodeChar c = front ++ [last] ∧
      (last.toNat < 128 → front = [] ∧ c.toNat = last.toNat) := by
  have htrail (v : Nat) : ¬ (UInt8.ofNat (v % 64 + 128)).toNat < 128 := by
    rw [UInt8.toNat_ofNat']
    omega
  unfold String.utf8EncodeChar
  dsimp only
  -- one byte stands for itself; two, three and four end with a byte above the range
  split
  · refine ⟨[], _, rfl, fun _ => ⟨rfl, ?_⟩⟩
    rw [UInt8.toNat_ofNat']
    show c.val.toNat = _
    omega
  · split
    · exact ⟨[_], _, rfl, fun h => absurd h (htrail _)⟩
    · split
      · exact ⟨[_, _], _, rfl, fun h => absurd h (htrail _)⟩
      · exact ⟨[_, _, _], _, rfl, fun h => absurd h (htrail _)⟩

/-- Bytes and one more of the ASCII range spell a text just if the bytes do. -/
theorem ofUtf8?_append_ascii {c : Char} (hc : c.toNat < 128) (bytes : List UInt8) :
    ofUtf8? (bytes ++ [UInt8.ofNat c.toNat]) = (ofUtf8? bytes).map fun s => s.push c := by
  cases hbytes : ofUtf8? bytes with
  | some s =>
    rw [← utf8_of_ofUtf8? hbytes, ← utf8EncodeChar_of_ascii hc, ← utf8_push, ofUtf8?_utf8]
    rfl
  | none =>
    rw [Option.map_none, Option.eq_none_iff_forall_ne_some]
    intro t ht
    have hwhole := utf8_of_ofUtf8? ht
    cases t using String.push_induction with
    | empty =>
      have hlength := congrArg List.length hwhole
      rw [List.length_append, List.length_singleton] at hlength
      exact absurd hlength.symm (Nat.succ_ne_zero _)
    | push s d =>
      obtain ⟨front, last, hd, hascii⟩ := utf8EncodeChar_eq_concat d
      rw [utf8_push, hd, ← List.append_assoc] at hwhole
      obtain ⟨hfront, hlast⟩ := List.append_inj' hwhole rfl
      -- the last character is the one byte, so what stands before it is a text
      have hsmall : last.toNat < 128 := by
        rw [List.singleton_inj.1 hlast, UInt8.toNat_ofNat']
        omega
      rw [(hascii hsmall).1, List.append_nil] at hfront
      rw [← hfront, ofUtf8?_utf8] at hbytes
      cases hbytes

/-! ## Lines -/

/-- Bytes in which every line is ended, as it is if there are none. -/
def Ended (bytes : List UInt8) : Prop :=
  ∀ b ∈ bytes.getLast?, b = 10

instance (bytes : List UInt8) : Decidable (Ended bytes) :=
  inferInstanceAs (Decidable (∀ b ∈ bytes.getLast?, b = 10))

theorem ended_line {line rest : List UInt8} : Ended (line ++ 10 :: rest) ↔ Ended rest := by
  unfold Ended
  rw [List.getLast?_append, List.getLast?_cons]
  cases rest.getLast? <;> simp

theorem Ended.append {a b : List UInt8} (ha : Ended a) (hb : Ended b) : Ended (a ++ b) := by
  intro c hc
  rw [List.getLast?_append] at hc
  cases hlast : b.getLast? with
  | none =>
    rw [hlast] at hc
    exact ha c hc
  | some d =>
    rw [hlast] at hc
    exact hb c (hlast.trans hc)

theorem eq_nil_of_ended {line : List UInt8} (hline : 10 ∉ line) (h : Ended line) : line = [] := by
  cases hlast : line.getLast? with
  | none => exact List.getLast?_eq_none_iff.1 hlast
  | some b => exact absurd (h b hlast ▸ List.mem_of_getLast? hlast) hline

/-- Bytes are a line that is not ended, or a line that is, and bytes behind it. -/
theorem lines_induction {P : List UInt8 → Prop} (unended : ∀ line, 10 ∉ line → P line)
    (ended : ∀ line rest, 10 ∉ line → P rest → P (line ++ 10 :: rest)) (bytes : List UInt8) :
    P bytes := by
  by_cases h : 10 ∈ bytes
  · obtain ⟨line, rest, hbytes, hline⟩ := List.eq_append_cons_of_mem h
    rw [hbytes]
    exact ended line rest hline (lines_induction unended ended rest)
  · exact unended bytes h
termination_by bytes.length
decreasing_by
  rw [hbytes, List.length_append, List.length_cons]
  omega

theorem linesFrom_line {line : List UInt8} (hline : 10 ∉ line) (begun rest : List UInt8) :
    linesFrom begun (line ++ 10 :: rest) =
      (dropReturn (line.reverse ++ begun)).reverse :: lines rest := by
  induction line generalizing begun with
  | nil => rfl
  | cons b line ih =>
    rw [List.mem_cons, not_or] at hline
    rw [List.cons_append, linesFrom, if_neg (Ne.symm hline.1), ih hline.2, List.reverse_cons,
      List.append_assoc]
    rfl

theorem linesFrom_unended {line : List UInt8} (hline : 10 ∉ line) (begun : List UInt8) :
    linesFrom begun line =
      if (line.reverse ++ begun).isEmpty then [] else [(line.reverse ++ begun).reverse] := by
  induction line generalizing begun with
  | nil => rfl
  | cons b line ih =>
    rw [List.mem_cons, not_or] at hline
    rw [linesFrom, if_neg (Ne.symm hline.1), ih hline.2, List.reverse_cons, List.append_assoc]
    rfl

/-- The line that a line feed ends is the first one, without its carriage return. -/
theorem lines_line {line : List UInt8} (hline : 10 ∉ line) (rest : List UInt8) :
    lines (line ++ 10 :: rest) = (dropReturn line.reverse).reverse :: lines rest := by
  rw [lines, linesFrom_line hline, List.append_nil]

/-- A line that no line feed ends is the only one, unless it is empty. -/
theorem lines_unended {line : List UInt8} (hline : 10 ∉ line) :
    lines line = if line.isEmpty then [] else [line] := by
  rw [lines, linesFrom_unended hline, List.append_nil, List.isEmpty_reverse, List.reverse_reverse]

theorem count_line {line : List UInt8} (hline : 10 ∉ line) (rest : List UInt8) :
    (line ++ 10 :: rest).count 10 = rest.count 10 + 1 := by
  rw [List.count_append, List.count_eq_zero.2 hline, List.count_cons_self, Nat.zero_add]

/-- The bytes are the line with a number, counted from one, up to its line feed, or up to the end if
there is none. Behind the last line feed there is a line only if something stands there. -/
inductive LineAt (bytes : List UInt8) (n : Nat) (line : List UInt8) : Prop where
  | ended (before behind : List UInt8) (hbytes : bytes = before ++ line ++ 10 :: behind)
      (hbefore : Ended before) (hline : 10 ∉ line) (hn : n = before.count 10 + 1)
  | last (before : List UInt8) (hbytes : bytes = before ++ line) (hbefore : Ended before)
      (hline : 10 ∉ line) (hn : n = before.count 10 + 1) (hne : line ≠ [])

/-- With a line before them, the lines are counted from two. -/
theorem LineAt.behind {rest line : List UInt8} {n : Nat} (h : LineAt rest n line)
    {first : List UInt8} (hfirst : 10 ∉ first) : LineAt (first ++ 10 :: rest) (n + 1) line := by
  cases h with
  | ended before behind hbytes hbefore hline hn =>
    refine .ended (first ++ 10 :: before) behind ?_ (ended_line.2 hbefore) hline ?_
    · rw [hbytes]
      simp
    · rw [count_line hfirst, hn]
  | last before hbytes hbefore hline hn hne =>
    refine .last (first ++ 10 :: before) ?_ (ended_line.2 hbefore) hline ?_ hne
    · rw [hbytes]
      simp
    · rw [count_line hfirst, hn]

end Payments.Text
