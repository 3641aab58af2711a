import Payments.Json.Codec
import Payments.Proofs.Text.Digits
import Payments.Proofs.Text.Utf8

/-!
# Payments.Proofs.Json.Spelling -- how strings and numbers are cut out of a text

The machine of `Json.Token` takes one character at a time. Here it is followed through a string and
through a whole number, as they are written, with whatever stands behind them: a string ends with
its quote (`scan_quoteChars`), a number only where something follows that belongs to no number
(`scan_intChars`), which is why `EndsValue` says what may follow a value.

Blanks behind a text change none of its tokens (`scan_append_space`), because a blank ends whatever
the machine is in the middle of just as the end of the text does.

Bytes may be read that spell no text, but the bytes of a text are read as the text
(`Codec.parseBytes_utf8`).

Numbers are *exact* when they are whole numbers of 64 bits. Doubles are left out, because the reader
does not always find the double nearest to a text; amounts are written as texts for that very
reason, and no message holds a double.
-/

namespace Payments.Json

/-! ## Strings -/

/-- The spelling of characters, latest first, with no escape in front of them that waits. -/
def spelt (cs : List Char) : Spelling :=
  ⟨cs, none, true⟩

@[simp] theorem spelt_push (cs : List Char) (c : Char) : (spelt cs).push c = spelt (c :: cs) := rfl

theorem hexValue?_hexDigit {n : Nat} (h : n < 16) :
    Text.hexValue? (Text.hexDigit n) = some n := by
  have hall : ∀ k : Fin 16, Text.hexValue? (Text.hexDigit k) = some k.val := by decide
  exact hall ⟨n, h⟩

/-- A unit below the surrogates is a character. -/
theorem spelt_pushUnit (cs : List Char) {u : Nat} (h : u < 0xD800) :
    (spelt cs).pushUnit u = spelt (Char.ofNat u :: cs) := by
  have hhigh : ¬ (0xD800 ≤ u) := by omega
  have hlow : ¬ (0xDC00 ≤ u) := by omega
  simp [Spelling.pushUnit, spelt, hhigh, hlow]

theorem scan_cons (mode : Mode) (c : Char) (cs : List Char) :
    scan mode (c :: cs) = (mode.step c).1 ++ scan (mode.step c).2 cs := by
  rw [scan]

/-- A short escape is read as the character it stands for. -/
theorem scan_shortEscape {sp : Spelling} {c d : Char} (hd : d ≠ 'u') (h : shortEscape? d = some c)
    (cs : List Char) :
    scan (.text sp) ('\\' :: d :: cs) = scan (.text (sp.push c)) cs := by
  rw [scan_cons, scan_cons]
  simp [Mode.step, hd, h]

/-- A character stands for itself, or is written as a short escape or by its number. -/
theorem escapeChar_cases (c : Char) :
    (∃ d, escapeChar c = ['\\', d] ∧ d ≠ 'u' ∧ shortEscape? d = some c) ∨
      (c.toNat < 0x20 ∧ escapeChar c =
        ['\\', 'u', '0', '0', Text.hexDigit (c.toNat / 16), Text.hexDigit (c.toNat % 16)]) ∨
      (escapeChar c = [c] ∧ c ≠ '"' ∧ c ≠ '\\' ∧ ¬ c.toNat < 0x20) := by
  have short {d e : Char} (he : e ≠ 'u') (hd : shortEscape? e = some d) (h : c = d) :
      ∃ x, ['\\', e] = ['\\', x] ∧ x ≠ 'u' ∧ shortEscape? x = some c :=
    ⟨e, rfl, he, h ▸ hd⟩
  unfold escapeChar
  split
  · next h => exact .inl (short (by decide) rfl h)
  split
  · next h => exact .inl (short (by decide) rfl h)
  split
  · next h => exact .inl (short (by decide) rfl h)
  split
  · next h => exact .inl (short (by decide) rfl h)
  split
  · next h => exact .inl (short (by decide) rfl h)
  split
  · next h => exact .inl (short (by decide) rfl h)
  split
  · next h => exact .inl (short (by decide) rfl h)
  split
  · next hcontrol => exact .inr (.inl ⟨hcontrol, rfl⟩)
  · next hquote hslash _ _ _ _ _ hplain => exact .inr (.inr ⟨rfl, hquote, hslash, hplain⟩)

/-- Whatever stands for a character in a string is read as that character. -/
theorem scan_escapeChar (cs : List Char) (c : Char) (rest : List Char) :
    scan (.text (spelt cs)) (escapeChar c ++ rest) = scan (.text (spelt (c :: cs))) rest := by
  rcases escapeChar_cases c with
    ⟨d, heq, hd, hshort⟩ | ⟨hcontrol, heq⟩ | ⟨heq, hquote, hslash, hplain⟩
  · rw [heq]
    exact scan_shortEscape hd hshort rest
  · -- four digits, of which the last two count
    have hhigh := hexValue?_hexDigit (n := c.toNat / 16) (by omega)
    have hlow := hexValue?_hexDigit (n := c.toNat % 16) (by omega)
    have hzero : Text.hexValue? '0' = some 0 := by decide
    have hvalue : c.toNat / 16 * 16 + c.toNat % 16 = c.toNat := by omega
    rw [heq]
    simp only [List.cons_append, List.nil_append]
    rw [scan_cons, scan_cons, scan_cons, scan_cons, scan_cons, scan_cons]
    simp [Mode.step, hhigh, hlow, hzero, hvalue, spelt_pushUnit cs (u := c.toNat) (by omega)]
  · rw [heq, List.singleton_append, scan_cons]
    simp [Mode.step, hquote, hslash, hplain]

theorem scan_escapeChars (cs : List Char) (read : List Char) (rest : List Char) :
    scan (.text (spelt read)) (cs.flatMap escapeChar ++ rest) =
      scan (.text (spelt (cs.reverse ++ read))) rest := by
  induction cs generalizing read with
  | nil => rfl
  | cons c cs ih =>
    rw [List.flatMap_cons, List.append_assoc, scan_escapeChar, ih]
    simp

/-- A string is read as its characters, whatever comes behind it. -/
theorem scan_quoteChars (s : String) (rest : List Char) :
    scan .between (quoteChars s ++ rest) = .text s :: scan .between rest := by
  have hstart : scan .between (quoteChars s ++ rest) =
      scan (.text (spelt [])) (s.toList.flatMap escapeChar ++ '"' :: rest) := by
    simp only [quoteChars, List.cons_append, List.append_assoc, List.nil_append]
    rw [scan_cons]
    rfl
  rw [hstart, scan_escapeChars, List.append_nil, scan_cons]
  simp [Mode.step, Spelling.token, spelt]

/-- No line feed stands in what is written for a character. -/
theorem newline_not_mem_escapeChar (c : Char) : '\n' ∉ escapeChar c := by
  rcases escapeChar_cases c with ⟨d, heq, -, hshort⟩ | ⟨hcontrol, heq⟩ | ⟨heq, -, -, hplain⟩
  · have hd : d ≠ '\n' := by
      rintro rfl
      cases hshort
    simp [heq, Ne.symm hd]
  · have hdigit {n : Nat} (hn : n < 16) : '\n' ≠ Text.hexDigit n := by
      have hall : ∀ k : Fin 16, '\n' ≠ Text.hexDigit k := by decide
      exact hall ⟨n, hn⟩
    simp [heq, hdigit (show c.toNat / 16 < 16 by omega), hdigit (show c.toNat % 16 < 16 by omega)]
  · rw [heq, List.mem_singleton]
    rintro rfl
    exact hplain (by decide)

theorem newline_not_mem_quoteChars (s : String) : '\n' ∉ quoteChars s := by
  simp only [quoteChars, List.cons_append, List.mem_cons, List.mem_append, List.mem_flatMap,
    List.not_mem_nil, or_false, not_or]
  refine ⟨by decide, ?_, by decide⟩
  rintro ⟨c, -, hc⟩
  exact newline_not_mem_escapeChar c hc

/-! ## Numbers -/

/-- A whole number of 64 bits, signed or unsigned. -/
def Number.IsExact : Number → Prop
  | .int i => -(twoTo 63 : Nat) ≤ i ∧ i < (twoTo 64 : Nat)
  | .double _ _ => False

/-- The number as it is spelled. -/
def Number.numeral (n : Number) : Numeral :=
  match tokens n.chars with
  | [.number m] => m
  | _ => ⟨false, [], [], none⟩

/-- What may follow a value: nothing, or a mark that belongs to no number. -/
def EndsValue (rest : List Char) : Prop :=
  ∀ c cs, rest = c :: cs → c = ',' ∨ c = ']' ∨ c = '\x7d'

@[simp] theorem endsValue_nil : EndsValue [] := by
  intro c cs h
  cases h

@[simp] theorem endsValue_cons {c : Char} {cs : List Char} :
    EndsValue (c :: cs) ↔ c = ',' ∨ c = ']' ∨ c = '\x7d' := by
  constructor
  · intro h
    exact h c cs rfl
  · intro h d ds heq
    cases heq
    exact h

theorem Numeral.advance_of_ends {n : Numeral} {stage : Stage} (hs : stage = .zero ∨ stage = .whole)
    {c : Char} (hc : c = ',' ∨ c = ']' ∨ c = '\x7d') : n.advance stage c = .outside := by
  rcases hs with rfl | rfl <;> rcases hc with rfl | rfl | rfl <;> rfl

/-- A number ends where a value may end. -/
theorem scan_number_end {n : Numeral} {stage : Stage} (hs : stage = .zero ∨ stage = .whole)
    {rest : List Char} (hr : EndsValue rest) :
    scan (.number stage n) rest = .number n :: scan .between rest := by
  cases rest with
  | nil => rcases hs with rfl | rfl <;> rfl
  | cons c cs =>
    rw [scan_cons, scan_cons]
    simp only [Mode.step, Numeral.advance_of_ends hs (endsValue_cons.1 hr)]
    rfl

/-- The digits of a number are taken one after another. -/
theorem scan_digits {ds : List Char} (hd : ∀ c ∈ ds, c.isDigit = true) (n : Numeral)
    (rest : List Char) :
    scan (.number .whole n) (ds ++ rest) =
      scan (.number .whole { n with whole := n.whole ++ ds }) rest := by
  induction ds generalizing n with
  | nil => simp
  | cons c ds ih =>
    have hc : c.isDigit = true := hd c (by simp)
    rw [List.cons_append, scan_cons]
    simp only [Mode.step, Numeral.advance, hc, if_true, List.nil_append]
    rw [ih (fun x hx => hd x (by simp [hx]))]
    simp [Numeral.addWhole]

/-- The digits of a whole number other than zero do not start with a zero. -/
theorem toDigits_eq_cons {n : Nat} (h : 0 < n) :
    ∃ c cs, Nat.toDigits 10 n = c :: cs ∧ c ≠ '0' := by
  induction n using Nat.strongRecOn with
  | ind n ih =>
    by_cases hn : n < 10
    · refine ⟨n.digitChar, [], Nat.toDigits_of_lt_base hn, ?_⟩
      intro hzero
      have := Nat.toNat_digitChar_of_lt_ten hn
      rw [hzero] at this
      simp at this
      omega
    · obtain ⟨c, cs, hcs, hc⟩ := ih (n / 10) (by omega) (by omega)
      refine ⟨c, cs ++ [(n % 10).digitChar], ?_, hc⟩
      rw [Nat.toDigits_of_base_le (by decide) (by omega), hcs, List.cons_append]

/-- A digit other than zero starts a number. -/
theorem start_of_isDigit {c : Char} (hd : c.isDigit = true) (hz : c ≠ '0') :
    start c = ([], .number .whole ⟨false, [c], [], none⟩) := by
  have hne (x : Char) (hx : x.isDigit = false) : c ≠ x := by
    rintro rfl
    rw [hd] at hx
    cases hx
  simp [start, hne ' ' rfl, hne '\n' rfl, hne '\t' rfl, hne '\r' rfl, hne '\x7b' rfl,
    hne '\x7d' rfl, hne '[' rfl, hne ']' rfl, hne ',' rfl, hne ':' rfl, hne '"' rfl, hne 'n' rfl,
    hne 't' rfl, hne 'f' rfl, hne '-' rfl, hz, hd]

/-- How a whole number is spelled. -/
def spellInt (i : Int) : Numeral :=
  ⟨decide (i < 0), Nat.toDigits 10 i.natAbs, [], none⟩

/-- A first digit other than zero starts a number that goes on with all digits behind it. -/
theorem scan_intChars (i : Int) {rest : List Char} (hr : EndsValue rest) :
    scan .between (intChars i ++ rest) = .number (spellInt i) :: scan .between rest := by
  by_cases hzero : i = 0
  · subst hzero
    exact scan_number_end (.inl rfl : Stage.zero = .zero ∨ _) hr
  · obtain ⟨c, cs, hcs, hc⟩ := toDigits_eq_cons (n := i.natAbs) (by omega)
    have hall : ∀ x ∈ c :: cs, x.isDigit = true := by
      intro x hx
      exact Nat.isDigit_of_mem_toDigits (by decide) (by decide) (hcs ▸ hx)
    have hdigit : c.isDigit = true := hall c (by simp)
    have hrest : ∀ x ∈ cs, x.isDigit = true := fun x hx => hall x (by simp [hx])
    by_cases hneg : i < 0
    · have hspell : spellInt i = ⟨true, c :: cs, [], none⟩ := by simp [spellInt, hneg, hcs]
      have hstart : intChars i ++ rest = '-' :: c :: (cs ++ rest) := by simp [intChars, hneg, hcs]
      rw [hstart, hspell, scan_cons, scan_cons]
      have hsign : (Mode.between.step '-').2 = .number .sign ⟨true, [], [], none⟩ := rfl
      have hout : (Mode.between.step '-').1 = [] := rfl
      rw [hsign, hout]
      simp only [Mode.step, Numeral.advance, hc, if_false, hdigit, if_true, List.nil_append]
      rw [scan_digits hrest, scan_number_end (.inr rfl) hr]
      rfl
    · have hspell : spellInt i = ⟨false, c :: cs, [], none⟩ := by simp [spellInt, hneg, hcs]
      have hstart : intChars i ++ rest = c :: (cs ++ rest) := by simp [intChars, hneg, hcs]
      have hstep : Mode.between.step c = ([], .number .whole ⟨false, [c], [], none⟩) :=
        start_of_isDigit hdigit hc
      rw [hstart, hspell, scan_cons, hstep, List.nil_append, scan_digits hrest,
        scan_number_end (.inr rfl) hr]
      rfl

theorem newline_not_mem_intChars (i : Int) : '\n' ∉ intChars i := by
  intro h
  rcases List.mem_append.1 h with hsign | hdigit
  · split at hsign
    · cases List.mem_singleton.1 hsign
    · cases hsign
  · exact absurd (Nat.isDigit_of_mem_toDigits (by decide) (by decide) hdigit) (by decide)

@[simp] theorem numeral_int (i : Int) : (Number.int i).numeral = spellInt i := by
  have h : tokens (intChars i) = [.number (spellInt i)] := by
    have := scan_intChars i endsValue_nil
    rwa [List.append_nil] at this
  simp [Number.numeral, Number.chars, h]

theorem takeDigits_all {ds : List Char} {n : Nat} (h : Nat.ofDigitChars 10 ds n < twoTo 64) :
    takeDigits n ds = (Nat.ofDigitChars 10 ds n, []) := by
  induction ds generalizing n with
  | nil => simp [takeDigits]
  | cons c ds ih =>
    have hvalue : digitValue c = c.toNat - '0'.toNat := rfl
    have hcomm : n * 10 = 10 * n := Nat.mul_comm n 10
    rw [Nat.ofDigitChars_cons] at h ⊢
    rw [takeDigits, hvalue, hcomm, if_pos (Nat.lt_of_le_of_lt (le_ofDigitChars ds _) h), ih h]

/-- The spelling of a whole number of 64 bits stands for that number. -/
theorem value?_spellInt {i : Int} (h : (Number.int i).IsExact) :
    (spellInt i).value? = some (.int i) := by
  obtain ⟨hlow, hhigh⟩ := h
  have htake : takeDigits 0 (Nat.toDigits 10 i.natAbs) = (i.natAbs, []) := by
    rw [takeDigits_all, Nat.ofDigitChars_ten_toDigits]
    rw [Nat.ofDigitChars_ten_toDigits]
    simp only [twoTo] at hlow hhigh ⊢
    simp at hlow hhigh ⊢
    omega
  by_cases hneg : i < 0
  · have habs : -((i.natAbs : Nat) : Int) = i := by omega
    have hrange : 0 < i.natAbs ∧ i.natAbs ≤ twoTo 63 := by
      simp only [twoTo] at hlow ⊢
      simp at hlow ⊢
      omega
    have hvalue : (spellInt i).value? = some (.int (-(i.natAbs : Int))) := by
      simp [Numeral.value?, spellInt, htake, hneg, hrange]
    rw [hvalue, habs]
  · have habs : ((i.natAbs : Nat) : Int) = i := by omega
    have hvalue : (spellInt i).value? = some (.int (i.natAbs : Int)) := by
      simp [Numeral.value?, spellInt, htake, hneg]
    rw [hvalue, habs]

/-! ## Blanks behind a text -/

/-- Whether the character may stand between tokens. -/
def isSpace (c : Char) : Bool :=
  c = ' ' || c = '\n' || c = '\t' || c = '\r'

theorem isSpace_iff {c : Char} :
    isSpace c = true ↔ c = ' ' ∨ c = '\n' ∨ c = '\t' ∨ c = '\r' := by
  simp [isSpace, or_assoc]

theorem start_of_isSpace {c : Char} (hc : isSpace c = true) : start c = ([], .between) :=
  if_pos hc

/-- No word that the machine is in the middle of goes on with a blank. -/
def Mode.Apart : Mode → Prop
  | .word left _ => ∀ c ∈ left, isSpace c = false
  | _ => True

theorem apart_ite {p : Prop} [Decidable p] {a b : List Token × Mode} (ha : a.2.Apart)
    (hb : b.2.Apart) : (if p then a else b).2.Apart := by
  split
  · exact ha
  · exact hb

theorem apart_start (c : Char) : (start c).2.Apart := by
  have hnull : (Mode.word ['u', 'l', 'l'] .null).Apart := by simp [Mode.Apart, isSpace]
  have htrue : (Mode.word ['r', 'u', 'e'] (.bool true)).Apart := by simp [Mode.Apart, isSpace]
  have hfalse : (Mode.word ['a', 'l', 's', 'e'] (.bool false)).Apart := by
    simp [Mode.Apart, isSpace]
  unfold start
  -- a blank, the six marks and a quote
  iterate 8 refine apart_ite trivial ?_
  refine apart_ite hnull (apart_ite htrue (apart_ite hfalse ?_))
  -- a sign, a zero and any other digit
  iterate 3 refine apart_ite trivial ?_
  trivial

theorem Mode.Apart.step {mode : Mode} (h : mode.Apart) (c : Char) : (mode.step c).2.Apart := by
  cases mode with
  | between => exact apart_start c
  | word left token =>
    match left with
    | [] => trivial
    | [d] => exact apart_ite trivial trivial
    | d :: e :: rest => exact apart_ite (fun f hf => h f (List.mem_cons_of_mem d hf)) trivial
  | number stage n =>
    simp only [Mode.step]
    split
    · trivial
    · trivial
    · exact apart_start c
  | text s => exact apart_ite trivial (apart_ite trivial (apart_ite trivial trivial))
  | escape s =>
    refine apart_ite trivial ?_
    split <;> trivial
  | unit s left value =>
    simp only [Mode.step]
    split
    · trivial
    · exact apart_ite trivial trivial
  | dead => trivial

theorem Numeral.advance_of_isSpace (n : Numeral) (stage : Stage) {c : Char}
    (hc : isSpace c = true) :
    n.advance stage c = if stage.complete then .outside else .spoiled := by
  rcases isSpace_iff.1 hc with rfl | rfl | rfl | rfl <;> cases stage <;> rfl

/-- A blank ends what the machine is in the middle of as the end of the text does. -/
theorem Mode.Apart.finish {mode : Mode} (h : mode.Apart) {c : Char} (hc : isSpace c = true) :
    (mode.step c).1 ++ (mode.step c).2.finish = mode.finish := by
  cases mode with
  | between =>
    rw [Mode.step, start_of_isSpace hc]
    rfl
  | word left token =>
    have hne : ∀ d ∈ left, c ≠ d := by
      rintro d hd rfl
      rw [h c hd] at hc
      cases hc
    match left with
    | [] => rfl
    | [d] => simp [Mode.step, hne d List.mem_cons_self, Mode.finish]
    | d :: e :: rest => simp [Mode.step, hne d List.mem_cons_self, Mode.finish]
  | number stage n =>
    simp only [Mode.step, n.advance_of_isSpace stage hc]
    cases hcomplete : stage.complete <;> simp [start_of_isSpace hc, Mode.finish, hcomplete]
  | text s => rcases isSpace_iff.1 hc with rfl | rfl | rfl | rfl <;> rfl
  | escape s => rcases isSpace_iff.1 hc with rfl | rfl | rfl | rfl <;> rfl
  | unit s left value => rcases isSpace_iff.1 hc with rfl | rfl | rfl | rfl <;> rfl
  | dead => rfl

theorem scan_append_space {c : Char} (hc : isSpace c = true) (cs : List Char) {mode : Mode}
    (h : mode.Apart) : scan mode (cs ++ [c]) = scan mode cs := by
  induction cs generalizing mode with
  | nil => exact h.finish hc
  | cons d cs ih =>
    show (mode.step d).1 ++ scan (mode.step d).2 (cs ++ [c]) = _
    rw [ih (h.step d)]
    rfl

/-- A blank behind a text makes no difference to what is read. -/
theorem Codec.parse_push_space {α : Type} (codec : Codec α) {c : Char} (hc : isSpace c = true)
    (text : String) : codec.parse (text.push c) = codec.parse text := by
  have htokens : tokens (text.push c).toList = tokens text.toList := by
    rw [String.toList_push]
    exact scan_append_space hc text.toList trivial
  rw [parse, parse, Document.parse, Document.parse, htokens]

/-! ## Bytes -/

theorem scanSpelled_map_some (mode : Mode) (cs : List Char) :
    scanSpelled mode (cs.map some) = scan mode cs := by
  induction cs generalizing mode with
  | nil => rfl
  | cons c cs ih =>
    show (mode.step c).1 ++ scanSpelled (mode.step c).2 (cs.map some) = _
    rw [ih, scan_cons]

/-- Bytes that spell a text are read as the text. -/
theorem Codec.parseBytes_utf8 {α : Type} (codec : Codec α) (text : String) :
    codec.parseBytes (Text.utf8 text) = codec.parse text := by
  rw [parseBytes, Document.parseBytes, Text.spelled_utf8, scanSpelled_map_some]
  rfl

/-- A byte that belongs to no character does no harm in a field that nobody asks for, and it makes a
value unreadable that is asked for. -/
example :
    let codec : Codec String := .record (.cons (.required "a" .text id) .nil) fun (a, ()) => .ok a
    let body (a b : List UInt8) : List UInt8 :=
      Text.utf8 "\x7b\"a\":\"" ++ a ++ Text.utf8 "\",\"b\":\"" ++ b ++ Text.utf8 "\"\x7d"
    (codec.parseBytes (body [120] [255])).toOption = some "x" ∧
      (codec.parseBytes (body [255] [120])).toOption = none := by
  decide +kernel

end Payments.Json
