import Payments.Proofs.Json.Spelling

/-!
# Payments.Proofs.Json.Rendering -- the text of a value is read as that value

A value is written as text, and a text is read in two steps: the machine of `Json.Token` cuts it
into tokens, and `Json.Document` builds a tree of these. Here both steps are followed on the text of
a value. `Value.tokens` and `Value.document` are the tokens and the tree to be met, and they are met
(`scan_chars`, `readDocument_tokens`), so that the text of a value is read as its tree and nothing
is left over (`Document.parse_render`). This is said of values whose numbers are exact.
-/

namespace Payments.Json

/-! ## What is met when a value is read -/

mutual

/-- All numbers of the value are whole numbers of 64 bits. -/
def Value.IsExact : Value → Prop
  | .number n => n.IsExact
  | .list items => itemsAreExact items
  | .object entries => entriesAreExact entries
  | _ => True

/-- The items are exact. -/
def itemsAreExact : List Value → Prop
  | [] => True
  | v :: rest => v.IsExact ∧ itemsAreExact rest

/-- The values of the entries are exact. -/
def entriesAreExact : List (String × Value) → Prop
  | [] => True
  | (_, v) :: rest => v.IsExact ∧ entriesAreExact rest

end

mutual

/-- The tokens of the value's text. -/
def Value.tokens : Value → List Token
  | .null => [.null]
  | .bool b => [.bool b]
  | .number n => [.number n.numeral]
  | .text s => [.text s]
  | .list items => .openBracket :: itemTokens items ++ [.closeBracket]
  | .object entries => .openBrace :: entryTokens entries ++ [.closeBrace]

/-- The tokens of items with commas between them. -/
def itemTokens : List Value → List Token
  | [] => []
  | [v] => v.tokens
  | v :: rest => v.tokens ++ .comma :: itemTokens rest

/-- The tokens of entries with commas between them. -/
def entryTokens : List (String × Value) → List Token
  | [] => []
  | [(k, v)] => .text k :: .colon :: v.tokens
  | (k, v) :: rest => .text k :: .colon :: v.tokens ++ .comma :: entryTokens rest

end

mutual

/-- The tree of the value's text. -/
def Value.document : Value → Document
  | .null => .null
  | .bool b => .bool b
  | .number n => .number n.numeral
  | .text s => .text s
  | .list items => .list (itemDocuments items) true
  | .object entries => .object (entryDocuments entries) true

/-- The trees of items. -/
def itemDocuments : List Value → List Document
  | [] => []
  | v :: rest => v.document :: itemDocuments rest

/-- The trees of entries. -/
def entryDocuments : List (String × Value) → List (Document × Document)
  | [] => []
  | (k, v) :: rest => (.text k, v.document) :: entryDocuments rest

end

theorem itemsAreExact_iff {items : List Value} :
    itemsAreExact items ↔ ∀ v ∈ items, v.IsExact := by
  induction items with
  | nil => simp [itemsAreExact]
  | cons v rest ih => simp [itemsAreExact, ih]

theorem entriesAreExact_iff {entries : List (String × Value)} :
    entriesAreExact entries ↔ ∀ e ∈ entries, e.2.IsExact := by
  induction entries with
  | nil => simp [entriesAreExact]
  | cons e rest ih => simp [entriesAreExact, ih]

theorem itemDocuments_eq_map (items : List Value) :
    itemDocuments items = items.map Value.document := by
  induction items with
  | nil => rfl
  | cons v rest ih => simp [itemDocuments, ih]

theorem entryDocuments_eq_map (entries : List (String × Value)) :
    entryDocuments entries = entries.map fun e => (.text e.1, e.2.document) := by
  induction entries with
  | nil => rfl
  | cons e rest ih => simp [entryDocuments, ih]

theorem Value.document_eq_null {v : Value} : v.document = .null ↔ v = .null := by
  cases v <;> simp [Value.document]

/-! ## Values -/

mutual

/-- The text of a value is cut into its tokens, if it ends where a value may end. -/
theorem scan_chars : ∀ (v : Value), v.IsExact → ∀ (rest : List Char), EndsValue rest →
    scan .between (v.chars ++ rest) = v.tokens ++ scan .between rest
  | .null, _, _, _ => rfl
  | .bool true, _, _, _ => rfl
  | .bool false, _, _, _ => rfl
  | .number (.int i), _, rest, hr => by
    simpa [Value.chars, Number.chars, Value.tokens] using scan_intChars i hr
  | .number (.double _ _), hv, _, _ => hv.elim
  | .text s, _, rest, _ => scan_quoteChars s rest
  | .list items, hv, rest, _ => by
    have hitems := scan_itemChars items hv (']' :: rest) (by simp)
    simp only [Value.chars, Value.tokens, List.cons_append, List.append_assoc, List.nil_append]
    rw [scan_cons]
    show Token.openBracket :: scan .between _ = _
    rw [hitems, scan_cons]
    rfl
  | .object entries, hv, rest, _ => by
    have hentries := scan_entryChars entries hv ('\x7d' :: rest) (by simp)
    simp only [Value.chars, Value.tokens, List.cons_append, List.append_assoc, List.nil_append]
    rw [scan_cons]
    show Token.openBrace :: scan .between _ = _
    rw [hentries, scan_cons]
    rfl

/-- The text of items is cut into their tokens. -/
theorem scan_itemChars : ∀ (items : List Value), itemsAreExact items →
    ∀ (rest : List Char), EndsValue rest →
    scan .between (itemChars items ++ rest) = itemTokens items ++ scan .between rest
  | [], _, _, _ => rfl
  | [v], hv, rest, hr => scan_chars v hv.1 rest hr
  | v :: w :: items, hv, rest, hr => by
    have hfirst := scan_chars v hv.1 (',' :: (itemChars (w :: items) ++ rest)) (by simp)
    have hothers := scan_itemChars (w :: items) hv.2 rest hr
    simp only [itemChars, itemTokens, List.cons_append, List.append_assoc] at hfirst hothers ⊢
    rw [hfirst, scan_cons]
    show v.tokens ++ Token.comma :: scan .between _ = _
    rw [hothers]

/-- The text of entries is cut into their tokens. -/
theorem scan_entryChars : ∀ (entries : List (String × Value)), entriesAreExact entries →
    ∀ (rest : List Char), EndsValue rest →
    scan .between (entryChars entries ++ rest) = entryTokens entries ++ scan .between rest
  | [], _, _, _ => rfl
  | [(k, v)], hv, rest, hr => by
    have hvalue := scan_chars v hv.1 rest hr
    simp only [entryChars, entryTokens, List.cons_append, List.append_assoc]
    rw [scan_quoteChars, scan_cons]
    show Token.text k :: Token.colon :: scan .between _ = _
    rw [hvalue]
  | (k, v) :: e :: entries, hv, rest, hr => by
    have hvalue := scan_chars v hv.1 (',' :: (entryChars (e :: entries) ++ rest)) (by simp)
    have hothers := scan_entryChars (e :: entries) hv.2 rest hr
    simp only [entryChars, entryTokens, List.cons_append, List.append_assoc] at hvalue hothers ⊢
    rw [scan_quoteChars, scan_cons]
    show Token.text k :: Token.colon :: scan .between _ = _
    rw [hvalue, scan_cons]
    show _ :: _ :: (v.tokens ++ Token.comma :: scan .between _) = _
    rw [hothers]

end

mutual

/-- A value is written on one line. -/
theorem newline_not_mem_chars : ∀ (v : Value), v.IsExact → '\n' ∉ v.chars
  | .null, _ => by decide
  | .bool true, _ => by decide
  | .bool false, _ => by decide
  | .number (.int i), _ => newline_not_mem_intChars i
  | .number (.double _ _), hv => hv.elim
  | .text s, _ => newline_not_mem_quoteChars s
  | .list items, hv => by
    simp [Value.chars, newline_not_mem_itemChars items hv]
  | .object entries, hv => by
    simp [Value.chars, newline_not_mem_entryChars entries hv]

/-- Items are written on one line. -/
theorem newline_not_mem_itemChars : ∀ (items : List Value), itemsAreExact items →
    '\n' ∉ itemChars items
  | [], _ => List.not_mem_nil
  | [v], hv => newline_not_mem_chars v hv.1
  | v :: w :: items, hv => by
    simp [itemChars, newline_not_mem_chars v hv.1, newline_not_mem_itemChars (w :: items) hv.2]

/-- Entries are written on one line. -/
theorem newline_not_mem_entryChars : ∀ (entries : List (String × Value)),
    entriesAreExact entries → '\n' ∉ entryChars entries
  | [], _ => List.not_mem_nil
  | [(k, v)], hv => by
    simp [entryChars, newline_not_mem_quoteChars, newline_not_mem_chars v hv.1]
  | (k, v) :: e :: entries, hv => by
    simp [entryChars, newline_not_mem_quoteChars, newline_not_mem_chars v hv.1,
      newline_not_mem_entryChars (e :: entries) hv.2]

end

/-! ## Trees -/

/-- The first token of a value closes nothing. -/
theorem Value.tokens_eq_cons (v : Value) :
    ∃ t ts, v.tokens = t :: ts ∧ t ≠ .closeBracket := by
  cases v <;> simp [Value.tokens]

theorem itemTokens_eq_cons (v : Value) (items : List Value) :
    ∃ t ts, itemTokens (v :: items) = t :: ts ∧ t ≠ .closeBracket := by
  obtain ⟨t, ts, hv, ht⟩ := v.tokens_eq_cons
  cases items with
  | nil => exact ⟨t, ts, hv, ht⟩
  | cons w items => exact ⟨t, ts ++ .comma :: itemTokens (w :: items), by simp [itemTokens, hv], ht⟩

theorem readDocument_openBracket (fuel : Nat) {t : Token} (ht : t ≠ .closeBracket)
    (ts : List Token) :
    readDocument (fuel + 1) (.openBracket :: t :: ts) =
      (.list (readItems fuel (t :: ts)).1 (readItems fuel (t :: ts)).2.1,
        (readItems fuel (t :: ts)).2.2) := by
  rw [readDocument]
  intro rest h
  exact ht (List.cons.inj h).1

mutual

/-- The tokens of a value are read as its tree, if there is fuel for each of them. -/
theorem readDocument_tokens : ∀ (v : Value) (fuel : Nat), v.tokens.length ≤ fuel →
    ∀ rest : List Token, readDocument fuel (v.tokens ++ rest) = (v.document, rest)
  | .null, _ + 1, _, _ => rfl
  | .bool _, _ + 1, _, _ => rfl
  | .number _, _ + 1, _, _ => rfl
  | .text _, _ + 1, _, _ => rfl
  | .list [], _ + 1, _, _ => rfl
  | .object [], _ + 1, _, _ => rfl
  | .list (v :: items), fuel + 1, hf, rest => by
    have hitems := readItems_tokens v items fuel
      (by simp [Value.tokens] at hf; omega) rest
    obtain ⟨t, ts, hcons, ht⟩ := itemTokens_eq_cons v items
    simp only [Value.tokens, List.cons_append, List.append_assoc, List.nil_append]
    rw [hcons, List.cons_append] at hitems ⊢
    rw [readDocument_openBracket fuel ht, hitems]
    rfl
  | .object ((k, v) :: entries), fuel + 1, hf, rest => by
    have hentries := readEntries_tokens k v entries fuel
      (by simp [Value.tokens] at hf; omega) rest
    have hcons : ∃ ts, entryTokens ((k, v) :: entries) = .text k :: ts := by
      cases entries <;> simp [entryTokens]
    obtain ⟨ts, hcons⟩ := hcons
    simp only [Value.tokens, List.cons_append, List.append_assoc, List.nil_append]
    rw [hcons, List.cons_append] at hentries ⊢
    rw [readDocument, hentries]
    · rfl
    · intro rest h
      cases h
  | v, 0, hf, _ => by
    obtain ⟨t, ts, hcons, -⟩ := v.tokens_eq_cons
    simp [hcons] at hf

/-- The tokens of items are read as their trees up to the bracket behind them. -/
theorem readItems_tokens : ∀ (v : Value) (items : List Value) (fuel : Nat),
    (itemTokens (v :: items)).length + 1 ≤ fuel → ∀ rest : List Token,
    readItems fuel (itemTokens (v :: items) ++ .closeBracket :: rest) =
      (itemDocuments (v :: items), true, rest)
  | v, [], fuel + 1, hf, rest => by
    have hv := readDocument_tokens v fuel (by simpa [itemTokens] using hf)
      (.closeBracket :: rest)
    simp [itemTokens, readItems, hv, itemDocuments]
  | v, w :: items, fuel + 1, hf, rest => by
    simp only [itemTokens, List.length_append, List.length_cons] at hf
    have hv := readDocument_tokens v fuel (by omega)
      (.comma :: (itemTokens (w :: items) ++ .closeBracket :: rest))
    have hothers := readItems_tokens w items fuel (by omega) rest
    simp only [itemTokens, List.append_assoc, List.cons_append] at hv hothers ⊢
    simp [readItems, hv, hothers, itemDocuments]

/-- The tokens of entries are read as their trees up to the brace behind them. -/
theorem readEntries_tokens : ∀ (k : String) (v : Value) (entries : List (String × Value))
    (fuel : Nat), (entryTokens ((k, v) :: entries)).length + 1 ≤ fuel → ∀ rest : List Token,
    readEntries fuel (entryTokens ((k, v) :: entries) ++ .closeBrace :: rest) =
      (entryDocuments ((k, v) :: entries), true, rest)
  | k, v, [], fuel + 2, hf, rest => by
    have hv := readDocument_tokens v (fuel + 1)
      (by simp only [entryTokens, List.length_cons] at hf; omega) (.closeBrace :: rest)
    simp [entryTokens, readEntries, readKey, hv, entryDocuments]
  | k, v, (k', v') :: entries, fuel + 2, hf, rest => by
    simp only [entryTokens, List.length_append, List.length_cons] at hf
    have hv := readDocument_tokens v (fuel + 1) (by omega)
      (.comma :: (entryTokens ((k', v') :: entries) ++ .closeBrace :: rest))
    have hothers := readEntries_tokens k' v' entries (fuel + 1) (by omega) rest
    simp only [entryTokens, List.append_assoc, List.cons_append] at hv hothers ⊢
    rw [readEntries]
    simp only [readKey, hv, hothers]
    rfl

end

/-- The text of a value is read as its tree, and nothing is left over. -/
theorem Document.parse_render {v : Value} (h : v.IsExact) :
    Document.parse v.render = (v.document, false) := by
  have htokens : tokens v.chars = v.tokens := by
    have := scan_chars v h [] endsValue_nil
    simpa [tokens, scan, Mode.finish] using this
  have hread := readDocument_tokens v (3 * v.tokens.length + 3) (by omega) []
  rw [List.append_nil] at hread
  simp [Document.parse, Document.ofTokens, Value.render, htokens, hread]

/-- What reads the tree of a value reads its text. -/
theorem Codec.parse_of_read {α : Type} {c : Codec α} {v : Value} (hv : v.IsExact) {a : α}
    (h : c.read v.document = .ok a) : c.parse v.render = .ok a := by
  simp only [Codec.parse, Codec.readWhole, Document.parse_render hv]
  rw [h]
  rfl

end Payments.Json
