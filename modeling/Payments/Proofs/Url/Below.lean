import Mathlib.Data.List.TakeWhile
import Payments.Proofs.Url.Path

/-!
# Payments.Proofs.Url.Below -- what is read of a text behind an address

Any text may follow an address that ends with a slash and has no query and no fragment. The server
has been read by then, and so has the path up to the slash. What follows is read as the rest of the
path, the query and the fragment, from the place where the path has led (`Url.parse?_below`).

`Url.goOn` says what is read. Blanks and controls at the end of the text do not count, nor do tabs
and line ends anywhere in it (`Url.trailing`). The query and the fragment begin where `cutTail`
finds them. Every slash and every backslash ends a segment of the path, and dots are carried out. So
the text is one segment of the path as it stands, encoded (`Url.goOn_of_segments`), or less than all
of it is (`Url.segment_of_goOn`).
-/

namespace Payments.Url

variable {cs xs ys : List Char} {scheme : String}

/-! ## Up to a character -/

section

variable {p : Char → Bool} {c : Char}

theorem dropWhile_append_stop (hc : p c = false) (xs ys : List Char) :
    (xs ++ c :: ys).dropWhile p = xs.dropWhile p ++ c :: ys := by
  rw [List.dropWhile_append, List.dropWhile_cons_of_neg (by simp [hc])]
  split
  · next h => rw [List.isEmpty_iff.1 h, List.nil_append]
  · rfl

theorem takeWhile_append_stop (hc : p c = false) (xs ys : List Char) :
    (xs ++ c :: ys).takeWhile p = xs.takeWhile p := by
  rw [List.takeWhile_append, List.takeWhile_cons_of_neg (by simp [hc]), List.append_nil]
  split
  · next h => exact ((List.takeWhile_prefix p).eq_of_length h).symm
  · rfl

end

/-! ## Characters that count -/

/-- Blanks and controls, which do not count at the ends of an address. -/
def isEdge (c : Char) : Bool :=
  decide (c.toNat ≤ 0x20)

/-- Tabs and line ends count nowhere. -/
def counts (c : Char) : Bool :=
  c != '\t' && c != '\n' && c != '\r'

/-- What counts of the beginning of an address. -/
def leading (cs : List Char) : List Char :=
  (cs.dropWhile isEdge).filter counts

/-- What counts of the end of an address. -/
def trailing (cs : List Char) : List Char :=
  (cs.reverse.dropWhile isEdge).reverse.filter counts

theorem trailing_append_slash (xs ys : List Char) :
    trailing (xs ++ '/' :: ys) = xs.filter counts ++ '/' :: trailing ys := by
  rw [trailing, List.reverse_append, List.reverse_cons, List.append_assoc, List.singleton_append,
    dropWhile_append_stop (by decide), List.reverse_append, List.reverse_cons, List.reverse_reverse,
    List.append_assoc, List.singleton_append, List.filter_append,
    List.filter_cons_of_pos (by decide)]
  rfl

theorem trimmed_sublist (cs : List Char) : (cs.reverse.dropWhile isEdge).reverse.Sublist cs := by
  rw [← List.reverse_sublist, List.reverse_reverse]
  exact List.dropWhile_sublist _

theorem trailing_sublist (cs : List Char) : (trailing cs).Sublist cs :=
  List.filter_sublist.trans (trimmed_sublist cs)

/-- All of a text counts, if it has no tabs and line ends and does not end with what does not count
there. -/
theorem trailing_eq_self_iff :
    trailing cs = cs ↔ (∀ c ∈ cs, counts c = true) ∧ ∀ c ∈ cs.getLast?, isEdge c = false := by
  have htrim : (cs.reverse.dropWhile isEdge).reverse = cs ↔
      ∀ c ∈ cs.getLast?, isEdge c = false := by
    rw [List.reverse_eq_iff, ← List.head?_reverse, List.dropWhile_eq_self_iff]
    cases cs.reverse <;> simp
  constructor
  · intro h
    have hall : ∀ c ∈ cs, counts c = true := by
      intro c hc
      rw [← h] at hc
      exact (List.mem_filter.1 hc).2
    have hback : (trailing cs).Sublist (cs.reverse.dropWhile isEdge).reverse :=
      List.filter_sublist
    rw [h] at hback
    exact ⟨hall, htrim.1 ((trimmed_sublist cs).eq_of_length_le hback.length_le)⟩
  · rintro ⟨hall, hlast⟩
    rw [trailing, htrim.2 hlast]
    exact List.filter_eq_self.2 hall

theorem significant_below (b x : String) :
    significant (b ++ "/" ++ x) = leading b.toList ++ '/' :: trailing x.toList := by
  show trailing ((b ++ "/" ++ x).toList.dropWhile isEdge) = _
  rw [String.toList_append, String.toList_append, List.append_assoc,
    show "/".toList ++ x.toList = '/' :: x.toList from rfl, dropWhile_append_stop (by decide),
    trailing_append_slash]
  rfl

/-! ## The scheme -/

theorem scheme?_append_slash (xs ys : List Char) :
    scheme? (xs ++ '/' :: ys) =
      (scheme? xs).map fun (scheme, rest) => (scheme, rest ++ '/' :: ys) := by
  cases xs with
  | nil => rfl
  | cons x xs =>
    simp only [scheme?, List.cons_append]
    rw [← List.cons_append, dropWhile_append_stop (by decide), takeWhile_append_stop (by decide)]
    split
    · rfl
    · generalize (x :: xs).dropWhile _ = rest
      cases rest with
      | nil => rfl
      | cons d rest =>
        by_cases hd : d = ':'
        · subst hd
          rfl
        · rw [List.cons_append]
          split
          · next h => exact absurd (List.cons.inj h).1 hd
          · split
            · next h => exact absurd (List.cons.inj h).1 hd
            · rfl

/-! ## The query and the fragment -/

/-- Where neither a query nor a fragment begins, everything belongs to the path. -/
theorem cutTail_append (hxs : ∀ c ∈ xs, c ≠ '?' ∧ c ≠ '#') (ys : List Char) :
    cutTail (xs ++ ys) = (xs ++ (cutTail ys).1, (cutTail ys).2) := by
  have hquery : ∀ c ∈ xs, decide (c ≠ '?') = true := fun c hc => decide_eq_true (hxs c hc).1
  have hfragment : ∀ c ∈ xs, decide (c ≠ '#') = true := fun c hc => decide_eq_true (hxs c hc).2
  simp only [cutTail, List.takeWhile_append_of_pos hfragment,
    List.dropWhile_append_of_pos hfragment, List.takeWhile_append_of_pos hquery,
    List.dropWhile_append_of_pos hquery]

theorem cutTail_of_path (hcs : ∀ c ∈ cs, c ≠ '?' ∧ c ≠ '#') : cutTail cs = (cs, none, none) := by
  have h := cutTail_append hcs []
  rwa [List.append_nil, show cutTail [] = ([], none, none) from rfl, List.append_nil] at h

theorem forall_of_cutTail (h : (cutTail cs).2 = (none, none)) : ∀ c ∈ cs, c ≠ '?' ∧ c ≠ '#' := by
  simp only [cutTail, Prod.mk.injEq] at h
  obtain ⟨hquery, hfragment⟩ := h
  have hnoFragment : cs.dropWhile (· ≠ '#') = [] := by
    split at hfragment
    · cases hfragment
    · assumption
  rw [List.takeWhile_eq_self_iff.2 (List.dropWhile_eq_nil_iff.1 hnoFragment)] at hquery
  have hnoQuery : cs.dropWhile (· ≠ '?') = [] := by
    split at hquery
    · cases hquery
    · assumption
  rw [List.dropWhile_eq_nil_iff] at hnoFragment hnoQuery
  exact fun c hc => ⟨of_decide_eq_true (hnoQuery c hc), of_decide_eq_true (hnoFragment c hc)⟩

/-! ## The path -/

/-- The path of what follows the server. -/
def pathOf : List Char → String
  | [] => "/"
  | c :: cs => Path.text (Path.segments (isSlash true) (if isSlash true c then cs else c :: cs))

/-- The address with what follows the server. -/
def withPath (u : Url) (cs : List Char) : Url :=
  u.withTail true (pathOf (cutTail cs).1) (cutTail cs).2.1 (cutTail cs).2.2

/-- The address that goes on, from the place where its path has led, with the rest of a path, a
query and a fragment. -/
def goOn (u : Url) (kept : List (List Char)) (cs : List Char) : Url :=
  u.withTail true
    (Path.text (Path.walk List.cons kept
      (Text.parts (isSlash true) (Text.percentEncode inPathSet (cutTail cs).1))))
    (cutTail cs).2.1 (cutTail cs).2.2

theorem segments_append_slash (xs ys : List Char) :
    Path.segments (isSlash true) (xs ++ '/' :: ys) =
      Path.walk List.cons
        (Path.descend [] (Text.parts (isSlash true) (Text.percentEncode inPathSet xs)))
        (Text.parts (isSlash true) (Text.percentEncode inPathSet ys)) := by
  rw [Path.segments, Text.percentEncode_append,
    Text.percentEncode_cons_of_not_mem (by decide),
    Text.parts_append_separator (by decide), Path.walk_append _ _ (Text.parts_ne_nil _ _)]

/-- Where a path has led up to a slash. -/
theorem exists_pathOf (xs : List Char) :
    ∃ kept, (∀ s ∈ kept, '/' ∉ s) ∧ ∀ ys, pathOf (xs ++ '/' :: ys) =
      Path.text (Path.walk List.cons kept
        (Text.parts (isSlash true) (Text.percentEncode inPathSet ys))) := by
  -- the first slash or backslash of the path begins it and separates nothing
  have hfree (zs : List Char) :
      ∀ s ∈ Path.descend [] (Text.parts (isSlash true) (Text.percentEncode inPathSet zs)),
        '/' ∉ s := by
    intro s hs hmem
    rcases Path.mem_descend hs with h | h
    · cases h
    · exact absurd (Text.not_isSeparator_of_mem_parts h hmem) (by decide)
  cases xs with
  | nil => exact ⟨[], fun _ h => (nomatch h), fun _ => rfl⟩
  | cons x xs =>
    by_cases hx : isSlash true x = true
    · refine ⟨_, hfree xs, fun ys => ?_⟩
      rw [List.cons_append, pathOf, if_pos hx, segments_append_slash]
    · refine ⟨_, hfree (x :: xs), fun ys => ?_⟩
      rw [List.cons_append, pathOf, if_neg hx, ← List.cons_append, segments_append_slash]

/-- An address without query and fragment, up to a slash, and what is made of it by what follows. -/
theorem exists_withPath {u v : Url} (h : u.withPath (xs ++ ['/']) = v) (hquery : v.query = none)
    (hfragment : v.fragment = none) :
    ∃ kept, (∀ s ∈ kept, '/' ∉ s) ∧ v.path = Path.text kept.reverse ++ "/" ∧
      ∀ ys, u.withPath (xs ++ '/' :: ys) = v.goOn kept ys := by
  subst h
  have htail : (cutTail (xs ++ ['/'])).2 = (none, none) :=
    Prod.ext (Option.map_eq_none_iff.1 hquery) (Option.map_eq_none_iff.1 hfragment)
  have hall := forall_of_cutTail htail
  obtain ⟨kept, hfree, hpath⟩ := exists_pathOf xs
  have hwith (ys : List Char) : u.withPath (xs ++ '/' :: ys) =
      u.withTail true (pathOf (xs ++ '/' :: (cutTail ys).1)) (cutTail ys).2.1 (cutTail ys).2.2 := by
    rw [withPath, List.append_cons, cutTail_append hall, List.append_assoc]
    rfl
  refine ⟨kept, hfree, ?_, fun ys => ?_⟩
  · have hlast : Path.walk List.cons kept [[]] = kept.reverse ++ [[]] := by
      rw [Path.walk, if_neg (by decide), if_neg (by decide), List.reverse_cons]
    show pathOf (cutTail (xs ++ ['/'])).1 = _
    rw [cutTail_of_path hall, hpath]
    show Path.text (Path.walk List.cons kept [[]]) = _
    rw [hlast, Path.text_append]
    rfl
  · rw [hwith, hpath]
    rfl

/-- A place below another one, if the way to it has no dots. -/
theorem goOn_of_segments {u : Url} {kept rest : List (List Char)} {segment : List Char}
    (hpath : u.path = Path.text kept.reverse ++ "/") (hquery : u.query = none)
    (hfragment : u.fragment = none) (hcs : ∀ c ∈ cs, c ≠ '?' ∧ c ≠ '#')
    (hparts : Text.parts (isSlash true) (Text.percentEncode inPathSet cs) = segment :: rest)
    (hdots : ∀ s ∈ segment :: rest, Path.isDoubleDot s = false ∧ Path.isSingleDot s = false) :
    u.goOn kept cs = { u with path := u.path ++ String.ofList segment ++ Path.text rest } := by
  have htext : Path.text (kept.reverse ++ segment :: rest) =
      u.path ++ String.ofList segment ++ Path.text rest := by
    rw [hpath, Path.text_append, Path.text_cons]
    simp only [String.append_assoc]
  rw [goOn, cutTail_of_path hcs, hparts, Path.walk_of_no_dots kept hdots, htext]
  simp [withTail, hquery, hfragment]

/-- Where what goes on is one segment of the path, that is nothing, or a part of it between slashes,
encoded, and no place. -/
theorem segment_of_goOn {u : Url} {kept : List (List Char)} {segment : List Char}
    (hkept : ∀ s ∈ kept, '/' ∉ s) (hpath : u.path = Path.text kept.reverse ++ "/")
    (hquery : u.query = none) (hfragment : u.fragment = none) (hsegment : '/' ∉ segment)
    (h : u.goOn kept cs = { u with path := u.path ++ String.ofList segment }) :
    (∀ c ∈ cs, c ≠ '?' ∧ c ≠ '#') ∧
      (segment = [] ∨
        ∃ part ∈ Text.parts (isSlash true) cs, segment = Text.percentEncode inPathSet part ∧
          Path.isDoubleDot segment = false ∧ Path.isSingleDot segment = false) := by
  have htail : (cutTail cs).2 = (none, none) :=
    Prod.ext (Option.map_eq_none_iff.1 ((congrArg Url.query h).trans hquery))
      (Option.map_eq_none_iff.1 ((congrArg Url.fragment h).trans hfragment))
  have hall := forall_of_cutTail htail
  have hparts : ∀ s ∈ Text.parts (isSlash true) (Text.percentEncode inPathSet cs), '/' ∉ s := by
    intro s hs hmem
    exact absurd (Text.not_isSeparator_of_mem_parts hs hmem) (by decide)
  obtain ⟨init, last, hinit⟩ := (List.eq_nil_or_concat _).resolve_left
    (Text.parts_ne_nil (isSlash true) (Text.percentEncode inPathSet cs))
  rw [List.concat_eq_append] at hinit
  have hlast : last ∈ Text.parts (isSlash true) (Text.percentEncode inPathSet cs) := by
    rw [hinit]
    exact List.mem_concat_self
  obtain ⟨front, final, hfront, hwalk, hfinal⟩ := Path.walk_concat kept init last
  have htext : Path.text (front.reverse ++ [final]) = Path.text (kept.reverse ++ [segment]) := by
    have hgoOn : Path.text _ = u.path ++ String.ofList segment := congrArg Url.path h
    rw [cutTail_of_path hall, hinit, hwalk, hpath] at hgoOn
    rw [hgoOn, Path.text_append, Path.text_cons, Path.text_nil, String.append_empty,
      String.append_assoc]
  have hends : final = segment := by
    have hsame := Path.text_injective ?_ ?_ htext
    · exact List.singleton_inj.1 (List.append_inj' hsame rfl).2
    · rw [List.forall_mem_append, List.forall_mem_singleton]
      refine ⟨fun s hs => ?_, ?_⟩
      · rcases hfront s (List.mem_reverse.1 hs) with hs | hs
        · exact hkept s hs
        · exact hparts s (hinit ▸ List.mem_append_left _ hs)
      · rcases hfinal with rfl | ⟨rfl, -⟩
        · exact List.not_mem_nil
        · exact hparts final hlast
    · rw [List.forall_mem_append, List.forall_mem_singleton]
      exact ⟨fun s hs => hkept s (List.mem_reverse.1 hs), hsegment⟩
  subst hends
  refine ⟨hall, hfinal.imp_right ?_⟩
  rintro ⟨rfl, hdots⟩
  rw [Text.parts_percentEncode sparedBy_isSlash] at hlast
  obtain ⟨part, hpart, rfl⟩ := List.mem_map.1 hlast
  exact ⟨part, hpart, rfl, hdots⟩

/-! ## The server -/

/-- The server that an address of a special scheme names, and what stands behind the digits of its
port. -/
def server? (scheme : String) (authority : List Char) (isAll : Bool) :
    Option (Url × List Char) := do
  let (user, password, hostAndPort) := cutUser authority
  let (hostChars, portChars) := Host.cutPort false hostAndPort
  let host ← Host.special? hostChars
  let (port, behindPort) ← port? scheme portChars
  let isAlone := portChars.isEmpty && user.isEmpty && password.isNone &&
    !(authority = ['@'] && !isAll)
  if host.isEmpty && !isAlone then none
  else some ({ ofHost scheme (some host) with user, password, port }, behindPort)

/-- The server is read from the characters up to the path, and what follows is read as the path. -/
theorem withHost?_eq (scheme : String) (cs : List Char) :
    withHost? scheme true cs =
      (server? scheme (cs.takeWhile (!endsAuthority true ·))
        (cs.dropWhile (!endsAuthority true ·)).isEmpty).map fun (u, behindPort) =>
          u.withPath (behindPort ++ cs.dropWhile (!endsAuthority true ·)) := by
  simp only [withHost?, server?, if_true]
  generalize Host.cutPort false (cutUser (cs.takeWhile (!endsAuthority true ·))).2.2 = hostAndPort
  cases Host.special? hostAndPort.1 with
  | none => rfl
  | some host =>
    simp only [Option.bind_eq_bind, Option.bind_some]
    cases port? scheme hostAndPort.2 with
    | none => rfl
    | some p =>
      simp only [Option.bind_some]
      split
      · rfl
      · rw [Option.map_some]
        simp only [withPath]
        cases (cutTail (p.2 ++ cs.dropWhile (!endsAuthority true ·))).1 with
        | nil => rfl
        | cons c front => rfl

theorem scheme_of_withHost? {isSpecial : Bool} {u : Url}
    (h : withHost? scheme isSpecial cs = some u) : u.scheme = scheme := by
  cases isSpecial <;>
  · simp only [withHost?, Bool.false_eq_true, if_true, if_false, Option.bind_eq_bind,
      Option.bind_eq_some_iff] at h
    obtain ⟨host, -, ⟨port, behindPort⟩, -, h⟩ := h
    split at h
    · cases h
    · cases h
      rfl

theorem scheme_of_file? {u : Url} (h : file? cs = some u) : u.scheme = fileScheme := by
  simp only [file?, Option.bind_eq_bind] at h
  split at h <;>
  · obtain ⟨⟨host, rest⟩, -, h⟩ := Option.bind_eq_some_iff.1 h
    cases h
    rfl

/-- An address of a scheme that always names a host is read as a server and what follows it. -/
theorem parse?_of_namesHost {s : String} {rest : List Char}
    (hsplit : scheme? (significant s) = some (scheme, rest)) (hscheme : namesHost scheme = true) :
    parse? s = withHost? scheme true (rest.dropWhile (isSlash true)) := by
  have hfile : scheme ≠ fileScheme := by
    rintro rfl
    exact absurd hscheme (by decide)
  simp only [parse?, hsplit, Option.bind_eq_bind, Option.bind_some, if_neg hfile, if_pos hscheme]

theorem parse?_eq_some {s : String} {u : Url} (h : parse? s = some u)
    (hscheme : namesHost u.scheme = true) :
    ∃ rest, scheme? (significant s) = some (u.scheme, rest) ∧
      withHost? u.scheme true (rest.dropWhile (isSlash true)) = some u := by
  simp only [parse?, Option.bind_eq_bind, Option.bind_eq_some_iff] at h
  obtain ⟨⟨scheme, rest⟩, hsplit, h⟩ := h
  split at h
  · rw [scheme_of_file? h] at hscheme
    exact absurd hscheme (by decide)
  · split at h
    · obtain rfl := scheme_of_withHost? h
      exact ⟨rest, hsplit, h⟩
    · next hnames =>
      split at h
      · rw [scheme_of_withHost? h] at hscheme
        exact absurd hscheme hnames
      · cases h
        exact absurd hscheme hnames

/-- The server of an address is not empty. -/
theorem withHost?_nil (scheme : String) : withHost? scheme true [] = none := by
  have hempty : Host.special? (Host.cutPort false (cutUser []).2.2).1 = none := by decide +kernel
  simp only [withHost?, List.takeWhile_nil, if_true, hempty]
  rfl

/-- The server is read from what stands in front of a slash, if it is not empty. -/
theorem withHost?_append_slash (scheme : String) (xs ys : List Char) :
    withHost? scheme true (xs ++ '/' :: ys) =
      (server? scheme (xs.takeWhile (!endsAuthority true ·)) false).map fun (u, behindPort) =>
        u.withPath (behindPort ++ xs.dropWhile (!endsAuthority true ·) ++ '/' :: ys) := by
  have hmore (zs : List Char) : (zs ++ '/' :: ys).isEmpty = false := by simp
  rw [withHost?_eq, takeWhile_append_stop (by decide), dropWhile_append_stop (by decide), hmore]
  simp only [List.append_assoc]

/-- What follows the slash at the end of an address without query and fragment is read from the
place where the path of the address has led. -/
theorem parse?_below {b : String} {u : Url} (h : parse? (b ++ "/") = some u)
    (hscheme : namesHost u.scheme = true) (hquery : u.query = none)
    (hfragment : u.fragment = none) :
    ∃ kept, (∀ s ∈ kept, '/' ∉ s) ∧ u.path = Path.text kept.reverse ++ "/" ∧
      ∀ x, parse? (b ++ "/" ++ x) = some (u.goOn kept (trailing x.toList)) := by
  obtain ⟨rest, hsplit, hhost⟩ := parse?_eq_some h hscheme
  have hsignificant : significant (b ++ "/") = leading b.toList ++ ['/'] := by
    rw [← String.append_empty (s := b ++ "/"), significant_below]
    rfl
  rw [hsignificant, scheme?_append_slash, Option.map_eq_some_iff] at hsplit
  obtain ⟨⟨scheme, behind⟩, hleading, heq⟩ := hsplit
  obtain ⟨rfl, rfl⟩ := Prod.mk.inj heq
  -- slashes in front of the server do not count, and the server is not empty
  have hnonempty : behind.dropWhile (isSlash true) ≠ [] := by
    intro hempty
    rw [List.dropWhile_append, hempty, List.isEmpty_nil, if_pos rfl] at hhost
    cases (withHost?_nil _).symm.trans hhost
  have hbehind (ys : List Char) : (behind ++ '/' :: ys).dropWhile (isSlash true) =
      behind.dropWhile (isSlash true) ++ '/' :: ys := by
    rw [List.dropWhile_append, if_neg (by rwa [List.isEmpty_iff])]
  rw [hbehind, withHost?_append_slash, Option.map_eq_some_iff] at hhost
  obtain ⟨⟨front, behindPort⟩, hserver, hfront⟩ := hhost
  obtain ⟨kept, hfree, hpath, hgoOn⟩ := exists_withPath hfront hquery hfragment
  refine ⟨kept, hfree, hpath, fun x => ?_⟩
  have hsplit : scheme? (significant (b ++ "/" ++ x)) =
      some (u.scheme, behind ++ '/' :: trailing x.toList) := by
    rw [significant_below, scheme?_append_slash, hleading]
    rfl
  rw [parse?_of_namesHost hsplit hscheme, hbehind, withHost?_append_slash, hserver, ← hgoOn]
  rfl

end Payments.Url
