import Payments.Gateway.Client
import Payments.Proofs.Traffic.Alone
import Payments.Proofs.Url.Below

/-!
# Payments.Proofs.Gateway.Resource -- what a payment's key addresses

The interface of the gateway knows a payment as one segment of a path behind `v1/payments/`, and
its cancellation as the place below. The client puts the key of the payment there as it is, and the
key is read as any part of an address is read. So no more can be said of every key than that the
requests go to the server of the base address.

A key addresses the payment of that key just if it is plain (`Gateway.IsPlain`): nothing in it ends
a segment, is dropped, or is decoded. That a plain key does is seen by following it through the
reader of addresses (`Gateway.IsPlain.isOwn`). That only a plain key does is seen from the other end
(`Gateway.IsOwn.isPlain`): the segment that is decoded as the key is a part of the key, and no part
but the whole is long enough.

Keys come with the commands and may be any text. With other keys, one payment may have the address
of another one, or the address of a cancellation (`Gateway.keys_share_addresses`).
-/

namespace Payments.Gateway

/-! ## The addresses of requests -/

/-- What becomes of a request to an address of the server: it can be sent, if the address is not too
long. -/
def aimed (url : Url) : Except TransportError Url :=
  if url.text.utf8ByteSize ≤ maxAddressBytes then .ok url else .error (.unsuitableAddress url)

/-- The addresses of the two requests about a payment. -/
structure Aims (s : GatewaySettings) (key : String) (lookup cancel : Url) : Prop where
  lookup : (Client.lookupRequest s key).map HttpRequest.url = aimed lookup
  cancel : ∀ idempotencyKey order,
    (Client.cancelRequest s key idempotencyKey order).map HttpRequest.url = aimed cancel

/-- An address at the server of another one. -/
def IsAtServerOf (base url : Url) : Prop :=
  { url with path := base.path, query := base.query, fragment := base.fragment } = base

/-- The address under which the gateway has its payments. -/
def collection (base : Url) : Url :=
  { base with path := base.path ++ "v1/payments/" }

/-- The two addresses are those of the payment with the key: one segment that spells the key, and
the cancellation below it. -/
def IsOwn (base : Url) (key : String) (lookup cancel : Url) : Prop :=
  ∃ segment : List Char, '/' ∉ segment ∧ Text.percentDecode segment = Text.utf8 key ∧
    lookup = { base with path := base.path ++ "v1/payments/" ++ String.ofList segment } ∧
    cancel = { base with path := base.path ++ "v1/payments/" ++ String.ofList segment ++ "/cancel" }

/-- Keys that can stand as a segment as they are. -/
structure IsPlain (key : String) : Prop where
  /-- Nothing ends the segment. -/
  isSegment : ∀ c ∈ key.toList, c ≠ '/' ∧ c ≠ '\\' ∧ c ≠ '?' ∧ c ≠ '#'
  /-- Nothing is dropped. -/
  isKept : ∀ c ∈ key.toList, c ≠ '\t' ∧ c ≠ '\n' ∧ c ≠ '\r'
  /-- A blank or a control at the end would be dropped, too. -/
  endsVisibly : ∀ c ∈ key.toList.getLast?, 0x20 < c.toNat
  /-- Nothing is taken for an escape. -/
  hasNoEscape : Text.percentDecode key.toList = Text.utf8 key
  /-- The segment does not stand for another place. -/
  isNoPlace : key ≠ "." ∧ key ≠ ".."

/-! ## Addresses that can be used -/

theorem withoutUser_at (u : Url) (path : String) (query fragment : Option String) :
    withoutUser { u with path, query, fragment } =
      { withoutUser u with path, query, fragment } := by
  unfold withoutUser
  split <;> rfl

theorem withoutUser_frame (u : Url) :
    (withoutUser u).scheme = u.scheme ∧ (withoutUser u).path = u.path ∧
      (withoutUser u).query = u.query ∧ (withoutUser u).fragment = u.fragment := by
  unfold withoutUser
  split <;> exact ⟨rfl, rfl, rfl, rfl⟩

theorem addressOf_eq_ok {s : String} {base : Url} :
    addressOf s = .ok base ↔
      ∃ u, Url.parse? s = some u ∧ withoutUser u = base ∧ isSuitable base = true := by
  unfold addressOf
  cases Url.parse? s with
  | none => simp
  | some u =>
    simp only [Option.some.injEq, exists_eq_left']
    by_cases hu : isSuitable (withoutUser u) = true
    · rw [if_pos hu, Except.ok.injEq]
      exact ⟨fun h => ⟨h, h ▸ hu⟩, fun h => h.1⟩
    · rw [if_neg hu]
      exact ⟨fun h => (nomatch h), fun ⟨h, hbase⟩ => absurd (h ▸ hbase) hu⟩

/-- Below an address that can be used, only the length of an address decides. -/
theorem addressOf_of_parse? {s : String} {u : Url} {path : String} {query fragment : Option String}
    (hu : isSuitable (withoutUser u) = true)
    (h : Url.parse? s = some { u with path, query, fragment }) :
    addressOf s = aimed { withoutUser u with path, query, fragment } := by
  simp only [isSuitable, Bool.and_eq_true, decide_eq_true_eq] at hu
  simp only [addressOf, h, withoutUser_at, isSuitable, aimed]
  simp only [hu.1, Bool.true_and, decide_eq_true_eq]

/-! ## Below the payments -/

variable {s : GatewaySettings} {base : Url}

theorem namesHost_of_isSuitable (h : isSuitable base = true) :
    Url.namesHost base.scheme = true := by
  simp only [isSuitable, Bool.and_eq_true, Bool.or_eq_true, decide_eq_true_eq] at h
  rcases h.1.1 with hscheme | hscheme <;> rw [hscheme] <;> rfl

/-- The payments of the gateway are found below the base address. -/
theorem parse?_collection {b : String} {u : Url} (h : Url.parse? (b ++ "/") = some u)
    (hscheme : Url.namesHost u.scheme = true) (hquery : u.query = none)
    (hfragment : u.fragment = none) :
    Url.parse? (b ++ "/v1/payments" ++ "/") = some (collection u) := by
  obtain ⟨kept, -, hpath, hbelow⟩ := Url.parse?_below h hscheme hquery hfragment
  have htext : b ++ "/v1/payments" ++ "/" = b ++ "/" ++ "v1/payments/" := by
    simp only [String.append_assoc]
    rfl
  have hparts : Text.parts (Url.isSlash true)
      (Text.percentEncode Url.inPathSet "v1/payments/".toList) =
        ["v1".toList, "payments".toList, []] := by decide
  have htail : ∀ c ∈ "v1/payments/".toList, c ≠ '?' ∧ c ≠ '#' := by simp
  rw [htext, hbelow, show Url.trailing "v1/payments/".toList = "v1/payments/".toList by decide,
    Url.goOn_of_segments hpath hquery hfragment htail hparts (by decide), String.append_assoc]
  rfl

/-- Every key is put behind the address of the payments. -/
theorem exists_aimed (h : addressOf (s.baseUrl ++ "/") = .ok base) (hquery : base.query = none)
    (hfragment : base.fragment = none) :
    ∃ kept, (∀ segment ∈ kept, '/' ∉ segment) ∧
      (collection base).path = Url.Path.text kept.reverse ++ "/" ∧
      ∀ x, addressOf (s.baseUrl ++ "/v1/payments/" ++ x) =
        aimed ((collection base).goOn kept (Url.trailing x.toList)) := by
  obtain ⟨u, hparse, rfl, hsuitable⟩ := addressOf_eq_ok.1 h
  obtain ⟨hscheme, hpath, hq, hf⟩ := withoutUser_frame u
  rw [hq] at hquery
  rw [hf] at hfragment
  have hnames := namesHost_of_isSuitable hsuitable
  rw [hscheme] at hnames
  have hcollection := parse?_collection hparse hnames hquery hfragment
  obtain ⟨kept, hfree, hkept, hbelow⟩ :=
    Url.parse?_below hcollection hnames hquery hfragment
  refine ⟨kept, hfree, ?_, fun x => ?_⟩
  · rw [← hkept, collection, collection, hpath]
  · have htext : s.baseUrl ++ "/v1/payments/" ++ x = s.baseUrl ++ "/v1/payments" ++ "/" ++ x := by
      simp only [String.append_assoc]
      rfl
    rw [htext]
    exact addressOf_of_parse? hsuitable (hbelow x)

theorem map_url_map_ok (url : Except TransportError Url) {f : Url → HttpRequest}
    (hf : ∀ u, (f u).url = u) : (url.map f).map HttpRequest.url = url := by
  cases url with
  | error e => rfl
  | ok u => exact congrArg Except.ok (hf u)

theorem aims_of_addressOf {key : String} {lookup cancel : Url}
    (hlookup : addressOf (Client.lookupAddress s key) = aimed lookup)
    (hcancel : addressOf (Client.cancelAddress s key) = aimed cancel) :
    Aims s key lookup cancel where
  lookup := (map_url_map_ok _ fun _ => rfl).trans hlookup
  cancel := fun _ _ => (map_url_map_ok _ fun _ => rfl).trans hcancel

theorem isAtServerOf_goOn (base : Url) (kept : List (List Char)) (cs : List Char) :
    IsAtServerOf base ((collection base).goOn kept cs) :=
  rfl

/-! ## Plain keys -/

namespace IsPlain

variable {key : String}

theorem empty : IsPlain "" where
  isSegment := by simp
  isKept := by simp
  endsVisibly := by simp
  hasNoEscape := rfl
  isNoPlace := by decide

theorem noTail (h : IsPlain key) : ∀ c ∈ key.toList, c ≠ '?' ∧ c ≠ '#' :=
  fun c hc => (h.isSegment c hc).2.2

theorem noSlash (h : IsPlain key) : ∀ c ∈ key.toList, Url.isSlash true c = false := by
  intro c hc
  obtain ⟨hslash, hbackslash, -⟩ := h.isSegment c hc
  rw [Bool.eq_false_iff, ne_eq, Url.isSlash_iff]
  exact not_or.2 ⟨hslash, hbackslash⟩

theorem counts (h : IsPlain key) : ∀ c ∈ key.toList, Url.counts c = true := by
  intro c hc
  simpa [Url.counts, and_assoc] using h.isKept c hc

theorem parts_encoded (h : IsPlain key) :
    Text.parts (Url.isSlash true) (Text.percentEncode Url.inPathSet key.toList) =
      [Text.percentEncode Url.inPathSet key.toList] := by
  rw [Text.parts_percentEncode Url.sparedBy_isSlash, Text.parts_of_no_separator h.noSlash]
  rfl

/-- What the encoded key is decoded as. -/
theorem percentDecode_encoded (h : IsPlain key) :
    Text.percentDecode (Text.percentEncode Url.inPathSet key.toList) = Text.utf8 key := by
  rw [Text.percentDecode_percentEncode Url.sparesEscapes_inPathSet, h.hasNoEscape]

theorem noDots (h : IsPlain key) :
    Url.Path.isDoubleDot (Text.percentEncode Url.inPathSet key.toList) = false ∧
      Url.Path.isSingleDot (Text.percentEncode Url.inPathSet key.toList) = false := by
  obtain ⟨hsingle, hdouble⟩ := h.isNoPlace
  constructor
  · rw [Bool.eq_false_iff]
    intro hdots
    have hdecoded := Url.Path.percentDecode_of_isDoubleDot hdots
    rw [h.percentDecode_encoded] at hdecoded
    exact hdouble (Text.utf8_injective hdecoded)
  · rw [Bool.eq_false_iff]
    intro hdot
    have hdecoded := Url.Path.percentDecode_of_isSingleDot hdot
    rw [h.percentDecode_encoded] at hdecoded
    exact hsingle (Text.utf8_injective hdecoded)

/-- The addresses of a plain key are those of the payment with the key. -/
theorem isOwn (h : IsPlain key) {kept : List (List Char)}
    (hpath : (collection base).path = Url.Path.text kept.reverse ++ "/")
    (hquery : base.query = none) (hfragment : base.fragment = none) :
    IsOwn base key ((collection base).goOn kept (Url.trailing key.toList))
      ((collection base).goOn kept (Url.trailing (key ++ "/cancel").toList)) := by
  have hends : ∀ c ∈ key.toList.getLast?, Url.isEdge c = false := by
    intro c hc
    exact decide_eq_false (Nat.not_le.2 (h.endsVisibly c hc))
  have hlookup : Url.trailing key.toList = key.toList :=
    Url.trailing_eq_self_iff.2 ⟨h.counts, hends⟩
  have hcancel : Url.trailing (key ++ "/cancel").toList = key.toList ++ "/cancel".toList := by
    rw [String.toList_append]
    show Url.trailing (key.toList ++ '/' :: "cancel".toList) = _
    rw [Url.trailing_append_slash, List.filter_eq_self.2 h.counts]
    rfl
  have htail : ∀ c ∈ key.toList ++ "/cancel".toList, c ≠ '?' ∧ c ≠ '#' := by
    rw [List.forall_mem_append]
    exact ⟨h.noTail, by simp⟩
  have hparts : Text.parts (Url.isSlash true)
      (Text.percentEncode Url.inPathSet (key.toList ++ "/cancel".toList)) =
        [Text.percentEncode Url.inPathSet key.toList, "cancel".toList] := by
    rw [Text.percentEncode_append,
      show Text.percentEncode Url.inPathSet "/cancel".toList = '/' :: "cancel".toList by decide,
      Text.parts_append_separator (by decide), h.parts_encoded]
    rfl
  refine ⟨Text.percentEncode Url.inPathSet key.toList, ?_, h.percentDecode_encoded, ?_, ?_⟩
  · intro hslash
    have hsegment := h.parts_encoded ▸ List.mem_singleton_self
      (Text.percentEncode Url.inPathSet key.toList)
    exact absurd (Text.not_isSeparator_of_mem_parts hsegment hslash) (by decide)
  · rw [hlookup, Url.goOn_of_segments hpath hquery hfragment h.noTail h.parts_encoded
      (by simpa using h.noDots), Url.Path.text_nil, String.append_empty]
    rfl
  · rw [hcancel, Url.goOn_of_segments hpath hquery hfragment htail hparts
      (by simpa using ⟨h.noDots, by decide⟩)]
    rfl

end IsPlain

/-- Only a plain key has the address of the payment with the key. -/
theorem IsOwn.isPlain {key : String} {kept : List (List Char)} {cancel : Url}
    (hkept : ∀ segment ∈ kept, '/' ∉ segment)
    (hpath : (collection base).path = Url.Path.text kept.reverse ++ "/")
    (hquery : base.query = none) (hfragment : base.fragment = none)
    (h : IsOwn base key ((collection base).goOn kept (Url.trailing key.toList)) cancel) :
    IsPlain key := by
  obtain ⟨segment, hsegment, hdecode, hlookup, -⟩ := h
  obtain ⟨htail, hnothing | ⟨part, hpart, rfl, hdots⟩⟩ :=
    Url.segment_of_goOn hkept hpath hquery hfragment hsegment hlookup
  · subst hnothing
    have hempty : key = "" := Text.utf8_injective (hdecode.symm.trans rfl)
    exact hempty ▸ .empty
  · -- the part is as long as the key when decoded, so it is the key
    rw [Text.percentDecode_percentEncode Url.sparesEscapes_inPathSet] at hdecode
    have hsub := Text.sublist_of_mem_parts hpart
    have hkey := Text.eq_of_percentDecode (hsub.trans (Url.trailing_sublist _)) hdecode
    subst hkey
    have htrailing : Url.trailing key.toList = key.toList :=
      (Url.trailing_sublist _).eq_of_length_le hsub.length_le
    rw [htrailing] at htail hpart
    obtain ⟨hcounts, hends⟩ := Url.trailing_eq_self_iff.1 htrailing
    refine ⟨fun c hc => ?_, fun c hc => ?_, fun c hc => ?_, hdecode, ?_, ?_⟩
    · have hslash := Text.not_isSeparator_of_mem_parts hpart hc
      rw [Bool.eq_false_iff, ne_eq, Url.isSlash_iff, not_or] at hslash
      exact ⟨hslash.1, hslash.2, htail c hc⟩
    · simpa [Url.counts, and_assoc] using hcounts c hc
    · exact Nat.not_le.1 (of_decide_eq_false (hends c hc))
    · rintro rfl
      exact absurd hdots.2 (by decide)
    · rintro rfl
      exact absurd hdots.1 (by decide)

/-! ## Addresses that belong to keys -/

section

variable {key key' : String} {lookup lookup' cancel cancel' : Url}

/-- An address is that of one payment only. -/
theorem IsOwn.key_unique (h : IsOwn base key lookup cancel) (h' : IsOwn base key' lookup' cancel') :
    (lookup = lookup' → key = key') ∧ (cancel = cancel' → key = key') ∧ lookup ≠ cancel' := by
  obtain ⟨segment, hslash, hdecode, rfl, rfl⟩ := h
  obtain ⟨segment', hslash', hdecode', rfl, rfl⟩ := h'
  have hkeys (hsegments : String.ofList segment = String.ofList segment') : key = key' := by
    rw [String.ofList_injective hsegments, hdecode'] at hdecode
    exact Text.utf8_injective hdecode.symm
  refine ⟨fun h => hkeys ?_, fun h => hkeys ?_, fun h => ?_⟩
  · simpa using congrArg Url.path h
  · simpa using congrArg Url.path h
  · have hpaths : String.ofList segment = String.ofList segment' ++ "/cancel" := by
      simpa [String.append_assoc] using congrArg Url.path h
    have hsegments := congrArg String.toList hpaths
    rw [String.toList_append, String.toList_ofList, String.toList_ofList] at hsegments
    apply hslash
    rw [hsegments]
    exact List.mem_append_right _ (by decide)

end

/-- For every base address without query and fragment (with a slash at its end, behind which every
path stands) and every key, the requests about a payment go to the server of the base address. They
have the addresses of the payment with that key just if the key is plain. So the addresses of plain
keys tell the keys and the requests apart: no two keys share an address, and the address of a
payment is never that of a cancellation. -/
theorem key_addresses_own_payment (h : addressOf (s.baseUrl ++ "/") = .ok base)
    (hquery : base.query = none) (hfragment : base.fragment = none) :
    ∃ lookup cancel : String → Url,
      (∀ key, Aims s key (lookup key) (cancel key)) ∧
        (∀ key, IsAtServerOf base (lookup key) ∧ IsAtServerOf base (cancel key)) ∧
        (∀ key, IsOwn base key (lookup key) (cancel key) ↔ IsPlain key) ∧
        ∀ key key', IsPlain key → IsPlain key' →
          (lookup key = lookup key' → key = key') ∧ (cancel key = cancel key' → key = key') ∧
            lookup key ≠ cancel key' := by
  obtain ⟨kept, hkept, hpath, haimed⟩ := exists_aimed h hquery hfragment
  have hown (key : String) (hkey : IsPlain key) := hkey.isOwn hpath hquery hfragment
  refine ⟨fun key => (collection base).goOn kept (Url.trailing key.toList),
    fun key => (collection base).goOn kept (Url.trailing (key ++ "/cancel").toList),
    fun key => aims_of_addressOf (haimed key) ?_,
    fun key => ⟨isAtServerOf_goOn base kept _, isAtServerOf_goOn base kept _⟩,
    fun key => ⟨fun h => h.isPlain hkept hpath hquery hfragment, hown key⟩,
    fun key key' hkey hkey' => (hown key hkey).key_unique (hown key' hkey')⟩
  rw [Client.cancelAddress, String.append_assoc]
  exact haimed _

/-- Under the address that is set by default, a key of letters, digits and hyphens is plain. -/
theorem key_addresses_own_payment_of_default :
    let base : Url := { Url.ofHost "https" (some "api.tosspayments.com") with path := "/" }
    addressOf (GatewaySettings.default.baseUrl ++ "/") = .ok base ∧ IsPlain "key-1" ∧
      ∃ lookup cancel, Aims .default "key-1" lookup cancel ∧ IsOwn base "key-1" lookup cancel := by
  intro base
  have hbase : addressOf (GatewaySettings.default.baseUrl ++ "/") = .ok base := by decide +kernel
  have hplain : IsPlain "key-1" := ⟨by simp, by simp, by simp, by decide +kernel, by decide⟩
  obtain ⟨lookup, cancel, haims, -, hown, -⟩ := key_addresses_own_payment hbase rfl rfl
  exact ⟨hbase, hplain, lookup "key-1", cancel "key-1", haims "key-1", (hown "key-1").2 hplain⟩

/-- Keys that are not plain. A payment is registered whose key goes up to the payments and down to
another one: it is looked up and cancelled under the address of the other one. The key of a payment
may be that of another one with its cancellation behind it, which is then the address of the lookup.
And a key may lead away from the payments. -/
theorem keys_share_addresses :
    let place (path : String) : Url :=
      { Url.ofHost "https" (some "api.tosspayments.com") with path }
    ((Service.register { Sample.registration with paymentKey := "a/../b" }).run.alone
        (fun _ => Sample.cue) ∅).result.isOk = true ∧
      Aims .default "b" (place "/v1/payments/b") (place "/v1/payments/b/cancel") ∧
      Aims .default "a/../b" (place "/v1/payments/b") (place "/v1/payments/b/cancel") ∧
      Aims .default "b/cancel" (place "/v1/payments/b/cancel")
        (place "/v1/payments/b/cancel/cancel") ∧
      Aims .default ".." (place "/v1/") (place "/v1/cancel") := by
  intro place
  exact ⟨by decide +kernel, aims_of_addressOf (by decide +kernel) (by decide +kernel),
    aims_of_addressOf (by decide +kernel) (by decide +kernel),
    aims_of_addressOf (by decide +kernel) (by decide +kernel),
    aims_of_addressOf (by decide +kernel) (by decide +kernel)⟩

end Payments.Gateway
