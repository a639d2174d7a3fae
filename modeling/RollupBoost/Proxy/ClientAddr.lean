import RollupBoost.Proxy.ParseAddr

/-!
# The address that a client is counted by

Behind a trusted proxy, the address of a client is the last entry of a header. What stands in
front of the last comma may come from the client. `extract_addr`
(`websocket-proxy/src/server.rs`) first turns the whole header into a text, and only then
isolates the last entry.

A text has visible ASCII and tabs only, while a header also admits the bytes from 128 on. With
such a byte in front of the comma there is no text, and the address of the connection is taken
instead of the entry. Everything else that a client can put there is without effect.
-/

namespace RollupBoost

abbrev comma : UInt8 := 44

abbrev space : UInt8 := 32

abbrev tab : UInt8 := 9

/-- The bytes that the value of a header can have. -/
def IsHeaderByte (b : UInt8) : Prop := b = tab ∨ 32 ≤ b ∧ b ≠ 127

instance (b : UInt8) : Decidable (IsHeaderByte b) := inferInstanceAs (Decidable (_ ∨ _))

def IsVisibleAscii (b : UInt8) : Prop := 32 ≤ b ∧ b < 127 ∨ b = tab

instance (b : UInt8) : Decidable (IsVisibleAscii b) := inferInstanceAs (Decidable (_ ∨ _))

structure HeaderValue where
  bytes : Text
  admissible : ∀ b ∈ bytes, IsHeaderByte b

def HeaderValue.toStr (self : HeaderValue) : Option Text :=
  if self.bytes.all (IsVisibleAscii ·) then some self.bytes else none

/-- The white space that a text of ASCII can have. -/
def isAsciiWhitespace (b : UInt8) : Bool := 9 ≤ b ∧ b ≤ 13 ∨ b = space

def trim (text : Text) : Text :=
  ((text.dropWhile isAsciiWhitespace).reverse.dropWhile isAsciiWhitespace).reverse

def extractAddr (header : HeaderValue) (fallback : IpAddr) : IpAddr :=
  if header.bytes.isEmpty then fallback
  else
    match header.toStr with
    | some headerValue =>
        match ((headerValue.splitOn comma).map trim).getLast? with
        | some rawValue => (IpAddr.fromStr rawValue).getD fallback
        | none => fallback
    | none => fallback

/-- The address that the handler of a connection asks the rate limiter for. -/
def clientAddr (header : Option HeaderValue) (connectAddr : IpAddr) : IpAddr :=
  match header with
  | none => connectAddr
  | some value => extractAddr value connectAddr

/-! ## The last entry -/

variable {before text after : Text}

theorem dropWhile_of_spaces {rest : Text} (hbefore : ∀ b ∈ before, b = space)
    (hrest : ∀ b ∈ rest.head?, isAsciiWhitespace b = false) :
    (before ++ rest).dropWhile isAsciiWhitespace = rest := by
  induction before with
  | nil =>
      cases rest with
      | nil => rfl
      | cons b rest => simp [hrest b rfl]
  | cons b before ih =>
      rw [List.forall_mem_cons] at hbefore
      rw [List.cons_append, List.dropWhile_cons_of_pos (by rw [hbefore.1]; decide)]
      exact ih hbefore.2

/-- Trimming takes away the spaces around a text without white space. -/
theorem trim_of_spaces (hbefore : ∀ b ∈ before, b = space) (hafter : ∀ b ∈ after, b = space)
    (htext : ∀ b ∈ text, isAsciiWhitespace b = false) (hne : text ≠ []) :
    trim (before ++ text ++ after) = text := by
  have hstart : (before ++ text ++ after).dropWhile isAsciiWhitespace = text ++ after := by
    rw [List.append_assoc]
    refine dropWhile_of_spaces hbefore ?_
    intro b hb
    rw [List.head?_append_of_ne_nil _ hne] at hb
    exact htext b (List.mem_of_mem_head? hb)
  have hend : (after.reverse ++ text.reverse).dropWhile isAsciiWhitespace = text.reverse := by
    refine dropWhile_of_spaces (fun b hb => hafter b (List.mem_reverse.mp hb)) ?_
    intro b hb
    exact htext b (List.mem_reverse.mp (List.mem_of_mem_head? hb))
  rw [trim, hstart, List.reverse_append, hend, List.reverse_reverse]

/-- The bytes of an address lie in a range without white space and without the comma. -/
theorem range_of_isAddrByte {b : UInt8} (h : AddrParser.IsAddrByte b) :
    46 ≤ b.toNat ∧ b.toNat ≤ 122 := by
  obtain rfl | rfl | hdigit := h
  · decide
  · decide
  · obtain ⟨digit, hdigit⟩ := Option.isSome_iff_exists.mp hdigit
    obtain ⟨hvalue, -⟩ := Option.filter_eq_some_iff.mp hdigit
    simp only [UInt8.le_iff_toNat_le, UInt8.reduceToNat] at hvalue
    split at hvalue
    · omega
    split at hvalue
    · omega
    split at hvalue
    · omega
    · exact absurd hvalue (by simp)

theorem isVisibleAscii_of_range {b : UInt8} (h : 32 ≤ b.toNat ∧ b.toNat ≤ 122) :
    IsVisibleAscii b := by
  refine .inl ⟨UInt8.le_iff_toNat_le.mpr h.1, UInt8.lt_iff_toNat_lt.mpr ?_⟩
  show b.toNat < 127
  omega

theorem ne_of_range {b c : UInt8} (h : 46 ≤ b.toNat) (hc : c.toNat < 46) : b ≠ c := by
  rintro rfl
  omega

theorem isAsciiWhitespace_eq_false {b : UInt8} (h : 46 ≤ b.toNat) :
    isAsciiWhitespace b = false := by
  simp only [isAsciiWhitespace, UInt8.le_iff_toNat_le, decide_eq_false_iff_not, UInt8.reduceToNat]
  rintro (⟨-, hle⟩ | heq)
  · omega
  · exact ne_of_range h (by decide) heq

/-- An admissible byte can be part of a text exactly if it is below 128. -/
theorem isVisibleAscii_iff {b : UInt8} (h : IsHeaderByte b) : IsVisibleAscii b ↔ b < 128 := by
  simp only [IsVisibleAscii, IsHeaderByte, UInt8.le_iff_toNat_le, UInt8.lt_iff_toNat_lt, tab,
    ← UInt8.toNat_inj, ne_eq, UInt8.reduceToNat] at h ⊢
  omega

/-- What is taken out of a header whose last entry is the text of an address. -/
theorem extractAddr_eq (header : HeaderValue) {p : Text}
    (hheader : header.bytes = p ++ comma :: (before ++ text ++ after))
    (hbefore : ∀ b ∈ before, b = space) (hafter : ∀ b ∈ after, b = space) {addr : IpAddr}
    (htext : IpAddr.fromStr text = some addr) (fallback : IpAddr) :
    extractAddr header fallback = if p.all (· < 128) then addr else fallback := by
  have hrange := fun b hb => range_of_isAddrByte (IpAddr.isAddrByte_of_fromStr htext b hb)
  have hne : text ≠ [] := by
    rintro rfl
    have hnone : IpAddr.fromStr [] = none := by decide
    exact absurd (hnone.symm.trans htext) (by simp)
  have hentry : ∀ b ∈ before ++ text ++ after, IsVisibleAscii b ∧ b ≠ comma := by
    simp only [List.forall_mem_append]
    refine ⟨⟨?_, ?_⟩, ?_⟩
    · intro b hb
      rw [hbefore b hb]
      decide
    · intro b hb
      have hb := hrange b hb
      exact ⟨isVisibleAscii_of_range (by omega), ne_of_range hb.1 (by decide)⟩
    · intro b hb
      rw [hafter b hb]
      decide
  -- the header is a text exactly if the part in front of the comma is
  have hvisible : header.bytes.all (IsVisibleAscii ·) = p.all (· < 128) := by
    have hadmissible := header.admissible
    rw [hheader] at hadmissible ⊢
    rw [Bool.eq_iff_iff]
    simp only [List.all_eq_true, decide_eq_true_eq, List.forall_mem_append,
      List.forall_mem_cons] at hadmissible ⊢
    constructor
    · rintro ⟨hp, -⟩ b hb
      exact (isVisibleAscii_iff (hadmissible.1 b hb)).mp (hp b hb)
    · intro hp
      refine ⟨fun b hb => (isVisibleAscii_iff (hadmissible.1 b hb)).mpr (hp b hb), by decide, ?_⟩
      simpa only [List.forall_mem_append] using fun b hb => (hentry b hb).1
  have hsplit : header.bytes.splitOn comma = p.splitOn comma ++ [before ++ text ++ after] := by
    rw [hheader, List.splitOn_append_cons_self,
      List.splitOn_eq_singleton fun hmem => (hentry comma hmem).2 rfl]
  have hnonempty : header.bytes.isEmpty = false := by simp [hheader]
  have hlast : ((header.bytes.splitOn comma).map trim).getLast? = some text := by
    rw [hsplit, List.map_append, List.map_cons, List.map_nil, List.getLast?_concat,
      trim_of_spaces hbefore hafter (fun b hb => isAsciiWhitespace_eq_false (hrange b hb).1) hne]
  simp only [extractAddr, HeaderValue.toStr, hnonempty, hvisible, Bool.false_eq_true, if_false]
  cases p.all (· < 128) with
  | true => simp only [if_true, hlast, htext, Option.getD_some]
  | false => simp only [Bool.false_eq_true, if_false]

/-- What a client puts in front of the last comma has no effect as long as it has no byte from
128 on: the address is the one that the trusted entry gives, for any two requests the same.
With such a byte the entry is not looked at, and the address is that of the connection. -/
theorem extract_addr_of_last_entry {addr : IpAddr}
    (htext : text = addr.toText ∨ IpAddr.fromStr text = some addr)
    (hbefore : ∀ b ∈ before, b = space) (hafter : ∀ b ∈ after, b = space)
    (header : HeaderValue) {p : Text}
    (hheader : header.bytes = p ++ comma :: (before ++ text ++ after)) :
    ((∀ b ∈ p, b < 128) → ∀ fallback, extractAddr header fallback = addr) ∧
    ((∀ b ∈ p, b < 128) → ∀ (header' : HeaderValue) (p' : Text),
      header'.bytes = p' ++ comma :: (before ++ text ++ after) → (∀ b ∈ p', b < 128) →
      ∀ connectAddr connectAddr',
        clientAddr (some header) connectAddr = clientAddr (some header') connectAddr') ∧
    ((∃ b ∈ p, 128 ≤ b) → ∀ fallback, extractAddr header fallback = fallback) := by
  have hparsed : IpAddr.fromStr text = some addr := by
    obtain rfl | hparsed := htext
    · exact addr.fromStr_toText
    · exact hparsed
  have hall : ∀ (header : HeaderValue) (p : Text),
      header.bytes = p ++ comma :: (before ++ text ++ after) → (∀ b ∈ p, b < 128) →
      ∀ fallback, extractAddr header fallback = addr := by
    intro header p hheader hp fallback
    rw [extractAddr_eq header hheader hbefore hafter hparsed, if_pos]
    simpa using hp
  refine ⟨hall header p hheader, ?_, ?_⟩
  · intro hp header' p' hheader' hp' connectAddr connectAddr'
    exact (hall header p hheader hp connectAddr).trans
      (hall header' p' hheader' hp' connectAddr').symm
  · rintro ⟨b, hb, hge⟩ fallback
    rw [extractAddr_eq header hheader hbefore hafter hparsed, if_neg]
    intro hp
    exact absurd (of_decide_eq_true (List.all_eq_true.mp hp b hb)) (UInt8.not_lt.mpr hge)

/-- The header of the tests, with spaces around the last entry. -/
def testHeader (p : Text) (hp : ∀ b ∈ p, IsHeaderByte b) : HeaderValue where
  bytes := p ++ comma :: utf8 "  130.1.1.1   "
  admissible := by
    rw [List.forall_mem_append]
    exact ⟨hp, forall_mem_of_all (by decide)⟩

theorem bytes_testHeader (p : Text) (hp : ∀ b ∈ p, IsHeaderByte b) :
    (testHeader p hp).bytes =
      p ++ comma :: (utf8 "  " ++ (IpAddr.v4 ⟨(130, 1, 1, 1)⟩).toText ++ utf8 "   ") := by
  have hentry : utf8 "  130.1.1.1   " =
      utf8 "  " ++ (IpAddr.v4 ⟨(130, 1, 1, 1)⟩).toText ++ utf8 "   " := by decide
  rw [← hentry]
  rfl

theorem extract_addr_of_test_header :
    extractAddr (testHeader (utf8 "129.1.1.1  ") (forall_mem_of_all (by decide)))
      (.v4 ⟨(127, 0, 0, 1)⟩) = .v4 ⟨(130, 1, 1, 1)⟩ :=
  (extract_addr_of_last_entry (.inl rfl) (forall_mem_of_all (by decide))
    (forall_mem_of_all (by decide)) _ (bytes_testHeader _ _)).1 (forall_mem_of_all (by decide)) _

/-- One byte in front of the comma, and the client is counted by the address of the proxy. -/
theorem client_chooses_fallback :
    let addr : IpAddr := .v4 ⟨(130, 1, 1, 1)⟩
    let fallback : IpAddr := .v4 ⟨(127, 0, 0, 1)⟩
    ∃ header : HeaderValue,
      header.bytes = [0x80] ++ comma :: (utf8 "  " ++ addr.toText ++ utf8 "   ") ∧
        extractAddr header fallback = fallback ∧ fallback ≠ addr :=
  ⟨testHeader [0x80] (forall_mem_of_all (by decide)), bytes_testHeader _ _, by decide, by decide⟩

end RollupBoost
