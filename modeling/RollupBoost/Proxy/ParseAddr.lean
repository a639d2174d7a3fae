import RollupBoost.RateLimit.Address

/-!
# Reading addresses

The parser behind `IpAddr::from_str`. It tries an IPv4 address first and an IPv6 address after
it, and what it reads must be the whole text. The readers of its parts give back the rest of
the text; a reader that fails leaves the text as it was, so that another one can be tried.

Two things are shown of it. What it accepts consists of hexadecimal digits, dots and colons
only, and the text of every address is read as that address.
-/

namespace RollupBoost

namespace AddrParser

/-- `char::to_digit` -/
def toDigit (radix : Nat) (c : UInt8) : Option Nat :=
  let value :=
    if 48 ≤ c ∧ c ≤ 57 then some (c.toNat - 48)
    else if 97 ≤ c ∧ c ≤ 122 then some (c.toNat - 87)
    else if 65 ≤ c ∧ c ≤ 90 then some (c.toNat - 55)
    else none
  value.filter (· < radix)

/-- The loop over the digits: their value, their number and the rest. -/
def readDigits (radix maxDigits : Nat) : Text → Nat → Nat → Option (Nat × Nat × Text)
  | [], result, digitCount => some (result, digitCount, [])
  | c :: rest, result, digitCount =>
      match toDigit radix c with
      | some digit =>
          if maxDigits < digitCount + 1 then none
          else readDigits radix maxDigits rest (result * radix + digit) (digitCount + 1)
      | none => some (result, digitCount, c :: rest)

/-- A number below the bound that the type of the result sets. -/
def readNumber (radix maxDigits bound : Nat) (allowZeroPrefix : Bool) (text : Text) :
    Option (Nat × Text) := do
  let (result, digitCount, rest) ← readDigits radix maxDigits text 0 0
  if digitCount = 0 then none
  else if !allowZeroPrefix && text.head? = some 48 && 1 < digitCount then none
  else if result < bound then some (result, rest)
  else none

def readGivenChar (target : UInt8) : Text → Option Text
  | [] => none
  | c :: rest => if c = target then some rest else none

/-- All but the first of the parts have a separator in front. -/
def readSeparator {α : Type} (separator : UInt8) (first : Bool)
    (inner : Text → Option (α × Text)) (text : Text) : Option (α × Text) :=
  if first then inner text
  else do
    let rest ← readGivenChar separator text
    inner rest

def readOctet (text : Text) : Option (UInt8 × Text) := do
  let (octet, rest) ← readNumber 10 3 256 false text
  some (UInt8.ofNat octet, rest)

def readGroup (text : Text) : Option (UInt16 × Text) := do
  let (group, rest) ← readNumber 16 4 65536 true text
  some (UInt16.ofNat group, rest)

def readIpv4Addr (text : Text) : Option (Ipv4Addr × Text) := do
  let (a, text) ← readSeparator dot true readOctet text
  let (b, text) ← readSeparator dot false readOctet text
  let (c, text) ← readSeparator dot false readOctet text
  let (d, text) ← readSeparator dot false readOctet text
  some ({ octets := (a, b, c, d) }, text)

/-- `u16::from_be_bytes` -/
def fromBeBytes (high low : UInt8) : UInt16 := UInt16.ofNat (high.toNat * 256 + low.toNat)

/-- Read at most so many groups. An IPv4 address stands for the last two, and it is told
whether there was one. -/
def readGroups (first : Bool) : Nat → Text → List UInt16 × Bool × Text
  | 0, text => ([], false, text)
  | remaining + 1, text =>
      match if 0 < remaining then readSeparator colon first readIpv4Addr text else none with
      | some (addr, rest) =>
          ([fromBeBytes addr.octets.1 addr.octets.2.1,
            fromBeBytes addr.octets.2.2.1 addr.octets.2.2.2], true, rest)
      | none =>
          match readSeparator colon first readGroup text with
          | some (group, rest) =>
              let (groups, ipv4, rest) := readGroups false remaining rest
              (group :: groups, ipv4, rest)
          | none => ([], false, text)

/-- An array of eight segments, from a list of at most eight. -/
def ofSegments (segments : List UInt16) : Ipv6Addr where
  segments := List.ofFn fun i : Fin 8 => segments.getD i 0
  length_segments := List.length_ofFn

def readIpv6Addr (text : Text) : Option (Ipv6Addr × Text) :=
  let (head, headIpv4, text) := readGroups true 8 text
  if head.length = 8 then some (ofSegments head, text)
  -- an IPv4 part is not allowed before `::`
  else if headIpv4 then none
  else do
    let text ← readGivenChar colon text
    let text ← readGivenChar colon text
    -- `::` stands for at least one group
    let (tail, _, text) := readGroups true (8 - (head.length + 1)) text
    some (ofSegments (head ++ List.replicate (8 - head.length - tail.length) 0 ++ tail), text)

def readIpAddr (text : Text) : Option (IpAddr × Text) :=
  match readIpv4Addr text with
  | some (addr, rest) => some (.v4 addr, rest)
  | none =>
      match readIpv6Addr text with
      | some (addr, rest) => some (.v6 addr, rest)
      | none => none

end AddrParser

/-- `IpAddr::from_str` -/
def IpAddr.fromStr (text : Text) : Option IpAddr :=
  match AddrParser.readIpAddr text with
  | some (addr, []) => some addr
  | _ => none

example : IpAddr.fromStr (utf8 "2001:DB8::ff") =
    some (.v6 ⟨[0x2001, 0xdb8, 0, 0, 0, 0, 0, 0xff], rfl⟩) := by decide
example : IpAddr.fromStr (utf8 "::ffff:129.1.1.1") =
    some (.v6 ⟨[0, 0, 0, 0, 0, 0xffff, 0x8101, 0x101], rfl⟩) := by decide
example : IpAddr.fromStr (utf8 "129.01.1.1") = none := by decide
example : IpAddr.fromStr (utf8 "120.0.0.1.0") = none := by decide

/-! ## What is read -/

namespace AddrParser

variable {α : Type} {radix maxDigits bound : Nat} {text rest : Text} {first : Bool}

/-- The bytes that the text of an address can have. -/
def IsAddrByte (b : UInt8) : Prop := b = colon ∨ b = dot ∨ (toDigit 16 b).isSome = true

instance (b : UInt8) : Decidable (IsAddrByte b) := inferInstanceAs (Decidable (_ ∨ _))

/-- Only such bytes are taken off the front of the text. -/
def Takes (text rest : Text) : Prop := ∃ taken, text = taken ++ rest ∧ ∀ b ∈ taken, IsAddrByte b

theorem Takes.refl (text : Text) : Takes text text := ⟨[], rfl, by simp⟩

theorem Takes.trans {middle : Text} (h : Takes text middle) (h' : Takes middle rest) :
    Takes text rest := by
  obtain ⟨taken, rfl, htaken⟩ := h
  obtain ⟨taken', rfl, htaken'⟩ := h'
  refine ⟨taken ++ taken', by rw [List.append_assoc], ?_⟩
  rw [List.forall_mem_append]
  exact ⟨htaken, htaken'⟩

theorem takes_cons {b : UInt8} (h : IsAddrByte b) (rest : Text) : Takes (b :: rest) rest :=
  ⟨[b], rfl, by simpa using h⟩

theorem isAddrByte_of_toDigit {c : UInt8} {digit : Nat} (hradix : radix ≤ 16)
    (h : toDigit radix c = some digit) : IsAddrByte c := by
  refine .inr (.inr ?_)
  simp only [toDigit, Option.filter_eq_some_iff, decide_eq_true_eq] at h
  have hvalue : toDigit 16 c = some digit := by
    simp only [toDigit, Option.filter_eq_some_iff, decide_eq_true_eq]
    exact ⟨h.1, by omega⟩
  rw [hvalue]
  rfl

theorem readDigits_takes (hradix : radix ≤ 16) {start count value digits : Nat}
    (h : readDigits radix maxDigits text start count = some (value, digits, rest)) :
    Takes text rest := by
  induction text generalizing start count with
  | nil =>
      simp only [readDigits, Option.some.injEq, Prod.mk.injEq] at h
      obtain ⟨-, -, rfl⟩ := h
      exact .refl []
  | cons c text ih =>
      simp only [readDigits] at h
      split at h
      · next digit hdigit =>
          split at h
          · exact absurd h (by simp)
          · exact (takes_cons (isAddrByte_of_toDigit hradix hdigit) text).trans (ih h)
      · simp only [Option.some.injEq, Prod.mk.injEq] at h
        obtain ⟨-, -, rfl⟩ := h
        exact .refl _

theorem readNumber_takes (hradix : radix ≤ 16) {zeroes : Bool} {value : Nat}
    (h : readNumber radix maxDigits bound zeroes text = some (value, rest)) : Takes text rest := by
  obtain ⟨⟨result, count, rest'⟩, hdigits, h⟩ := Option.bind_eq_some_iff.mp h
  have htakes := readDigits_takes hradix hdigits
  simp only at h
  split at h
  · exact absurd h (by simp)
  split at h
  · exact absurd h (by simp)
  split at h
  · obtain ⟨-, rfl⟩ := Prod.mk.inj (Option.some.inj h)
    exact htakes
  · exact absurd h (by simp)

theorem takes_of_readNumber (hradix : radix ≤ 16) {zeroes : Bool} {f : Nat → α} {value : α}
    (h : (readNumber radix maxDigits bound zeroes text >>= fun (n, rest) => some (f n, rest)) =
      some (value, rest)) : Takes text rest := by
  obtain ⟨⟨n, rest'⟩, hnumber, h⟩ := Option.bind_eq_some_iff.mp h
  obtain ⟨-, rfl⟩ := Prod.mk.inj (Option.some.inj h)
  exact readNumber_takes hradix hnumber

@[simp] theorem readGivenChar_cons (target : UInt8) (rest : Text) :
    readGivenChar target (target :: rest) = some rest :=
  if_pos rfl

theorem readGivenChar_eq_some {target : UInt8} (h : readGivenChar target text = some rest) :
    text = target :: rest := by
  cases text with
  | nil => exact absurd h (by simp [readGivenChar])
  | cons c text =>
      simp only [readGivenChar] at h
      split at h
      · next heq => rw [heq, Option.some.inj h]
      · exact absurd h (by simp)

theorem readSeparator_takes {separator : UInt8} {inner : Text → Option (α × Text)} {value : α}
    (hseparator : IsAddrByte separator)
    (hinner : ∀ text value rest, inner text = some (value, rest) → Takes text rest)
    (h : readSeparator separator first inner text = some (value, rest)) : Takes text rest := by
  simp only [readSeparator] at h
  split at h
  · exact hinner text value rest h
  · obtain ⟨middle, hchar, h⟩ := Option.bind_eq_some_iff.mp h
    rw [readGivenChar_eq_some hchar]
    exact (takes_cons hseparator middle).trans (hinner middle value rest h)

theorem readOctet_takes (text : Text) (octet : UInt8) (rest : Text)
    (h : readOctet text = some (octet, rest)) : Takes text rest :=
  takes_of_readNumber (by omega) h

theorem readGroup_takes (text : Text) (group : UInt16) (rest : Text)
    (h : readGroup text = some (group, rest)) : Takes text rest :=
  takes_of_readNumber (by omega) h

theorem readIpv4Addr_takes (text : Text) (addr : Ipv4Addr) (rest : Text)
    (h : readIpv4Addr text = some (addr, rest)) : Takes text rest := by
  have hpart : ∀ {first text octet rest},
      readSeparator dot first readOctet text = some (octet, rest) → Takes text rest := fun hread =>
    readSeparator_takes (by decide) readOctet_takes hread
  obtain ⟨⟨a, afterA⟩, ha, h⟩ := Option.bind_eq_some_iff.mp h
  obtain ⟨⟨b, afterB⟩, hb, h⟩ := Option.bind_eq_some_iff.mp h
  obtain ⟨⟨c, afterC⟩, hc, h⟩ := Option.bind_eq_some_iff.mp h
  obtain ⟨⟨d, afterD⟩, hd, h⟩ := Option.bind_eq_some_iff.mp h
  obtain ⟨-, rfl⟩ := Prod.mk.inj (Option.some.inj h)
  exact (((hpart ha).trans (hpart hb)).trans (hpart hc)).trans (hpart hd)

theorem readGroups_takes (first : Bool) (remaining : Nat) (text : Text) :
    Takes text (readGroups first remaining text).2.2 := by
  induction remaining generalizing first text with
  | zero => exact .refl text
  | succ remaining ih =>
      simp only [readGroups]
      split
      · next addr rest hread =>
          split at hread
          · exact readSeparator_takes (by decide) readIpv4Addr_takes hread
          · exact absurd hread (by simp)
      · split
        · next group rest hread =>
            exact (readSeparator_takes (by decide) readGroup_takes hread).trans (ih false rest)
        · exact .refl text

theorem readIpv6Addr_takes {addr : Ipv6Addr} (h : readIpv6Addr text = some (addr, rest)) :
    Takes text rest := by
  simp only [readIpv6Addr] at h
  have hhead := readGroups_takes true 8 text
  split at h
  · obtain ⟨-, rfl⟩ := Prod.mk.inj (Option.some.inj h)
    exact hhead
  split at h
  · exact absurd h (by simp)
  obtain ⟨text', hfirst, h⟩ := Option.bind_eq_some_iff.mp h
  obtain ⟨text'', hsecond, h⟩ := Option.bind_eq_some_iff.mp h
  obtain ⟨-, rfl⟩ := Prod.mk.inj (Option.some.inj h)
  rw [readGivenChar_eq_some hfirst, readGivenChar_eq_some hsecond] at hhead
  exact ((hhead.trans (takes_cons (by decide) _)).trans (takes_cons (by decide) _)).trans
    (readGroups_takes true _ text'')

theorem readIpAddr_takes {addr : IpAddr} (h : readIpAddr text = some (addr, rest)) :
    Takes text rest := by
  simp only [readIpAddr] at h
  split at h
  · next addr rest' hread =>
      obtain ⟨-, rfl⟩ := Prod.mk.inj (Option.some.inj h)
      exact readIpv4Addr_takes text addr rest' hread
  split at h
  · next addr rest' hread =>
      obtain ⟨-, rfl⟩ := Prod.mk.inj (Option.some.inj h)
      exact readIpv6Addr_takes hread
  · exact absurd h (by simp)

end AddrParser

/-- What is read as an address has the bytes of an address only. -/
theorem IpAddr.isAddrByte_of_fromStr {text : Text} {addr : IpAddr} (h : fromStr text = some addr) :
    ∀ b ∈ text, AddrParser.IsAddrByte b := by
  simp only [fromStr] at h
  split at h
  · next addr' hread =>
      obtain ⟨taken, rfl, htaken⟩ := AddrParser.readIpAddr_takes hread
      simpa using htaken
  · exact absurd h (by simp)

/-! ## The text of an address is read -/

namespace AddrParser

variable {radix maxDigits bound : Nat} {text rest : Text} {first : Bool}

/-- The digits before this text end where it begins. -/
def Ends (radix : Nat) (rest : Text) : Prop := ∀ c ∈ rest.head?, toDigit radix c = none

theorem toDigit_digit : ∀ d < 16, toDigit 16 (digit d) = some d := by decide

theorem toDigit_digit_of_lt {d : Nat} (hradix : radix ≤ 16) (hd : d < radix) :
    toDigit radix (digit d) = some d := by
  have hvalue := toDigit_digit d (by omega)
  simp only [toDigit, Option.filter_eq_some_iff, decide_eq_true_eq] at hvalue ⊢
  exact ⟨hvalue.1, hd⟩

theorem readDigits_map_digit {digits : List Nat} {result count : Nat} (hradix : radix ≤ 16)
    (hdigits : ∀ d ∈ digits, d < radix) (hlength : count + digits.length ≤ maxDigits)
    (hrest : Ends radix rest) :
    readDigits radix maxDigits (digits.map digit ++ rest) result count =
      some (digits.foldl (fun result d => result * radix + d) result, count + digits.length,
        rest) := by
  induction digits generalizing result count with
  | nil =>
      cases rest with
      | nil => rfl
      | cons c rest => simp [readDigits, hrest c rfl]
  | cons d digits ih =>
      rw [List.forall_mem_cons] at hdigits
      rw [List.length_cons] at hlength
      simp only [List.map_cons, List.cons_append, readDigits,
        toDigit_digit_of_lt hradix hdigits.1]
      rw [if_neg (by omega), ih hdigits.2 (by omega), List.foldl_cons, List.length_cons]
      congr 3
      omega

/-- The digits of a numeral, the first of which is zero for zero only. -/
theorem numeral_eq_map {n : Nat} (hradix : 1 < radix) :
    ∃ digits, numeral radix n = digits.map digit ∧ (∀ d ∈ digits, d < radix) ∧
      digits.foldl (fun result d => result * radix + d) 0 = n ∧
      (∀ k, n < radix ^ (k + 1) → digits.length ≤ k + 1) ∧ digits ≠ [] ∧
      (digits.head? = some 0 → digits.length = 1) := by
  by_cases hn : n = 0
  · subst hn
    refine ⟨[0], by simp [numeral], ?_, by simp, by simp, by simp, by simp⟩
    simpa using (by omega : 0 < radix)
  · refine ⟨(Nat.digits radix n).reverse, ?_, ?_, ?_, ?_, ?_, ?_⟩
    · rw [numeral, if_neg hn, List.map_reverse]
    · intro d hd
      exact Nat.digits_lt_base hradix (List.mem_reverse.mp hd)
    · rw [foldl_eq_ofDigits, List.reverse_reverse, Nat.ofDigits_digits]
    · intro k hk
      rw [List.length_reverse]
      exact (Nat.digits_length_le_iff hradix n).mpr hk
    · simpa using Nat.digits_ne_nil_iff_ne_zero.mpr hn
    · intro hhead
      rw [List.head?_reverse, List.getLast?_eq_some_getLast (Nat.digits_ne_nil_iff_ne_zero.mpr hn)]
        at hhead
      exact absurd (Option.some.inj hhead) (Nat.getLast_digit_ne_zero radix hn)

theorem digit_eq_zero_iff : ∀ d < 16, digit d = 48 → d = 0 := by decide

/-- A numeral is read as its number. -/
theorem readNumber_numeral {n k : Nat} {zeroes : Bool} (hradix : 1 < radix) (hle : radix ≤ 16)
    (hn : n < radix ^ (k + 1)) (hbound : n < bound) (hrest : Ends radix rest) :
    readNumber radix (k + 1) bound zeroes (numeral radix n ++ rest) = some (n, rest) := by
  obtain ⟨digits, hnumeral, hlt, hvalue, hlength, hne, hzero⟩ := numeral_eq_map (n := n) hradix
  have hread : readDigits radix (k + 1) (digits.map digit ++ rest) 0 0 = some (_, _, rest) :=
    readDigits_map_digit hle hlt (by rw [Nat.zero_add]; exact hlength k hn) hrest
  obtain ⟨d, digits, rfl⟩ := List.exists_cons_of_ne_nil hne
  have hhead : ¬ (!zeroes && (((d :: digits).map digit ++ rest).head? = some 48) &&
      decide (1 < 0 + (d :: digits).length)) = true := by
    simp only [List.map_cons, List.cons_append, List.head?_cons, Option.some.injEq,
      Bool.and_eq_true, decide_eq_true_eq, not_and]
    intro hdigit
    have hd := hlt d List.mem_cons_self
    have hone := hzero (by rw [digit_eq_zero_iff d (by omega) hdigit.2]; rfl)
    omega
  rw [hnumeral, readNumber, hread, hvalue]
  simp only [Option.bind_eq_bind, Option.bind_some]
  rw [if_neg (by simp), if_neg hhead, if_pos hbound]

theorem ends_nil : Ends radix [] := by simp [Ends]

theorem ends_cons {c : UInt8} (h : toDigit radix c = none) (rest : Text) :
    Ends radix (c :: rest) := by
  intro c' hc'
  rwa [← Option.some.inj hc']

theorem readOctet_decimal (octet : UInt8) (hrest : Ends 10 rest) :
    readOctet (Ipv4Addr.decimal octet ++ rest) = some (octet, rest) := by
  have hlt := octet.toNat_lt
  rw [readOctet, Ipv4Addr.decimal,
    readNumber_numeral (k := 2) (by omega) (by omega) (by omega) (by omega) hrest]
  simp

theorem readGroup_hexadecimal (segment : UInt16) (hrest : Ends 16 rest) :
    readGroup (Ipv6Addr.hexadecimal segment ++ rest) = some (segment, rest) := by
  have hlt := segment.toNat_lt
  rw [readGroup, Ipv6Addr.hexadecimal,
    readNumber_numeral (k := 3) (by omega) (by omega) (by omega) (by omega) hrest]
  simp

theorem readSeparator_cons {α : Type} (separator : UInt8) (inner : Text → Option (α × Text))
    (text : Text) : readSeparator separator false inner (separator :: text) = inner text := by
  simp [readSeparator]

theorem readIpv4Addr_toText (addr : Ipv4Addr) (hrest : Ends 10 rest) :
    readIpv4Addr (addr.toText ++ rest) = some (addr, rest) := by
  obtain ⟨⟨a, b, c, d⟩⟩ := addr
  have htext : Ipv4Addr.toText ⟨(a, b, c, d)⟩ ++ rest =
      Ipv4Addr.decimal a ++ dot :: (Ipv4Addr.decimal b ++ dot ::
        (Ipv4Addr.decimal c ++ dot :: (Ipv4Addr.decimal d ++ rest))) := by
    simp [Ipv4Addr.toText, Ipv4Addr.parts, List.intercalate_cons_cons]
  have hdot : ∀ text, Ends 10 (dot :: text) := ends_cons (by decide)
  have hfirst : ∀ text, readSeparator dot true readOctet text = readOctet text := fun _ => rfl
  simp only [readIpv4Addr, htext, hfirst, readSeparator_cons, readOctet_decimal _ (hdot _),
    readOctet_decimal _ hrest, Option.bind_eq_bind, Option.bind_some]

/-- An IPv4 address has a dot. -/
theorem dot_mem_of_readIpv4Addr {addr : Ipv4Addr} (h : readIpv4Addr text = some (addr, rest)) :
    dot ∈ text := by
  obtain ⟨⟨a, afterA⟩, ha, h⟩ := Option.bind_eq_some_iff.mp h
  obtain ⟨⟨b, afterB⟩, hb, -⟩ := Option.bind_eq_some_iff.mp h
  obtain ⟨taken, rfl, -⟩ := readSeparator_takes (by decide) readOctet_takes ha
  obtain ⟨middle, hchar, -⟩ := Option.bind_eq_some_iff.mp hb
  simp [readGivenChar_eq_some hchar]

theorem readIpv4Addr_eq_none (h : dot ∉ text) : readIpv4Addr text = none := by
  cases hread : readIpv4Addr text with
  | none => rfl
  | some result => exact absurd (dot_mem_of_readIpv4Addr hread) h

theorem readSeparator_readIpv4Addr_eq_none (h : dot ∉ text) :
    readSeparator colon first readIpv4Addr text = none := by
  cases first with
  | true => exact readIpv4Addr_eq_none h
  | false =>
      cases hchar : readGivenChar colon text with
      | none => simp [readSeparator, hchar]
      | some middle =>
          rw [readGivenChar_eq_some hchar, readSeparator_cons]
          apply readIpv4Addr_eq_none
          intro hmem
          exact h (readGivenChar_eq_some hchar ▸ List.mem_cons_of_mem _ hmem)

/-- The text of some groups, with a colon in front of each but the first. -/
def chunkText (first : Bool) (chunk : List UInt16) : Text :=
  if first then Ipv6Addr.fmtSubslice chunk
  else chunk.flatMap fun segment => colon :: Ipv6Addr.hexadecimal segment

theorem chunkText_cons (first : Bool) (segment : UInt16) (chunk : List UInt16) :
    chunkText first (segment :: chunk) =
      (if first then [] else [colon]) ++ Ipv6Addr.hexadecimal segment ++ chunkText false chunk := by
  cases first with
  | false => simp [chunkText]
  | true =>
      induction chunk generalizing segment with
      | nil => simp [chunkText, Ipv6Addr.fmtSubslice]
      | cons next chunk ih =>
          have htail := ih next
          simp only [chunkText, Ipv6Addr.fmtSubslice, List.map_cons, if_true, List.nil_append,
            List.intercalate_cons_cons, Bool.false_eq_true, if_false, List.flatMap_cons]
            at htail ⊢
          rw [htail]
          simp

/-- No further group follows: the text is at its end, or at a gap. -/
def Stops (rest : Text) : Prop := rest = [] ∨ ∃ after, rest = colon :: colon :: after

theorem Stops.ends (h : Stops rest) : Ends 16 rest := by
  obtain rfl | ⟨after, rfl⟩ := h
  · exact ends_nil
  · exact ends_cons (by decide) _

theorem ends_chunkText (chunk : List UInt16) (h : Stops rest) :
    Ends 16 (chunkText false chunk ++ rest) := by
  cases chunk with
  | nil => exact h.ends
  | cons segment chunk =>
      rw [chunkText_cons]
      exact ends_cons (by decide) _

theorem readSeparator_readGroup_eq_none (h : Stops rest) :
    readSeparator colon first readGroup rest = none := by
  obtain rfl | ⟨after, rfl⟩ := h
  · cases first with
    | true => rfl
    | false => rfl
  · cases first with
    | true => rfl
    | false => rfl

theorem readGroups_chunkText {chunk : List UInt16} {remaining : Nat}
    (hlength : chunk.length ≤ remaining) (hstops : Stops rest)
    (hdot : dot ∉ chunkText first chunk ++ rest) :
    readGroups first remaining (chunkText first chunk ++ rest) = (chunk, false, rest) := by
  have hnone : ∀ {first text}, dot ∉ text → ∀ remaining : Nat,
      (if 0 < remaining then readSeparator colon first readIpv4Addr text else none) = none := by
    intro first text hdot remaining
    split
    · exact readSeparator_readIpv4Addr_eq_none hdot
    · rfl
  induction chunk generalizing first remaining with
  | nil =>
      have htext : chunkText first [] ++ rest = rest := by
        cases first with
        | true => simp [chunkText, Ipv6Addr.fmtSubslice]
        | false => simp [chunkText]
      rw [htext] at hdot ⊢
      cases remaining with
      | zero => rfl
      | succ remaining =>
          simp only [readGroups, hnone hdot, readSeparator_readGroup_eq_none hstops]
  | cons segment chunk ih =>
      obtain ⟨remaining, rfl⟩ : ∃ r, remaining = r + 1 := ⟨remaining - 1, by
        rw [List.length_cons] at hlength
        omega⟩
      have hgroup : readSeparator colon first readGroup
          (chunkText first (segment :: chunk) ++ rest) =
          some (segment, chunkText false chunk ++ rest) := by
        rw [chunkText_cons, List.append_assoc, List.append_assoc]
        cases first with
        | true => exact readGroup_hexadecimal segment (ends_chunkText chunk hstops)
        | false =>
            show readSeparator colon false readGroup (colon :: _) = _
            rw [readSeparator_cons]
            exact readGroup_hexadecimal segment (ends_chunkText chunk hstops)
      have htail : dot ∉ chunkText false chunk ++ rest := by
        intro hmem
        apply hdot
        rw [chunkText_cons, List.append_assoc]
        exact List.mem_append_right _ hmem
      simp only [readGroups, hnone hdot, hgroup]
      rw [ih (by simpa using hlength) htail]

theorem ofSegments_eq {addr : Ipv6Addr} {segments : List UInt16} (h : segments = addr.segments) :
    ofSegments segments = addr := by
  have hsegments : (ofSegments segments).segments = addr.segments := by
    subst h
    apply List.ext_getElem
    · rw [(ofSegments _).length_segments, addr.length_segments]
    · intro i _ hi
      simp only [ofSegments, List.getElem_ofFn]
      rw [List.getD_eq_getElem?_getD, List.getElem?_eq_getElem hi, Option.getD_some]
  cases addr
  simpa [ofSegments] using hsegments

theorem fromBeBytes_bytes (segment : UInt16) :
    fromBeBytes (Ipv6Addr.highByte segment) (Ipv6Addr.lowByte segment) = segment := by
  have hlt := segment.toNat_lt
  apply UInt16.toNat_inj.mp
  simp only [fromBeBytes, Ipv6Addr.highByte, Ipv6Addr.lowByte, UInt8.toNat_ofNat',
    UInt16.toNat_ofNat']
  omega

theorem dot_not_mem_of_unmapped {addr : Ipv6Addr} (h : addr.toIpv4Mapped = none) :
    dot ∉ addr.toText :=
  fun hmem => absurd (Ipv6Addr.mem_toText_of_unmapped h hmem) (by decide)

/-- Groups on both sides of a gap. -/
theorem readIpv6Addr_gap {addr : Ipv6Addr} {left right : List UInt16} {zeroes : Nat}
    (hzeroes : 0 < zeroes) (hsegments : left ++ List.replicate zeroes 0 ++ right = addr.segments)
    (hdot : dot ∉ Ipv6Addr.fmtSubslice left ++ [colon, colon] ++ Ipv6Addr.fmtSubslice right) :
    readIpv6Addr (Ipv6Addr.fmtSubslice left ++ [colon, colon] ++ Ipv6Addr.fmtSubslice right) =
      some (addr, []) := by
  have hlength : left.length + zeroes + right.length = 8 := by
    rw [← addr.length_segments, ← hsegments, List.length_append, List.length_append,
      List.length_replicate]
  rw [List.append_assoc] at hdot ⊢
  have hleft : readGroups true 8
      (Ipv6Addr.fmtSubslice left ++ ([colon, colon] ++ Ipv6Addr.fmtSubslice right)) =
        (left, false, colon :: colon :: Ipv6Addr.fmtSubslice right) :=
    readGroups_chunkText (by omega) (.inr ⟨_, rfl⟩) hdot
  have hright : readGroups true (8 - (left.length + 1)) (Ipv6Addr.fmtSubslice right) =
      (right, false, []) := by
    rw [← List.append_nil (Ipv6Addr.fmtSubslice right)]
    refine readGroups_chunkText (by omega) (.inl rfl) ?_
    rw [List.append_nil]
    exact fun hmem => hdot (by simp [show dot ∈ Ipv6Addr.fmtSubslice right from hmem])
  have hshort : left.length ≠ 8 := by omega
  have hcount : 8 - left.length - right.length = zeroes := by omega
  simp only [readIpv6Addr, hleft, hright, if_neg hshort, Bool.false_eq_true, if_false,
    readGivenChar_cons, Option.bind_eq_bind, Option.bind_some, hcount]
  rw [ofSegments_eq hsegments]

theorem readIpv6Addr_of_unmapped {addr : Ipv6Addr} (h : addr.toIpv4Mapped = none) :
    readIpv6Addr addr.toText = some (addr, []) := by
  have hdot := dot_not_mem_of_unmapped h
  simp only [Ipv6Addr.toText, h] at hdot ⊢
  split at hdot
  · next hgap =>
      rw [if_pos hgap]
      exact readIpv6Addr_gap (by omega) addr.zeroes_isZero.segments_eq hdot
  · next hgap =>
      rw [if_neg hgap]
      have hlength := addr.length_segments
      have hgroups : readGroups true 8 (Ipv6Addr.fmtSubslice addr.segments) =
          (addr.segments, false, []) := by
        rw [← List.append_nil (Ipv6Addr.fmtSubslice addr.segments)] at hdot ⊢
        exact readGroups_chunkText (by omega) (.inl rfl) hdot
      simp only [readIpv6Addr, hgroups, hlength, if_true]
      rw [ofSegments_eq rfl]

/-- `::ffff:` and an IPv4 address. -/
theorem readIpv6Addr_of_mapped {addr : Ipv6Addr} {ipv4 : Ipv4Addr}
    (h : addr.toIpv4Mapped = some ipv4) : readIpv6Addr addr.toText = some (addr, []) := by
  obtain ⟨ab, cd, hsegments, hoctets⟩ := Ipv6Addr.segments_of_mapped h
  have htext : addr.toText = colon :: colon :: (Ipv6Addr.hexadecimal 0xffff ++
      colon :: ipv4.toText) := by
    rw [Ipv6Addr.toText_of_mapped h]
    rfl
  have hhead : readGroups true 8 addr.toText = ([], false, addr.toText) := by
    rw [htext]
    rfl
  have hgroup : readGroup (Ipv6Addr.hexadecimal 0xffff ++ colon :: ipv4.toText) =
      some (0xffff, colon :: ipv4.toText) := readGroup_hexadecimal _ (ends_cons (by decide) _)
  have hipv4 : readSeparator colon false readIpv4Addr (colon :: ipv4.toText) = some (ipv4, []) := by
    rw [readSeparator_cons, ← List.append_nil ipv4.toText]
    exact readIpv4Addr_toText ipv4 ends_nil
  have hnone : readSeparator colon true readIpv4Addr
      (Ipv6Addr.hexadecimal 0xffff ++ colon :: ipv4.toText) = none := rfl
  have htail : readGroups true 7 (Ipv6Addr.hexadecimal 0xffff ++ colon :: ipv4.toText) =
      ([0xffff, ab, cd], true, []) := by
    have hfirst : readSeparator colon true readGroup
        (Ipv6Addr.hexadecimal 0xffff ++ colon :: ipv4.toText) =
          some (0xffff, colon :: ipv4.toText) := hgroup
    simp only [readGroups, hnone, hfirst, hipv4, hoctets, fromBeBytes_bytes, ite_self,
      Nat.succ_pos, if_true]
  rw [htext] at hhead ⊢
  simp only [readIpv6Addr, hhead, Bool.false_eq_true, if_false, readGivenChar_cons,
    Option.bind_eq_bind, Option.bind_some, List.length_nil, Nat.zero_add, Nat.reduceSub, htail]
  rw [if_neg (by omega), ofSegments_eq (by rw [hsegments]; rfl)]

end AddrParser

/-- The text of an address is read as this address. -/
theorem IpAddr.fromStr_toText (addr : IpAddr) : fromStr addr.toText = some addr := by
  have hread : AddrParser.readIpAddr addr.toText = some (addr, []) := by
    cases addr with
    | v4 addr =>
        have hv4 := AddrParser.readIpv4Addr_toText addr AddrParser.ends_nil
        rw [List.append_nil] at hv4
        simp only [AddrParser.readIpAddr, toText, hv4]
    | v6 addr =>
        cases hmapped : addr.toIpv4Mapped with
        | none =>
            have hnone :=
              AddrParser.readIpv4Addr_eq_none (AddrParser.dot_not_mem_of_unmapped hmapped)
            simp only [AddrParser.readIpAddr, toText, hnone,
              AddrParser.readIpv6Addr_of_unmapped hmapped]
        | some ipv4 =>
            have hnone : AddrParser.readIpv4Addr addr.toText = none := by
              rw [Ipv6Addr.toText_of_mapped hmapped]
              rfl
            simp only [AddrParser.readIpAddr, toText, hnone,
              AddrParser.readIpv6Addr_of_mapped hmapped]
  simp only [fromStr, hread]

end RollupBoost
