import Mathlib.Data.Nat.Digits.Lemmas

/-!
# Addresses and their text

The Redis rate limiter puts the text of an address into a key and later takes keys apart at
their colons. What it relies on is a matter of the text: an IPv4 address has no colon, an IPv6
address has at least two, and no two addresses have the same text.

The text is that of `Display` for `IpAddr`: four decimal octets, or eight hexadecimal segments
with the longest run of at least two zero segments left out. An IPv4-mapped address ends in
decimal octets.
-/

namespace RollupBoost

/-- A string as its UTF-8 bytes. -/
abbrev Text := List UInt8

def utf8 (s : String) : Text := s.toUTF8.data.toList

/-- `:` separates the parts of a key and the segments of an address. -/
abbrev colon : UInt8 := 58

abbrev dot : UInt8 := 46

/-- Check the bytes of a text one after the other, instead of all bytes there are. -/
theorem forall_mem_of_all {p : UInt8 → Prop} [DecidablePred p] {text : Text}
    (h : text.all (fun b => decide (p b)) = true) : ∀ b ∈ text, p b := by
  simpa using h

/-! ## Numerals -/

def digit (d : Nat) : UInt8 := UInt8.ofNat (if d < 10 then 48 + d else 87 + d)

def digitValue (b : UInt8) : Nat := if b.toNat < 58 then b.toNat - 48 else b.toNat - 87

/-- The text of a number without leading zeros, in lower case. -/
def numeral (base n : Nat) : Text :=
  if n = 0 then [digit 0] else ((Nat.digits base n).map digit).reverse

def IsHexDigit (b : UInt8) : Prop := 48 ≤ b ∧ b ≤ 57 ∨ 97 ≤ b ∧ b ≤ 102

instance (b : UInt8) : Decidable (IsHexDigit b) := inferInstanceAs (Decidable (_ ∨ _))

theorem isHexDigit_digit : ∀ d < 16, IsHexDigit (digit d) := by decide

theorem digitValue_digit : ∀ d < 16, digitValue (digit d) = d := by decide

theorem isHexDigit_numeral {base n : Nat} (hbase : 1 < base) (hle : base ≤ 16) :
    ∀ b ∈ numeral base n, IsHexDigit b := by
  intro b hb
  simp only [numeral] at hb
  split at hb
  · rw [List.mem_singleton.mp hb]
    decide
  · rw [List.mem_reverse, List.mem_map] at hb
    obtain ⟨d, hd, rfl⟩ := hb
    apply isHexDigit_digit
    have hlt := Nat.digits_lt_base hbase hd
    omega

theorem numeral_ne_nil (base n : Nat) : numeral base n ≠ [] := by
  simp only [numeral]
  split
  · simp
  · next h =>
      rw [Ne, List.reverse_eq_nil_iff, List.map_eq_nil_iff]
      exact Nat.digits_ne_nil_iff_ne_zero.mpr h

/-- A numeral can be read back. -/
theorem ofDigits_numeral {base n : Nat} (hbase : 1 < base) (hle : base ≤ 16) :
    Nat.ofDigits base ((numeral base n).map digitValue).reverse = n := by
  simp only [numeral]
  split
  · next h => simp [h, digitValue_digit 0 (by omega)]
  · have hdigits : ((Nat.digits base n).map digit).map digitValue = Nat.digits base n := by
      rw [List.map_map]
      refine (List.map_congr_left ?_).trans (List.map_id _)
      intro d hd
      apply digitValue_digit
      have hlt := Nat.digits_lt_base hbase hd
      omega
    rw [List.map_reverse, List.reverse_reverse, hdigits, Nat.ofDigits_digits]

/-- The value of digits that are read from the left. -/
theorem foldl_eq_ofDigits (base : Nat) (digits : List Nat) :
    digits.foldl (fun result d => result * base + d) 0 = Nat.ofDigits base digits.reverse := by
  rw [Nat.ofDigits_eq_foldr, List.foldr_reverse]
  congr 1
  funext result d
  rw [Nat.cast_id, Nat.mul_comm, Nat.add_comm]

theorem numeral_inj {base n m : Nat} (hbase : 1 < base) (hle : base ≤ 16)
    (h : numeral base n = numeral base m) : n = m := by
  rw [← ofDigits_numeral hbase hle (n := n), h, ofDigits_numeral hbase hle]

/-- A byte of a joined text is a separator or a byte of one of the parts. -/
theorem mem_intercalate {separator b : UInt8} {parts : List Text}
    (h : b ∈ [separator].intercalate parts) : b = separator ∨ ∃ part ∈ parts, b ∈ part := by
  induction parts with
  | nil => simp at h
  | cons part rest ih =>
      cases rest with
      | nil =>
          rw [List.intercalate_singleton] at h
          exact .inr ⟨part, List.mem_singleton_self part, h⟩
      | cons next rest =>
          rw [List.intercalate_cons_cons, List.append_assoc, List.mem_append, List.mem_append,
            List.mem_singleton] at h
          obtain h | rfl | h := h
          · exact .inr ⟨part, List.mem_cons_self, h⟩
          · exact .inl rfl
          · obtain rfl | ⟨other, hother, hmem⟩ := ih h
            · exact .inl rfl
            · exact .inr ⟨other, List.mem_cons_of_mem _ hother, hmem⟩

/-- The parts between separators are pieces of the text without the separator. -/
theorem mem_of_mem_splitOn {separator b : UInt8} {text part : Text}
    (hpart : part ∈ text.splitOn separator) (hb : b ∈ part) : b ∈ text ∧ b ≠ separator := by
  induction text generalizing part with
  | nil =>
      rw [List.splitOn_nil, List.mem_singleton] at hpart
      rw [hpart] at hb
      exact absurd hb (by simp)
  | cons first text ih =>
      rw [List.splitOn_cons_eq_if_modifyHead] at hpart
      split at hpart
      · obtain rfl | hpart := List.mem_cons.mp hpart
        · exact absurd hb (by simp)
        · obtain ⟨hmem, hne⟩ := ih hpart hb
          exact ⟨List.mem_cons_of_mem _ hmem, hne⟩
      · next hfirst =>
          have hne : first ≠ separator := by simpa using hfirst
          cases hparts : text.splitOn separator with
          | nil => exact absurd hparts (List.splitOn_ne_nil separator text)
          | cons head parts =>
              rw [hparts] at hpart ih
              obtain rfl | hpart := List.mem_cons.mp hpart
              · obtain rfl | hb := List.mem_cons.mp hb
                · exact ⟨List.mem_cons_self, hne⟩
                · obtain ⟨hmem, hne⟩ := ih List.mem_cons_self hb
                  exact ⟨List.mem_cons_of_mem _ hmem, hne⟩
              · obtain ⟨hmem, hne⟩ := ih (List.mem_cons_of_mem _ hpart) hb
                exact ⟨List.mem_cons_of_mem _ hmem, hne⟩

/-! ## IPv4 -/

structure Ipv4Addr where
  octets : UInt8 × UInt8 × UInt8 × UInt8
  deriving DecidableEq

namespace Ipv4Addr

def decimal (octet : UInt8) : Text := numeral 10 octet.toNat

def parts (self : Ipv4Addr) : List Text :=
  [decimal self.octets.1, decimal self.octets.2.1, decimal self.octets.2.2.1,
    decimal self.octets.2.2.2]

def toText (self : Ipv4Addr) : Text := [dot].intercalate self.parts

theorem isHexDigit_of_mem_parts {self : Ipv4Addr} {part : Text} (h : part ∈ self.parts) :
    ∀ b ∈ part, IsHexDigit b := by
  have hdecimal : ∀ octet, ∀ b ∈ decimal octet, IsHexDigit b := fun octet =>
    isHexDigit_numeral (by omega) (by omega)
  simp only [parts, List.mem_cons, List.not_mem_nil, or_false] at h
  obtain rfl | rfl | rfl | rfl := h
  all_goals exact hdecimal _

theorem mem_toText {self : Ipv4Addr} {b : UInt8} (h : b ∈ self.toText) :
    b = dot ∨ IsHexDigit b := by
  obtain rfl | ⟨part, hpart, hb⟩ := mem_intercalate h
  · exact .inl rfl
  · exact .inr (isHexDigit_of_mem_parts hpart b hb)

theorem colon_not_mem_toText (self : Ipv4Addr) : colon ∉ self.toText :=
  fun h => absurd (mem_toText h) (by decide)

theorem toText_injective : Function.Injective toText := by
  intro self other h
  have hsplit : ∀ addr : Ipv4Addr, addr.toText.splitOn dot = addr.parts := by
    intro addr
    apply List.splitOn_intercalate
    · intro part hpart hdot
      exact absurd (isHexDigit_of_mem_parts hpart dot hdot) (by decide)
    · simp [parts]
  have hparts : self.parts = other.parts := by rw [← hsplit, ← hsplit, h]
  have hoctet : ∀ {a b : UInt8}, decimal a = decimal b → a = b := fun heq =>
    UInt8.toNat_inj.mp (numeral_inj (by omega) (by omega) heq)
  simp only [parts, List.cons.injEq, and_true] at hparts
  obtain ⟨ha, hb, hc, hd⟩ := hparts
  obtain ⟨⟨a, b, c, d⟩⟩ := self
  obtain ⟨⟨a', b', c', d'⟩⟩ := other
  obtain rfl : a = a' := hoctet ha
  obtain rfl : b = b' := hoctet hb
  obtain rfl : c = c' := hoctet hc
  obtain rfl : d = d' := hoctet hd
  rfl

end Ipv4Addr

/-! ## IPv6 -/

structure Ipv6Addr where
  segments : List UInt16
  length_segments : segments.length = 8
  deriving DecidableEq

namespace Ipv6Addr

/-- A run of segments. -/
structure Span where
  start : Nat
  len : Nat

/-- The loop that looks for the first of the longest runs of zero segments. -/
def longestZeroes : List UInt16 → Nat → Span → Span → Span
  | [], _, longest, _ => longest
  | segment :: rest, i, longest, current =>
      if segment = 0 then
        let current : Span :=
          { start := if current.len = 0 then i else current.start, len := current.len + 1 }
        longestZeroes rest (i + 1) (if longest.len < current.len then current else longest) current
      else
        longestZeroes rest (i + 1) longest { start := 0, len := 0 }

def zeroes (self : Ipv6Addr) : Span :=
  longestZeroes self.segments 0 { start := 0, len := 0 } { start := 0, len := 0 }

def hexadecimal (segment : UInt16) : Text := numeral 16 segment.toNat

def fmtSubslice (chunk : List UInt16) : Text := [colon].intercalate (chunk.map hexadecimal)

def highByte (segment : UInt16) : UInt8 := UInt8.ofNat (segment.toNat / 256)

def lowByte (segment : UInt16) : UInt8 := UInt8.ofNat segment.toNat

/-- `::ffff:a.b.c.d` -/
def toIpv4Mapped (self : Ipv6Addr) : Option Ipv4Addr :=
  if self.segments.take 6 = [0, 0, 0, 0, 0, 0xffff] then
    match self.segments.drop 6 with
    | [ab, cd] => some { octets := (highByte ab, lowByte ab, highByte cd, lowByte cd) }
    | _ => none
  else none

def toText (self : Ipv6Addr) : Text :=
  match self.toIpv4Mapped with
  | some ipv4 => utf8 "::ffff:" ++ ipv4.toText
  | none =>
      if 1 < self.zeroes.len then
        fmtSubslice (self.segments.take self.zeroes.start) ++ [colon, colon] ++
          fmtSubslice (self.segments.drop (self.zeroes.start + self.zeroes.len))
      else fmtSubslice self.segments

/-- All segments of the span are zero. -/
def Span.IsZero (span : Span) (segments : List UInt16) : Prop :=
  ∀ i, span.start ≤ i → i < span.start + span.len → segments[i]? = some 0

/-- The span under construction ends where the loop stands. -/
theorem longestZeroes_isZero {segments rest : List UInt16} {i : Nat} {longest current : Span}
    (hrest : segments.drop i = rest) (hlongest : longest.IsZero segments)
    (hcurrent : current.IsZero segments)
    (hend : current.len = 0 ∨ current.start + current.len = i) :
    (longestZeroes rest i longest current).IsZero segments := by
  induction rest generalizing i longest current with
  | nil => exact hlongest
  | cons segment rest ih =>
      have hnext : segments.drop (i + 1) = rest := by
        rw [← List.tail_drop, hrest]
        rfl
      simp only [longestZeroes]
      split
      · next hzero =>
          have hhere : segments[i]? = some 0 := by
            rw [← List.head?_drop, hrest, hzero]
            rfl
          have hextended : Span.IsZero
              { start := if current.len = 0 then i else current.start, len := current.len + 1 }
              segments := by
            intro k hle hlt
            simp only at hle hlt
            split at hle <;> rename_i hempty
            · rw [if_pos hempty] at hlt
              obtain rfl : k = i := by omega
              exact hhere
            · rw [if_neg hempty] at hlt
              obtain hend := hend.resolve_left hempty
              by_cases hk : k = i
              · rw [hk]
                exact hhere
              · exact hcurrent k hle (by omega)
          refine ih hnext ?_ hextended (.inr ?_)
          · split
            · exact hextended
            · exact hlongest
          · simp only
            split <;> omega
      · refine ih hnext hlongest ?_ (.inl rfl)
        intro k hle hlt
        simp only at hle hlt
        omega

theorem zeroes_isZero (self : Ipv6Addr) : self.zeroes.IsZero self.segments := by
  have hempty : Span.IsZero { start := 0, len := 0 } self.segments := by
    intro k hle hlt
    simp only at hle hlt
    omega
  exact longestZeroes_isZero rfl hempty hempty (.inl rfl)

/-- The segments around a run of zeros, with the zeros put back. -/
theorem Span.IsZero.segments_eq {span : Span} {segments : List UInt16} (h : span.IsZero segments) :
    segments.take span.start ++ List.replicate span.len 0 ++
      segments.drop (span.start + span.len) = segments := by
  have hmiddle : (segments.drop span.start).take span.len = List.replicate span.len 0 := by
    apply List.ext_getElem?
    intro k
    rw [List.getElem?_take, List.getElem?_drop, List.getElem?_replicate]
    split
    · exact h _ (by omega) (by omega)
    · rfl
  rw [← hmiddle, List.append_assoc, ← List.drop_drop, List.take_append_drop,
    List.take_append_drop]

/-! ### The groups between the colons -/

theorem hexadecimal_injective : Function.Injective hexadecimal := by
  intro a b h
  exact UInt16.toNat_inj.mp (numeral_inj (by omega) (by omega) h)

theorem isHexDigit_hexadecimal (segment : UInt16) : ∀ b ∈ hexadecimal segment, IsHexDigit b :=
  isHexDigit_numeral (by omega) (by omega)

/-- The groups of a run of segments; no segments give one empty group. -/
def groups (chunk : List UInt16) : List Text :=
  if chunk = [] then [[]] else chunk.map hexadecimal

theorem splitOn_fmtSubslice (chunk : List UInt16) :
    (fmtSubslice chunk).splitOn colon = groups chunk := by
  simp only [groups, fmtSubslice]
  split
  · next h => simp [h]
  · next h =>
      apply List.splitOn_intercalate
      · intro part hpart hcolon
        obtain ⟨segment, -, rfl⟩ := List.mem_map.mp hpart
        exact absurd (isHexDigit_hexadecimal segment colon hcolon) (by decide)
      · simpa using h

theorem takeWhile_groups (chunk : List UInt16) (rest : List Text) :
    (groups chunk ++ [] :: rest).takeWhile (· ≠ []) = chunk.map hexadecimal := by
  simp only [groups]
  split
  · next h => simp [h]
  · rw [List.takeWhile_append_of_pos]
    · simp
    · intro group hgroup
      obtain ⟨segment, -, rfl⟩ := List.mem_map.mp hgroup
      exact decide_eq_true (numeral_ne_nil 16 segment.toNat)

theorem nil_mem_groups {chunk : List UInt16} (h : [] ∈ groups chunk) : chunk = [] := by
  simp only [groups] at h
  split at h
  · assumption
  · obtain ⟨segment, -, hnil⟩ := List.mem_map.mp h
    exact absurd hnil (numeral_ne_nil 16 segment.toNat)

theorem reverse_groups (chunk : List UInt16) : (groups chunk).reverse = groups chunk.reverse := by
  simp only [groups, List.reverse_eq_nil_iff]
  split
  · rfl
  · rw [List.map_reverse]

/-- Two runs of segments with a gap between them. -/
theorem splitOn_gap (left right : List UInt16) :
    (fmtSubslice left ++ [colon, colon] ++ fmtSubslice right).splitOn colon =
      groups left ++ [] :: groups right := by
  have hgap : fmtSubslice left ++ [colon, colon] ++ fmtSubslice right =
      fmtSubslice left ++ colon :: ([] ++ colon :: fmtSubslice right) := by
    simp
  rw [hgap, List.splitOn_append_cons_self, List.splitOn_append_cons_self, splitOn_fmtSubslice,
    splitOn_fmtSubslice]
  rfl

theorem gap_inj {left right left' right' : List UInt16}
    (h : groups left ++ [] :: groups right = groups left' ++ [] :: groups right') :
    left = left' ∧ right = right' := by
  have hmap := List.map_injective_iff.mpr hexadecimal_injective
  constructor
  · have hleft := congrArg (List.takeWhile (· ≠ [])) h
    rw [takeWhile_groups, takeWhile_groups] at hleft
    exact hmap hleft
  · -- read from the right, the gap comes after the right part
    have hreverse : ∀ a b : List UInt16, (groups a ++ [] :: groups b).reverse =
        groups b.reverse ++ [] :: groups a.reverse := by
      intro a b
      rw [List.reverse_append, List.reverse_cons, reverse_groups, reverse_groups]
      simp
    have hright := congrArg (fun gs : List Text => gs.reverse.takeWhile (· ≠ [])) h
    simp only [hreverse] at hright
    rw [takeWhile_groups, takeWhile_groups] at hright
    exact List.reverse_injective (hmap hright)

/-- The text of an address that is not IPv4-mapped, as its groups. -/
theorem splitOn_toText {self : Ipv6Addr} (h : self.toIpv4Mapped = none) :
    self.toText.splitOn colon =
      if 1 < self.zeroes.len then
        groups (self.segments.take self.zeroes.start) ++ [] ::
          groups (self.segments.drop (self.zeroes.start + self.zeroes.len))
      else groups self.segments := by
  simp only [toText, h]
  split
  · exact splitOn_gap _ _
  · exact splitOn_fmtSubslice _

theorem segments_ne_nil (self : Ipv6Addr) : self.segments ≠ [] := by
  intro h
  have hlength := self.length_segments
  rw [h] at hlength
  exact absurd hlength (by decide)

theorem segments_inj_of_unmapped {self other : Ipv6Addr} (hself : self.toIpv4Mapped = none)
    (hother : other.toIpv4Mapped = none) (h : self.toText = other.toText) :
    self.segments = other.segments := by
  have hgroups : self.toText.splitOn colon = other.toText.splitOn colon := by rw [h]
  rw [splitOn_toText hself, splitOn_toText hother] at hgroups
  split at hgroups <;> split at hgroups
  · obtain ⟨hleft, hright⟩ := gap_inj hgroups
    -- the parts agree, and so does the number of zeros between them
    have hsegments := self.zeroes_isZero.segments_eq
    have hsegments' := other.zeroes_isZero.segments_eq
    have hlen : self.zeroes.len = other.zeroes.len := by
      have hlength := congrArg List.length hsegments
      have hlength' := congrArg List.length hsegments'
      rw [self.length_segments] at hlength
      rw [other.length_segments, ← hleft, ← hright] at hlength'
      simp only [List.length_append, List.length_replicate] at hlength hlength'
      omega
    rw [← hsegments, ← hsegments', hleft, hright, hlen]
  · have hnil : [] ∈ groups other.segments := by
      rw [← hgroups]
      simp
    exact absurd (nil_mem_groups hnil) other.segments_ne_nil
  · have hnil : [] ∈ groups self.segments := by
      rw [hgroups]
      simp
    exact absurd (nil_mem_groups hnil) self.segments_ne_nil
  · rw [groups, if_neg self.segments_ne_nil, groups, if_neg other.segments_ne_nil] at hgroups
    exact List.map_injective_iff.mpr hexadecimal_injective hgroups

theorem toText_of_mapped {self : Ipv6Addr} {ipv4 : Ipv4Addr} (h : self.toIpv4Mapped = some ipv4) :
    self.toText = utf8 "::ffff:" ++ ipv4.toText := by
  simp only [toText, h]

theorem bytes_inj {a b : UInt16} (hhigh : highByte a = highByte b) (hlow : lowByte a = lowByte b) :
    a = b := by
  have hhigh := congrArg UInt8.toNat hhigh
  have hlow := congrArg UInt8.toNat hlow
  simp only [highByte, lowByte, UInt8.toNat_ofNat'] at hhigh hlow
  have ha := a.toNat_lt
  have hb := b.toNat_lt
  apply UInt16.toNat_inj.mp
  omega

theorem segments_of_mapped {self : Ipv6Addr} {ipv4 : Ipv4Addr}
    (h : self.toIpv4Mapped = some ipv4) :
    ∃ ab cd, self.segments = [0, 0, 0, 0, 0, 0xffff] ++ [ab, cd] ∧
      ipv4.octets = (highByte ab, lowByte ab, highByte cd, lowByte cd) := by
  simp only [toIpv4Mapped] at h
  split at h
  · next htake =>
      split at h
      · next ab cd hdrop =>
          refine ⟨ab, cd, ?_, (congrArg Ipv4Addr.octets (Option.some.inj h)).symm⟩
          rw [← htake, ← hdrop, List.take_append_drop]
      · exact absurd h (by simp)
  · exact absurd h (by simp)

theorem segments_inj_of_mapped {self other : Ipv6Addr} {ipv4 : Ipv4Addr}
    (hself : self.toIpv4Mapped = some ipv4) (hother : other.toIpv4Mapped = some ipv4) :
    self.segments = other.segments := by
  obtain ⟨ab, cd, hsegments, hoctets⟩ := segments_of_mapped hself
  obtain ⟨ab', cd', hsegments', hoctets'⟩ := segments_of_mapped hother
  rw [hoctets] at hoctets'
  simp only [Prod.mk.injEq] at hoctets'
  obtain ⟨hab, hab', hcd, hcd'⟩ := hoctets'
  rw [hsegments, hsegments', bytes_inj hab hab', bytes_inj hcd hcd']

/-- The bytes of an unmapped address: no dots. -/
theorem mem_toText_of_unmapped {self : Ipv6Addr} (h : self.toIpv4Mapped = none) {b : UInt8}
    (hb : b ∈ self.toText) : b = colon ∨ IsHexDigit b := by
  have hchunk : ∀ chunk, b ∈ fmtSubslice chunk → b = colon ∨ IsHexDigit b := by
    intro chunk hmem
    obtain rfl | ⟨part, hpart, hmem⟩ := mem_intercalate hmem
    · exact .inl rfl
    · obtain ⟨segment, -, rfl⟩ := List.mem_map.mp hpart
      exact .inr (isHexDigit_hexadecimal segment b hmem)
  simp only [toText, h] at hb
  split at hb
  · rw [List.mem_append, List.mem_append] at hb
    obtain (hb | hb) | hb := hb
    · exact hchunk _ hb
    · simp only [List.mem_cons, List.not_mem_nil, or_false, or_self] at hb
      exact .inl hb
    · exact hchunk _ hb
  · exact hchunk _ hb

theorem dot_mem_of_mapped {self : Ipv6Addr} {ipv4 : Ipv4Addr} (h : self.toIpv4Mapped = some ipv4) :
    dot ∈ self.toText := by
  rw [toText_of_mapped h, Ipv4Addr.toText, Ipv4Addr.parts, List.intercalate_cons_cons]
  simp

theorem toText_injective : Function.Injective toText := by
  intro self other h
  have hsegments : self.segments = other.segments := by
    cases hself : self.toIpv4Mapped with
    | some ipv4 =>
        cases hother : other.toIpv4Mapped with
        | some ipv4' =>
            rw [toText_of_mapped hself, toText_of_mapped hother] at h
            obtain rfl := Ipv4Addr.toText_injective (List.append_cancel_left h)
            exact segments_inj_of_mapped hself hother
        | none =>
            have hdot := dot_mem_of_mapped hself
            rw [h] at hdot
            exact absurd (mem_toText_of_unmapped hother hdot) (by decide)
    | none =>
        cases hother : other.toIpv4Mapped with
        | some ipv4' =>
            have hdot := dot_mem_of_mapped hother
            rw [← h] at hdot
            exact absurd (mem_toText_of_unmapped hself hdot) (by decide)
        | none => exact segments_inj_of_unmapped hself hother h
  cases self
  cases other
  simpa using hsegments

theorem mem_toText {self : Ipv6Addr} {b : UInt8} (h : b ∈ self.toText) :
    b = colon ∨ b = dot ∨ IsHexDigit b := by
  cases hmapped : self.toIpv4Mapped with
  | none =>
      obtain rfl | hhex := mem_toText_of_unmapped hmapped h
      · exact .inl rfl
      · exact .inr (.inr hhex)
  | some ipv4 =>
      rw [toText_of_mapped hmapped, List.mem_append] at h
      obtain h | h := h
      · have hmarker : ∀ b ∈ utf8 "::ffff:", b = colon ∨ b = dot ∨ IsHexDigit b :=
          forall_mem_of_all (by decide)
        exact hmarker b h
      · exact .inr (Ipv4Addr.mem_toText h)

/-- An IPv6 address has at least two colons. -/
theorem three_le_length_splitOn (self : Ipv6Addr) :
    3 ≤ (self.toText.splitOn colon).length := by
  have hgroups : ∀ chunk, 1 ≤ (groups chunk).length := by
    intro chunk
    simp only [groups]
    split
    · simp
    · next h => simpa [Nat.one_le_iff_ne_zero] using h
  cases hmapped : self.toIpv4Mapped with
  | none =>
      rw [splitOn_toText hmapped]
      split
      · have hleft := hgroups (self.segments.take self.zeroes.start)
        have hright := hgroups (self.segments.drop (self.zeroes.start + self.zeroes.len))
        rw [List.length_append, List.length_cons]
        omega
      · rw [groups, if_neg self.segments_ne_nil, List.length_map, self.length_segments]
        decide
  | some ipv4 =>
      have hmarker : utf8 "::ffff:" ++ ipv4.toText =
          [] ++ colon :: ([] ++ colon :: (utf8 "ffff" ++ colon :: ipv4.toText)) := rfl
      rw [toText_of_mapped hmapped, hmarker, List.splitOn_append_cons_self,
        List.splitOn_append_cons_self, List.splitOn_append_cons_self]
      simp only [List.length_append]
      have hone : ∀ t : Text, 1 ≤ (t.splitOn colon).length := fun t =>
        List.length_pos_of_ne_nil (List.splitOn_ne_nil colon t)
      have h1 := hone []
      have h2 := hone (utf8 "ffff")
      have h3 := hone ipv4.toText
      omega

end Ipv6Addr

/-! ## Both versions -/

inductive IpAddr where
  | v4 (addr : Ipv4Addr)
  | v6 (addr : Ipv6Addr)
  deriving DecidableEq

namespace IpAddr

def toText : IpAddr → Text
  | .v4 addr => addr.toText
  | .v6 addr => addr.toText

def IsV4 : IpAddr → Prop
  | .v4 _ => True
  | .v6 _ => False

instance : (addr : IpAddr) → Decidable addr.IsV4
  | .v4 _ => isTrue trivial
  | .v6 _ => isFalse id

theorem mem_toText {self : IpAddr} {b : UInt8} (h : b ∈ self.toText) :
    b = colon ∨ b = dot ∨ IsHexDigit b := by
  cases self with
  | v4 addr => exact .inr (Ipv4Addr.mem_toText h)
  | v6 addr => exact Ipv6Addr.mem_toText h

theorem toText_injective : Function.Injective toText := by
  have hversions : ∀ (addr : Ipv4Addr) (addr' : Ipv6Addr), addr.toText ≠ addr'.toText := by
    intro addr addr' h
    have hthree := addr'.three_le_length_splitOn
    rw [← h, List.splitOn_eq_singleton addr.colon_not_mem_toText, List.length_singleton] at hthree
    omega
  intro self other h
  cases self with
  | v4 addr =>
      cases other with
      | v4 addr' => rw [Ipv4Addr.toText_injective h]
      | v6 addr' => exact absurd h (hversions addr addr')
  | v6 addr =>
      cases other with
      | v4 addr' => exact absurd h.symm (hversions addr' addr)
      | v6 addr' => rw [Ipv6Addr.toText_injective h]

/-- The longest run of zeros is left out, and of two equal ones the first. -/
example : (IpAddr.v6 ⟨[0x2001, 0xdb8, 0, 0, 1, 0, 0, 0xff], rfl⟩).toText =
    utf8 "2001:db8::1:0:0:ff" := by decide

example : (IpAddr.v6 ⟨[0, 0, 0, 0, 0, 0xffff, 0xc0a8, 1], rfl⟩).toText =
    utf8 "::ffff:192.168.0.1" := by decide

end IpAddr

end RollupBoost
