import Mathlib.Data.List.Infix

/-!
# Glob patterns over bytes

The patterns of a key listing: `*` stands for any bytes, `?` for one byte, `[...]` for one byte
of a set (`[^...]`: not of the set, `a-z`: a range) and a backslash takes the next byte as it
is. A class that is not closed extends to the end of the pattern.

A pattern is cut into tokens first, and the tokens are matched from the left. A pattern without
these characters is plain and matches itself only; `matches_append` and `matches_star` take
a pattern apart whose pieces are plain. A pattern with wildcards but without classes and escapes
is simple: it still matches itself, and it can be cut at any place.
-/

namespace Machine

namespace Glob

abbrev star : UInt8 := 42
abbrev questionMark : UInt8 := 63
abbrev openBracket : UInt8 := 91
abbrev closeBracket : UInt8 := 93
abbrev caret : UInt8 := 94
abbrev hyphen : UInt8 := 45
abbrev backslash : UInt8 := 92

/-- A set of bytes, given by ranges. -/
structure ByteClass where
  negated : Bool
  ranges : List (UInt8 × UInt8)
  deriving DecidableEq

namespace ByteClass

/-- The ends of a range may come in either order. -/
def addRange (self : ByteClass) (start stop : UInt8) : ByteClass :=
  { self with ranges := self.ranges ++ [(min start stop, max start stop)] }

def add (self : ByteClass) (b : UInt8) : ByteClass := self.addRange b b

def contains (self : ByteClass) (b : UInt8) : Bool :=
  self.ranges.any (fun range => range.1 ≤ b && b ≤ range.2) != self.negated

end ByteClass

inductive Token where
  | anyBytes
  | anyByte
  | literal (b : UInt8)
  | oneOf (bytes : ByteClass)
  deriving DecidableEq

/-- The tokens of a pattern; the first argument is the class that is being read. -/
def tokenize : Option ByteClass → List UInt8 → List Token
  | none, [] => []
  | some bytes, [] => [.oneOf bytes]
  | none, b :: rest =>
      if b = star then .anyBytes :: tokenize none rest
      else if b = questionMark then .anyByte :: tokenize none rest
      else if b = openBracket then
        match rest with
        | [] => [.oneOf { negated := false, ranges := [] }]
        | next :: after =>
            if next = caret then tokenize (some { negated := true, ranges := [] }) after
            else tokenize (some { negated := false, ranges := [] }) (next :: after)
      else if b = backslash then
        match rest with
        | [] => [.literal b]
        | next :: after => .literal next :: tokenize none after
      else .literal b :: tokenize none rest
  | some bytes, b :: rest =>
      if b = backslash ∧ rest ≠ [] then
        match rest with
        | [] => []
        | next :: after => tokenize (some (bytes.add next)) after
      else if b = closeBracket then .oneOf bytes :: tokenize none rest
      else
        match rest with
        | [] => [.oneOf (bytes.add b)]
        | [last] => tokenize (some (bytes.add b)) [last]
        | separator :: stop :: after =>
            if separator = hyphen then tokenize (some (bytes.addRange b stop)) after
            else tokenize (some (bytes.add b)) (separator :: stop :: after)

/-- The byte that a token other than `anyBytes` stands for. -/
def Token.accepts : Token → UInt8 → Bool
  | .anyBytes, _ => true
  | .anyByte, _ => true
  | .literal expected, b => b == expected
  | .oneOf bytes, b => bytes.contains b

def matchTokens : List Token → List UInt8 → Bool
  | [], text => text.isEmpty
  | .anyBytes :: tokens, text => text.tails.any (matchTokens tokens)
  | token :: tokens, text =>
      match text with
      | [] => false
      | b :: text => token.accepts b && matchTokens tokens text

end Glob

/-- The pattern matches the text. -/
def globMatches (pattern text : List UInt8) : Bool :=
  Glob.matchTokens (Glob.tokenize none pattern) text

namespace Glob

/-- The byte has no special meaning in a pattern. -/
def IsPlain (b : UInt8) : Prop :=
  b ≠ star ∧ b ≠ questionMark ∧ b ≠ openBracket ∧ b ≠ backslash

instance (b : UInt8) : Decidable (IsPlain b) := inferInstanceAs (Decidable (_ ∧ _))

/-- The text has no byte with a special meaning. -/
def Plain (text : List UInt8) : Prop := ∀ b ∈ text, IsPlain b

instance (text : List UInt8) : Decidable (Plain text) := List.decidableBAll IsPlain text

/-- The text has no byte that begins a class or an escape. -/
def Simple (text : List UInt8) : Prop := ∀ b ∈ text, b ≠ openBracket ∧ b ≠ backslash

instance (text : List UInt8) : Decidable (Simple text) :=
  List.decidableBAll (fun b => b ≠ openBracket ∧ b ≠ backslash) text

variable {pattern rest text : List UInt8}

theorem Plain.append (hpattern : Plain pattern) (hrest : Plain rest) : Plain (pattern ++ rest) := by
  intro b hb
  obtain hb | hb := List.mem_append.mp hb
  · exact hpattern b hb
  · exact hrest b hb

theorem matchTokens_anyBytes {tokens : List Token} :
    matchTokens (.anyBytes :: tokens) text = true ↔
      ∃ skipped after, text = skipped ++ after ∧ matchTokens tokens after = true := by
  simp only [matchTokens, List.any_eq_true, List.mem_tails]
  constructor
  · rintro ⟨after, ⟨skipped, rfl⟩, hafter⟩
    exact ⟨skipped, after, rfl, hafter⟩
  · rintro ⟨skipped, after, rfl, hafter⟩
    exact ⟨after, ⟨skipped, rfl⟩, hafter⟩

theorem matchTokens_byte {token : Token} {tokens : List Token} (h : token ≠ .anyBytes) :
    matchTokens (token :: tokens) text = true ↔
      ∃ b after, text = b :: after ∧ token.accepts b = true ∧ matchTokens tokens after = true := by
  cases token with
  | anyBytes => exact absurd rfl h
  | anyByte => cases text <;> simp [matchTokens]
  | literal expected => cases text <;> simp [matchTokens]
  | oneOf bytes => cases text <;> simp [matchTokens]

theorem tokenize_literal {b : UInt8} (hb : IsPlain b) :
    tokenize none (b :: rest) = .literal b :: tokenize none rest := by
  obtain ⟨hstar, hquestion, hbracket, hbackslash⟩ := hb
  rw [tokenize.eq_def]
  simp only [if_neg hstar, if_neg hquestion, if_neg hbracket, if_neg hbackslash]

theorem matches_literal {b : UInt8} (hb : IsPlain b) :
    globMatches (b :: rest) text = true ↔
      ∃ after, text = b :: after ∧ globMatches rest after = true := by
  rw [globMatches, tokenize_literal hb, matchTokens_byte (by simp)]
  simp only [Token.accepts, beq_iff_eq]
  constructor
  · rintro ⟨_, after, rfl, rfl, hafter⟩
    exact ⟨after, rfl, hafter⟩
  · rintro ⟨after, rfl, hafter⟩
    exact ⟨b, after, rfl, rfl, hafter⟩

/-- A plain beginning of a pattern is a beginning of the text. -/
theorem matches_append (h : Plain pattern) :
    globMatches (pattern ++ rest) text = true ↔
      ∃ after, text = pattern ++ after ∧ globMatches rest after = true := by
  induction pattern generalizing text with
  | nil => simp
  | cons b pattern ih =>
      have hrest : Plain pattern := fun b' hb' => h b' (List.mem_cons_of_mem _ hb')
      rw [List.cons_append, matches_literal (h b List.mem_cons_self)]
      simp only [ih hrest, List.cons_append]
      constructor
      · rintro ⟨_, rfl, after, rfl, hafter⟩
        exact ⟨after, rfl, hafter⟩
      · rintro ⟨after, rfl, hafter⟩
        exact ⟨_, rfl, after, rfl, hafter⟩

theorem matches_star :
    globMatches (star :: rest) text = true ↔
      ∃ skipped after, text = skipped ++ after ∧ globMatches rest after = true := by
  have htokens : tokenize none (star :: rest) = .anyBytes :: tokenize none rest := by
    rw [tokenize.eq_def]
    rfl
  rw [globMatches, htokens, matchTokens_anyBytes]
  rfl

/-! ### Simple patterns -/

/-- The token of a byte outside of classes and escapes. -/
def token (b : UInt8) : Token :=
  if b = star then .anyBytes else if b = questionMark then .anyByte else .literal b

theorem tokenize_append (h : Simple pattern) :
    tokenize none (pattern ++ rest) = pattern.map token ++ tokenize none rest := by
  induction pattern with
  | nil => rfl
  | cons b pattern ih =>
      have hrest : Simple pattern := fun b' hb' => h b' (List.mem_cons_of_mem _ hb')
      obtain ⟨hbracket, hbackslash⟩ := h b List.mem_cons_self
      rw [List.cons_append, tokenize.eq_def]
      simp only [if_neg hbracket, if_neg hbackslash, ih hrest, List.map_cons, List.cons_append,
        token]
      split
      · rfl
      · split <;> rfl

theorem matchTokens_append {tokens tokens' : List Token} :
    matchTokens (tokens ++ tokens') text = true ↔
      ∃ before after, text = before ++ after ∧ matchTokens tokens before = true ∧
        matchTokens tokens' after = true := by
  induction tokens generalizing text with
  | nil => simp [matchTokens]
  | cons token tokens ih =>
      by_cases hany : token = .anyBytes
      · simp only [hany, List.cons_append, matchTokens_anyBytes, ih]
        constructor
        · rintro ⟨skipped, _, rfl, before, after, rfl, hbefore, hafter⟩
          exact ⟨skipped ++ before, after, by simp, ⟨skipped, before, rfl, hbefore⟩, hafter⟩
        · rintro ⟨_, after, rfl, ⟨skipped, before, rfl, hbefore⟩, hafter⟩
          exact ⟨skipped, before ++ after, by simp, before, after, rfl, hbefore, hafter⟩
      · simp only [List.cons_append, matchTokens_byte hany, ih]
        constructor
        · rintro ⟨b, _, rfl, haccepts, before, after, rfl, hbefore, hafter⟩
          exact ⟨b :: before, after, rfl, ⟨b, before, rfl, haccepts, hbefore⟩, hafter⟩
        · rintro ⟨_, after, rfl, ⟨b, before, rfl, haccepts, hbefore⟩, hafter⟩
          exact ⟨b, before ++ after, rfl, haccepts, before, after, rfl, hbefore, hafter⟩

theorem tokenize_simple (h : Simple pattern) : tokenize none pattern = pattern.map token := by
  have happend := @tokenize_append pattern [] h
  rw [List.append_nil] at happend
  rw [happend]
  exact List.append_nil _

/-- A simple beginning of a pattern matches some beginning of the text. -/
theorem matches_append_simple (h : Simple pattern) :
    globMatches (pattern ++ rest) text = true ↔
      ∃ before after, text = before ++ after ∧ globMatches pattern before = true ∧
        globMatches rest after = true := by
  simp only [globMatches, tokenize_append h, tokenize_simple h, matchTokens_append]

theorem matches_self (h : Simple text) : globMatches text text = true := by
  rw [globMatches, tokenize_simple h]
  clear h
  induction text with
  | nil => rfl
  | cons b text ih =>
      rw [List.map_cons]
      by_cases hany : token b = .anyBytes
      · rw [hany, matchTokens_anyBytes]
        exact ⟨[b], text, rfl, ih⟩
      · rw [matchTokens_byte hany]
        refine ⟨b, text, rfl, ?_, ih⟩
        simp only [token]
        split
        · rfl
        · split
          · rfl
          · exact beq_self_eq_true b

/-- Every byte of a simple pattern without a special meaning needs a byte of the text. -/
theorem count_le_of_matches (h : Simple pattern) {b : UInt8} (hb : IsPlain b)
    (hmatch : globMatches pattern text = true) : pattern.count b ≤ text.count b := by
  rw [globMatches, tokenize_simple h] at hmatch
  clear h
  induction pattern generalizing text with
  | nil => simp
  | cons c pattern ih =>
      rw [List.map_cons] at hmatch
      by_cases hany : token c = .anyBytes
      · rw [hany, matchTokens_anyBytes] at hmatch
        obtain ⟨skipped, after, rfl, hafter⟩ := hmatch
        have hle := ih hafter
        have hc : c ≠ b := by
          rintro rfl
          simp [token, hb.1, hb.2.1] at hany
        rw [List.count_cons_of_ne hc, List.count_append]
        omega
      · rw [matchTokens_byte hany] at hmatch
        obtain ⟨d, after, rfl, haccepts, hafter⟩ := hmatch
        have hle := ih hafter
        by_cases hc : c = b
        · obtain rfl : d = c := by
            simpa [hc, token, hb.1, hb.2.1, Token.accepts] using haccepts
          rw [hc, List.count_cons_self, List.count_cons_self]
          omega
        · rw [List.count_cons_of_ne hc]
          have hcount := List.count_le_count_cons (a := b) (b := d) (l := after)
          omega

theorem matches_nil : globMatches [] text = true ↔ text = [] := by
  simp [globMatches, tokenize, matchTokens]

/-- A plain pattern matches itself only. -/
theorem matches_plain (h : Plain pattern) : globMatches pattern text = true ↔ text = pattern := by
  have happend := @matches_append pattern [] text h
  rw [List.append_nil] at happend
  rw [happend]
  simp [matches_nil]

/-- Two plain pieces around one star. -/
theorem matches_between {before after : List UInt8} (hbefore : Plain before)
    (hafter : Plain after) :
    globMatches (before ++ star :: after) text = true ↔
      ∃ middle, text = before ++ middle ++ after := by
  rw [matches_append hbefore]
  simp only [matches_star, matches_plain hafter]
  constructor
  · rintro ⟨_, rfl, middle, _, rfl, rfl⟩
    exact ⟨middle, by simp⟩
  · rintro ⟨middle, rfl⟩
    exact ⟨middle ++ after, by simp, middle, after, rfl, rfl⟩

example : globMatches [104, star, 108, 111] [104, 101, 108, 108, 111] = true := by decide

example : globMatches [openBracket, 97, hyphen, 99, closeBracket] [98] = true := by decide

end Glob

end Machine
