import RollupBoost.Machine.Outcome
import RollupBoost.RateLimit.Address

/-!
# API keys of the proxy

`Authentication::try_from` (`websocket-proxy/src/auth.rs`) reads arguments of the form
`app:key:limit` one after the other and keeps two maps, from keys to apps and from apps to
limits. An argument passes seven checks, in a fixed order, against what the earlier arguments
have left.

What is accepted is exactly the format: every accepted list comes from distinct apps and
distinct keys, and the maps hold just these. What is rejected is not always rejected with an
error. The limit is converted at the very end, with an `unwrap`, so an argument that is wrong
in nothing but its limit ends the process.
-/

namespace RollupBoost

open Machine

/-! ## Limits -/

abbrev plus : UInt8 := 43

def IsDigit (b : UInt8) : Prop := 48 ≤ b ∧ b ≤ 57

instance (b : UInt8) : Decidable (IsDigit b) := inferInstanceAs (Decidable (_ ∧ _))

/-- The value of decimal digits, with what was read before them. -/
def decimalValue (result : Nat) (digits : Text) : Nat :=
  digits.foldl (fun result c => result * 10 + digitValue c) result

/-- The loop of `usize::from_str`, with its checks for digits and for overflow. -/
def parseDigits : Text → Nat → Option Nat
  | [], result => some result
  | c :: rest, result =>
      if IsDigit c then
        let result := result * 10 + digitValue c
        if result < 2 ^ 64 then parseDigits rest result else none
      else none

/-- The text without the plus sign that may stand in front. -/
def unsigned (text : Text) : Text := if text.head? = some plus then text.tail else text

/-- `usize::from_str` -/
def parseUsize (text : Text) : Option UInt64 :=
  if unsigned text = [] then none else (parseDigits (unsigned text) 0).map UInt64.ofNat

/-- A spelling of a number: leading zeros and a plus sign are allowed. -/
def IsDecimal (text : Text) (n : Nat) : Prop :=
  ∃ digits, digits ≠ [] ∧ (∀ c ∈ digits, IsDigit c) ∧ (text = digits ∨ text = plus :: digits) ∧
    Nat.ofDigits 10 (digits.map digitValue).reverse = n

theorem decimalValue_zero (digits : Text) :
    decimalValue 0 digits = Nat.ofDigits 10 (digits.map digitValue).reverse := by
  rw [← foldl_eq_ofDigits, List.foldl_map, decimalValue]

theorem le_decimalValue (result : Nat) (digits : Text) : result ≤ decimalValue result digits := by
  induction digits generalizing result with
  | nil => exact Nat.le_refl result
  | cons c digits ih =>
      have hstep := ih (result * 10 + digitValue c)
      have hcons : decimalValue result (c :: digits) =
          decimalValue (result * 10 + digitValue c) digits := rfl
      omega

theorem parseDigits_eq_some_iff {digits : Text} {result n : Nat} (hresult : result < 2 ^ 64) :
    parseDigits digits result = some n ↔
      (∀ c ∈ digits, IsDigit c) ∧ decimalValue result digits = n ∧ n < 2 ^ 64 := by
  induction digits generalizing result with
  | nil =>
      have hbound : result = n → n < 2 ^ 64 := fun h => h ▸ hresult
      simpa [parseDigits, decimalValue] using hbound
  | cons c digits ih =>
      have hcons : decimalValue result (c :: digits) =
          decimalValue (result * 10 + digitValue c) digits := rfl
      have hle := le_decimalValue (result * 10 + digitValue c) digits
      rw [List.forall_mem_cons, hcons]
      simp only [parseDigits]
      split
      · next hdigit =>
          split
          · next hlt => rw [ih hlt, and_assoc, and_iff_right hdigit]
          · next hge =>
              -- the digits that follow only make the value larger
              constructor
              · intro h
                exact absurd h (by simp)
              · rintro ⟨-, hvalue, hlt⟩
                omega
      · next hdigit => simp [hdigit]

theorem not_isDigit_plus : ¬ IsDigit plus := by decide

theorem parseUsize_eq_some_iff {text : Text} {limit : UInt64} :
    parseUsize text = some limit ↔ IsDecimal text limit.toNat := by
  have hdigits : ∀ digits : Text, (parseDigits digits 0).map UInt64.ofNat = some limit ↔
      (∀ c ∈ digits, IsDigit c) ∧
        Nat.ofDigits 10 (digits.map digitValue).reverse = limit.toNat := by
    intro digits
    rw [Option.map_eq_some_iff, ← decimalValue_zero]
    constructor
    · rintro ⟨n, hn, rfl⟩
      obtain ⟨hall, hvalue, hlt⟩ := (parseDigits_eq_some_iff (by omega)).mp hn
      exact ⟨hall, by rw [hvalue, UInt64.toNat_ofNat_of_lt' hlt]⟩
    · rintro ⟨hall, hvalue⟩
      refine ⟨limit.toNat, ?_, UInt64.ofNat_toNat⟩
      exact (parseDigits_eq_some_iff (by omega)).mpr ⟨hall, hvalue, limit.toNat_lt⟩
  simp only [parseUsize]
  constructor
  · intro h
    split at h
    · exact absurd h (by simp)
    · next hne =>
        obtain ⟨hall, hvalue⟩ := (hdigits _).mp h
        refine ⟨unsigned text, hne, hall, ?_, hvalue⟩
        simp only [unsigned]
        split
        · next hplus => exact .inr (List.cons_head?_tail hplus).symm
        · exact .inl rfl
  · rintro ⟨digits, hne, hall, htext, hvalue⟩
    have hrest : unsigned text = digits := by
      obtain rfl | rfl := htext
      · rw [unsigned, if_neg]
        intro hplus
        exact not_isDigit_plus (hall plus (List.mem_of_mem_head? hplus))
      · rfl
    rw [hrest, if_neg hne]
    exact (hdigits digits).mpr ⟨hall, hvalue⟩

theorem isDigit_digit : ∀ d < 10, IsDigit (digit d) := by decide

/-- The usual text of a number is a spelling of it. -/
theorem isDecimal_numeral (n : Nat) : IsDecimal (numeral 10 n) n := by
  refine ⟨numeral 10 n, numeral_ne_nil 10 n, ?_, .inl rfl, ofDigits_numeral (by omega) (by omega)⟩
  intro c hc
  simp only [numeral] at hc
  split at hc
  · rw [List.mem_singleton.mp hc]
    decide
  · rw [List.mem_reverse, List.mem_map] at hc
    obtain ⟨d, hd, rfl⟩ := hc
    exact isDigit_digit d (Nat.digits_lt_base (by omega) hd)

/-! ## Arguments -/

inductive AuthenticationParseError where
  | noData
  | missingApplicationArgument (arg : Text)
  | missingAPIKeyArgument (app : Text)
  | missingRateLimitArgument (app : Text)
  | tooManyComponents (app : Text)
  | duplicateApplicationArgument (app : Text)
  | duplicateAPIKeyArgument (app : Text)
  deriving DecidableEq

structure Authentication where
  keyToApplication : Table Text Text
  appToRateLimit : Table Text UInt64

/-- What the loop over the arguments has gathered. -/
structure ParsedArgs extends Authentication where
  applications : List Text

namespace ParsedArgs

def new : ParsedArgs where
  applications := []
  keyToApplication := .empty
  appToRateLimit := .empty

def insert (self : ParsedArgs) (app key : Text) (limit : UInt64) : ParsedArgs where
  applications := app :: self.applications
  keyToApplication := self.keyToApplication.insert key app
  appToRateLimit := self.appToRateLimit.insert app limit

end ParsedArgs

namespace Authentication

/-- `parts.next().ok_or(e)?`, with the same error for an empty part. -/
def nextPart (e : AuthenticationParseError) :
    List Text → Outcome AuthenticationParseError (Text × List Text)
  | [] => .error e
  | part :: parts => if part = [] then .error e else .ok (part, parts)

def parseArg (parsed : ParsedArgs) (arg : Text) :
    Outcome AuthenticationParseError ParsedArgs := do
  let (app, parts) ← nextPart (.missingApplicationArgument arg) (arg.splitOn colon)
  let (key, parts) ← nextPart (.missingAPIKeyArgument app) parts
  let (rateLimit, parts) ← nextPart (.missingRateLimitArgument app) parts
  if 0 < parts.length then .error (.tooManyComponents app)
  else if parsed.applications.contains app then .error (.duplicateApplicationArgument app)
  else if (parsed.keyToApplication key).isSome then .error (.duplicateAPIKeyArgument app)
  else do
    let limit ← Outcome.expect "called `Result::unwrap()` on an `Err` value" (parseUsize rateLimit)
    .ok (parsed.insert app key limit)

def parseArgs : List Text → ParsedArgs → Outcome AuthenticationParseError ParsedArgs
  | [], parsed => .ok parsed
  | arg :: args, parsed => do
      let parsed ← parseArg parsed arg
      parseArgs args parsed

def tryFrom (args : List Text) : Outcome AuthenticationParseError Authentication :=
  if args.isEmpty then .error .noData
  else do
    let parsed ← parseArgs args .new
    .ok parsed.toAuthentication

end Authentication

/-! ## The format -/

/-- An app with its key and its limit. -/
structure ApiKey where
  app : Text
  key : Text
  limit : UInt64
  app_ne_nil : app ≠ []
  colon_not_mem_app : colon ∉ app
  key_ne_nil : key ≠ []
  colon_not_mem_key : colon ∉ key

/-- The three parts of an argument. -/
def joinParts (app key limit : Text) : Text := app ++ colon :: (key ++ colon :: limit)

namespace ApiKey

def format (self : ApiKey) : Text := joinParts self.app self.key (numeral 10 self.limit.toNat)

/-- The argument is the format of the key, up to the spelling of the limit. -/
def IsSpelledBy (self : ApiKey) (arg : Text) : Prop :=
  ∃ limit, IsDecimal limit self.limit.toNat ∧ arg = joinParts self.app self.key limit

theorem isSpelledBy_format (self : ApiKey) : self.IsSpelledBy self.format :=
  ⟨numeral 10 self.limit.toNat, isDecimal_numeral _, rfl⟩

end ApiKey

theorem IsDecimal.colon_not_mem {text : Text} {n : Nat} (h : IsDecimal text n) :
    colon ∉ text := by
  obtain ⟨digits, -, hall, htext, -⟩ := h
  have hdigits : colon ∉ digits := fun hmem => absurd (hall colon hmem) (by decide)
  obtain rfl | rfl := htext
  · exact hdigits
  · rw [List.mem_cons, not_or]
    exact ⟨by decide, hdigits⟩

theorem IsDecimal.ne_nil {text : Text} {n : Nat} (h : IsDecimal text n) : text ≠ [] := by
  obtain ⟨digits, hne, -, htext, -⟩ := h
  obtain rfl | rfl := htext
  · exact hne
  · simp

theorem splitOn_joinParts {app key limit : Text} (happ : colon ∉ app) (hkey : colon ∉ key)
    (hlimit : colon ∉ limit) : (joinParts app key limit).splitOn colon = [app, key, limit] := by
  rw [joinParts, List.splitOn_append_cons_self, List.splitOn_append_cons_self,
    List.splitOn_eq_singleton happ, List.splitOn_eq_singleton hkey,
    List.splitOn_eq_singleton hlimit]
  rfl

theorem eq_joinParts {arg app key limit : Text} (h : arg.splitOn colon = [app, key, limit]) :
    arg = joinParts app key limit ∧ colon ∉ app ∧ colon ∉ key ∧ colon ∉ limit := by
  have hjoin : [colon].intercalate (arg.splitOn colon) = arg := List.intercalate_splitOn colon
  have hpart : ∀ part ∈ [app, key, limit], colon ∉ part := by
    intro part hmem hcolon
    rw [← h] at hmem
    exact (mem_of_mem_splitOn hmem hcolon).2 rfl
  refine ⟨?_, hpart app (by simp), hpart key (by simp), hpart limit (by simp)⟩
  rw [← hjoin, h]
  simp [joinParts, List.intercalate_cons_cons]

/-- The first part of an argument. -/
def appOf (arg : Text) : Text := (arg.splitOn colon).getD 0 []

/-- The second part of an argument, empty if there is none. -/
def keyOf (arg : Text) : Text := (arg.splitOn colon).getD 1 []

def limitOf (arg : Text) : Text := (arg.splitOn colon).getD 2 []

namespace ApiKey

variable {self other : ApiKey} {arg : Text}

theorem IsSpelledBy.splitOn (h : self.IsSpelledBy arg) :
    ∃ limit, IsDecimal limit self.limit.toNat ∧
      arg.splitOn colon = [self.app, self.key, limit] := by
  obtain ⟨limit, hlimit, rfl⟩ := h
  exact ⟨limit, hlimit,
    splitOn_joinParts self.colon_not_mem_app self.colon_not_mem_key hlimit.colon_not_mem⟩

theorem IsSpelledBy.appOf_eq (h : self.IsSpelledBy arg) : appOf arg = self.app := by
  obtain ⟨limit, -, hsplit⟩ := h.splitOn
  rw [appOf, hsplit]
  rfl

theorem IsSpelledBy.keyOf_eq (h : self.IsSpelledBy arg) : keyOf arg = self.key := by
  obtain ⟨limit, -, hsplit⟩ := h.splitOn
  rw [keyOf, hsplit]
  rfl

/-- An argument spells one key only. -/
theorem IsSpelledBy.unique (h : self.IsSpelledBy arg) (hother : other.IsSpelledBy arg) :
    self = other := by
  obtain ⟨limit, hlimit, hsplit⟩ := h.splitOn
  obtain ⟨limit', hlimit', hsplit'⟩ := hother.splitOn
  rw [hsplit] at hsplit'
  simp only [List.cons.injEq, and_true] at hsplit'
  obtain ⟨happ, hkey, rfl⟩ := hsplit'
  have hsame : self.limit = other.limit := by
    have hself := parseUsize_eq_some_iff.mpr hlimit
    have hother := parseUsize_eq_some_iff.mpr hlimit'
    exact Option.some.inj (hself.symm.trans hother)
  cases self
  cases other
  simp_all

end ApiKey

/-! ## One argument -/

/-- The loop has gathered these keys. -/
structure ParsedArgs.Holds (parsed : ParsedArgs) (keys : List ApiKey) : Prop where
  application : ∀ app, app ∈ parsed.applications ↔ app ∈ keys.map (·.app)
  key : ∀ key app, parsed.keyToApplication key = some app ↔
    ∃ apiKey ∈ keys, apiKey.key = key ∧ apiKey.app = app
  limit : ∀ app limit, parsed.appToRateLimit app = some limit ↔
    ∃ apiKey ∈ keys, apiKey.app = app ∧ apiKey.limit = limit
  apps_nodup : (keys.map (·.app)).Nodup
  keys_nodup : (keys.map (·.key)).Nodup

/-- The argument is not in the format, or repeats an app or a key. -/
def Offends (before : List Text) (arg : Text) : Prop :=
  (¬ ∃ key : ApiKey, key.IsSpelledBy arg) ∨
    ∃ other ∈ before, appOf other = appOf arg ∨ keyOf other = keyOf arg

/-- Nothing is wrong with the argument but that its limit is not a number of 64 bits. -/
structure LimitUnreadable (before : List Text) (arg : Text) : Prop where
  parts : (arg.splitOn colon).length = 3
  app : appOf arg ≠ []
  key : keyOf arg ≠ []
  limit : limitOf arg ≠ []
  unreadable : ∀ n : UInt64, ¬ IsDecimal (limitOf arg) n.toNat
  fresh : ∀ other ∈ before, appOf other ≠ appOf arg ∧ keyOf other ≠ keyOf arg

/-- The error is for this argument, and what it says is true of it. -/
def AuthenticationParseError.IsFor (before : List Text) (arg : Text) :
    AuthenticationParseError → Prop
  | .noData => False
  | .missingApplicationArgument named => named = arg ∧ appOf arg = []
  | .missingAPIKeyArgument app => app = appOf arg ∧ keyOf arg = []
  | .missingRateLimitArgument app => app = appOf arg ∧ limitOf arg = []
  | .tooManyComponents app => app = appOf arg ∧ 3 < (arg.splitOn colon).length
  | .duplicateApplicationArgument app => app = appOf arg ∧ ∃ other ∈ before, appOf other = app
  | .duplicateAPIKeyArgument app => app = appOf arg ∧ ∃ other ∈ before, keyOf other = keyOf arg

variable {before : List Text} {arg : Text} {keys : List ApiKey} {parsed : ParsedArgs}

theorem offends_of_isFor {e : AuthenticationParseError} (h : e.IsFor before arg) :
    Offends before arg := by
  by_contra hoffends
  obtain ⟨⟨key, hspelled⟩, hfresh⟩ : (∃ key : ApiKey, key.IsSpelledBy arg) ∧
      ∀ other ∈ before, ¬ (appOf other = appOf arg ∨ keyOf other = keyOf arg) := by
    simpa [Offends, not_or] using hoffends
  obtain ⟨limit, hlimit, hsplit⟩ := hspelled.splitOn
  have happ : appOf arg ≠ [] := by rw [hspelled.appOf_eq]; exact key.app_ne_nil
  have hkey : keyOf arg ≠ [] := by rw [hspelled.keyOf_eq]; exact key.key_ne_nil
  have hlimitOf : limitOf arg ≠ [] := by rw [limitOf, hsplit]; exact hlimit.ne_nil
  cases e with
  | noData => exact h
  | missingApplicationArgument named => exact happ h.2
  | missingAPIKeyArgument app => exact hkey h.2
  | missingRateLimitArgument app => exact hlimitOf h.2
  | tooManyComponents app =>
      have hlength := h.2
      rw [hsplit] at hlength
      exact absurd hlength (by simp)
  | duplicateApplicationArgument app =>
      obtain ⟨rfl, other, hother, hsame⟩ := h
      exact hfresh other hother (.inl hsame)
  | duplicateAPIKeyArgument app =>
      obtain ⟨-, other, hother, hsame⟩ := h
      exact hfresh other hother (.inr hsame)

theorem LimitUnreadable.offends (h : LimitUnreadable before arg) : Offends before arg := by
  refine .inl ?_
  rintro ⟨key, hspelled⟩
  obtain ⟨limit, hlimit, hsplit⟩ := hspelled.splitOn
  have hlimitOf : limitOf arg = limit := by rw [limitOf, hsplit]; rfl
  exact h.unreadable key.limit (hlimitOf ▸ hlimit)

/-- What can be told from a key can be told from its spelling. -/
theorem map_of_isSpelledBy {f : Text → Text} {g : ApiKey → Text}
    (hpart : ∀ {key : ApiKey} {arg : Text}, key.IsSpelledBy arg → f arg = g key)
    (h : List.Forall₂ ApiKey.IsSpelledBy keys before) : before.map f = keys.map g := by
  induction h with
  | nil => rfl
  | cons hspelled hrest ih => rw [List.map_cons, List.map_cons, ih, hpart hspelled]

theorem map_appOf (h : List.Forall₂ ApiKey.IsSpelledBy keys before) :
    before.map appOf = keys.map (·.app) :=
  map_of_isSpelledBy ApiKey.IsSpelledBy.appOf_eq h

theorem map_keyOf (h : List.Forall₂ ApiKey.IsSpelledBy keys before) :
    before.map keyOf = keys.map (·.key) :=
  map_of_isSpelledBy ApiKey.IsSpelledBy.keyOf_eq h

/-- Inserting a fresh entry adds it to the entries that a table holds. -/
theorem insert_eq_some_iff {α κ β : Type} [DecidableEq κ] {xs : List α} {f : α → κ} {g : α → β}
    {table : Table κ β}
    (h : ∀ key value, table key = some value ↔ ∃ x ∈ xs, f x = key ∧ g x = value) {x : α}
    (hfresh : f x ∉ xs.map f) (key : κ) (value : β) :
    table.insert (f x) (g x) key = some value ↔ ∃ y ∈ xs ++ [x], f y = key ∧ g y = value := by
  constructor
  · intro hinsert
    by_cases heq : key = f x
    · subst heq
      rw [Table.insert_self] at hinsert
      exact ⟨x, by simp, rfl, Option.some.inj hinsert⟩
    · rw [Table.insert_of_ne _ heq] at hinsert
      obtain ⟨y, hy, hkey, hvalue⟩ := (h key value).mp hinsert
      exact ⟨y, List.mem_append_left _ hy, hkey, hvalue⟩
  · rintro ⟨y, hy, rfl, rfl⟩
    obtain hy | hy := List.mem_append.mp hy
    · have hne : f y ≠ f x := fun heq => hfresh (List.mem_map.mpr ⟨y, hy, heq⟩)
      rw [Table.insert_of_ne _ hne]
      exact (h _ _).mpr ⟨y, hy, rfl, rfl⟩
    · rw [List.mem_singleton.mp hy, Table.insert_self]

namespace ParsedArgs.Holds

theorem new : Holds .new [] := by
  refine ⟨?_, ?_, ?_, List.nodup_nil, List.nodup_nil⟩
  all_goals simp [ParsedArgs.new]

theorem isSome_key_iff (h : parsed.Holds keys) (key : Text) :
    (parsed.keyToApplication key).isSome = true ↔ key ∈ keys.map (·.key) := by
  simp only [Option.isSome_iff_exists, h.key, List.mem_map]
  constructor
  · rintro ⟨app, apiKey, hmem, hkey, -⟩
    exact ⟨apiKey, hmem, hkey⟩
  · rintro ⟨apiKey, hmem, hkey⟩
    exact ⟨apiKey.app, apiKey, hmem, hkey, rfl⟩

/-- A fresh key is added, and nothing is overwritten. -/
theorem insert (h : parsed.Holds keys) {apiKey : ApiKey} (happ : apiKey.app ∉ keys.map (·.app))
    (hkey : apiKey.key ∉ keys.map (·.key)) :
    (parsed.insert apiKey.app apiKey.key apiKey.limit).Holds (keys ++ [apiKey]) where
  application app := by
    simp only [ParsedArgs.insert, List.mem_cons, h.application, List.map_append, List.map_cons,
      List.map_nil, List.mem_append, List.not_mem_nil, or_false]
    exact or_comm
  key := insert_eq_some_iff h.key hkey
  limit := insert_eq_some_iff h.limit happ
  apps_nodup := by simpa using List.Nodup.concat happ h.apps_nodup
  keys_nodup := by simpa using List.Nodup.concat hkey h.keys_nodup

end ParsedArgs.Holds

namespace Authentication

theorem nextPart_cases (e : AuthenticationParseError) (parts : List Text) :
    (nextPart e parts = .error e ∧ parts.getD 0 [] = []) ∨
    ∃ part rest, parts = part :: rest ∧ part ≠ [] ∧ nextPart e parts = .ok (part, rest) := by
  cases parts with
  | nil => exact .inl ⟨rfl, rfl⟩
  | cons part rest =>
      by_cases hempty : part = []
      · exact .inl ⟨if_pos hempty, hempty⟩
      · exact .inr ⟨part, rest, rfl, hempty, if_neg hempty⟩

/-- An argument is taken as a fresh key, or panics for its limit only, or has an error. -/
theorem parseArg_cases (hholds : parsed.Holds keys)
    (hspelled : List.Forall₂ ApiKey.IsSpelledBy keys before) (arg : Text) :
    (∃ apiKey : ApiKey, apiKey.IsSpelledBy arg ∧ apiKey.app ∉ keys.map (·.app) ∧
      apiKey.key ∉ keys.map (·.key) ∧
      parseArg parsed arg = .ok (parsed.insert apiKey.app apiKey.key apiKey.limit)) ∨
    (LimitUnreadable before arg ∧ (parseArg parsed arg).panics = true) ∨
    ∃ e, e.IsFor before arg ∧ parseArg parsed arg = .error e := by
  rw [← map_appOf hspelled, ← map_keyOf hspelled]
  -- the three parts, each missing or empty or there
  obtain ⟨hnext, hnil⟩ | ⟨app, rest, hparts, happ, hnext⟩ :=
    nextPart_cases (.missingApplicationArgument arg) (arg.splitOn colon)
  · refine .inr (.inr ⟨.missingApplicationArgument arg, ⟨rfl, hnil⟩, ?_⟩)
    rw [parseArg, hnext, Outcome.error_bind]
  have happOf : appOf arg = app := by rw [appOf, hparts]; rfl
  obtain ⟨hnext', hnil⟩ | ⟨key, rest, rfl, hkey, hnext'⟩ :=
    nextPart_cases (.missingAPIKeyArgument app) rest
  · have hkeyOf : keyOf arg = [] := by rw [keyOf, hparts]; exact hnil
    refine .inr (.inr ⟨.missingAPIKeyArgument app, ⟨happOf.symm, hkeyOf⟩, ?_⟩)
    simp only [parseArg, hnext, hnext', Outcome.ok_bind, Outcome.error_bind]
  have hkeyOf : keyOf arg = key := by rw [keyOf, hparts]; rfl
  obtain ⟨hnext'', hnil⟩ | ⟨limit, rest, rfl, hlimit, hnext''⟩ :=
    nextPart_cases (.missingRateLimitArgument app) rest
  · have hlimitOf : limitOf arg = [] := by rw [limitOf, hparts]; exact hnil
    refine .inr (.inr ⟨.missingRateLimitArgument app, ⟨happOf.symm, hlimitOf⟩, ?_⟩)
    simp only [parseArg, hnext, hnext', hnext'', Outcome.ok_bind, Outcome.error_bind]
  have hlimitOf : limitOf arg = limit := by rw [limitOf, hparts]; rfl
  simp only [parseArg, hnext, hnext', hnext'', Outcome.ok_bind]
  split
  · next hmore =>
      have hlong : 3 < (arg.splitOn colon).length := by
        rw [hparts]
        simpa using hmore
      exact .inr (.inr ⟨.tooManyComponents app, ⟨happOf.symm, hlong⟩, rfl⟩)
  next hthree =>
  split
  · next hdup =>
      rw [List.contains_iff_mem, hholds.application, ← map_appOf hspelled, List.mem_map] at hdup
      exact .inr (.inr ⟨.duplicateApplicationArgument app, ⟨happOf.symm, hdup⟩, rfl⟩)
  next hfreshApp =>
  rw [List.contains_iff_mem, hholds.application, ← map_appOf hspelled] at hfreshApp
  split
  · next hdup =>
      rw [hholds.isSome_key_iff, ← map_keyOf hspelled, List.mem_map, ← hkeyOf] at hdup
      exact .inr (.inr ⟨.duplicateAPIKeyArgument app, ⟨happOf.symm, hdup⟩, rfl⟩)
  next hfreshKey =>
  rw [hholds.isSome_key_iff, ← map_keyOf hspelled] at hfreshKey
  obtain rfl : rest = [] := by
    rw [← List.length_eq_zero_iff]
    omega
  obtain ⟨harg, hcolonApp, hcolonKey, -⟩ := eq_joinParts hparts
  cases hparse : parseUsize limit with
  | some value =>
      refine .inl ⟨⟨app, key, value, happ, hcolonApp, hkey, hcolonKey⟩, ?_, hfreshApp, hfreshKey,
        rfl⟩
      exact ⟨limit, parseUsize_eq_some_iff.mp hparse, harg⟩
  | none =>
      refine .inr (.inl ⟨⟨by rw [hparts]; rfl, by rwa [happOf], by rwa [hkeyOf], by rwa [hlimitOf],
        ?_, ?_⟩, rfl⟩)
      · intro n hdecimal
        rw [hlimitOf, ← parseUsize_eq_some_iff, hparse] at hdecimal
        exact absurd hdecimal (by simp)
      · intro other hother
        rw [happOf, hkeyOf]
        exact ⟨fun heq => hfreshApp (List.mem_map.mpr ⟨other, hother, heq⟩),
          fun heq => hfreshKey (List.mem_map.mpr ⟨other, hother, heq⟩)⟩

/-- The loop takes all arguments, or ends at the first one that it does not take. -/
theorem parseArgs_cases (hholds : parsed.Holds keys)
    (hspelled : List.Forall₂ ApiKey.IsSpelledBy keys before) (args : List Text) :
    (∃ final more, parseArgs args parsed = .ok final ∧
      List.Forall₂ ApiKey.IsSpelledBy (keys ++ more) (before ++ args) ∧
      final.Holds (keys ++ more)) ∨
    ∃ accepted arg after reached more, args = accepted ++ arg :: after ∧
      List.Forall₂ ApiKey.IsSpelledBy (keys ++ more) (before ++ accepted) ∧
      ParsedArgs.Holds reached (keys ++ more) ∧
      (LimitUnreadable (before ++ accepted) arg ∧ (parseArgs args parsed).panics = true ∨
        ∃ e, e.IsFor (before ++ accepted) arg ∧ parseArgs args parsed = .error e) := by
  induction args generalizing parsed keys before with
  | nil => exact .inl ⟨parsed, [], rfl, by simpa using hspelled, by simpa using hholds⟩
  | cons arg args ih =>
      have hends : ∀ result, parseArg parsed arg = result → (∀ next, result ≠ .ok next) →
          parseArgs (arg :: args) parsed = result := by
        intro result hresult hfails
        rw [parseArgs, hresult]
        cases result with
        | ok next => exact absurd rfl (hfails next)
        | error e => rfl
        | panic message => rfl
      obtain ⟨apiKey, hkey, happ, hfresh, hok⟩ | hstops := parseArg_cases hholds hspelled arg
      · have hstep : parseArgs (arg :: args) parsed =
            parseArgs args (parsed.insert apiKey.app apiKey.key apiKey.limit) := by
          rw [parseArgs, hok, Outcome.ok_bind]
        have hspelled : List.Forall₂ ApiKey.IsSpelledBy (keys ++ [apiKey]) (before ++ [arg]) :=
          List.rel_append hspelled (.cons hkey .nil)
        rw [hstep]
        obtain ⟨final, more, hfinal, hall, hholds⟩ |
            ⟨accepted, offending, after, reached, more, rfl, hall, hholds, hends⟩ :=
          ih (hholds.insert happ hfresh) hspelled
        · refine .inl ⟨final, apiKey :: more, hfinal, ?_, ?_⟩
          · simpa using hall
          · simpa using hholds
        · refine .inr ⟨arg :: accepted, offending, after, reached, apiKey :: more, rfl, ?_, ?_, ?_⟩
          · simpa using hall
          · simpa using hholds
          · simpa using hends
      · refine .inr ⟨[], arg, args, parsed, [], rfl, by simpa using hspelled, by simpa using hholds,
          ?_⟩
        rw [List.append_nil]
        obtain ⟨hlimit, hpanics⟩ | ⟨e, hfor, herror⟩ := hstops
        · refine .inl ⟨hlimit, ?_⟩
          rw [hends _ rfl (fun next hnext => by simp [hnext] at hpanics)]
          exact hpanics
        · exact .inr ⟨e, hfor, hends _ herror (by simp)⟩

end Authentication

/-! ## All arguments -/

variable {args after : List Text}

theorem ne_of_nodup_map {f : Text → Text} (h : ((before ++ arg :: after).map f).Nodup)
    {other : Text} (hother : other ∈ before) : f other ≠ f arg := by
  rw [List.map_append, List.nodup_append] at h
  exact h.2.2 (f other) (List.mem_map_of_mem hother) (f arg) (by simp)

theorem exists_isSpelledBy (h : List.Forall₂ ApiKey.IsSpelledBy keys args) (harg : arg ∈ args) :
    ∃ apiKey : ApiKey, apiKey.IsSpelledBy arg := by
  induction h with
  | nil => exact absurd harg (by simp)
  | cons hspelled hrest ih =>
      obtain rfl | harg := List.mem_cons.mp harg
      · exact ⟨_, hspelled⟩
      · exact ih harg

/-- Keys with distinct apps and distinct keys do not offend. -/
theorem not_offends (hspelled : List.Forall₂ ApiKey.IsSpelledBy keys args)
    (happs : (keys.map (·.app)).Nodup) (hkeys : (keys.map (·.key)).Nodup)
    (hargs : args = before ++ arg :: after) : ¬ Offends before arg := by
  rw [← map_appOf hspelled, hargs] at happs
  rw [← map_keyOf hspelled, hargs] at hkeys
  rintro (hformat | ⟨other, hother, hsame | hsame⟩)
  · exact hformat (exists_isSpelledBy hspelled (by simp [hargs]))
  · exact ne_of_nodup_map happs hother hsame
  · exact ne_of_nodup_map hkeys hother hsame

/-- A list of keys that can be configured together. -/
structure ApiKeys where
  entries : List ApiKey
  ne_nil : entries ≠ []
  apps_nodup : (entries.map (·.app)).Nodup
  keys_nodup : (entries.map (·.key)).Nodup

/-- The maps have these keys and nothing else. -/
structure Authentication.Maps (auth : Authentication) (keys : ApiKeys) : Prop where
  key : ∀ key app, auth.keyToApplication key = some app ↔
    ∃ apiKey ∈ keys.entries, apiKey.key = key ∧ apiKey.app = app
  limit : ∀ app limit, auth.appToRateLimit app = some limit ↔
    ∃ apiKey ∈ keys.entries, apiKey.app = app ∧ apiKey.limit = limit

/-- The first of the arguments that offends. -/
structure FirstOffence (args before : List Text) (arg : Text) : Prop where
  args_eq : ∃ after, args = before ++ arg :: after
  offends : Offends before arg
  earlier : ∀ earlier other rest, before = earlier ++ other :: rest → ¬ Offends earlier other

namespace Authentication

/-- A list of arguments is the format of keys, or something is wrong with one of them. -/
theorem tryFrom_cases (hne : args ≠ []) :
    (∃ auth keys, tryFrom args = .ok auth ∧
      List.Forall₂ ApiKey.IsSpelledBy keys.entries args ∧ auth.Maps keys) ∨
    ∃ before arg, FirstOffence args before arg ∧
      (LimitUnreadable before arg ∧ (tryFrom args).panics = true ∨
        ∃ e, e.IsFor before arg ∧ tryFrom args = .error e) := by
  have htry : tryFrom args = parseArgs args .new >>= fun parsed => .ok parsed.toAuthentication := by
    rw [tryFrom, if_neg (by simpa using hne)]
  rw [htry]
  obtain ⟨final, keys, hfinal, hall, hholds⟩ |
      ⟨before, arg, after, reached, keys, hargs, hall, hholds, hends⟩ :=
    parseArgs_cases .new .nil args
  · rw [List.nil_append, List.nil_append] at hall
    have hkeys : keys ≠ [] := by
      rintro rfl
      exact hne (List.forall₂_nil_left_iff.mp hall)
    refine .inl ⟨final.toAuthentication, ⟨keys, hkeys, hholds.apps_nodup, hholds.keys_nodup⟩, ?_,
      hall, hholds.key, hholds.limit⟩
    rw [hfinal, Outcome.ok_bind]
  · rw [List.nil_append, List.nil_append] at hall
    rw [List.nil_append] at hends
    have hoffends : Offends before arg := by
      obtain ⟨hlimit, -⟩ | ⟨e, hfor, -⟩ := hends
      · exact hlimit.offends
      · exact offends_of_isFor hfor
    refine .inr ⟨before, arg, ⟨⟨after, hargs⟩, hoffends, ?_⟩, ?_⟩
    · intro earlier other rest heq
      exact not_offends hall hholds.apps_nodup hholds.keys_nodup heq
    · obtain ⟨hlimit, hpanics⟩ | ⟨e, hfor, herror⟩ := hends
      · refine .inl ⟨hlimit, ?_⟩
        rw [Outcome.panics_bind (fun _ => rfl)]
        exact hpanics
      · refine .inr ⟨e, hfor, ?_⟩
        rw [herror, Outcome.error_bind]

/-- Parsing inverts the format, and only what has the format is parsed. -/
theorem try_from_inverts_format :
    (∀ keys : ApiKeys, ∃ auth, tryFrom (keys.entries.map ApiKey.format) = .ok auth ∧
      auth.Maps keys) ∧
    ∀ args auth, tryFrom args = .ok auth →
      (∃ keys : ApiKeys, List.Forall₂ ApiKey.IsSpelledBy keys.entries args ∧ auth.Maps keys) ∧
      -- keys and apps are in bijection, and an app has a limit exactly if it has a key
      (∀ key key' app, auth.keyToApplication key = some app →
        auth.keyToApplication key' = some app → key = key') ∧
      ∀ app, (∃ key, auth.keyToApplication key = some app) ↔
        (auth.appToRateLimit app).isSome = true := by
  constructor
  · intro keys
    have hspelled : List.Forall₂ ApiKey.IsSpelledBy keys.entries
        (keys.entries.map ApiKey.format) := by
      rw [List.forall₂_map_right_iff, List.forall₂_same]
      exact fun apiKey _ => apiKey.isSpelledBy_format
    have hne : keys.entries.map ApiKey.format ≠ [] := by simpa using keys.ne_nil
    obtain ⟨auth, parsed, hok, hparsed, hmaps⟩ | ⟨before, arg, hfirst, -⟩ := tryFrom_cases hne
    · have hsame : parsed.entries = keys.entries :=
        List.left_unique_forall₂' (fun _ _ _ h h' => h.unique h') hparsed hspelled
      refine ⟨auth, hok, ?_, ?_⟩
      · rw [← hsame]
        exact hmaps.key
      · rw [← hsame]
        exact hmaps.limit
    · obtain ⟨after, hargs⟩ := hfirst.args_eq
      exact absurd hfirst.offends (not_offends hspelled keys.apps_nodup keys.keys_nodup hargs)
  · intro args auth hok
    have hne : args ≠ [] := by
      rintro rfl
      exact absurd hok (by simp [tryFrom])
    obtain ⟨auth', keys, hok', hspelled, hmaps⟩ | ⟨before, arg, -, ⟨-, hpanics⟩ | ⟨e, -, herror⟩⟩ :=
      tryFrom_cases hne
    · obtain rfl := Outcome.ok.inj (hok.symm.trans hok')
      refine ⟨⟨keys, hspelled, hmaps⟩, ?_, ?_⟩
      · intro key key' app hkey hkey'
        obtain ⟨apiKey, hmem, rfl, happ⟩ := (hmaps.key key app).mp hkey
        obtain ⟨apiKey', hmem', rfl, happ'⟩ := (hmaps.key key' app).mp hkey'
        rw [List.inj_on_of_nodup_map keys.apps_nodup hmem hmem' (happ.trans happ'.symm)]
      · intro app
        simp only [Option.isSome_iff_exists, hmaps.key, hmaps.limit]
        constructor
        · rintro ⟨key, apiKey, hmem, -, happ⟩
          exact ⟨apiKey.limit, apiKey, hmem, happ, rfl⟩
        · rintro ⟨limit, apiKey, hmem, happ, -⟩
          exact ⟨apiKey.key, apiKey, hmem, rfl, happ⟩
    · rw [hok] at hpanics
      exact absurd hpanics (by simp)
    · exact absurd (hok.symm.trans herror) (by simp)

/-- The keys of the tests. -/
def testKeys : ApiKeys where
  entries :=
    [⟨utf8 "app1", utf8 "key1", 10, by decide, by decide, by decide, by decide⟩,
      ⟨utf8 "app2", utf8 "key2", 10, by decide, by decide, by decide, by decide⟩,
      ⟨utf8 "app3", utf8 "key3", 10, by decide, by decide, by decide, by decide⟩]
  ne_nil := by simp
  apps_nodup := by decide
  keys_nodup := by decide

theorem parses_testKeys :
    ∃ auth, tryFrom [utf8 "app1:key1:10", utf8 "app2:key2:10", utf8 "app3:key3:10"] = .ok auth ∧
      auth.Maps testKeys ∧ auth.keyToApplication (utf8 "key2") = some (utf8 "app2") ∧
      (auth.appToRateLimit (utf8 "app2")).isSome = true := by
  obtain ⟨auth, hok, hmaps⟩ := try_from_inverts_format.1 testKeys
  have hformat : testKeys.entries.map ApiKey.format =
      [utf8 "app1:key1:10", utf8 "app2:key2:10", utf8 "app3:key3:10"] := by decide
  rw [hformat] at hok
  have hkey : auth.keyToApplication (utf8 "key2") = some (utf8 "app2") := by
    rw [hmaps.key]
    exact ⟨_, List.mem_cons_of_mem _ List.mem_cons_self, rfl, rfl⟩
  exact ⟨auth, hok, hmaps, hkey,
    ((try_from_inverts_format.2 _ auth hok).2.2 (utf8 "app2")).mp ⟨_, hkey⟩⟩

end Authentication

/-! ## Malformed arguments -/

/-- There are no arguments, or one of them offends. -/
def Malformed (args : List Text) : Prop :=
  args = [] ∨ ∃ before arg after, args = before ++ arg :: after ∧ Offends before arg

theorem FirstOffence.unique {before' : List Text} {arg' : Text} (h : FirstOffence args before arg)
    (h' : FirstOffence args before' arg') : before = before' ∧ arg = arg' := by
  obtain ⟨after, hargs⟩ := h.args_eq
  obtain ⟨after', hargs'⟩ := h'.args_eq
  rw [hargs] at hargs'
  obtain ⟨between, hbefore, hrest⟩ | ⟨between, hbefore, hrest⟩ :=
    List.append_eq_append_iff.mp hargs'
  · cases between with
    | nil =>
        obtain ⟨rfl, -⟩ := List.cons.inj hrest
        exact ⟨by simpa using hbefore.symm, rfl⟩
    | cons other between =>
        obtain ⟨rfl, -⟩ := List.cons.inj hrest
        exact absurd h.offends (h'.earlier before arg between hbefore)
  · cases between with
    | nil =>
        obtain ⟨rfl, -⟩ := List.cons.inj hrest
        exact ⟨by simpa using hbefore, rfl⟩
    | cons other between =>
        obtain ⟨rfl, -⟩ := List.cons.inj hrest
        exact absurd h'.offends (h.earlier before' arg' between hbefore)

theorem LimitUnreadable.not_isFor (h : LimitUnreadable before arg) (e : AuthenticationParseError) :
    ¬ e.IsFor before arg := by
  intro hfor
  cases e with
  | noData => exact hfor
  | missingApplicationArgument named => exact h.app hfor.2
  | missingAPIKeyArgument app => exact h.key hfor.2
  | missingRateLimitArgument app => exact h.limit hfor.2
  | tooManyComponents app =>
      have hparts := h.parts
      have hlong := hfor.2
      omega
  | duplicateApplicationArgument app =>
      obtain ⟨rfl, other, hother, hsame⟩ := hfor
      exact (h.fresh other hother).1 hsame
  | duplicateAPIKeyArgument app =>
      obtain ⟨-, other, hother, hsame⟩ := hfor
      exact (h.fresh other hother).2 hsame

namespace Authentication

/-- The arguments are rejected with an error, which is for the first that offends. -/
def Rejects (args : List Text) : Prop :=
  ∃ e, tryFrom args = .error e ∧
    (args = [] ∧ e = .noData ∨ ∃ before arg, FirstOffence args before arg ∧ e.IsFor before arg)

/-- Malformed arguments are rejected with an error exactly if the first of them that offends
has something else wrong with it than its limit. Otherwise there is a panic. -/
theorem malformed_rejected_iff (h : Malformed args) :
    (Rejects args ↔ ¬ ∃ before arg, FirstOffence args before arg ∧ LimitUnreadable before arg) ∧
      (¬ Rejects args → (tryFrom args).panics = true) := by
  by_cases hne : args = []
  · subst hne
    have hrejects : Rejects [] := ⟨.noData, rfl, .inl ⟨rfl, rfl⟩⟩
    refine ⟨iff_of_true hrejects ?_, fun hnot => absurd hrejects hnot⟩
    rintro ⟨before, arg, hfirst, -⟩
    obtain ⟨after, hargs⟩ := hfirst.args_eq
    exact absurd hargs (by simp)
  · obtain ⟨auth, keys, -, hspelled, -⟩ | ⟨before, arg, hfirst, hends⟩ := tryFrom_cases hne
    · obtain ⟨before, arg, after, hargs, hoffends⟩ := h.resolve_left hne
      exact absurd hoffends (not_offends hspelled keys.apps_nodup keys.keys_nodup hargs)
    · obtain ⟨hlimit, hpanics⟩ | ⟨e, hfor, herror⟩ := hends
      · refine ⟨iff_of_false ?_ (not_not_intro ⟨before, arg, hfirst, hlimit⟩), fun _ => hpanics⟩
        rintro ⟨e, herror, -⟩
        rw [herror] at hpanics
        exact absurd hpanics (by simp)
      · have hrejects : Rejects args := ⟨e, herror, .inr ⟨before, arg, hfirst, hfor⟩⟩
        refine ⟨iff_of_true hrejects ?_, fun hnot => absurd hrejects hnot⟩
        rintro ⟨before', arg', hfirst', hlimit⟩
        obtain ⟨rfl, rfl⟩ := hfirst.unique hfirst'
        exact hlimit.not_isFor e hfor

theorem rejects_missing_key : Rejects [utf8 "app1:key1:10", utf8 "app2", utf8 "app3:key3:10"] := by
  have hoffends : Offends [utf8 "app1:key1:10"] (utf8 "app2") :=
    offends_of_isFor (e := .missingAPIKeyArgument (utf8 "app2")) ⟨by decide, by decide⟩
  have hmalformed : Malformed [utf8 "app1:key1:10", utf8 "app2", utf8 "app3:key3:10"] :=
    .inr ⟨[utf8 "app1:key1:10"], utf8 "app2", _, rfl, hoffends⟩
  refine (malformed_rejected_iff hmalformed).1.mpr ?_
  rintro ⟨before, arg, hfirst, hlimit⟩
  -- the limits of the arguments with three parts can be read
  have hread : ∀ arg ∈ [utf8 "app1:key1:10", utf8 "app2", utf8 "app3:key3:10"],
      (arg.splitOn colon).length = 3 → parseUsize (limitOf arg) = some 10 := by decide
  obtain ⟨after, hargs⟩ := hfirst.args_eq
  have hvalue := hread arg (by rw [hargs]; simp) hlimit.parts
  exact hlimit.unreadable 10 (parseUsize_eq_some_iff.mp hvalue)

theorem unreadable_limit_panics :
    Malformed [utf8 "app1:key1:abc"] ∧ (tryFrom [utf8 "app1:key1:abc"]).panics = true ∧
      ¬ Rejects [utf8 "app1:key1:abc"] := by
  have hpanics : (tryFrom [utf8 "app1:key1:abc"]).panics = true := by decide
  have hlimit : LimitUnreadable [] (utf8 "app1:key1:abc") := by
    refine ⟨by decide, by decide, by decide, by decide, ?_, by simp⟩
    intro n hdecimal
    have hnone : parseUsize (limitOf (utf8 "app1:key1:abc")) = none := by decide
    rw [← parseUsize_eq_some_iff, hnone] at hdecimal
    exact absurd hdecimal (by simp)
  refine ⟨.inr ⟨[], _, [], rfl, hlimit.offends⟩, hpanics, ?_⟩
  rintro ⟨e, herror, -⟩
  rw [herror] at hpanics
  exact absurd hpanics (by simp)

end Authentication

end RollupBoost
