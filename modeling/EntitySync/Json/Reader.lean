import EntitySync.Text.Utf8

/-!
# Readers

A reader takes a value off the front of a byte list and always consumes at least one byte, so that
loops over readers end. A fault says what is wrong and how many bytes lie behind it; from the whole
input this gives its line and column.
-/

namespace EntitySync

/-- What makes a text fail to be JSON. -/
inductive SyntaxError where
  | eofInValue
  | eofInList
  | eofInObject
  | eofInString
  | expectedValue
  | expectedIdent
  | expectedCommaOrListEnd
  | expectedCommaOrObjectEnd
  | expectedColon
  | trailingComma
  | trailingCharacters
  | keyNotString
  | invalidNumber
  | numberOutOfRange
  | recursionLimit
  | controlCharacter
  | invalidEscape
  | loneSurrogate
  | endOfHexEscape
  | invalidCodePoint
deriving DecidableEq

def SyntaxError.message : SyntaxError → String
  | .eofInValue => "EOF while parsing a value"
  | .eofInList => "EOF while parsing a list"
  | .eofInObject => "EOF while parsing an object"
  | .eofInString => "EOF while parsing a string"
  | .expectedValue => "expected value"
  | .expectedIdent => "expected ident"
  | .expectedCommaOrListEnd => "expected `,` or `]`"
  | .expectedCommaOrObjectEnd => "expected `,` or `\x7d`"
  | .expectedColon => "expected `:`"
  | .trailingComma => "trailing comma"
  | .trailingCharacters => "trailing characters"
  | .keyNotString => "key must be a string"
  | .invalidNumber => "invalid number"
  | .numberOutOfRange => "number out of range"
  | .recursionLimit => "recursion limit exceeded"
  | .controlCharacter => "control character (\\u0000-\\u001F) found while parsing a string"
  | .invalidEscape => "invalid escape"
  | .loneSurrogate => "lone leading surrogate in hex escape"
  | .endOfHexEscape => "unexpected end of hex escape"
  | .invalidCodePoint => "invalid unicode code point"

/-- A syntax error, with the number of bytes behind the place where it was noticed. -/
structure Fault where
  error : SyntaxError
  behind : Nat
deriving DecidableEq

namespace Fault

/-- A fault at the next byte, which counts as read. -/
def atNext (error : SyntaxError) (rest : List UInt8) : Fault :=
  ⟨error, rest.length - 1⟩

/-- A fault at the byte before the rest. -/
def before (error : SyntaxError) (rest : List UInt8) : Fault :=
  ⟨error, rest.length⟩

end Fault

/-- A reader of a value at the front of a byte list. -/
structure Reader (α : Type) where
  run : List UInt8 → Except Fault (α × List UInt8)
  consumes : ∀ {s a r}, run s = .ok (a, r) → r.length < s.length

namespace Reader

variable {α β : Type}

/-- White space between tokens. -/
def isBlank (b : UInt8) : Bool :=
  b = 0x20 || b = 0x09 || b = 0x0A || b = 0x0D

def skipBlanks (s : List UInt8) : List UInt8 :=
  s.dropWhile isBlank

theorem length_dropWhile_le (p : UInt8 → Bool) (s : List UInt8) :
    (s.dropWhile p).length ≤ s.length :=
  (List.dropWhile_suffix p).sublist.length_le

theorem length_skipBlanks_le (s : List UInt8) : (skipBlanks s).length ≤ s.length :=
  length_dropWhile_le isBlank s

/-- Apply a function to what is read. -/
def map (f : α → β) (reader : Reader α) : Reader β where
  run s := (reader.run s).map fun (a, r) => (f a, r)
  consumes := by
    intro s b r h
    cases hr : reader.run s with
    | error e => simp [hr, Except.map] at h
    | ok p =>
      obtain ⟨a, r'⟩ := p
      simp only [hr, Except.map, Except.ok.injEq, Prod.mk.injEq] at h
      exact h.2 ▸ reader.consumes hr

/-- Read `a`, then what depends on it. -/
def bind (reader : Reader α) (next : α → Reader β) : Reader β where
  run s :=
    match reader.run s with
    | .ok (a, r) => (next a).run r
    | .error fault => .error fault
  consumes := by
    intro s b r h
    cases hr : reader.run s with
    | error e => simp [hr] at h
    | ok p =>
      obtain ⟨a, r'⟩ := p
      simp only [hr] at h
      exact Nat.lt_trans ((next a).consumes h) (reader.consumes hr)

/-- Skip white space in front. -/
def afterBlanks (reader : Reader α) : Reader α where
  run s := reader.run (skipBlanks s)
  consumes h := Nat.lt_of_lt_of_le (reader.consumes h) (length_skipBlanks_le _)

/-- A word of the language, such as `null`; its first byte has been seen. -/
def word (bytes : List UInt8) (s : List UInt8) : Except Fault (List UInt8) :=
  match bytes, s with
  | [], s => .ok s
  | _ :: _, [] => .error ⟨.eofInValue, 0⟩
  | expected :: bytes, b :: s =>
    if b = expected then word bytes s else .error (.before .expectedIdent s)

theorem length_le_of_word {bytes s r : List UInt8} (h : word bytes s = .ok r) :
    r.length ≤ s.length := by
  induction bytes generalizing s with
  | nil =>
    simp only [word, Except.ok.injEq] at h
    simp [h]
  | cons expected bytes ih =>
    cases s with
    | nil => simp [word] at h
    | cons b s =>
      rw [word] at h
      split at h
      · exact Nat.le_succ_of_le (ih h)
      · simp at h

/-! ### Bracketed sequences -/

/-- The closing bracket of a sequence, and its faults. -/
structure Bracket where
  close : UInt8
  /-- The input ends where a separator or the closing bracket must stand. -/
  unclosed : SyntaxError
  /-- Something else stands there. -/
  unseparated : SyntaxError

/-- Items up to the closing bracket, the first of which must follow. -/
def items (bracket : Bracket) (item : Reader α) (s : List UInt8) :
    Except Fault (List α × List UInt8) :=
  match _ : item.run s with
  | .error fault => .error fault
  | .ok (a, r) =>
    match _ : skipBlanks r with
    | [] => .error ⟨bracket.unclosed, 0⟩
    | b :: r' =>
      if b = bracket.close then .ok ([a], r')
      else if b = Utf8.byte ',' then
        match _ : skipBlanks r' with
        | [] => .error ⟨.eofInValue, 0⟩
        | c :: t =>
          if c = bracket.close then .error (.before .trailingComma t)
          else (items bracket item (c :: t)).map fun (as, rest) => (a :: as, rest)
      else .error (.before bracket.unseparated r')
termination_by s.length
decreasing_by
  have h₁ := item.consumes ‹_›
  have h₂ := length_skipBlanks_le r
  have h₃ := length_skipBlanks_le r'
  simp_all
  omega

theorem length_lt_of_items {bracket : Bracket} {item : Reader α} {s rest : List UInt8}
    {as : List α} (h : items bracket item s = .ok (as, rest)) : rest.length < s.length := by
  fun_induction items bracket item s generalizing as rest with
  | case1 | case2 | case4 | case5 | case7 => simp at h
  | case3 s a r hrun r' hblanks =>
    simp only [Except.ok.injEq, Prod.mk.injEq] at h
    have h₁ := item.consumes hrun
    have h₂ := length_skipBlanks_le r
    simp_all
    omega
  | case6 s a r hrun r' c t hblanks' hclose' hblanks hclose ih =>
    cases htail : items bracket item (c :: t) with
    | error fault => simp [htail, Except.map] at h
    | ok p =>
      obtain ⟨as', rest'⟩ := p
      simp only [htail, Except.map, Except.ok.injEq, Prod.mk.injEq] at h
      have h₀ := ih htail
      have h₁ := item.consumes hrun
      have h₂ := length_skipBlanks_le r
      have h₃ := length_skipBlanks_le r'
      simp_all
      omega

/-- Items between the brackets of a sequence whose opening bracket has been read. -/
def bracketed (bracket : Bracket) (item : Reader α) : Reader (List α) where
  run s :=
    match skipBlanks s with
    | [] => .error ⟨bracket.unclosed, 0⟩
    | b :: r => if b = bracket.close then .ok ([], r) else items bracket item (b :: r)
  consumes := by
    intro s as rest h
    have hle := length_skipBlanks_le s
    split at h
    · simp at h
    next b r hs =>
      rw [hs] at hle
      split at h
      · simp only [Except.ok.injEq, Prod.mk.injEq] at h
        exact h.2 ▸ Nat.lt_of_lt_of_le (Nat.lt_succ_self _) hle
      · exact Nat.lt_of_lt_of_le (length_lt_of_items h) hle

end Reader

end EntitySync
