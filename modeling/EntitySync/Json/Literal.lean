import EntitySync.Json.Reader

/-!
# String literals

A string literal is read behind its opening quote. Bytes that are not UTF-8 are let through until
the closing quote, and refused there at the first of them.
-/

namespace EntitySync

namespace Literal

/-! ### Escapes -/

/-- The character of a one-letter escape. -/
def simpleEscape? (b : UInt8) : Option Char :=
  if b = Utf8.byte '"' then some '"'
  else if b = Utf8.byte '\\' then some '\\'
  else if b = Utf8.byte '/' then some '/'
  else if b = Utf8.byte 'b' then some '\x08'
  else if b = Utf8.byte 'f' then some '\x0c'
  else if b = Utf8.byte 'n' then some '\n'
  else if b = Utf8.byte 'r' then some '\r'
  else if b = Utf8.byte 't' then some '\t'
  else none

def hexDigit? (b : UInt8) : Option Nat :=
  if 0x30 ≤ b && b ≤ 0x39 then some (b.toNat - 0x30)
  else if 0x41 ≤ b && b ≤ 0x46 then some (b.toNat - 0x37)
  else if 0x61 ≤ b && b ≤ 0x66 then some (b.toNat - 0x57)
  else none

/-- Four hexadecimal digits. Fewer than four bytes are an unclosed string. -/
def hexQuad (s : List UInt8) : Except Fault (Nat × List UInt8) :=
  match s with
  | a :: b :: c :: d :: r =>
    match hexDigit? a, hexDigit? b, hexDigit? c, hexDigit? d with
    | some a, some b, some c, some d => .ok (((a * 16 + b) * 16 + c) * 16 + d, r)
    | _, _, _, _ => .error (.before .invalidEscape r)
  | _ => .error ⟨.eofInString, 0⟩

def isLowSurrogate (n : Nat) : Bool := 0xDC00 ≤ n && n ≤ 0xDFFF

def isHighSurrogate (n : Nat) : Bool := 0xD800 ≤ n && n ≤ 0xDBFF

/-- The second half of a surrogate pair, with its backslash and letter. -/
def lowSurrogate (s : List UInt8) : Except Fault (Nat × List UInt8) :=
  match s with
  | [] => .error ⟨.eofInString, 0⟩
  | b :: r =>
    if b = Utf8.byte '\\' then
      match r with
      | [] => .error ⟨.eofInString, 0⟩
      | u :: t =>
        if u = Utf8.byte 'u' then
          match hexQuad t with
          | .error fault => .error fault
          | .ok (n, t) =>
            if isLowSurrogate n then .ok (n, t) else .error (.before .loneSurrogate t)
        else .error (.before .endOfHexEscape t)
    else .error (.before .endOfHexEscape r)

/-- The escape after its letter `u`: a code unit, or a surrogate pair. -/
def unicodeEscape (s : List UInt8) : Except Fault (Char × List UInt8) :=
  match hexQuad s with
  | .error fault => .error fault
  | .ok (n, r) =>
    if isLowSurrogate n then .error (.before .loneSurrogate r)
    else if isHighSurrogate n then
      match lowSurrogate r with
      | .error fault => .error fault
      | .ok (low, r) => .ok (Char.ofNat (0x10000 + (n - 0xD800) * 0x400 + (low - 0xDC00)), r)
    else .ok (Char.ofNat n, r)

/-- The escape after its backslash. -/
def escape (s : List UInt8) : Except Fault (Char × List UInt8) :=
  match s with
  | [] => .error ⟨.eofInString, 0⟩
  | b :: r =>
    if b = Utf8.byte 'u' then unicodeEscape r
    else
      match simpleEscape? b with
      | some c => .ok (c, r)
      | none => .error (.before .invalidEscape r)

theorem length_lt_of_hexQuad {s r : List UInt8} {n : Nat} (h : hexQuad s = .ok (n, r)) :
    r.length < s.length := by
  unfold hexQuad at h
  split at h
  · split at h
    · simp only [Except.ok.injEq, Prod.mk.injEq] at h
      simp [← h.2]
      omega
    · simp at h
  · simp at h

theorem length_lt_of_lowSurrogate {s r : List UInt8} {n : Nat}
    (h : lowSurrogate s = .ok (n, r)) : r.length < s.length := by
  unfold lowSurrogate at h
  split at h
  · simp at h
  · split at h
    · split at h
      · simp at h
      · split at h
        · split at h
          · simp at h
          next hquad =>
            have := length_lt_of_hexQuad hquad
            split at h
            · simp only [Except.ok.injEq, Prod.mk.injEq] at h
              simp [← h.2]
              omega
            · simp at h
        · simp at h
    · simp at h

theorem length_lt_of_unicodeEscape {s r : List UInt8} {c : Char}
    (h : unicodeEscape s = .ok (c, r)) : r.length < s.length := by
  unfold unicodeEscape at h
  split at h
  · simp at h
  next hquad =>
    have h₁ := length_lt_of_hexQuad hquad
    split at h
    · simp at h
    · split at h
      · split at h
        · simp at h
        next hlow =>
          have h₂ := length_lt_of_lowSurrogate hlow
          simp only [Except.ok.injEq, Prod.mk.injEq] at h
          rw [← h.2]
          omega
      · simp only [Except.ok.injEq, Prod.mk.injEq] at h
        exact h.2 ▸ h₁

theorem length_lt_of_escape {s r : List UInt8} {c : Char} (h : escape s = .ok (c, r)) :
    r.length < s.length := by
  unfold escape at h
  split at h
  · simp at h
  · split at h
    · exact Nat.lt_succ_of_lt (length_lt_of_unicodeEscape h)
    · split at h
      · simp only [Except.ok.injEq, Prod.mk.injEq] at h
        simp [← h.2]
      · simp at h

/-! ### The literal -/

/--
Characters up to the closing quote.

`invalid` is the fault of the first byte so far that is not part of a character.
-/
def characters (invalid : Option Fault) (s : List UInt8) :
    Except Fault (List Char × List UInt8) :=
  match s with
  | [] => .error ⟨.eofInString, 0⟩
  | b :: r =>
    if b = Utf8.byte '"' then
      match invalid with
      | none => .ok ([], r)
      | some fault => .error fault
    else if b = Utf8.byte '\\' then
      match _ : escape r with
      | .error fault => .error fault
      | .ok (c, t) => (characters invalid t).map fun (cs, rest) => (c :: cs, rest)
    else if b < 0x20 then .error (.before .controlCharacter r)
    else
      match Utf8.first? (b :: r) with
      | some c =>
        (characters invalid (r.drop (c.utf8Size - 1))).map fun (cs, rest) => (c :: cs, rest)
      | none => characters (invalid.or (some (.before .invalidCodePoint r))) r
termination_by s.length
decreasing_by
  · have := length_lt_of_escape ‹_›
    simp only [List.length_cons]
    omega
  · simp only [List.length_drop, List.length_cons]
    omega
  · simp

theorem length_lt_of_characters {invalid : Option Fault} {s rest : List UInt8} {cs : List Char}
    (h : characters invalid s = .ok (cs, rest)) : rest.length < s.length := by
  fun_induction characters invalid s generalizing cs rest with
  | case1 | case3 | case4 | case6 => simp at h
  | case2 =>
    simp only [Except.ok.injEq, Prod.mk.injEq] at h
    simp [← h.2]
  | case5 invalid r c t hescape hquote ih =>
    cases htail : characters invalid t with
    | error fault => simp [htail, Except.map] at h
    | ok p =>
      obtain ⟨cs', rest'⟩ := p
      simp only [htail, Except.map, Except.ok.injEq, Prod.mk.injEq] at h
      have h₀ := ih htail
      have h₁ := length_lt_of_escape hescape
      simp [← h.2]
      omega
  | case7 invalid b r hquote hbackslash hcontrol c hfirst ih =>
    cases htail : characters invalid (r.drop (c.utf8Size - 1)) with
    | error fault => simp [htail, Except.map] at h
    | ok p =>
      obtain ⟨cs', rest'⟩ := p
      simp only [htail, Except.map, Except.ok.injEq, Prod.mk.injEq] at h
      have h₀ := ih htail
      simp at h₀
      simp [← h.2]
      omega
  | case8 invalid b r hquote hbackslash hcontrol hfirst ih =>
    exact Nat.lt_succ_of_lt (ih h)

/-- Reader of a string literal behind its opening quote. -/
def reader : Reader String where
  run s := (characters none s).map fun (cs, rest) => (String.ofList cs, rest)
  consumes := by
    intro s text rest h
    cases hs : characters none s with
    | error fault => simp [hs, Except.map] at h
    | ok p =>
      obtain ⟨cs, rest'⟩ := p
      simp only [hs, Except.map, Except.ok.injEq, Prod.mk.injEq] at h
      exact h.2 ▸ length_lt_of_characters hs

end Literal

end EntitySync
