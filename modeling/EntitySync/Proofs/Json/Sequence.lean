import EntitySync.Proofs.Json.Literal
import EntitySync.Proofs.Json.Numeral
import EntitySync.Json.Reader

/-!
# Sequences in brackets

Arrays and objects are printed as sequences of texts between brackets, and read by one reader of
bracketed items. A sequence is read back if each of its texts is, whatever the layout.
-/

namespace EntitySync

open Utf8 (byte ofChars)
open Numeral (Ends)

variable {α : Type}

/-! ### White space -/

namespace Reader

variable {b : UInt8} {s blank : List UInt8}

lemma skipBlanks_cons (h : isBlank b = false) (s : List UInt8) : skipBlanks (b :: s) = b :: s :=
  List.dropWhile_cons_of_neg (by simp [h])

lemma skipBlanks_append (h : ∀ b ∈ blank, isBlank b = true) (s : List UInt8) :
    skipBlanks (blank ++ s) = skipBlanks s :=
  List.dropWhile_append_of_pos h

lemma continues_eq_false_of_isBlank (h : isBlank b = true) : Numeral.continues b = false := by
  simp only [isBlank, Bool.or_eq_true, decide_eq_true_eq] at h
  rcases h with ((rfl | rfl) | rfl) | rfl <;> decide

lemma ends_append (hblank : ∀ b ∈ blank, isBlank b = true) (h : Ends s) : Ends (blank ++ s) := by
  cases blank with
  | nil => exact h
  | cons b blank =>
    exact Numeral.ends_cons (continues_eq_false_of_isBlank (hblank b List.mem_cons_self)) _

end Reader

lemma JsonLayout.isBlank_of_mem_lineBreak (layout : JsonLayout) (depth : ℕ) :
    ∀ b ∈ ofChars (layout.lineBreak depth), Reader.isBlank b = true := by
  cases layout with
  | compact => simp [lineBreak]
  | indented width =>
    rw [lineBreak, Utf8.ofChars_of_ascii]
    · simp only [List.map_cons, List.map_replicate, List.forall_mem_cons, List.mem_replicate]
      refine ⟨by decide, ?_⟩
      rintro b ⟨-, rfl⟩
      decide
    · simp only [List.forall_mem_cons, List.mem_replicate]
      refine ⟨by decide, ?_⟩
      rintro c ⟨-, rfl⟩
      decide

/-! ### Sequences of items -/

namespace Reader

variable {item : Reader α} {bracket : Bracket} {a : α} {as : List α} {s s' r t rest : List UInt8}

/-- The text in front is read as the value, unless what stands behind goes on with a number. -/
def ReadsBack (reader : Reader α) (text : List UInt8) (a : α) : Prop :=
  ∀ rest, Ends rest → reader.run (text ++ rest) = .ok (a, rest)

/-- The text starts with a byte that is neither blank nor a closing bracket. -/
def Opens (text : List UInt8) : Prop :=
  ∃ b t, text = b :: t ∧ isBlank b = false ∧ b ≠ byte ']' ∧ b ≠ byte '}'

/-- The bracket closes what is printed: an array or an object. -/
def Bracket.Closes (bracket : Bracket) : Prop :=
  bracket.close = byte ']' ∨ bracket.close = byte '}'

lemma Bracket.Closes.ne_comma (h : bracket.Closes) : byte ',' ≠ bracket.close := by
  rcases h with h | h <;> rw [h] <;> decide

lemma Bracket.Closes.isBlank_eq (h : bracket.Closes) : isBlank bracket.close = false := by
  rcases h with h | h <;> rw [h] <;> decide

lemma Bracket.Closes.continues_eq (h : bracket.Closes) :
    Numeral.continues bracket.close = false := by
  rcases h with h | h <;> rw [h] <;> decide

lemma Bracket.Closes.ne_of_opens {b : UInt8} (h : bracket.Closes)
    (hb : b ≠ byte ']' ∧ b ≠ byte '}') : b ≠ bracket.close := by
  rcases h with h | h <;> rw [h]
  · exact hb.1
  · exact hb.2

lemma opens_cons {b : UInt8} (h : isBlank b = false ∧ b ≠ byte ']' ∧ b ≠ byte '}')
    (s : List UInt8) : Opens (b :: s) :=
  ⟨b, s, rfl, h⟩

lemma Opens.append (h : Opens s) (rest : List UInt8) : Opens (s ++ rest) := by
  obtain ⟨b, t, rfl, hb⟩ := h
  exact ⟨b, t ++ rest, rfl, hb⟩

lemma Opens.skipBlanks_append (h : Opens s) (rest : List UInt8) :
    skipBlanks (s ++ rest) = s ++ rest := by
  obtain ⟨b, t, rfl, hb, -⟩ := h
  exact skipBlanks_cons hb (t ++ rest)

lemma items_last (hitem : item.run s = .ok (a, r)) (hclose : skipBlanks r = bracket.close :: rest) :
    items bracket item s = .ok ([a], rest) := by
  rw [items]
  split
  next fault h => rw [hitem] at h; cases h
  next a' r' h =>
    rw [hitem] at h
    cases h
    split
    next h => rw [hclose] at h; cases h
    next b r' h =>
      rw [hclose] at h
      cases h
      rw [if_pos rfl]

lemma items_cons (hbracket : bracket.Closes) (hitem : item.run s = .ok (a, byte ',' :: t))
    (hnext : skipBlanks t = s') (hopens : Opens s')
    (htail : items bracket item s' = .ok (as, rest)) :
    items bracket item s = .ok (a :: as, rest) := by
  obtain ⟨c, s', rfl, -, hclose⟩ := hopens
  have hcomma : skipBlanks (byte ',' :: t) = byte ',' :: t := skipBlanks_cons (by decide) t
  rw [items]
  split
  next fault h => rw [hitem] at h; cases h
  next a' r h =>
    rw [hitem] at h
    cases h
    split
    next h => rw [hcomma] at h; cases h
    next b r h =>
      rw [hcomma] at h
      cases h
      rw [if_neg hbracket.ne_comma, if_pos rfl]
      split
      next h => rw [hnext] at h; cases h
      next c' s'' h =>
        rw [hnext] at h
        cases h
        rw [if_neg (hbracket.ne_of_opens hclose), htail]
        rfl

/-- Items with commas between them and a closing bracket behind them are read back. -/
lemma items_of_readsBack {text : α → List UInt8} {blank blank' : List UInt8}
    (hbracket : bracket.Closes) (hblank : ∀ b ∈ blank, isBlank b = true)
    (hblank' : ∀ b ∈ blank', isBlank b = true)
    (hitems : ∀ x ∈ a :: as, Opens (text x) ∧ item.ReadsBack (text x) x) (rest : List UInt8) :
    items bracket item (text a ++ ((as.flatMap fun x => byte ',' :: (blank ++ text x)) ++
      (blank' ++ bracket.close :: rest))) = .ok (a :: as, rest) := by
  obtain ⟨-, hfirst⟩ := hitems a List.mem_cons_self
  induction as generalizing a with
  | nil =>
    rw [List.flatMap_nil, List.nil_append]
    refine items_last (hfirst _ ?_) ?_
    · exact ends_append hblank' (Numeral.ends_cons hbracket.continues_eq rest)
    · rw [skipBlanks_append hblank', skipBlanks_cons hbracket.isBlank_eq]
  | cons x as ih =>
    obtain ⟨hopens, hnext⟩ := hitems x (by simp)
    have htail := ih (fun y hy => hitems y (List.mem_cons_of_mem a hy)) hnext
    rw [List.flatMap_cons, List.cons_append, List.cons_append, List.append_assoc,
      List.append_assoc]
    refine items_cons hbracket (hfirst _ (Numeral.ends_cons (by decide) _)) ?_ ?_ htail
    · rw [skipBlanks_append hblank, hopens.skipBlanks_append]
    · exact hopens.append _

lemma run_bracketed_nil (h : skipBlanks s = bracket.close :: rest) :
    (bracketed bracket item).run s = .ok ([], rest) := by
  simp only [bracketed, h, if_true]

lemma run_bracketed_of_opens (hbracket : bracket.Closes) (hnext : skipBlanks s = s')
    (hopens : Opens s') : (bracketed bracket item).run s = items bracket item s' := by
  obtain ⟨b, t, rfl, -, hclose⟩ := hopens
  simp only [bracketed, hnext, if_neg (hbracket.ne_of_opens hclose)]

end Reader

/-- Texts in brackets with commas between them, each on a line of its own. -/
def JsonLayout.sequence (layout : JsonLayout) (depth : ℕ) (opening closing : Char) :
    List (List Char) → List Char
  | [] => [opening, closing]
  | t :: ts =>
    opening :: layout.lineBreak (depth + 1) ++ t ++
      (ts.flatMap fun t => ',' :: layout.lineBreak (depth + 1) ++ t) ++ layout.lineBreak depth ++
      [closing]

/-- A sequence is its opening bracket, and what stands behind that is read back. -/
lemma JsonLayout.exists_run_sequence (layout : JsonLayout) (depth : ℕ) {item : Reader α}
    {bracket : Reader.Bracket} {opening closing : Char} {as : List α} {text : α → List Char}
    (hbracket : bracket.Closes) (hopening : opening.toNat < 128) (hclosing : closing.toNat < 128)
    (hclose : bracket.close = byte closing)
    (hitems : ∀ x ∈ as, Reader.Opens (ofChars (text x)) ∧
      item.ReadsBack (ofChars (text x)) x) :
    ∃ t, ofChars (layout.sequence depth opening closing (as.map text)) = byte opening :: t ∧
      ∀ rest, (Reader.bracketed bracket item).run (t ++ rest) = .ok (as, rest) := by
  cases as with
  | nil =>
    refine ⟨[byte closing], ?_, fun rest => ?_⟩
    · rw [List.map_nil, sequence, Utf8.ofChars_of_ascii (by simp [hopening, hclosing])]
      rfl
    · rw [← hclose]
      exact Reader.run_bracketed_nil (Reader.skipBlanks_cons hbracket.isBlank_eq rest)
  | cons a as =>
    obtain ⟨hopens, -⟩ := hitems a List.mem_cons_self
    refine ⟨ofChars (layout.lineBreak (depth + 1)) ++ (ofChars (text a) ++
      ((as.flatMap fun x => byte ',' :: (ofChars (layout.lineBreak (depth + 1)) ++
        ofChars (text x))) ++ (ofChars (layout.lineBreak depth) ++ [byte closing]))),
      ?_, fun rest => ?_⟩
    · have hcomma : (',' : Char).toNat < 128 := by decide
      simp only [List.map_cons, sequence, List.cons_append, Utf8.ofChars_cons_of_ascii hopening,
        Utf8.ofChars_append, Utf8.ofChars_flatMap, Utf8.ofChars_cons_of_ascii hcomma,
        Utf8.ofChars_cons_of_ascii hclosing, Utf8.ofChars_nil, List.flatMap_map, List.append_assoc]
    · simp only [List.append_assoc, List.singleton_append, ← hclose]
      rw [Reader.run_bracketed_of_opens hbracket ?_ (hopens.append _)]
      · exact Reader.items_of_readsBack hbracket (layout.isBlank_of_mem_lineBreak (depth + 1))
          (layout.isBlank_of_mem_lineBreak depth) hitems rest
      · rw [Reader.skipBlanks_append (layout.isBlank_of_mem_lineBreak (depth + 1)),
          hopens.skipBlanks_append]

end EntitySync
