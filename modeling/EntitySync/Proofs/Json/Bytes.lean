import Mathlib
import EntitySync.Files
import EntitySync.Json.Printer
import EntitySync.Json.Numeral

/-!
# Characters as bytes

Texts are written as characters and read as bytes. What is written in ASCII is a byte for each
character. A text comes back from its bytes.
-/

namespace EntitySync

namespace Utf8

/-- The bytes of the characters, one after the other. -/
def ofChars (cs : List Char) : List UInt8 :=
  cs.flatMap String.utf8EncodeChar

@[simp] lemma ofChars_nil : ofChars [] = [] := rfl

@[simp] lemma ofChars_append (as bs : List Char) :
    ofChars (as ++ bs) = ofChars as ++ ofChars bs :=
  List.flatMap_append

lemma ofChars_flatMap {α : Type} (f : α → List Char) (as : List α) :
    ofChars (as.flatMap f) = as.flatMap fun a => ofChars (f a) :=
  List.flatMap_assoc

lemma ofChars_cons (c : Char) (cs : List Char) :
    ofChars (c :: cs) = String.utf8EncodeChar c ++ ofChars cs := rfl

lemma encode_ofList (cs : List Char) : encode (String.ofList cs) = ofChars cs := by
  rw [encode, String.toUTF8, String.toByteArray_ofList, List.utf8Encode,
    List.toList_data_toByteArray, ofChars]

@[simp] lemma encode_append (a b : String) : encode (a ++ b) = encode a ++ encode b := by
  simp [encode, String.toUTF8]

/-- A text comes back from its bytes. -/
lemma decode?_encode (text : String) : decode? (encode text) = some text := by
  have hbytes : (encode text).toByteArray = text.toByteArray := by
    ext1
    rw [List.data_toByteArray, encode, String.toUTF8, Array.toArray_toList]
  rw [decode?, hbytes, String.fromUTF8?, dif_pos text.isValidUTF8]
  rfl

/-! ### ASCII -/

lemma utf8EncodeChar_of_ascii {c : Char} (h : c.toNat < 128) :
    String.utf8EncodeChar c = [byte c] := by
  have hle : c.val.toNat ≤ 127 := Nat.le_of_lt_succ h
  simp only [String.utf8EncodeChar, hle, if_true]
  rfl

lemma ofChars_cons_of_ascii {c : Char} (h : c.toNat < 128) (cs : List Char) :
    ofChars (c :: cs) = byte c :: ofChars cs := by
  rw [ofChars_cons, utf8EncodeChar_of_ascii h]
  rfl

lemma ofChars_of_ascii {cs : List Char} (h : ∀ c ∈ cs, c.toNat < 128) :
    ofChars cs = cs.map byte := by
  induction cs with
  | nil => rfl
  | cons c cs ih =>
    rw [ofChars_cons_of_ascii (h c List.mem_cons_self),
      ih fun d hd => h d (List.mem_cons_of_mem c hd), List.map_cons]

lemma toNat_byte {c : Char} (h : c.toNat < 128) : (byte c).toNat = c.toNat :=
  Nat.mod_eq_of_lt (h.trans (by decide))

lemma byte_eq_iff {c d : Char} (hc : c.toNat < 128) (hd : d.toNat < 128) :
    byte c = byte d ↔ c = d := by
  rw [← UInt8.toNat_inj, toNat_byte hc, toNat_byte hd, Char.toNat_inj]

end Utf8

lemma FileText.ofBytes_encode (text : String) : FileText.ofBytes (Utf8.encode text) = .ok text := by
  rw [ofBytes, Utf8.decode?_encode]

end EntitySync
