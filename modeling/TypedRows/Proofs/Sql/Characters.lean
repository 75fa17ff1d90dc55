import TypedRows.Proofs.Grammar.Numbering
import TypedRows.Sql.Characters

namespace TypedRows.Sql

-- The characters that the engine finds in the bytes of a text: those of the text, up to its first
-- null character.

inductive Encodes (c : Char) : List UInt8 → Prop where
  | ascii {byte : UInt8} : byte.toNat = c.toNat → c.toNat < 0x80 → Encodes c [byte]
  | wide {lead : UInt8} {rest : List UInt8} : 0x80 ≤ c.toNat → 0xc0 ≤ lead →
      (∀ byte ∈ rest, isContinuation byte = true) → Encodes c (lead :: rest)

theorem toNat_byte {n : Nat} (small : n < 256) : (UInt8.ofNat n).toNat = n := by
  rw [UInt8.toNat_ofNat']
  exact Nat.mod_eq_of_lt small

theorem byte_lt_iff {n : Nat} (small : n < 256) (b : UInt8) : UInt8.ofNat n < b ↔ n < b.toNat := by
  rw [UInt8.lt_iff_toNat_lt,toNat_byte small]

theorem le_byte_iff {n : Nat} (small : n < 256) (b : UInt8) : b ≤ UInt8.ofNat n ↔ b.toNat ≤ n := by
  rw [UInt8.le_iff_toNat_le,toNat_byte small]

theorem isContinuation_ofNat (n : Nat) : isContinuation (UInt8.ofNat (n % 64 + 128)) = true := by
  have small : n % 64 + 128 < 256 := by omega
  rw [isContinuation,Bool.and_eq_true,decide_eq_true_eq,decide_eq_true_eq,le_byte_iff small,
    byte_lt_iff small]
  exact ⟨Nat.le_add_left 128 _,show n % 64 + 128 < 192 by omega⟩

theorem leads_ofNat {n : Nat} (low : 192 ≤ n) (high : n < 256) : 0xc0 ≤ UInt8.ofNat n :=
  (le_byte_iff high _).mpr low

theorem continuations (ns : List Nat) (byte : UInt8)
    (present : byte ∈ ns.map fun n => UInt8.ofNat (n % 64 + 128)) : isContinuation byte = true := by
  obtain ⟨n,_,rfl⟩ := List.mem_map.mp present
  exact isContinuation_ofNat n

theorem encodes (c : Char) : Encodes c (String.utf8EncodeChar c) := by
  rw [String.utf8EncodeChar.eq_1,show c.val.toNat = c.toNat from rfl]
  split
  · rename_i low
    exact .ascii (toNat_byte (by omega)) (by omega)
  · have high : 0x80 ≤ c.toNat := by omega
    split
    · exact .wide high (leads_ofNat (by omega) (by omega)) (continuations [c.toNat])
    · split
      · exact .wide high (leads_ofNat (by omega) (by omega))
          (continuations [c.toNat / 64,c.toNat])
      · exact .wide high (leads_ofNat (by omega) (by omega))
          (continuations [c.toNat / 4096,c.toNat / 64,c.toNat])

-- The code under which a character is compared with a pattern: two that no text should have count
-- as the replacement character.
def likeCode (c : Char) : Nat := if c.toNat / 2 = 0x7fff then 0xfffd else c.toNat

theorem leadingBits_two {k : Nat} (small : k < 32) : leadingBits (UInt8.ofNat (k + 192)) = k := by
  have byte : k + 192 < 256 := by omega
  have below : UInt8.ofNat (k + 192) < 0xe0 :=
    (byte_lt_iff byte _).mpr (show k + 192 < 224 by omega)
  rw [leadingBits,if_pos below,toNat_byte byte]
  exact Nat.add_sub_cancel k 192

theorem leadingBits_three {k : Nat} (small : k < 16) : leadingBits (UInt8.ofNat (k + 224)) = k := by
  have byte : k + 224 < 256 := by omega
  have above : ¬ UInt8.ofNat (k + 224) < 0xe0 :=
    (byte_lt_iff byte _).not.mpr (show ¬ k + 224 < 224 by omega)
  have below : UInt8.ofNat (k + 224) < 0xf0 :=
    (byte_lt_iff byte _).mpr (show k + 224 < 240 by omega)
  rw [leadingBits,if_neg above,if_pos below,toNat_byte byte]
  exact Nat.add_sub_cancel k 224

theorem leadingBits_four {k : Nat} (small : k < 8) : leadingBits (UInt8.ofNat (k + 240)) = k := by
  have byte : k + 240 < 256 := by omega
  have above : ¬ UInt8.ofNat (k + 240) < 0xe0 :=
    (byte_lt_iff byte _).not.mpr (show ¬ k + 240 < 224 by omega)
  have above' : ¬ UInt8.ofNat (k + 240) < 0xf0 :=
    (byte_lt_iff byte _).not.mpr (show ¬ k + 240 < 240 by omega)
  have below : UInt8.ofNat (k + 240) < 0xf8 :=
    (byte_lt_iff byte _).mpr (show k + 240 < 248 by omega)
  rw [leadingBits,if_neg above,if_neg above',if_pos below,toNat_byte byte]
  exact Nat.add_sub_cancel k 240

theorem continued (code n : Nat) (small : code < 32768) :
    (code * 64 + (UInt8.ofNat (n % 64 + 128)).toNat % 64) % UInt32.size = code * 64 + n % 64 := by
  rw [toNat_byte (by omega),show UInt32.size = 4294967296 from rfl]
  omega

theorem codeOf_wide {c : Char} {lead : UInt8} {rest : List UInt8} (wide : 0x80 ≤ c.toNat)
    (leads : 0xc0 ≤ lead)
    (code : rest.foldl (fun code byte => (code * 64 + byte.toNat % 64) % UInt32.size)
      (leadingBits lead) = c.toNat) : codeOf (lead :: rest) = likeCode c := by
  have valid : c.toNat < 55296 ∨ 57343 < c.toNat ∧ c.toNat < 1114112 := c.valid
  have same : (c.toNat < 0x80 ∨ c.toNat / 2048 = 0x1b ∨ c.toNat / 2 = 0x7fff) ↔
      c.toNat / 2 = 0x7fff := by omega
  rw [codeOf,if_neg (by simpa using leads),code,likeCode]
  simp only [same]

theorem codeOf_utf8EncodeChar (c : Char) : codeOf (String.utf8EncodeChar c) = likeCode c := by
  have valid : c.toNat < 55296 ∨ 57343 < c.toNat ∧ c.toNat < 1114112 := c.valid
  rw [String.utf8EncodeChar.eq_1,show c.val.toNat = c.toNat from rfl]
  split
  · have byte : c.toNat < 256 := by omega
    have below : UInt8.ofNat c.toNat < 0xc0 :=
      (byte_lt_iff byte _).mpr (show c.toNat < 192 by omega)
    rw [codeOf,if_pos below,toNat_byte byte,likeCode,if_neg (by omega)]
  · split
    · refine codeOf_wide (by omega) (leads_ofNat (by omega) (by omega)) ?_
      rw [leadingBits_two (by omega)]
      simp only [List.foldl]
      rw [continued (c.toNat / 64 % 32) _ (by omega)]
      omega
    · split
      · refine codeOf_wide (by omega) (leads_ofNat (by omega) (by omega)) ?_
        rw [leadingBits_three (by omega)]
        simp only [List.foldl]
        rw [continued (c.toNat / 4096 % 16) _ (by omega),continued _ _ (by omega)]
        omega
      · refine codeOf_wide (by omega) (leads_ofNat (by omega) (by omega)) ?_
        rw [leadingBits_four (by omega)]
        simp only [List.foldl]
        rw [continued (c.toNat / 262144 % 8) _ (by omega),continued (_ * 64 + _ % 64) _ (by omega),
          continued _ _ (by omega)]
        omega

theorem charactersFrom_continued {started conts : List UInt8} (opened : started ≠ [])
    (each : ∀ byte ∈ conts, isContinuation byte = true) (rest : List UInt8) :
    charactersFrom started (conts ++ rest) = charactersFrom (conts.reverse ++ started) rest := by
  induction conts generalizing started with
  | nil => rfl
  | cons byte conts ih =>
    have taken : (isContinuation byte && !started.isEmpty) = true := by
      simp [each byte List.mem_cons_self,opened]
    rw [List.cons_append,charactersFrom,if_pos taken,
      ih (by simp) fun b present => each b (List.mem_cons_of_mem _ present)]
    simp

def closed (started : List UInt8) : List (List UInt8) :=
  if started = [] then [] else [started.reverse]

theorem charactersFrom_encodes {c : Char} {bytes : List UInt8} (encodes : Encodes c bytes)
    (started : List UInt8) {rest : List UInt8} {found : List (List UInt8)}
    (later : ∀ started, charactersFrom started rest = closed started ++ found) :
    charactersFrom started (bytes ++ rest) = closed started ++ bytes :: found := by
  cases encodes with
  | @ascii byte value low =>
    have single : isContinuation byte = false := by
      rw [isContinuation,Bool.and_eq_false_iff,decide_eq_false_iff_not,UInt8.le_iff_toNat_le,value]
      exact .inl (show ¬ 128 ≤ c.toNat by omega)
    have below : ¬ 0xc0 ≤ byte := by
      rw [UInt8.le_iff_toNat_le,value]
      exact show ¬ 192 ≤ c.toNat by omega
    simp only [List.singleton_append,charactersFrom,single,Bool.false_and,Bool.false_eq_true,if_false,
      below,later]
    rfl
  | @wide lead conts _ leads each =>
    have single : isContinuation lead = false := by
      rw [isContinuation,Bool.and_eq_false_iff,decide_eq_false_iff_not,decide_eq_false_iff_not]
      exact .inr (UInt8.not_lt.mpr leads)
    simp only [List.cons_append,charactersFrom,single,Bool.false_and,Bool.false_eq_true,if_false,
      leads,if_true]
    rw [charactersFrom_continued (by simp) each,later]
    simp [closed]

theorem charactersFrom_encoded (started : List UInt8) (cs : List Char) :
    charactersFrom started (cs.flatMap String.utf8EncodeChar) =
      closed started ++ cs.map String.utf8EncodeChar := by
  induction cs generalizing started with
  | nil => simp [charactersFrom,closed]
  | cons c cs ih => exact charactersFrom_encodes (encodes c) started ih

theorem bytesOf_eq (s : String) : bytesOf s = s.toList.flatMap String.utf8EncodeChar := by
  rw [bytesOf,String.toUTF8_eq_toByteArray,← String.utf8Encode_toList,List.utf8Encode,
    List.data_toByteArray]

theorem bytesOf_inj {s t : String} : bytesOf s = bytesOf t ↔ s = t := by
  rw [bytesOf,bytesOf,Array.toList_inj,String.toUTF8_eq_toByteArray,String.toUTF8_eq_toByteArray,
    ← ByteArray.ext_iff,String.toByteArray_inj]

theorem Encodes.null_iff {c : Char} {bytes : List UInt8} (encodes : Encodes c bytes) {byte : UInt8}
    (present : byte ∈ bytes) : byte = 0 ↔ c.toNat = 0 := by
  cases encodes with
  | ascii value _ =>
    rw [List.mem_singleton.mp present,← value]
    exact UInt8.toNat_inj.symm
  | wide wide leads each =>
    have high : 0x80 ≤ byte := by
      rcases List.mem_cons.mp present with rfl | later
      · exact UInt8.le_trans (by decide) leads
      · have continuation := each byte later
        rw [isContinuation,Bool.and_eq_true,decide_eq_true_eq] at continuation
        exact continuation.1
    refine iff_of_false ?_ (by omega)
    rintro rfl
    exact absurd high (by decide)

theorem visibleBytes_encoded (cs : List Char) :
    visibleBytes (cs.flatMap String.utf8EncodeChar) =
      (visible cs).flatMap String.utf8EncodeChar := by
  induction cs with
  | nil => rfl
  | cons c cs ih =>
    have null (byte : UInt8) (present : byte ∈ String.utf8EncodeChar c) := (encodes c).null_iff present
    rw [visible,List.flatMap_cons,visibleBytes]
    by_cases ends : c.toNat = 0
    · rw [List.takeWhile_cons_of_neg (by simpa using ends)]
      cases bytes : String.utf8EncodeChar c with
      | nil => cases bytes ▸ encodes c
      | cons byte rest =>
        rw [bytes] at null
        have zero : byte = 0 := (null byte List.mem_cons_self).mpr ends
        rw [List.cons_append,List.takeWhile_cons_of_neg (by simp [zero])]
        rfl
    · rw [List.takeWhile_cons_of_pos (by simpa using ends),
        List.takeWhile_append_of_pos fun byte present => by
          simpa using (null byte present).not.mpr ends]
      exact congrArg _ ih

theorem characters_bytesOf (s : String) :
    characters (bytesOf s) = (visible s.toList).map String.utf8EncodeChar := by
  rw [bytesOf_eq,characters,visibleBytes_encoded,charactersFrom_encoded]
  rfl

theorem codes_bytesOf (s : String) : codes (bytesOf s) = (visible s.toList).map likeCode := by
  rw [codes,characters_bytesOf,List.map_map]
  exact List.map_congr_left fun c _ => codeOf_utf8EncodeChar c

end TypedRows.Sql
