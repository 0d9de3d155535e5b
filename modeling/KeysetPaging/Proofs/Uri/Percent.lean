import KeysetPaging.Proofs.Text.Utf8
import KeysetPaging.Uri.Percent
import Mathlib.Tactic.SplitIfs

/-!
# Percent coding read back

A text in percent coding stands for its own UTF-8 bytes, and both readings of it
give the text back.  The two readings differ only on plus signs and ill-formed
bytes, so a form name that shows neither a space nor a replacement character is
also the strict reading of its text.
-/

namespace KeysetPaging

namespace Text

theorem low_of_leadByte {byte : UInt8} :
    ∀ character ∈ (leadByte byte).2, 0x80 ≤ character.low := by
  simp only [leadByte]
  split_ifs <;> simp

theorem low_of_readByte {pending : Option PendingCharacter} {byte : UInt8} :
    ∀ character ∈ (readByte pending byte).2, 0x80 ≤ character.low := by
  cases pending with
  | none => exact low_of_leadByte
  | some pending =>
      simp only [readByte]
      split_ifs
      · rintro character ⟨⟩
      · rintro character ⟨⟩
        exact Nat.le_refl _
      · exact low_of_leadByte

theorem space_mem_readByte {pending : Option PendingCharacter}
    (above : ∀ character ∈ pending, 0x80 ≤ character.low) :
    some ' ' ∈ (readByte pending 0x20).1 := by
  cases pending with
  | none => decide
  | some pending =>
      have notContinuation :
          ¬ (pending.low ≤ (0x20 : UInt8).toNat ∧
            (0x20 : UInt8).toNat ≤ pending.high) := by
        have low := above pending rfl
        have byte : (0x20 : UInt8).toNat = 32 := rfl
        omega
      simp only [readByte, notContinuation, if_false]
      decide

/-- A space is never part of a longer character. -/
theorem space_mem_decodePieces {bytes : List UInt8} (space : 0x20 ∈ bytes)
    (pending : Option PendingCharacter)
    (above : ∀ character ∈ pending, 0x80 ≤ character.low) :
    some ' ' ∈ decodePieces pending bytes := by
  induction bytes generalizing pending with
  | nil => cases space
  | cons byte bytes induction =>
      have step : decodePieces pending (byte :: bytes) =
          (readByte pending byte).1 ++
            decodePieces (readByte pending byte).2 bytes := by
        cases pending <;> rfl
      rw [step]
      rcases List.mem_cons.mp space with rfl | inRest
      · exact List.mem_append_left _ (space_mem_readByte above)
      · exact List.mem_append_right _ (induction inRest _ low_of_readByte)

/-- Without replacement characters the lenient reading is the strict one. -/
theorem decodeUtf8?_of_decodeUtf8Lossy {bytes : List UInt8} {text : List Char}
    (read : decodeUtf8Lossy bytes = text) (faultless : '\uFFFD' ∉ text) :
    decodeUtf8? bytes = some text := by
  rw [decodeUtf8Lossy] at read
  rw [decodeUtf8?]
  generalize decodePieces none bytes = pieces at read ⊢
  clear bytes
  induction pieces generalizing text with
  | nil =>
      rw [← read]
      rfl
  | cons piece pieces induction =>
      cases text with
      | nil => cases read
      | cons c text =>
          obtain ⟨first, rest⟩ := List.cons.inj read
          have inner := induction
            (fun member => faultless (List.mem_cons_of_mem c member)) rest
          cases piece with
          | none => exact absurd (by simp [← first]) faultless
          | some d =>
              rw [List.mapM_cons, inner, ← first]
              rfl

end Text

namespace Uri

theorem decodeBytes_cons_of_ne {c : Char} (notMark : c ≠ '%')
    (rest : List Char) :
    decodeBytes (c :: rest) = Text.utf8Bytes c ++ decodeBytes rest := by
  rw [decodeBytes]
  rintro high low rest ⟨⟩
  exact absurd rfl notMark

theorem decodeBytes_encodeByte (byte : UInt8) (rest : List Char) :
    decodeBytes (encodeByte byte ++ rest) = byte :: decodeBytes rest := by
  have small : byte.toNat < 256 := byte.toNat_lt
  have high := Text.hexValue?_upperHexDigit (n := byte.toNat / 16) (by omega)
  have low := Text.hexValue?_upperHexDigit (n := byte.toNat % 16) (by omega)
  have whole : byte.toNat / 16 * 16 + byte.toNat % 16 = byte.toNat := by omega
  rw [encodeByte, List.cons_append, List.cons_append, List.cons_append,
    List.nil_append, decodeBytes]
  simp only [high, low, whole, UInt8.ofNat_toNat]

theorem decodeBytes_flatMap_encodeByte (bytes : List UInt8) (rest : List Char) :
    decodeBytes (bytes.flatMap encodeByte ++ rest) =
      bytes ++ decodeBytes rest := by
  induction bytes with
  | nil => rfl
  | cons byte bytes induction =>
      rw [List.flatMap_cons, List.append_assoc, decodeBytes_encodeByte,
        induction, List.cons_append]

theorem decodeBytes_encodeExcept {kept : Char → Bool}
    (markCoded : kept '%' = false) (text : List Char) :
    decodeBytes (encodeExcept kept text) = Text.encodeUtf8 text := by
  induction text with
  | nil => rfl
  | cons c text induction =>
      rw [encodeExcept, List.flatMap_cons, ← encodeExcept, Text.encodeUtf8,
        List.flatMap_cons, ← Text.encodeUtf8]
      by_cases isKept : kept c = true
      · have notMark : c ≠ '%' := by
          rintro rfl
          rw [markCoded] at isKept
          cases isKept
        rw [if_pos isKept, List.singleton_append,
          decodeBytes_cons_of_ne notMark, induction]
      · rw [if_neg isKept, decodeBytes_flatMap_encodeByte, induction]

theorem decode?_of_not_mem {text : List Char} (unmarked : '%' ∉ text) :
    decode? text = some text := by
  have bytes : decodeBytes text = Text.encodeUtf8 text := by
    induction text with
    | nil => rfl
    | cons c text induction =>
        have notMark : c ≠ '%' := fun mark => unmarked (by simp [mark])
        have rest := induction fun inside => unmarked (by simp [inside])
        rw [decodeBytes_cons_of_ne notMark, rest]
        rfl
  rw [decode?, bytes, Text.decodeUtf8?_encodeUtf8]

theorem plus_not_mem_encode (text : List Char) : '+' ∉ encode text := by
  intro member
  have other : ∀ c ∈ encode text, c ≠ '+' := by
    intro c inside
    refine mem_encodeExcept (P := fun c => c ≠ '+') ?_ (by decide) ?_ inside
    · rintro c isKept rfl
      exact absurd isKept (by decide)
    · intro n small
      revert n
      decide
  exact other '+' member rfl

theorem map_plus_of_not_mem {text : List Char} (absent : '+' ∉ text) :
    text.map (fun c => if c = '+' then ' ' else c) = text := by
  have unchanged : ∀ c ∈ text, (if c = '+' then ' ' else c) = id c := by
    intro c member
    have notPlus : c ≠ '+' := by
      rintro rfl
      exact absent member
    rw [if_neg notPlus, id]
  rw [List.map_congr_left unchanged, List.map_id]

theorem decodeForm_encode (text : List Char) :
    decodeForm (encode text) = text := by
  have unchanged : (encode text).map (fun c => if c = '+' then ' ' else c) =
      encode text :=
    map_plus_of_not_mem (plus_not_mem_encode text)
  rw [decodeForm, unchanged, encode, decodeBytes_encodeExcept (by decide),
    Text.decodeUtf8Lossy_encodeUtf8]

theorem space_mem_decodeBytes {text : List Char} (space : ' ' ∈ text) :
    0x20 ∈ decodeBytes text := by
  induction text using decodeBytes.induct with
  | case1 => cases space
  | case2 high low rest highValue lowValue lowRead highRead induction =>
      have inRest : ' ' ∈ rest := by
        simp only [List.mem_cons] at space
        have spaceUnread : Text.hexValue? ' ' = none := by decide
        rcases space with mark | rfl | rfl | inRest
        · exact absurd mark (by decide)
        · rw [spaceUnread] at highRead
          cases highRead
        · rw [spaceUnread] at lowRead
          cases lowRead
        · exact inRest
      rw [decodeBytes]
      simp only [highRead, lowRead]
      exact List.mem_cons_of_mem _ (induction inRest)
  | case3 high low rest unread induction =>
      have inRest : ' ' ∈ high :: low :: rest := by
        rcases List.mem_cons.mp space with mark | inRest
        · exact absurd mark (by decide)
        · exact inRest
      rw [decodeBytes]
      split
      · rename_i highRead lowRead
        exact absurd lowRead (unread _ _ highRead)
      · exact List.mem_append_right _ (induction inRest)
  | case4 c rest notMark induction =>
      rw [decodeBytes]
      · rcases List.mem_cons.mp space with rfl | inRest
        · exact List.mem_append_left _ (by decide)
        · exact List.mem_append_right _ (induction inRest)
      · exact notMark

/-- A form name with neither a space nor a replacement character is also what
strict percent decoding gives. -/
theorem decode?_of_decodeForm {text name : List Char}
    (read : decodeForm text = name) (spaceless : ' ' ∉ name)
    (faultless : '\uFFFD' ∉ name) : decode? text = some name := by
  by_cases plus : '+' ∈ text
  · have space : ' ' ∈ text.map fun c => if c = '+' then ' ' else c :=
      List.mem_map.mpr ⟨'+', plus, rfl⟩
    have piece := Text.space_mem_decodePieces (space_mem_decodeBytes space) none
      (by rintro character ⟨⟩)
    have shown : ' ' ∈ decodeForm text := List.mem_map.mpr ⟨_, piece, rfl⟩
    rw [read] at shown
    exact absurd shown spaceless
  · rw [decodeForm, map_plus_of_not_mem plus] at read
    exact Text.decodeUtf8?_of_decodeUtf8Lossy read faultless

end Uri

end KeysetPaging
