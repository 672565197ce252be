/-!
# The order of texts is that of their bytes

Texts are compared character by character. Their encodings, which are compared byte by byte, stand in
the same order: a character that comes before another one has an encoding that differs from that of the
other in some byte, and is less in the first such byte.
-/

namespace ResourceAccessors.Text

/-- The bytes that a text is stored in. -/
def bytes (text : String) : List UInt8 :=
  text.toUTF8.data.toList

/-- The bytes of a text are those of its characters. -/
theorem bytes_eq (text : String) : bytes text = text.toList.flatMap String.utf8EncodeChar := by
  rw [bytes, String.toUTF8_eq_toByteArray, ← String.utf8Encode_toList, List.utf8Encode,
    List.toList_data_toByteArray]

/-- Sequences that start with bytes in order stand in order. -/
theorem byte_cons_lt {m n : Nat} (small : n < 256) (less : m < n) (rest others : List UInt8) :
    UInt8.ofNat m :: rest < UInt8.ofNat n :: others := by
  apply List.cons_lt_cons_iff.2
  left
  rw [UInt8.lt_iff_toNat_lt, UInt8.toNat_ofNat', UInt8.toNat_ofNat']
  omega

/-- Sequences that start with bytes in order stand in order when this holds of what follows equal
bytes. -/
theorem byte_cons_lt_of_le {m n : Nat} (small : n < 256) (atMost : m ≤ n) {rest others : List UInt8}
    (later : m = n → rest < others) : UInt8.ofNat m :: rest < UInt8.ofNat n :: others := by
  by_cases same : m = n
  · subst same
    exact List.cons_lt_cons_iff.2 (.inr ⟨rfl, later rfl⟩)
  · apply byte_cons_lt small
    omega

/-- Characters in order have encodings in order, whatever follows them. -/
theorem encoding_append_lt {left right : Char} (less : left < right) (rest others : List UInt8) :
    String.utf8EncodeChar left ++ rest < String.utf8EncodeChar right ++ others := by
  have below : left.val.toNat < right.val.toNat := less
  have bound : right.val.toNat < 0x110000 := by
    rcases right.valid with low | high
    · exact Nat.lt_trans low (by decide)
    · exact high.2
  -- Longer encodings start with greater bytes; those of one length differ in some byte.
  fun_cases String.utf8EncodeChar left <;> fun_cases String.utf8EncodeChar right
  all_goals first
    | omega
    | exact byte_cons_lt (by omega) (by omega) _ _
    | apply byte_cons_lt_of_le (by omega) (by omega)
      intro sameFirst
      first
        | exact byte_cons_lt (by omega) (by omega) _ _
        | apply byte_cons_lt_of_le (by omega) (by omega)
          intro sameSecond
          first
            | exact byte_cons_lt (by omega) (by omega) _ _
            | apply byte_cons_lt_of_le (by omega) (by omega)
              intro sameThird
              exact byte_cons_lt (by omega) (by omega) _ _

/-- Sequences of characters in order have encodings in order. -/
theorem flatMap_encoding_lt {left right : List Char} (less : left < right) :
    left.flatMap String.utf8EncodeChar < right.flatMap String.utf8EncodeChar := by
  induction left generalizing right with
  | nil =>
    cases right with
    | nil => exact absurd less (List.lt_irrefl [])
    | cons first rest =>
      obtain ⟨byte, bytes, encoded⟩ := List.exists_cons_of_ne_nil
        (String.utf8EncodeChar_ne_nil (c := first))
      rw [List.flatMap_nil, List.flatMap_cons, encoded]
      exact List.nil_lt_cons byte _
  | cons first rest ih =>
    cases right with
    | nil => exact absurd less (List.not_lt_nil _)
    | cons other others =>
      rw [List.flatMap_cons, List.flatMap_cons]
      rcases List.cons_lt_cons_iff.1 less with before | ⟨rfl, later⟩
      · exact encoding_append_lt before _ _
      · exact List.append_left_lt (ih later)

/-- Texts stand in the order of their bytes. -/
theorem bytes_lt_iff {left right : String} : bytes left < bytes right ↔ left < right := by
  have forth : ∀ {one other : String}, one < other → bytes one < bytes other := by
    intro one other less
    rw [bytes_eq, bytes_eq]
    exact flatMap_encoding_lt (String.lt_iff.1 less)
  constructor
  · intro less
    by_cases before : left < right
    · exact before
    · by_cases after : right < left
      · exact absurd (List.lt_trans less (forth after)) (List.lt_irrefl _)
      · rw [String.le_antisymm (String.not_lt.1 after) (String.not_lt.1 before)] at less
        exact absurd less (List.lt_irrefl _)
  · exact forth

end ResourceAccessors.Text
