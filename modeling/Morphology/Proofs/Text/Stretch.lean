import Morphology.Search.Execution

/-!
# Stretches of a text

Stretches of a text are told by numbers of characters, but a text is stored as bytes, of which a
character takes up to four. Adjacent stretches put together are a stretch again, and so are the
bytes between the places where two characters begin.
-/

namespace Morphology

/-! ## Characters -/

theorem take_append_slice {text : List Char} {start stop : Nat} (h : start ≤ stop) :
    text.take start ++ slice text start stop = text.take stop := by
  unfold slice
  rw [← List.take_add, Nat.add_sub_cancel' h]

theorem slice_eq_drop_take (text : List Char) (start stop : Nat) :
    slice text start stop = (text.take stop).drop start :=
  List.drop_take.symm

theorem slice_append {v w : List Char} {start stop : Nat} (h : stop ≤ v.length) :
    slice (v ++ w) start stop = slice v start stop := by
  rw [slice_eq_drop_take, slice_eq_drop_take, List.take_append_of_le_length h]

theorem slice_length (text : List Char) : slice text 0 text.length = text := by
  rw [slice_eq_drop_take, List.take_length, List.drop_zero]

theorem slice_self (text : List Char) (place : Nat) : slice text place place = [] := by
  unfold slice
  rw [Nat.sub_self, List.take_zero]

/-- Two stretches, one of which starts where the other one stops, make up one stretch. -/
theorem slice_append_slice {text : List Char} {start middle stop : Nat} (hstart : start ≤ middle)
    (hstop : middle ≤ stop) :
    slice text start middle ++ slice text middle stop = slice text start stop := by
  have hsame : text.take start ++ (slice text start middle ++ slice text middle stop) =
      text.take start ++ slice text start stop := by
    calc
      _ = text.take middle ++ slice text middle stop := by
        rw [← List.append_assoc, take_append_slice hstart]
      _ = text.take stop := take_append_slice hstop
      _ = _ := (take_append_slice (Nat.le_trans hstart hstop)).symm
  exact List.append_cancel_left hsame

/-! ## Bytes -/

/-- The numbers of bytes before each character of a text and before its end, for a text that comes
after so many bytes. -/
def byteOffsets (before : Nat) : List Char → List Nat
  | [] => [before]
  | c :: rest => before :: byteOffsets (before + c.utf8Size) rest

/-- The number of bytes before a place of a text. -/
theorem getElem?_byteOffsets {text : List Char} {place : Nat} (h : place ≤ text.length)
    (before : Nat) :
    (byteOffsets before text)[place]? = some (before + (text.take place).utf8Encode.size) := by
  induction text generalizing before place with
  | nil =>
    obtain rfl := Nat.le_zero.mp h
    rfl
  | cons c rest ih =>
    cases place with
    | zero => rfl
    | succ place =>
      rw [byteOffsets, List.getElem?_cons_succ, ih (Nat.le_of_succ_le_succ h), List.take_succ_cons,
        List.utf8Encode_cons, ByteArray.size_append, List.utf8Encode_singleton,
        List.size_toByteArray, String.length_utf8EncodeChar, Nat.add_assoc]

/-- The bytes of a stretch are those between the places where it starts and where it stops. -/
theorem toUTF8_slice {text : List Char} {start stop : Nat} (h : start ≤ stop) :
    (String.ofList (slice text start stop)).toUTF8 =
      (String.ofList text).toUTF8.extract (text.take start).utf8Encode.size
        (text.take stop).utf8Encode.size := by
  have hparts : text.utf8Encode = (text.take start).utf8Encode ++
      ((slice text start stop).utf8Encode ++ (text.drop stop).utf8Encode) := by
    rw [← List.utf8Encode_append, ← List.utf8Encode_append, ← List.append_assoc,
      take_append_slice h, List.take_append_drop]
  have hsize : (text.take stop).utf8Encode.size =
      (text.take start).utf8Encode.size + (slice text start stop).utf8Encode.size := by
    rw [← ByteArray.size_append, ← List.utf8Encode_append, take_append_slice h]
  unfold String.toUTF8
  rw [String.toByteArray_ofList, String.toByteArray_ofList]
  calc
    (slice text start stop).utf8Encode =
        ((slice text start stop).utf8Encode ++ (text.drop stop).utf8Encode).extract 0
          (slice text start stop).utf8Encode.size :=
      (ByteArray.extract_append_eq_left rfl).symm
    _ = text.utf8Encode.extract (text.take start).utf8Encode.size
        ((text.take start).utf8Encode.size + (slice text start stop).utf8Encode.size) := by
      rw [hparts, ← ByteArray.extract_append_size_add, Nat.add_zero]
    _ = _ := by rw [hsize]

end Morphology
