import Mathlib.Data.List.Sort
import Morphology.Rule.AnchoredRegex

/-!
# Lengths of beginnings

An anchored expression offers the lengths of beginnings of a text, in increasing order. Where a text
is stored as bytes, a beginning of it can be cut off only between two characters. The beginnings are
then looked for among all numbers of bytes, and those that split a character are passed over. What
is left are the lengths in characters, each told in bytes, so that cutting the text off there gives
back as many characters.
-/

namespace Morphology

namespace AnchoredRegex

variable {r : AnchoredRegex} {text : List Char} {n : Nat}

theorem mem_prefixLengths_iff : n ∈ r.prefixLengths text ↔
    n ≤ text.length ∧ r.whole (text.take n) ∧ r.opening text := by
  rw [prefixLengths]
  split
  next hopening =>
    rw [List.mem_filter, List.mem_range, Nat.lt_succ_iff, and_iff_left hopening]
  next hopening => simp [hopening]

theorem pairwise_prefixLengths : (r.prefixLengths text).Pairwise (· < ·) := by
  rw [prefixLengths]
  split
  next => exact List.pairwise_lt_range.filter _
  next => exact .nil

/-- The number of bytes that so many characters at the beginning of a text take. -/
def byteLength (text : List Char) (n : Nat) : Nat := (String.ofList (text.take n)).utf8ByteSize

/-- Longer beginnings of a text take more bytes. -/
theorem byteLength_lt {m : Nat} (hmn : m < n) (hn : n ≤ text.length) :
    byteLength text m < byteLength text n := by
  have hparts : text.take n = text.take m ++ (text.drop m).take (n - m) := by
    rw [← List.take_add, Nat.add_sub_cancel' (Nat.le_of_lt hmn)]
  have hmore : (text.drop m).take (n - m) ≠ [] := by
    rw [ne_eq, List.take_eq_nil_iff, List.drop_eq_nil_iff]
    omega
  have hpos : (String.ofList ((text.drop m).take (n - m))).utf8ByteSize ≠ 0 := by
    rw [ne_eq, String.utf8ByteSize_eq_zero_iff, String.ofList_eq_empty_iff]
    exact hmore
  rw [byteLength, byteLength, hparts, String.ofList_append, String.utf8ByteSize_append]
  omega

/-- The lengths increase in bytes as they do in characters. -/
theorem pairwise_byteLength :
    ((r.prefixLengths text).map (byteLength text)).Pairwise (· < ·) := by
  refine List.pairwise_map.mpr (pairwise_prefixLengths.imp_of_mem fun _ hn hmn ↦ ?_)
  exact byteLength_lt hmn (mem_prefixLengths_iff.mp hn).1

end AnchoredRegex

/-- The text that the first so many bytes of a text are, unless the last of them belong to a
character that goes on behind them. -/
def beginning? (text : String) (stop : Nat) : Option String :=
  if stop ≤ text.utf8ByteSize then String.fromUTF8? (text.toByteArray.extract 0 stop) else none

/-- The first bytes of a text, up to where a character starts, are the characters before it. -/
theorem beginning?_byteLength (text : String) (n : Nat) :
    beginning? text (AnchoredRegex.byteLength text.toList n) =
      some (String.ofList (text.toList.take n)) := by
  have hparts : text.toByteArray = (String.ofList (text.toList.take n)).toByteArray ++
      (String.ofList (text.toList.drop n)).toByteArray := by
    rw [← String.toByteArray_append, ← String.ofList_append, List.take_append_drop,
      String.ofList_toList]
  have hsize : AnchoredRegex.byteLength text.toList n ≤ text.utf8ByteSize := by
    rw [AnchoredRegex.byteLength, ← String.size_toByteArray, ← String.size_toByteArray, hparts,
      ByteArray.size_append]
    exact Nat.le_add_right _ _
  have hbytes : text.toByteArray.extract 0 (AnchoredRegex.byteLength text.toList n) =
      (String.ofList (text.toList.take n)).toByteArray := by
    rw [hparts]
    exact ByteArray.extract_append_eq_left rfl
  rw [beginning?, if_pos hsize, hbytes, String.fromUTF8?, dif_pos (String.isValidUTF8 _)]
  rfl

/-- A beginning is cut off where a character starts, or where the text ends. -/
theorem isValid_of_beginning? {text first : String} {stop : Nat}
    (h : beginning? text stop = some first) : (⟨stop⟩ : String.Pos.Raw).IsValid text := by
  rw [beginning?] at h
  split at h
  next hsize =>
    rw [String.fromUTF8?] at h
    split at h
    next hvalid => exact String.Pos.Raw.isValid_iff_isValidUTF8_extract_zero.mpr ⟨hsize, hvalid⟩
    next => exact absurd h nofun
  next => exact absurd h nofun

theorem beginning?_eq_some_iff {text first : String} {stop : Nat} :
    beginning? text stop = some first ↔ ∃ n ≤ text.toList.length,
      stop = AnchoredRegex.byteLength text.toList n ∧
        first = String.ofList (text.toList.take n) := by
  constructor
  · intro h
    obtain ⟨i, hi⟩ := String.Pos.Raw.isValid_iff_exists_take_toList.mp (isValid_of_beginning? h)
    have hstop : stop = AnchoredRegex.byteLength text.toList (min i text.toList.length) := by
      rw [AnchoredRegex.byteLength, ← List.take_eq_take_min]
      exact hi
    rw [hstop, beginning?_byteLength] at h
    exact ⟨_, Nat.min_le_right _ _, hstop, (Option.some.inj h).symm⟩
  · rintro ⟨n, -, rfl, rfl⟩
    exact beginning?_byteLength text n

namespace AnchoredRegex

/-- The numbers of bytes of the beginnings that match, least first. -/
def prefixSizes (r : AnchoredRegex) (text : String) : List Nat :=
  if r.opening text.toList then
    (List.range (text.utf8ByteSize + 1)).filter fun stop ↦
      (beginning? text stop).any fun first ↦ r.whole first.toList
  else []

theorem pairwise_prefixSizes (r : AnchoredRegex) (text : String) :
    (r.prefixSizes text).Pairwise (· < ·) := by
  rw [prefixSizes]
  split
  next => exact List.pairwise_lt_range.filter _
  next => exact .nil

/-- A size is found just if cutting the text off there leaves a beginning that matches. -/
theorem mem_prefixSizes_iff {r : AnchoredRegex} {text : String} {size : Nat} :
    size ∈ r.prefixSizes text ↔
      (∃ first, beginning? text size = some first ∧ r.whole first.toList) ∧
        r.opening text.toList := by
  rw [prefixSizes]
  split
  next hopening =>
    rw [List.mem_filter, List.mem_range, Nat.lt_succ_iff, Option.any_eq_true, and_iff_left hopening]
    refine and_iff_right_of_imp ?_
    rintro ⟨first, hfirst, -⟩
    exact (isValid_of_beginning? hfirst).le_utf8ByteSize
  next hopening => simp [hopening]

theorem prefixSizes_eq (r : AnchoredRegex) (text : String) :
    r.prefixSizes text = (r.prefixLengths text.toList).map (byteLength text.toList) := by
  refine List.Pairwise.eq_of_mem_iff (pairwise_prefixSizes r text) pairwise_byteLength
    fun size ↦ ?_
  rw [mem_prefixSizes_iff, List.mem_map]
  simp only [mem_prefixLengths_iff, beginning?_eq_some_iff]
  constructor
  · rintro ⟨⟨_, ⟨n, hn, rfl, rfl⟩, hwhole⟩, hopening⟩
    rw [String.toList_ofList] at hwhole
    exact ⟨n, ⟨hn, hwhole, hopening⟩, rfl⟩
  · rintro ⟨n, ⟨hn, hwhole, hopening⟩, rfl⟩
    exact ⟨⟨_, ⟨n, hn, rfl, rfl⟩, by rwa [String.toList_ofList]⟩, hopening⟩

/-- A size that is found is where a character of the text starts, or where the text ends, and it
cuts off as many characters as one of the lengths says. -/
theorem cut_of_mem_prefixSizes {r : AnchoredRegex} {text : String} {size : Nat}
    (h : size ∈ r.prefixSizes text) : (⟨size⟩ : String.Pos.Raw).IsValid text ∧
      ∃ first, beginning? text size = some first ∧
        first.toList.length ∈ r.prefixLengths text.toList := by
  rw [prefixSizes_eq] at h
  obtain ⟨n, hn, rfl⟩ := List.mem_map.mp h
  have hfirst := beginning?_byteLength text n
  refine ⟨isValid_of_beginning? hfirst, _, hfirst, ?_⟩
  rwa [String.toList_ofList, List.length_take,
    Nat.min_eq_left (mem_prefixLengths_iff.mp hn).1]

end AnchoredRegex

end Morphology
