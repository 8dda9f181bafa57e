import Mathlib.Data.List.Forall2
import Runesmith.Proofs.Bytes
import Runesmith.Transaction.Wire

/-!
# Readers of the wire format

What a reader makes of bytes that were written for it, and what the bytes look like that it has
taken.

* `Reads` goes from bytes to what they stand for, whatever follows them;
* `Takes` goes back from what was read to the bytes in front of the rest;
* both have one rule for each way in which readers are put together, and one for each reader.
-/

namespace Runesmith.Transaction.Reader

variable {α β : Type}

/-- The reader takes exactly these bytes for this value, whatever follows them. -/
def Reads (reader : Reader α) (bytes : Bytes) (x : α) : Prop :=
  ∀ rest, reader (bytes ++ rest) = .ok (x, rest)

/-- The bytes that the reader takes for a value have this relation to it. -/
def Takes (reader : Reader α) (P : Bytes → α → Prop) : Prop :=
  ∀ bytes x rest, reader bytes = .ok (x, rest) → ∃ front, bytes = front ++ rest ∧ P front x

/-! ## Putting readers together -/

theorem run_bind (reader : Reader α) (next : α → Reader β) (bytes : Bytes) :
    (reader >>= next) bytes = match reader bytes with
      | .ok (x, rest) => next x rest
      | .error e => .error e := by
  show (reader bytes >>= fun taken => next taken.1 taken.2) = _
  cases reader bytes <;> rfl

theorem ok_of_bind {reader : Reader α} {next : α → Reader β} {bytes rest : Bytes} {y : β}
    (h : (reader >>= next) bytes = .ok (y, rest)) :
    ∃ x middle, reader bytes = .ok (x, middle) ∧ next x middle = .ok (y, rest) := by
  rw [run_bind] at h
  cases hreader : reader bytes with
  | error e =>
    rw [hreader] at h
    cases h
  | ok taken =>
    rw [hreader] at h
    exact ⟨taken.1, taken.2, rfl, h⟩

theorem Reads.pure (x : α) : Reads (pure x) [] x :=
  fun _ => rfl

theorem Reads.bind {reader : Reader α} {next : α → Reader β} {bytes more : Bytes} {x : α} {y : β}
    (h : Reads reader bytes x) (hnext : Reads (next x) more y) :
    Reads (reader >>= next) (bytes ++ more) y := by
  intro rest
  have hfirst : reader (bytes ++ (more ++ rest)) = .ok (x, more ++ rest) := h (more ++ rest)
  rw [List.append_assoc, run_bind, hfirst]
  exact hnext rest

/-- What was read may be put in another form. -/
theorem Reads.map {reader : Reader α} {bytes : Bytes} {x : α} (f : α → β)
    (h : Reads reader bytes x) : Reads (do return f (← reader)) bytes (f x) := by
  have hall : Reads (reader >>= fun x => Pure.pure (f x)) (bytes ++ []) (f x) :=
    h.bind (Reads.pure (f x))
  rw [List.append_nil] at hall
  exact hall

theorem Takes.mono {reader : Reader α} {P Q : Bytes → α → Prop} (h : Takes reader P)
    (hPQ : ∀ front x, P front x → Q front x) : Takes reader Q := by
  intro bytes x rest hread
  obtain ⟨front, hfront, hP⟩ := h bytes x rest hread
  exact ⟨front, hfront, hPQ front x hP⟩

theorem Takes.pure {P : Bytes → α → Prop} {x : α} (h : P [] x) : Takes (pure x) P := by
  intro bytes y rest hread
  cases hread
  exact ⟨[], rfl, h⟩

theorem Takes.bind {reader : Reader α} {next : α → Reader β} {P : Bytes → α → Prop}
    {Q : α → Bytes → β → Prop} {R : Bytes → β → Prop} (h : Takes reader P)
    (hnext : ∀ x, Takes (next x) (Q x))
    (hR : ∀ x first second y, P first x → Q x second y → R (first ++ second) y) :
    Takes (reader >>= next) R := by
  intro bytes y rest hread
  obtain ⟨x, middle, hfirst, hsecond⟩ := ok_of_bind hread
  obtain ⟨first, rfl, hP⟩ := h bytes x middle hfirst
  obtain ⟨second, rfl, hQ⟩ := hnext x middle y rest hsecond
  exact ⟨first ++ second, (List.append_assoc ..).symm, hR x first second y hP hQ⟩

/-- That bytes are taken at all is what matters. -/
theorem Takes.any {reader : Reader α} {next : α → Reader β} {P : Bytes → α → Prop}
    (h : Takes reader P) (hnext : ∀ x, Takes (next x) fun _ _ => True) :
    Takes (reader >>= next) fun _ _ => True :=
  h.bind hnext fun _ _ _ _ _ _ => trivial

/-! ## Bytes and numbers -/

theorem reads_take {bytes : Bytes} (h : bytes.length ≤ maxRead) :
    Reads (take bytes.length) bytes bytes := by
  intro rest
  have hfits : ¬ maxRead < bytes.length := Nat.not_lt.2 h
  unfold take
  rw [if_neg hfits, Bytes.split?_length_append]

theorem takes_take (n : Nat) :
    Takes (take n) fun front x => x = front ∧ front.length = n ∧ n ≤ maxRead := by
  intro bytes x rest hread
  unfold take at hread
  split at hread
  · cases hread
  · rename_i hfits
    cases hsplit : Bytes.split? n bytes with
    | none =>
      rw [hsplit] at hread
      cases hread
    | some parts =>
      rw [hsplit] at hread
      obtain ⟨front, back⟩ := parts
      cases hread
      obtain ⟨hbytes, hlength⟩ := Bytes.split?_eq_some_iff.1 hsplit
      exact ⟨x, hbytes, rfl, hlength, Nat.not_lt.1 hfits⟩

/-- Digits are read as the number that they denote. -/
theorem reads_digits {digits : Bytes} {width : Nat} (h : digits.length = width)
    (hwidth : width ≤ maxRead) : Reads (unsigned width) digits (Bytes.ofLittleEndian digits) := by
  subst h
  exact (reads_take hwidth).map Bytes.ofLittleEndian

theorem reads_unsigned {width n : Nat} (hwidth : width ≤ maxRead) (h : n < 256 ^ width) :
    Reads (unsigned width) (Bytes.littleEndian width n) n := by
  have hnumber := reads_digits (Bytes.length_littleEndian width n) hwidth
  rwa [Bytes.ofLittleEndian_littleEndian h] at hnumber

theorem takes_unsigned (width : Nat) :
    Takes (unsigned width) fun front n =>
      front.length = width ∧ n = Bytes.ofLittleEndian front := by
  refine (takes_take width).bind (Q := fun x second n => second = [] ∧ n = Bytes.ofLittleEndian x)
    (fun x => .pure ⟨rfl, rfl⟩) ?_
  intro x first second n ⟨hx, hlength, _⟩ ⟨hsecond, hn⟩
  rw [hsecond, List.append_nil]
  rw [hx] at hn
  exact ⟨hlength, hn⟩

theorem takes_signed (width : Nat) : Takes (signed width) fun front n =>
    front.length = width ∧ n = Int.bmod (Bytes.ofLittleEndian front) (2 ^ (8 * width)) := by
  intro bytes n rest hread
  obtain ⟨m, middle, hunsigned, hread⟩ := ok_of_bind hread
  obtain ⟨front, hfront, hlength, hm⟩ := takes_unsigned width _ _ _ hunsigned
  cases hread
  rw [hm]
  exact ⟨front, hfront, hlength, rfl⟩

theorem reads_signed_digits {digits : Bytes} {width : Nat} (h : digits.length = width)
    (hwidth : width ≤ maxRead) : Reads (signed width) digits
      (Int.bmod (Bytes.ofLittleEndian digits) (2 ^ (8 * width))) :=
  (reads_digits h hwidth).map fun n : Nat => Int.bmod n (Nat.pow 2 (8 * width))

/-- A number in two's complement is the one of least magnitude among those with its digits. -/
theorem reads_signed {width : Nat} {n : Int} {bytes : Bytes} (hwidth : width ≤ maxRead)
    (hpos : 0 < width) (h : signed? width n = some bytes) : Reads (signed width) bytes n := by
  unfold signed? at h
  dsimp only at h
  split at h
  case isFalse => cases h
  case isTrue hrange =>
    cases h
    have hhalves : Nat.pow 2 (8 * width) = 2 * Nat.pow 2 (8 * width - 1) := by
      have hpred : 8 * width = 8 * width - 1 + 1 := by omega
      rw [hpred]
      exact Nat.pow_succ'
    have hbase : 256 ^ width = Nat.pow 2 (8 * width) := by
      show _ = 2 ^ (8 * width)
      rw [Nat.pow_mul]
    have hnonneg : 0 ≤ n % (Nat.pow 2 (8 * width) : Nat) := Int.emod_nonneg n (by omega)
    have hlt : n % (Nat.pow 2 (8 * width) : Nat) < (Nat.pow 2 (8 * width) : Nat) :=
      Int.emod_lt_of_pos n (by omega)
    have hdigits : (n % (Nat.pow 2 (8 * width) : Nat)).toNat < 256 ^ width := by omega
    have hall := (reads_unsigned hwidth hdigits).map fun m : Nat =>
      Int.bmod m (Nat.pow 2 (8 * width))
    have hvalue : Int.bmod ((n % (Nat.pow 2 (8 * width) : Nat)).toNat : Int)
        (Nat.pow 2 (8 * width)) = n := by
      rw [Int.toNat_of_nonneg hnonneg, Int.emod_bmod]
      exact Int.bmod_eq_of_le (by omega) (by omega)
    rw [hvalue] at hall
    exact hall

/-! ## Counts -/

theorem reads_byte (b : UInt8) : Reads (unsigned 1) [b] b.toNat := by
  have hall : Reads (unsigned 1) (Bytes.littleEndian 1 b.toNat) b.toNat :=
    reads_unsigned (by decide) b.toNat_lt
  have hlow : b.toNat % 256 = b.toNat := Nat.mod_eq_of_lt b.toNat_lt
  have hbyte : Bytes.littleEndian 1 b.toNat = [b] := by
    rw [Bytes.littleEndian, Bytes.littleEndian, hlow, UInt8.ofNat_toNat]
  rw [hbyte] at hall
  exact hall

/-- The byte in front of a count says how many bytes follow. -/
theorem reads_marked_digits {marker : UInt8} {digits : Bytes} {width : Nat}
    (hmarker : ¬ marker.toNat < 0xFD) (hnext : (if marker.toNat = 0xFD then unsigned 2
      else if marker.toNat = 0xFE then unsigned 4 else unsigned 8) = unsigned width)
    (hwidth : width ≤ maxRead) (h : digits.length = width) :
    Reads count (marker :: digits) (Bytes.ofLittleEndian digits) := by
  unfold count
  refine Reads.bind (reads_byte marker) ?_
  rw [if_neg hmarker, hnext]
  exact reads_digits h hwidth

theorem reads_marked {marker : UInt8} {width n : Nat} (hmarker : ¬ marker.toNat < 0xFD)
    (hnext : (if marker.toNat = 0xFD then unsigned 2
      else if marker.toNat = 0xFE then unsigned 4 else unsigned 8) = unsigned width)
    (hwidth : width ≤ maxRead) (h : n < 256 ^ width) :
    Reads count (marker :: Bytes.littleEndian width n) n := by
  have hread := reads_marked_digits hmarker hnext hwidth (Bytes.length_littleEndian width n)
  rwa [Bytes.ofLittleEndian_littleEndian h] at hread

theorem reads_count {n : Nat} (h : n < 2 ^ 64) : Reads count (CompactSize.encode n) n := by
  unfold CompactSize.encode
  split
  case isTrue hsmall =>
    have hhead : Reads (unsigned 1) [UInt8.ofNat n] n := by
      have hbyte : (UInt8.ofNat n).toNat = n :=
        UInt8.toNat_ofNat_of_lt' (Nat.lt_trans hsmall (by decide))
      have hall := reads_byte (UInt8.ofNat n)
      rw [hbyte] at hall
      exact hall
    unfold count
    rw [← List.append_nil [UInt8.ofNat n]]
    refine Reads.bind hhead ?_
    rw [if_pos hsmall]
    exact .pure n
  case isFalse hlarge =>
    split
    · exact reads_marked (by decide) rfl (by decide) (by omega)
    split
    · exact reads_marked (by decide) rfl (by decide) (by omega)
    · exact reads_marked (by decide) rfl (by decide) (by omega)

/-- A count may be written at length, but it takes no fewer bytes than in its shortest form. -/
theorem takes_count :
    Takes count fun front n => n < 2 ^ 64 ∧ (CompactSize.encode n).length ≤ front.length := by
  have hmarked : ∀ width, width ≤ 8 → Takes (unsigned width) fun front n =>
      n < 256 ^ width ∧ front.length = width := by
    intro width _
    refine (takes_unsigned width).mono ?_
    intro front n ⟨hlength, hn⟩
    have hlt := Bytes.ofLittleEndian_lt front
    rw [← hn, hlength] at hlt
    exact ⟨hlt, hlength⟩
  unfold count
  refine Takes.bind (Q := fun head second n =>
    (head < 0xFD ∧ second = [] ∧ n = head) ∨ (second.length = 2 ∧ n < 256 ^ 2)
      ∨ (second.length = 4 ∧ n < 256 ^ 4) ∨ (second.length = 8 ∧ n < 256 ^ 8))
    (takes_unsigned 1) ?_ ?_
  · intro head
    split
    case isTrue hsmall => exact .pure (.inl ⟨hsmall, rfl, rfl⟩)
    case isFalse hlarge =>
      split
      · exact (hmarked 2 (by decide)).mono fun front n h => .inr (.inl ⟨h.2, h.1⟩)
      split
      · exact (hmarked 4 (by decide)).mono fun front n h => .inr (.inr (.inl ⟨h.2, h.1⟩))
      · exact (hmarked 8 (by decide)).mono fun front n h => .inr (.inr (.inr ⟨h.2, h.1⟩))
  · intro head first second n ⟨hfirst, _⟩ hsecond
    have hlength : (first ++ second).length = 1 + second.length := by
      rw [List.length_append, hfirst]
    have hshortest : (CompactSize.encode n).length
        = if n < 253 then 1 else if n ≤ 0xFFFF then 3 else if n ≤ 0xFFFFFFFF then 5 else 9 := by
      unfold CompactSize.encode
      split
      · rfl
      split
      · simp
      split <;> simp
    rw [hlength, hshortest]
    rcases hsecond with ⟨hhead, rfl, rfl⟩ | ⟨hwidth, hn⟩ | ⟨hwidth, hn⟩ | ⟨hwidth, hn⟩
    · rw [if_pos hhead]
      exact ⟨by omega, by simp⟩
    all_goals
      refine ⟨by omega, ?_⟩
      repeat' split
      all_goals omega

/-! ## Bytes behind their count, and things behind theirs -/

theorem reads_sized {bytes : Bytes} (h : bytes.length ≤ maxRead) :
    Reads sized (Transaction.sized bytes) bytes := by
  have hcount : bytes.length < 2 ^ 64 := Nat.lt_of_le_of_lt h (by decide)
  exact Reads.bind (reads_count hcount) (reads_take h)

theorem takes_sized : Takes sized fun front bytes =>
    bytes.length ≤ maxRead ∧ (Transaction.sized bytes).length ≤ front.length := by
  refine takes_count.bind (fun n => takes_take n) ?_
  intro n first second bytes ⟨_, hshortest⟩ ⟨hbytes, hlength, hfits⟩
  rw [hbytes, Transaction.sized, List.length_append, List.length_append, hlength]
  exact ⟨hfits, by omega⟩

theorem reads_many {item : Reader α} {pieces : List Bytes} {xs : List α}
    (h : List.Forall₂ (Reads item) pieces xs) : Reads (many item xs.length) pieces.flatten xs := by
  induction h with
  | nil => exact .pure []
  | @cons _ x _ xs hitem _ ih =>
    show Reads (item >>= fun x => do return x :: (← many item xs.length)) _ _
    exact hitem.bind (ih.map (x :: ·))

theorem reads_counted {item : Reader α} {pieces : List Bytes} {xs : List α}
    (hcount : xs.length < 2 ^ 64) (h : List.Forall₂ (Reads item) pieces xs) :
    Reads (counted item) (CompactSize.encode xs.length ++ pieces.flatten) xs :=
  Reads.bind (reads_count hcount) (reads_many h)

/-- The bytes of things are the bytes of one behind those of the other. -/
theorem takes_many {item : Reader α} {P : Bytes → α → Prop} (h : Takes item P) (n : Nat) :
    Takes (many item n) fun front xs =>
      xs.length = n ∧ ∃ pieces, front = pieces.flatten ∧ List.Forall₂ P pieces xs := by
  induction n with
  | zero => exact .pure ⟨rfl, [], rfl, .nil⟩
  | succ n ih =>
    refine h.bind (fun x => ih.bind (Q := fun xs second all => second = [] ∧ all = x :: xs)
      (R := fun front all => ∃ xs, all = x :: xs ∧ xs.length = n
        ∧ ∃ pieces, front = pieces.flatten ∧ List.Forall₂ P pieces xs)
      (fun xs => .pure ⟨rfl, rfl⟩) ?_) ?_
    · intro xs first second all ⟨hlength, hpieces⟩ ⟨hsecond, hall⟩
      rw [hsecond, List.append_nil]
      exact ⟨xs, hall, hlength, hpieces⟩
    · intro x first second all hfirst ⟨xs, hall, hlength, pieces, hsecond, hpieces⟩
      rw [hall, hsecond]
      exact ⟨congrArg (· + 1) hlength, first :: pieces, rfl, .cons hfirst hpieces⟩

theorem takes_counted {item : Reader α} {P : Bytes → α → Prop} (h : Takes item P) :
    Takes (counted item) fun front xs => xs.length < 2 ^ 64
      ∧ ∃ count pieces, (CompactSize.encode xs.length).length ≤ count.length
        ∧ front = count ++ pieces.flatten ∧ List.Forall₂ P pieces xs := by
  refine takes_count.bind (fun n => takes_many h n) ?_
  intro n first second xs ⟨hcount, hshortest⟩ ⟨hlength, pieces, hsecond, hpieces⟩
  rw [hlength, hsecond]
  exact ⟨hcount, first, pieces, hshortest, rfl, hpieces⟩

end Runesmith.Transaction.Reader
