import Mathlib.Data.Nat.Bitwise
import Runesmith.Address.Bech32

/-!
# The checksum as a remainder of polynomials

The checksum is defined over the field of 32 elements, by division by a generator polynomial of
degree six; the decoder computes with five numbers of thirty bits instead. This module has the field
and the division, and shows:

* `polymod_map_toNat`: what the decoder computes is the remainder, with its coefficients packed into
  one number, for every message.
* `append_add`: one step of the division is linear.
* `residue_append_eq_iff`: whatever the message, and whatever remainder is wanted, exactly one
  choice of six last symbols gives it. So a checksum exists, and no other six symbols pass for it.
-/

namespace Runesmith.Bech32

/-! ## The field of 32 elements -/

/-- An element of the field, a polynomial in `α`: bit `i` is the coefficient of `α ^ i`. Sums are
exclusive ors. -/
abbrev Symbol := BitVec 5

/-- The product with `α`, where `α ^ 5 = α ^ 3 + 1`. -/
def timesAlpha (a : Symbol) : Symbol :=
  (a <<< 1) ^^^ (if a.msb then 0b01001 else 0)

/-- The product: the sum of those `α ^ i * a` for which bit `i` of `b` is set. -/
def mul (a b : Symbol) : Symbol :=
  (List.range 5).foldr (fun i sum => (if b.getLsbD i then a else 0) ^^^ timesAlpha sum) 0

theorem timesAlpha_xor (a b : Symbol) : timesAlpha (a ^^^ b) = timesAlpha a ^^^ timesAlpha b := by
  have hall : ∀ a b : Symbol, timesAlpha (a ^^^ b) = timesAlpha a ^^^ timesAlpha b := by
    decide
  exact hall a b

theorem zero_mul (b : Symbol) : mul 0 b = 0 := by
  have hall : ∀ b : Symbol, mul 0 b = 0 := by decide
  exact hall b

theorem xor_mul (a b c : Symbol) : mul (a ^^^ b) c = mul a c ^^^ mul b c := by
  unfold mul
  induction List.range 5 with
  | nil => simp
  | cons i rest ih =>
    rw [List.foldr_cons, List.foldr_cons, List.foldr_cons, ih, timesAlpha_xor]
    cases c.getLsbD i with
    | true => simp only [if_true]; ac_rfl
    | false => simp

/-! ## Polynomials of degree below six -/

/-- A polynomial of degree below six over the field, by its coefficients. -/
@[ext] structure Remainder where
  c5 : Symbol
  c4 : Symbol
  c3 : Symbol
  c2 : Symbol
  c1 : Symbol
  c0 : Symbol
deriving DecidableEq

namespace Remainder

instance : Add Remainder where
  add r t := ⟨r.c5 ^^^ t.c5, r.c4 ^^^ t.c4, r.c3 ^^^ t.c3, r.c2 ^^^ t.c2, r.c1 ^^^ t.c1,
    r.c0 ^^^ t.c0⟩

instance : Zero Remainder where
  zero := ⟨0, 0, 0, 0, 0, 0⟩

/-- The product with an element of the field. -/
def scale (a : Symbol) (r : Remainder) : Remainder :=
  ⟨mul a r.c5, mul a r.c4, mul a r.c3, mul a r.c2, mul a r.c1, mul a r.c0⟩

/-- What `x ^ 6` is modulo the generator polynomial: all of the generator but its first term. -/
def generator : Remainder := ⟨29, 22, 20, 21, 29, 18⟩

/-- The remainder once a message is longer by one symbol: `x * r + s` modulo the generator. -/
def append (r : Remainder) (s : Symbol) : Remainder :=
  ⟨r.c4, r.c3, r.c2, r.c1, r.c0, s⟩ + generator.scale r.c5

/-- The coefficients, from the highest power down. -/
def symbols (r : Remainder) : List Symbol :=
  [r.c5, r.c4, r.c3, r.c2, r.c1, r.c0]

/-- The coefficients as the digits of a number of thirty bits. -/
def pack (r : Remainder) : Nat :=
  r.symbols.foldl (fun n s => n * 32 + s.toNat) 0

/-- The polynomial whose coefficients are the digits of a number. -/
def ofNat (n : Nat) : Remainder :=
  ⟨.ofNat 5 (n / 32 ^ 5), .ofNat 5 (n / 32 ^ 4), .ofNat 5 (n / 32 ^ 3), .ofNat 5 (n / 32 ^ 2),
    .ofNat 5 (n / 32), .ofNat 5 n⟩

theorem add_def (r t : Remainder) :
    r + t = ⟨r.c5 ^^^ t.c5, r.c4 ^^^ t.c4, r.c3 ^^^ t.c3, r.c2 ^^^ t.c2, r.c1 ^^^ t.c1,
      r.c0 ^^^ t.c0⟩ := rfl

theorem zero_def : (0 : Remainder) = ⟨0, 0, 0, 0, 0, 0⟩ := rfl

theorem add_zero (r : Remainder) : r + 0 = r := by
  simp [add_def, zero_def]

/-- In characteristic two, taking a summand to the other side leaves it as it is. -/
theorem add_eq_iff (r t u : Remainder) : r + t = u ↔ t = r + u := by
  have hcancel (a b : Symbol) : a ^^^ (a ^^^ b) = b := by
    rw [← BitVec.xor_assoc, BitVec.xor_self, BitVec.zero_xor]
  have hself (r t : Remainder) : r + (r + t) = t := by
    simp [add_def, hcancel]
  constructor
  · rintro rfl
    exact (hself r t).symm
  · rintro rfl
    exact hself r u

theorem symbols_inj {r t : Remainder} : r.symbols = t.symbols ↔ r = t := by
  simp [symbols, Remainder.ext_iff]

theorem exists_symbols {tail : List Symbol} (h : tail.length = 6) :
    ∃ r : Remainder, r.symbols = tail := by
  match tail, h with
  | [c5, c4, c3, c2, c1, c0], _ => exact ⟨⟨c5, c4, c3, c2, c1, c0⟩, rfl⟩

/-! ## Linearity of the division -/

theorem scale_xor (a b : Symbol) (r : Remainder) :
    scale (a ^^^ b) r = scale a r + scale b r := by
  simp [scale, add_def, xor_mul]

theorem append_add (r t : Remainder) (s u : Symbol) :
    (r + t).append (s ^^^ u) = r.append s + t.append u := by
  rw [append, append, append, add_def r t, scale_xor]
  simp only [add_def, Remainder.mk.injEq]
  refine ⟨?_, ?_, ?_, ?_, ?_, ?_⟩ <;> ac_rfl

/-- The remainder of a sum of messages is the sum of the remainders. -/
theorem foldl_append_add (r t : Remainder) {ss us : List Symbol} (h : ss.length = us.length) :
    (List.zipWith (· ^^^ ·) ss us).foldl append (r + t) =
      ss.foldl append r + us.foldl append t := by
  induction ss generalizing r t us with
  | nil =>
    have hnil : us = [] := List.length_eq_zero_iff.1 h.symm
    rw [hnil]
    rfl
  | cons s ss ih =>
    match us with
    | [] => simp at h
    | u :: us =>
      rw [List.zipWith_cons_cons, List.foldl_cons, List.foldl_cons, List.foldl_cons, append_add]
      exact ih _ _ (Nat.succ.inj h)

theorem append_of_c5 {r : Remainder} (h : r.c5 = 0) (s : Symbol) :
    r.append s = ⟨r.c4, r.c3, r.c2, r.c1, r.c0, s⟩ := by
  have hscale : generator.scale r.c5 = 0 := by
    rw [h, scale, zero_mul, zero_mul, zero_mul, zero_mul, zero_mul, zero_mul, zero_def]
  rw [append, hscale, add_zero]

/-- A message of six symbols is its own remainder. -/
theorem foldl_append_symbols (r : Remainder) : r.symbols.foldl append 0 = r := by
  simp [symbols, zero_def, append_of_c5]

/-- Six last symbols are added to the remainder that six zeros would leave. -/
theorem foldl_append_tail (r tail : Remainder) :
    tail.symbols.foldl append r = (List.replicate 6 0).foldl append r + tail := by
  have hzip : List.zipWith (· ^^^ ·) (List.replicate 6 0) tail.symbols = tail.symbols := by
    simp [symbols, List.replicate]
  calc tail.symbols.foldl append r
    _ = (List.zipWith (· ^^^ ·) (List.replicate 6 0) tail.symbols).foldl append (r + 0) := by
        rw [hzip, add_zero]
    _ = (List.replicate 6 0).foldl append r + tail.symbols.foldl append 0 :=
        foldl_append_add r 0 rfl
    _ = (List.replicate 6 0).foldl append r + tail := by rw [foldl_append_symbols]

end Remainder

/-! ## Remainders of messages -/

/-- The remainder of a message, in front of which a `1` is thought. -/
def residue (message : List Symbol) : Remainder :=
  message.foldl Remainder.append ⟨0, 0, 0, 0, 0, 1⟩

/-- The six symbols to put behind a message so that the remainder becomes `target`. -/
def checksum (target : Remainder) (message : List Symbol) : List Symbol :=
  (residue (message ++ List.replicate 6 0) + target).symbols

/-- Exactly one choice of six last symbols gives the wanted remainder. -/
theorem residue_append_eq_iff {message tail : List Symbol} {target : Remainder}
    (h : tail.length = 6) :
    residue (message ++ tail) = target ↔ tail = checksum target message := by
  obtain ⟨r, rfl⟩ := Remainder.exists_symbols h
  have htail : residue (message ++ r.symbols) = residue (message ++ List.replicate 6 0) + r := by
    rw [residue, residue, List.foldl_append, List.foldl_append, Remainder.foldl_append_tail]
  rw [htail, Remainder.add_eq_iff, checksum, Remainder.symbols_inj]

theorem length_checksum (target : Remainder) (message : List Symbol) :
    (checksum target message).length = 6 := rfl

/-! ## The decoder's computation -/

theorem xor_digits (a b : Nat) {c d : Nat} (hc : c < 32) (hd : d < 32) :
    (a * 32 + c) ^^^ (b * 32 + d) = (a ^^^ b) * 32 + (c ^^^ d) := by
  have hhigh : ((a * 32 + c) ^^^ (b * 32 + d)) / 2 ^ 5 = a ^^^ b := by
    rw [Nat.xor_div_two_pow]
    congr 1 <;> omega
  have hlow : ((a * 32 + c) ^^^ (b * 32 + d)) % 2 ^ 5 = c ^^^ d := by
    rw [Nat.xor_mod_two_pow]
    congr 1 <;> omega
  omega

namespace Remainder

theorem pack_eq (r : Remainder) :
    r.pack = ((((r.c5.toNat * 32 + r.c4.toNat) * 32 + r.c3.toNat) * 32 + r.c2.toNat) * 32 +
      r.c1.toNat) * 32 + r.c0.toNat := by
  simp [pack, symbols]

theorem pack_add (r t : Remainder) : (r + t).pack = r.pack ^^^ t.pack := by
  simp only [pack_eq, add_def, BitVec.toNat_xor]
  rw [xor_digits _ _ r.c0.isLt t.c0.isLt, xor_digits _ _ r.c1.isLt t.c1.isLt,
    xor_digits _ _ r.c2.isLt t.c2.isLt, xor_digits _ _ r.c3.isLt t.c3.isLt,
    xor_digits _ _ r.c4.isLt t.c4.isLt]

theorem ofNat_pack (r : Remainder) : ofNat r.pack = r := by
  have h5 := r.c5.isLt
  have h4 := r.c4.isLt
  have h3 := r.c3.isLt
  have h2 := r.c2.isLt
  have h1 := r.c1.isLt
  have h0 := r.c0.isLt
  ext : 1 <;> apply BitVec.eq_of_toNat_eq <;>
    simp only [ofNat, pack_eq, BitVec.toNat_ofNat] <;> omega

theorem pack_ofNat {n : Nat} (h : n < 32 ^ 6) : (ofNat n).pack = n := by
  simp only [ofNat, pack_eq, BitVec.toNat_ofNat]
  omega

theorem eq_ofNat_iff {n : Nat} (h : n < 32 ^ 6) (r : Remainder) : r = ofNat n ↔ r.pack = n := by
  constructor
  · rintro rfl
    exact pack_ofNat h
  · intro hpack
    rw [← hpack, ofNat_pack]

end Remainder

/-- The five numbers of the decoder are the multiples of the generator by `1`, `α`, …, `α ^ 4`. -/
theorem reduction_toNat (a : Symbol) :
    reduction a.toNat = (Remainder.generator.scale a).pack := by
  have hall : ∀ a : Symbol, reduction a.toNat = (Remainder.generator.scale a).pack := by
    decide
  exact hall a

theorem polymodStep_pack (r : Remainder) (s : Symbol) :
    polymodStep r.pack s.toNat = (r.append s).pack := by
  have h5 := r.c5.isLt
  have h4 := r.c4.isLt
  have h3 := r.c3.isLt
  have h2 := r.c2.isLt
  have h1 := r.c1.isLt
  have h0 := r.c0.isLt
  have hs := s.isLt
  have htop : r.pack / 0x2000000 = r.c5.toNat := by
    rw [Remainder.pack_eq]
    omega
  have hshift : r.pack % 0x2000000 * 32 ^^^ s.toNat =
      (⟨r.c4, r.c3, r.c2, r.c1, r.c0, s⟩ : Remainder).pack := by
    have hxor := xor_digits (r.pack % 0x2000000) 0 (c := 0) (d := s.toNat) (by decide) hs
    simp only [Nat.add_zero, Nat.zero_mul, Nat.zero_add, Nat.xor_zero, Nat.zero_xor] at hxor
    rw [hxor, Remainder.pack_eq, Remainder.pack_eq]
    dsimp only
    omega
  rw [polymodStep, htop, hshift, reduction_toNat, Remainder.append, Remainder.pack_add]

/-- The decoder computes the remainder. -/
theorem polymod_map_toNat (message : List Symbol) :
    polymod (message.map BitVec.toNat) = (residue message).pack := by
  have hfold (r : Remainder) :
      (message.map BitVec.toNat).foldl polymodStep r.pack =
        (message.foldl Remainder.append r).pack := by
    induction message generalizing r with
    | nil => rfl
    | cons s rest ih => rw [List.map_cons, List.foldl_cons, polymodStep_pack, ih, List.foldl_cons]
  exact hfold ⟨0, 0, 0, 0, 0, 1⟩

end Runesmith.Bech32
